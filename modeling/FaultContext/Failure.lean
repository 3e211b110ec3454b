import FaultContext.Text.Basic

/-!
# Failures

What can go wrong, by cause, and the one place where each cause is put into words. Little of it is
fatal: a place that cannot be read is passed over, and only a bad configuration and the sink of the
spans are reported to a caller.
-/

namespace FaultContext

set_option autoImplicit false

structure IoFailure where
  missing : Bool
  message : Text
deriving DecidableEq, Repr

inductive ConfigError where
  | notFound (path : Text)
  | invalidValue (field : Text) (message : Text)
  | io (message : Text)
  | yaml (message : Text)
  | json (message : Text)
deriving DecidableEq, Repr

/-- What keeps an enricher from being made. Without room for its cache the making is broken off. -/
inductive StartError where
  | config (error : ConfigError)
  | noRoom
deriving DecidableEq, Repr

inductive SourceError where
  | notFound (path : Text)
  | io (message : Text)
  | archive (path : Text) (message : Text)
deriving DecidableEq, Repr

inductive ResolveError where
  | notFound (name : Text)
  | io (message : Text)
  | archive (path : Text) (message : Text)
deriving DecidableEq, Repr

inductive ExportError where
  | failed (message : Text)
  | serialization (message : Text)
  | io (message : Text)
  | alreadyShutdown
deriving DecidableEq, Repr

def archiveMessage (path message : Text) : Text :=
  "Archive error in ".toList ++ path ++ ": ".toList ++ message

namespace ConfigError

def message : ConfigError → Text
  | .notFound path => "Config file not found: ".toList ++ path
  | .invalidValue field message => "Invalid value for ".toList ++ field ++ ": ".toList ++ message
  | .io message => "IO error reading config: ".toList ++ message
  | .yaml message => "YAML parsing error: ".toList ++ message
  | .json message => "JSON parsing error: ".toList ++ message

/-- A missing file is told apart from one that cannot be read. -/
def ofIo (failure : IoFailure) : ConfigError :=
  if failure.missing then .notFound failure.message else .io failure.message

end ConfigError

def StartError.message : StartError → Text
  | .config error => error.message
  | .noRoom => "Hash table capacity overflow".toList

namespace SourceError

def message : SourceError → Text
  | .notFound path => "Source not found: ".toList ++ path
  | .io message => "IO error: ".toList ++ message
  | .archive path message => archiveMessage path message

/-- A missing file is told apart from one that cannot be read. -/
def ofIo (failure : IoFailure) : SourceError :=
  if failure.missing then .notFound failure.message else .io failure.message

end SourceError

namespace ResolveError

def message : ResolveError → Text
  | .notFound name => "Type not resolvable: ".toList ++ name
  | .io message => "IO error: ".toList ++ message
  | .archive path message => archiveMessage path message

/-- Every failed operation on files counts the same. -/
def ofIo (failure : IoFailure) : ResolveError := .io failure.message

end ResolveError

namespace ExportError

def message : ExportError → Text
  | .failed message => "Export failed: ".toList ++ message
  | .serialization message => "Serialization error: ".toList ++ message
  | .io message => "IO error: ".toList ++ message
  | .alreadyShutdown => "Exporter already shut down".toList

/-- Every failed operation on files counts the same. -/
def ofIo (failure : IoFailure) : ExportError := .io failure.message

end ExportError

end FaultContext
