import FaultContext.Text.Basic

/-!
# Logging presets

How talkative the log is. There is one level for this program and one for everything it is built on,
and an explicit filter stands above both. The presets are starting points that single choices can
still change.
-/

namespace FaultContext.Logging

set_option autoImplicit false

/-- How much is logged, from the least to the most. -/
inductive Level where
  | error
  | warn
  | info
  | debug
  | trace
deriving DecidableEq, Repr

namespace Level

def name : Level → Text
  | .error => "ERROR".toList
  | .warn => "WARN".toList
  | .info => "INFO".toList
  | .debug => "DEBUG".toList
  | .trace => "TRACE".toList

def all : List Level := [.error, .warn, .info, .debug, .trace]

/-- The level of a name in any case of ASCII letters. -/
def named? (name : Text) : Option Level :=
  all.find? fun level => level.name == name.map Char.toUpper

end Level

inductive Format where
  | compact
  | full
deriving DecidableEq, Repr

def Format.name : Format → Text
  | .compact => "compact".toList
  | .full => "full".toList

structure Settings where
  level : Level := .info
  dependencyLevel : Level := .warn
  spanTimings : Bool := false
  sourceLocation : Bool := false
  colors : Bool := true
  format : Format := .compact
  filter : Option Text := none
deriving DecidableEq, Repr

namespace Settings

/-- Settings for the command line: quiet, or with every decision, its place and its time. -/
def commandLine (verbose : Bool) : Settings where
  level := if verbose then .debug else .warn
  spanTimings := verbose
  sourceLocation := verbose

/-- Settings for a host that has no log of its own. -/
def embedded : Settings where
  dependencyLevel := .error
  colors := false

/-- Settings for tests: everything that this program says. -/
def testing : Settings where
  level := .trace
  spanTimings := true
  sourceLocation := true
  colors := false
  format := .full

def withLevel (settings : Settings) (level : Level) : Settings := { settings with level := level }

def withFilter (settings : Settings) (filter : Text) : Settings :=
  { settings with filter := some filter }

def withColors (settings : Settings) (colors : Bool) : Settings :=
  { settings with colors := colors }

/-- The filter that the two levels make up. -/
def directive (settings : Settings) : Text :=
  settings.dependencyLevel.name ++ ",stackdetail=".toList ++ settings.level.name

end Settings

end FaultContext.Logging
