import FaultContext.CommandLine.Arguments
import FaultContext.Config.Load
import FaultContext.Export
import FaultContext.Json.Value
import FaultContext.Metrics.Tally

/-!
# Running a command

Each command turns its input and the files around it into what is printed: enriched spans one after
the other, the records of a trace, or the settings in force. Diagnostics are kept apart from results.
What stands in the way of a command is told by cause.

Which environment variables and which places on the disk a command can look at is told as well, so that
they can be read before it runs. The settings decide about most of the places, and a few of them decide
about the settings.
-/

namespace FaultContext.CommandLine

set_option autoImplicit false

open Config (Settings)
open Detail (Enricher Record)
open Files (Disk Path)

structure World where
  environment : Variables
  disk : Disk
  standardInput : ByteArray
  room : Lookup.Room

inductive Failure where
  | config (error : ConfigError)
  | input (failure : IoFailure)
  | spans
  | records
  | delivery (error : ExportError)
  | aborted (reason : Text)
deriving DecidableEq, Repr

def Failure.message : Failure → Text
  | .config error => error.message
  | .input failure => failure.message
  | .spans => "the input is not a list of spans".toList
  | .records => "the records cannot be read back".toList
  | .delivery error => error.message
  | .aborted reason => reason

def Failure.ofStart : StartError → Failure
  | .config error => .config error
  | .noRoom => .aborted StartError.noRoom.message

structure Output where
  standard : Text := []
  diagnostics : Text := []
deriving DecidableEq, Repr

def versionLine : Text := "stackdetail 0.1.0\n".toList

def line (parts : List Text) : Text := parts.flatten ++ ['\n']

def World.surroundings (world : World) : Config.Surroundings where
  home := world.environment.lookup "HOME".toList
  runtimeHome := world.environment.lookup "JAVA_HOME".toList

def World.settings (world : World) (invocation : Invocation) : Except ConfigError Settings :=
  Config.load world.surroundings world.disk world.disk.workingDirectory invocation.config
    invocation.overrides

def World.input (world : World) : Option Path → Except IoFailure Text
  | some path => world.disk.readText path
  | none => Disk.textOf world.standardInput

def flagText : Bool → Text
  | true => "true".toList
  | false => "false".toList

def describe (settings : Settings) : Text :=
  let roots := settings.resolvedSourceRoots.map fun root => line ["  source root: ".toList, root]
  let packages :=
    if settings.externalPackages.isEmpty then []
    else line ["External prefixes: ".toList, Text.join ", ".toList settings.externalPackages]
  let entries :=
    if settings.classPath.isEmpty then []
    else line ["Classpath entries: ".toList, Text.ofNat settings.classPath.length]
  line ["Stack Detail Configuration".toList] ++
    line ["Project root: ".toList, settings.projectRoot] ++
    roots.flatten ++
    line ["Extract external code: ".toList, flagText settings.extractExternal] ++
    line ["Source cache: ".toList, Text.ofNat settings.cacheSize, " entries (".toList,
      settings.cachePolicy.name, ")".toList] ++
    line ["Context lines: ".toList, Text.ofNat settings.contextLines] ++
    line ["Language: ".toList, settings.language] ++
    line ["Runtime home: ".toList, settings.runtimeHome.getD "not set".toList] ++
    packages ++ entries

/-- Records over several lines: what their one line says, with members in the order of their names. -/
def printRecords? (records : List Record) : Option Text :=
  (Json.read? (Record.serialize records)).map fun value => Json.pretty (Json.ordered value)

def recordCounts (records : List Record) : Text :=
  let external := (records.filter (·.isExternal)).length
  line ["✓ ".toList, Text.ofNat records.length, " frames (".toList,
    Text.ofNat (records.length - external), " application, ".toList, Text.ofNat external,
    " external)".toList]

def World.enricher (world : World) (settings : Settings) :
    Except Failure (Enricher Origin.Listings) :=
  (Enricher.ofSettings world.room settings (Enricher.classPath settings).resolver).mapError .ofStart

def details (world : World) (settings : Settings) (input : Option Path) : Except Failure Output := do
  let trace ← (world.input input).mapError .input
  let enricher ← world.enricher settings
  match (enricher.stackDetails world.disk trace (enricher.start [])).1 with
  | .error abort => .error (.aborted abort.reason)
  | .ok records =>
      let notice := if records.isEmpty then line ["No stack frames found in input".toList] else []
      match printRecords? records with
      | some text => return ⟨line [text], notice ++ recordCounts records⟩
      | none => .error .records

def spanCounts (tally : Metrics.Tally) : Text :=
  line ["✓ ".toList, Text.ofNat tally.processed, " spans, ".toList, Text.ofNat tally.enriched,
    " enriched".toList,
    if tally.failures = 0 then []
    else ", ".toList ++ Text.ofNat tally.failures ++ " failed".toList]

def enrich (world : World) (settings : Settings) (input : Option Path) (pretty debug : Bool) :
    Except Failure Output := do
  let text ← (world.input input).mapError .input
  let spans ←
    match (Json.read? text).bind (Json.asList Span.ofJson?) with
    | some spans => .ok spans
    | none => .error .spans
  let enricher ← world.enricher settings
  let sink := Export.Enriching.sink enricher (Export.Stream.sink {} pretty)
  let calls := [.deliver world.disk (spans.map .plain), .flush, .shutdown]
  let (replies, state) := sink.run calls ⟨enricher.start [], {}⟩
  replies.forM fun reply => reply.mapError .delivery
  let tally := state.session.tally
  return ⟨state.behind.written,
    spanCounts tally ++ if debug then line [tally.report 0] else []⟩

def run (world : World) (invocation : Invocation) : Except Failure Output := do
  let settings ← (world.settings invocation).mapError .config
  match invocation.command with
  | .enrich input pretty => enrich world settings input pretty invocation.debug
  | .details input => details world settings input
  | .config => return { standard := describe settings }

/-! ## What a command reaches -/

/-- A place that may be looked at: a single file, or everything below a directory whose name ends in a
certain way. -/
structure Place where
  path : Path
  below : Option Text := none
deriving DecidableEq, Repr

def variableNames : List Text :=
  ["HOME".toList, "JAVA_HOME".toList] ++ OptionName.shared.filterMap OptionName.environmentName?

def Command.input? : Command → Option Path
  | .enrich input _ => input
  | .details input => input
  | .config => none

def Command.readsStandardInput : Command → Bool
  | .enrich input _ => input.isNone
  | .details input => input.isNone
  | .config => false

/-- The places that decide about the settings, and the input. -/
def World.firstPlaces (world : World) (invocation : Invocation) : List Place :=
  (world.surroundings.home.toList.map Config.globalFile ++
    Config.workspaceFiles.map (Path.join world.disk.workingDirectory) ++
    invocation.config.toList ++ invocation.command.input?.toList).map fun path => { path := path }

def placesOf (settings : Settings) : List Place :=
  let below (ending : Text) (path : Path) : Place := { path := path, below := some ending }
  let archives :=
    if settings.extractExternal then
      ((settings.runtimeHome.map Lookup.runtimeArchives).getD [] ++
        settings.resolvedSourceArchives).map (fun path => { path := path }) ++
        settings.resolvedDependencyCaches.map (below Lookup.sourceArchiveEnding)
    else []
  settings.resolvedSourceRoots.map (below []) ++
    (settings.resolvedPlatformClassPath ++ settings.resolvedClassPath).map (below []) ++ archives

end FaultContext.CommandLine
