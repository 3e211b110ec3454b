import FaultContext.Config.Layer
import FaultContext.Config.Settings
import FaultContext.Failure
import FaultContext.Files.Disk
import FaultContext.Glob.Pattern
import FaultContext.Json.Reader
import FaultContext.Text.CharacterClass
import FaultContext.Text.LowerCase
import FaultContext.Yaml.Reader

/-!
# Loading a configuration

Where layers come from: one file in the home directory of the user, and either the first of some files
in the workspace or a file that was named. The extension of a file tells its format. A relative
project root is seen from the workspace.

Layers are laid over the defaults one after the other. A single value is replaced, and so are source
roots and dependency caches; excludes and external packages gather without repetitions; archives and
class paths gather as they come. The options of the command line come last. Only settings that are fit
for work are returned: with a language that is not blank, at least one frame, excludes that are globs,
and no external package that every type would belong to. The first fault is reported.
-/

namespace FaultContext.Config

set_option autoImplicit false

open Files (Disk Path)

/-! ## Merging layers -/

structure Overrides where
  projectRoot : Option Path := none
  extractExternal : Option Bool := none
  cacheSize : Option Nat := none
  contextLines : Option Nat := none
  includeCauseFrames : Option Bool := none
deriving DecidableEq, Repr

/-- The list with those of the new entries that it does not hold yet. -/
def gather (known new : List Text) : List Text :=
  new.foldl (fun gathered entry => if gathered.contains entry then gathered else gathered ++ [entry]) known

namespace Settings

def apply (settings : Settings) (layer : Layer) : Settings where
  extractExternal := layer.extractExternal.getD settings.extractExternal
  cacheSize := layer.cacheSize.getD settings.cacheSize
  cachePolicy := layer.cachePolicy.getD settings.cachePolicy
  contextLines := layer.contextLines.getD settings.contextLines
  projectRoot := layer.projectRoot.getD settings.projectRoot
  sourceRoots := layer.sourceRoots.getD settings.sourceRoots
  exclude := gather settings.exclude (layer.exclude.getD [])
  runtimeHome := layer.runtimeHome <|> settings.runtimeHome
  sourceArchives := settings.sourceArchives ++ layer.sourceArchives.getD []
  dependencyCaches := layer.dependencyCaches.getD settings.dependencyCaches
  maxSourceArchives := layer.maxSourceArchives.getD settings.maxSourceArchives
  classPath := settings.classPath ++ layer.classPath.getD []
  platformClassPath := settings.platformClassPath ++ layer.platformClassPath.getD []
  externalPackages := gather settings.externalPackages (layer.externalPackages.getD [])
  includeCauseFrames := layer.includeCauseFrames.getD settings.includeCauseFrames
  maxFrames := layer.maxFrames <|> settings.maxFrames
  language := layer.language.getD settings.language

def override (settings : Settings) (overrides : Overrides) : Settings :=
  { settings with
    projectRoot := overrides.projectRoot.getD settings.projectRoot
    extractExternal := overrides.extractExternal.getD settings.extractExternal
    cacheSize := overrides.cacheSize.getD settings.cacheSize
    contextLines := overrides.contextLines.getD settings.contextLines
    includeCauseFrames := overrides.includeCauseFrames.getD settings.includeCauseFrames }

end Settings

/-- The settings of a user's layer, a workspace's layer and a command line, over the defaults. -/
def merge (surroundings : Surroundings) (global workspace : Option Layer) (overrides : Overrides) :
    Settings :=
  (((Settings.default surroundings).apply (global.getD {})).apply (workspace.getD {})).override overrides

/-! ## Accepting settings -/

/-- The first text that is no glob, and why. -/
def faultyGlob? : List Text → Option (Text × Glob.GlobError)
  | [] => none
  | pattern :: patterns =>
      match Glob.Pattern.parse pattern with
      | .error error => some (pattern, error)
      | .ok _ => faultyGlob? patterns

def Settings.validate (settings : Settings) : Except ConfigError Unit :=
  if (Text.trim settings.language).isEmpty then
    .error (.invalidValue "language".toList "must not be empty".toList)
  else if settings.maxFrames = some 0 then
    .error (.invalidValue "maxFrames".toList "must be at least 1".toList)
  else
    match faultyGlob? settings.exclude with
    | some (pattern, error) =>
        .error (.invalidValue "exclude".toList (pattern ++ ": ".toList ++ error.message pattern))
    | none =>
        if settings.externalPackages.any List.isEmpty then
          .error (.invalidValue "externalPrefixes".toList "empty prefix matches every type".toList)
        else .ok ()

/-! ## Files -/

/-- The files of a workspace that may hold a layer, in the order in which they are tried. -/
def workspaceFiles : List Path :=
  [".stackdetail.json", ".stackdetail.yaml", ".stackdetail/config.json"].map String.toList

def globalFile (home : Path) : Path := Path.join (Path.join home ".stackdetail".toList) "config.json".toList

def isYaml (path : Path) : Bool :=
  let extension := Text.lower ((Path.extension? path).getD [])
  extension == "yaml".toList || extension == "yml".toList

def parseLayer (path : Path) (text : Text) : Except ConfigError Layer :=
  if isYaml path then
    match (Yaml.read? text).bind Layer.ofYaml? with
    | some layer => .ok layer
    | none => .error (.yaml "not a configuration".toList)
  else
    match (Json.read? text).bind Layer.ofJson? with
    | some layer => .ok layer
    | none => .error (.json "not a configuration".toList)

def loadFile (disk : Disk) (path : Path) : Except ConfigError Layer :=
  if !disk.has path then .error (.notFound path)
  else
    match disk.readText path with
    | .error failure => .error (ConfigError.ofIo failure)
    | .ok text => parseLayer path text

/-- The layer of the first of some files that exists. -/
def loadFirst (disk : Disk) : List Path → Except ConfigError (Option Layer)
  | [] => .ok none
  | path :: paths =>
      if disk.has path then (loadFile disk path).map some else loadFirst disk paths

def loadGlobal (surroundings : Surroundings) (disk : Disk) : Except ConfigError (Option Layer) :=
  loadFirst disk (surroundings.home.toList.map globalFile)

def loadWorkspace (disk : Disk) (workspace : Path) : Except ConfigError (Option Layer) :=
  loadFirst disk (workspaceFiles.map (Path.join workspace))

/-- Settings with the project root seen from the workspace, if they are fit for work. -/
def finish (workspace : Path) (settings : Settings) : Except ConfigError Settings :=
  let rooted :=
    if Path.isAbsolute settings.projectRoot then settings
    else { settings with projectRoot := Path.join workspace settings.projectRoot }
  rooted.validate.map fun _ => rooted

/-- The settings of a workspace. A file that is named takes the place of those in the workspace. -/
def load (surroundings : Surroundings) (disk : Disk) (workspace : Path) (named : Option Path)
    (overrides : Overrides) : Except ConfigError Settings := do
  let global ← loadGlobal surroundings disk
  let layer ←
    match named with
    | some path => (loadFile disk path).map some
    | none => loadWorkspace disk workspace
  finish workspace (merge surroundings global layer overrides)

end FaultContext.Config
