import FaultContext.Files.Path
import FaultContext.Lookup.Cache

/-!
# Settings

Everything that decides how spans are enriched, with a value for each. The defaults look at the home
directory of the user and at the installed runtime, both of which may be missing.
-/

namespace FaultContext.Config

set_option autoImplicit false

open Files (Path)

/-- What the defaults look at. -/
structure Surroundings where
  home : Option Path := none
  runtimeHome : Option Path := none
deriving DecidableEq, Repr

/-- The settings of a pipeline. Paths may be relative to the project root. -/
structure Settings where
  extractExternal : Bool
  cacheSize : Nat
  cachePolicy : Lookup.CachePolicy
  contextLines : Nat
  projectRoot : Path
  sourceRoots : List Path
  exclude : List Text
  runtimeHome : Option Path
  sourceArchives : List Path
  dependencyCaches : List Path
  maxSourceArchives : Nat
  classPath : List Path
  platformClassPath : List Path
  externalPackages : List Text
  includeCauseFrames : Bool
  maxFrames : Option Nat
  language : Text
deriving DecidableEq, Repr

namespace Settings

def default (surroundings : Surroundings) : Settings where
  extractExternal := false
  cacheSize := 100
  cachePolicy := .lru
  contextLines := 5
  projectRoot := ['.']
  sourceRoots := ["src/main/java", "src/java", "src"].map String.toList
  exclude := ["**/.git/**", "**/target/**", "**/build/**", "**/node_modules/**"].map String.toList
  runtimeHome := surroundings.runtimeHome
  sourceArchives := []
  dependencyCaches :=
    match surroundings.home with
    | some home =>
        [Path.join (Path.join home ".m2".toList) "repository".toList,
          Path.join (Path.join home ".gradle".toList) "caches".toList]
    | none => []
  maxSourceArchives := 100
  classPath := []
  platformClassPath := []
  externalPackages := []
  includeCauseFrames := false
  maxFrames := none
  language := "java".toList

/-- A path as seen from the project root. -/
def resolve (settings : Settings) (path : Path) : Path :=
  if Path.isAbsolute path then path else Path.join settings.projectRoot path

def resolvedSourceRoots (settings : Settings) : List Path := settings.sourceRoots.map settings.resolve

def resolvedSourceArchives (settings : Settings) : List Path :=
  settings.sourceArchives.map settings.resolve

def resolvedDependencyCaches (settings : Settings) : List Path :=
  settings.dependencyCaches.map settings.resolve

def resolvedClassPath (settings : Settings) : List Path := settings.classPath.map settings.resolve

def resolvedPlatformClassPath (settings : Settings) : List Path :=
  settings.platformClassPath.map settings.resolve

end Settings

end FaultContext.Config
