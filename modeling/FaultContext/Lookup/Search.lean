import FaultContext.Config.Settings
import FaultContext.Failure
import FaultContext.Files.Archive
import FaultContext.Files.Disk
import FaultContext.Glob.Match
import FaultContext.Metrics.Tally
import FaultContext.Text.Basic

/-!
# Searching sources

Where the source of a frame may be: in the source roots of the project, first at the place that the
package tells and then anywhere below under the name of the file; with archives allowed, also in the
archives of the runtime, in configured archives and in the source archives of dependency caches. The
names come from a trace that nobody vouches for, so only a bare file name is looked for. What cannot
be read is passed over.

Sources are looked up through the cache. A search that finds nothing is remembered like one that does,
as a source without lines, and every question is counted as a hit or a miss.
-/

namespace FaultContext.Lookup

set_option autoImplicit false

open Files (Disk Path Node Archive)

structure Places where
  sourceRoots : List Path
  excluded : List Glob.Pattern
  useArchives : Bool
  archives : List Path
  dependencyCaches : List Path
  maxSourceArchives : Nat

/-- Where the package of a type puts a file: `com/acme/Foo.java`, or the bare name in the default
package. -/
def packagePath (qualifiedType fileName : Text) : Path :=
  match Text.cutLast? '.' qualifiedType with
  | some (package, _) => Text.replace '.' '/' package ++ '/' :: fileName
  | none => fileName

/-- The lines of a file; bytes that are no text become replacement characters. -/
def linesOf (bytes : ByteArray) : Lines := Text.lines (Text.decodeUtf8Lossy bytes.toList)

def hides (excluded : List Glob.Pattern) (names : List Text) : Bool :=
  excluded.any fun pattern => pattern.matches (Text.join ['/'] names)

/-- The file at the place that the package tells, below one root. -/
def atPackage (disk : Disk) (root package : Path) : Option Lines :=
  if Path.isInside package then (disk.bytes? (Path.join root package)).map linesOf else none

/-- The first file of a name on a walk below one root. -/
def byName (excluded : List Glob.Pattern) (root : Node) (fileName : Text) : Option Lines :=
  ((root.walk (hides excluded)).find? fun found => found.fileName == fileName).map fun found =>
    linesOf found.bytes

def inRoot (places : Places) (disk : Disk) (package fileName : Text) (root : Path) : Option Lines :=
  match disk.find? root with
  | some (.directory entries) =>
      (atPackage disk root package).orElse fun _ =>
        byName places.excluded (.directory entries) fileName
  | _ => none

def inProject (places : Places) (disk : Disk) (package fileName : Text) : Option Lines :=
  places.sourceRoots.findSome? (inRoot places disk package fileName)

/-- Whether a member of an archive counts as the source: its name ends with the place of the package,
or it is the file in any directory. -/
def isSource (package fileName name : Text) : Bool :=
  name.getLast? != some '/' &&
    (package.isSuffixOf name || ('/' :: fileName).isSuffixOf name || name == fileName)

/-- The source in an archive: the first member that counts, if it can be read. -/
def inArchive (archive : Archive) (package fileName : Text) : Option Lines :=
  match archive.names.find? (isSource package fileName) with
  | some name => (archive.read? name).map linesOf
  | none => none

def inArchiveBytes (package fileName : Text) (bytes : ByteArray) : Option Lines :=
  (Archive.ofBytes? bytes).bind fun archive => inArchive archive package fileName

def inArchiveAt (disk : Disk) (package fileName : Text) (path : Path) : Option Lines :=
  (disk.bytes? path).bind (inArchiveBytes package fileName)

def sourceArchiveEnding : Text := "-sources.jar".toList

/-- The source archives of a dependency cache that are looked into. -/
def cachedArchives (places : Places) (disk : Disk) (cache : Path) : List ByteArray :=
  match disk.find? cache with
  | some (.directory entries) =>
      ((((Node.directory entries).walk fun _ => false).filter fun found =>
        sourceArchiveEnding.isSuffixOf found.fileName).take places.maxSourceArchives).map (·.bytes)
  | _ => []

def inDependencyCaches (places : Places) (disk : Disk) (package fileName : Text) : Option Lines :=
  places.dependencyCaches.findSome? fun cache =>
    (cachedArchives places disk cache).findSome? (inArchiveBytes package fileName)

def search (places : Places) (disk : Disk) (qualifiedType fileName : Text) : Option Lines :=
  if !Path.isPlainName fileName then none
  else
    let package := packagePath qualifiedType fileName
    (inProject places disk package fileName).orElse fun _ =>
      if !places.useArchives then none
      else
        (places.archives.findSome? (inArchiveAt disk package fileName)).orElse fun _ =>
          inDependencyCaches places disk package fileName

/-- The archives of an installed runtime: inside it and beside it. -/
def runtimeArchives (home : Path) : List Path :=
  Path.join (Path.join home "lib".toList) "src.zip".toList ::
    ((Path.parent? home).map fun parent => Path.join parent "src.zip".toList).toList

/-- Reads the excludes, all of which have to be globs. -/
def readExcludes : List Text → Except ConfigError (List Glob.Pattern)
  | [] => .ok []
  | text :: texts =>
      match Glob.Pattern.parse text with
      | .error error =>
          .error (.invalidValue "exclude".toList
            ("Invalid glob pattern '".toList ++ text ++ "': ".toList ++ error.message text))
      | .ok pattern => (readExcludes texts).map (pattern :: ·)

def Places.ofSettings (settings : Config.Settings) : Except ConfigError Places :=
  (readExcludes settings.exclude).map fun excluded =>
    { sourceRoots := settings.resolvedSourceRoots
      excluded := excluded
      useArchives := settings.extractExternal
      archives :=
        (settings.runtimeHome.map runtimeArchives).getD [] ++ settings.resolvedSourceArchives
      dependencyCaches := settings.resolvedDependencyCaches
      maxSourceArchives := settings.maxSourceArchives }

/-! ## Looking up through the cache -/

structure FinderState where
  cache : Cache
  tally : Metrics.Tally

/-- The lines of the source of a type, none when it is not found. -/
def findSource (places : Places) (disk : Disk) (qualifiedType fileName : Text) (state : FinderState) :
    Lines × FinderState :=
  let key := Cache.key qualifiedType fileName
  match state.cache.get key with
  | (some lines, cache) => (lines, ⟨cache, state.tally.lookedUp true⟩)
  | (none, cache) =>
      let lines := (search places disk qualifiedType fileName).getD []
      (lines, ⟨cache.insert key lines, (state.tally.lookedUp false).performed .sourceLookup⟩)

end FaultContext.Lookup
