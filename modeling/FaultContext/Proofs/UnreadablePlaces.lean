import FaultContext.Proofs.AddedFiles
import FaultContext.Proofs.ArchiveMembers
import FaultContext.Proofs.Confinement

/-!
# Places that cannot be read

A search passes over what it cannot read. Missing files, directories, files that are no archives and
archives of which the member that counts is lost may stand anywhere among the archives, and files of
the last two kinds anywhere in a dependency cache, as long as all the source archives of that cache are
looked into. Only where the file asked for is itself called like one of them, and that one lies below a
source root, is it found.
-/

namespace FaultContext

set_option autoImplicit false

namespace Files.Path

/-- In front of a slash there is always a component: the root, the dot at the start, or a name. -/
theorem component_before_slash (front back : Text) (unmarked : '/' ∉ front) :
    ∃ first, components (front ++ '/' :: back) =
      first :: (Text.split '/' back).filterMap Component.ofPiece? := by
  have pieces : Text.split '/' (front ++ '/' :: back) = front :: Text.split '/' back := by
    rw [Text.split_append_mark, Text.split_unmarked '/' front unmarked]
    rfl
  rw [components, pieces]
  cases front with
  | nil => exact ⟨.root, rfl⟩
  | cons c rest =>
      have relative : isAbsolute (c :: rest ++ '/' :: back) = false := by
        simpa [isAbsolute] using (List.ne_and_not_mem_of_not_mem_cons unmarked).1.symm
      rw [relative]
      by_cases here : c :: rest = ['.']
      · rw [here]
        exact ⟨.here, rfl⟩
      · have begins : (((c :: rest) :: Text.split '/' back).head? == some ['.']) = false := by
          simpa using here
        have filled : ¬ (c :: rest = [] ∨ c :: rest = ['.']) := by
          rintro (empty | dot)
          · cases empty
          · exact here dot
        obtain ⟨first, kept⟩ : ∃ first, Component.ofPiece? (c :: rest) = some first := by
          rw [Component.ofPiece?, if_neg filled]
          split
          · exact ⟨.up, rfl⟩
          · exact ⟨.child (c :: rest), rfl⟩
        rw [begins, List.filterMap_cons_some kept]
        exact ⟨first, rfl⟩

/-- The name that a plain name ends in is all of it. -/
theorem plain_name_ends_in {name piece : Text} (plain : isPlainName name = true)
    (last : Node.EndsIn (Text.split '/' name) piece) : piece = name := by
  obtain ⟨final, named⟩ := last
  by_cases slash : '/' ∈ name
  · exfalso
    obtain ⟨front, back, rfl, unmarked⟩ := List.eq_append_cons_of_mem slash
    obtain ⟨first, shape⟩ := component_before_slash front back unmarked
    have behind : piece ∈ Text.split '/' back := by
      rw [Text.split_append_mark, List.getLast?_append_of_ne_nil _ (Text.split_ne_nil '/' back)] at final
      exact List.mem_of_getLast? final
    have further : .child piece ∈ (Text.split '/' back).filterMap Component.ofPiece? :=
      List.mem_filterMap.2 ⟨piece, behind, named⟩
    rw [isPlainName, shape] at plain
    split at plain
    · rename_i alone
      rw [(List.cons.inj alone).2] at further
      cases further
    · cases plain
  · rw [Text.split_unmarked '/' name slash] at final
    exact (Option.some.inj final).symm

end Files.Path

namespace Lookup

open Files (Disk Path Node Archive Found EntriesGain Meets)

/-- The bytes are no archive, or the archive's member that counts as the source cannot be read. -/
inductive Unreadable (package fileName : Text) (bytes : ByteArray) : Prop where
  | noArchive (broken : Archive.ofBytes? bytes = none)
  | lostMember (archive : Archive) (name : Text) (opened : Archive.ofBytes? bytes = some archive)
      (first : archive.names.find? (isSource package fileName) = some name)
      (lost : archive.read? name = none)

/-- A path to nothing, to a directory, or to a file that is of no use as an archive. -/
inductive UnreadableAt (disk : Disk) (package fileName : Text) (path : Path) : Prop where
  | missing (absent : disk.find? path = none)
  | directory (entries : List (Text × Node)) (found : disk.find? path = some (.directory entries))
  | file (bytes : ByteArray) (found : disk.find? path = some (.file bytes))
      (unreadable : Unreadable package fileName bytes)

variable {package fileName : Text} {places : Places} {disk larger : Disk}

theorem in_unreadable_bytes {bytes : ByteArray} (unreadable : Unreadable package fileName bytes) :
    inArchiveBytes package fileName bytes = none := by
  cases unreadable with
  | noArchive broken => rw [inArchiveBytes, broken, Option.bind_none]
  | lostMember archive name opened first lost =>
      rw [inArchiveBytes, opened, Option.bind_some, inArchive, first]
      exact congrArg (Option.map linesOf) lost

theorem in_unreadable_archive {path : Path} (unreadable : UnreadableAt disk package fileName path) :
    inArchiveAt disk package fileName path = none := by
  cases unreadable with
  | missing absent => rw [inArchiveAt, Disk.bytes?, absent, Option.bind_none]
  | directory entries found => rw [inArchiveAt, Disk.bytes?, found, Option.bind_none]
  | file bytes found unreadable =>
      rw [inArchiveAt, Disk.bytes?, found]
      exact in_unreadable_bytes unreadable

/-- All source archives at or below a dependency cache, in the order of a walk. -/
def sourceArchivesBelow (disk : Disk) (cache : Path) : List Found :=
  ((Node.directory (disk.entriesAt cache)).walk fun _ => false).filter fun found =>
    sourceArchiveEnding.isSuffixOf found.fileName

theorem cached_archives_padded (cache : Path)
    (gained : EntriesGain (fun _ => Unreadable package fileName) (disk.entriesAt cache)
      (larger.entriesAt cache))
    (room : (sourceArchivesBelow larger cache).length ≤ places.maxSourceArchives) :
    Padded (Unreadable package fileName) (cachedArchives places disk cache)
      (cachedArchives places larger cache) := by
  have below : Padded (fun found => Unreadable package fileName found.bytes)
      (sourceArchivesBelow disk cache) (sourceArchivesBelow larger cache) :=
    (Node.files_among_gain gained _ []).filter _
  have few : (sourceArchivesBelow disk cache).length ≤ places.maxSourceArchives :=
    Nat.le_trans below.length_le room
  rw [cached_archives_eq, cached_archives_eq]
  change Padded _ (((sourceArchivesBelow disk cache).take _).map _)
    (((sourceArchivesBelow larger cache).take _).map _)
  rw [List.take_of_length_le few, List.take_of_length_le room]
  exact below.map _ fun _ unreadable => unreadable

theorem in_dependency_caches_gain
    (gained : disk.Gains (fun _ => Unreadable package fileName) larger)
    (room : ∀ cache ∈ places.dependencyCaches, larger.entriesAt cache = disk.entriesAt cache ∨
      (sourceArchivesBelow larger cache).length ≤ places.maxSourceArchives) :
    inDependencyCaches places larger package fileName =
      inDependencyCaches places disk package fileName := by
  apply find_some_congr
  intro cache member
  rcases room cache member with same | few
  · rw [cached_archives_eq, cached_archives_eq, same]
  · exact (cached_archives_padded cache (Disk.entries_at_gain gained cache) few).find_some _
      fun _ => in_unreadable_bytes

theorem in_archive_at_gain (gained : disk.Gains (fun _ => Unreadable package fileName) larger)
    (path : Path) : inArchiveAt larger package fileName path = inArchiveAt disk package fileName path := by
  rcases Disk.bytes_gain gained path with same | ⟨absent, name, bytes, found, unreadable⟩
  · rw [inArchiveAt, inArchiveAt, same]
  · rw [inArchiveAt, inArchiveAt, absent, found, Option.bind_none, Option.bind_some]
    exact in_unreadable_bytes unreadable

/-- The place that a package tells ends in the name of the file. -/
theorem place_ends_in {qualifiedType name : Text} (plain : Path.isPlainName fileName = true)
    (last : Node.EndsIn (Text.split '/' (packagePath qualifiedType fileName)) name) :
    name = fileName := by
  by_cases packaged : '.' ∈ qualifiedType
  · obtain ⟨front, path⟩ := package_path_packaged qualifiedType fileName packaged
    obtain ⟨final, named⟩ := last
    rw [path, Text.split_append_mark,
      List.getLast?_append_of_ne_nil _ (Text.split_ne_nil '/' fileName)] at final
    exact Path.plain_name_ends_in plain ⟨final, named⟩
  · rw [package_path_default qualifiedType fileName packaged] at last
    exact Path.plain_name_ends_in plain last

theorem among_entries_gain {entries others : List (Text × Node)} {qualifiedType : Text}
    (excluded : List Glob.Pattern) (plain : Path.isPlainName fileName = true)
    (gained : EntriesGain (fun name _ => name ≠ fileName) entries others) :
    amongEntries excluded others (packagePath qualifiedType fileName) fileName =
      amongEntries excluded entries (packagePath qualifiedType fileName) fileName := by
  have walked : byName excluded (.directory others) fileName =
      byName excluded (.directory entries) fileName := by
    have found := (Node.files_among_gain gained (hides excluded) []).find
      (fun found => found.fileName == fileName) fun found other => by simpa using other
    exact congrArg (Option.map fun found => linesOf found.bytes) found
  have placed := Node.follow_gains (Text.split '/' (packagePath qualifiedType fileName))
    (.directory gained) .nil
  rw [amongEntries, amongEntries, walked]
  generalize Node.follow (.directory entries) [] _ = one at placed ⊢
  generalize Node.follow (.directory others) [] _ = other at placed ⊢
  cases placed with
  | nowhere => rfl
  | both inner => cases inner <;> rfl
  | put passed last => exact absurd (place_ends_in plain last) passed

theorem in_project_gain {qualifiedType : Text} (plain : Path.isPlainName fileName = true)
    (roots : ∀ root ∈ places.sourceRoots, EntriesGain (fun name _ => name ≠ fileName)
      (disk.entriesAt root) (larger.entriesAt root)) :
    inProject places larger (packagePath qualifiedType fileName) fileName =
      inProject places disk (packagePath qualifiedType fileName) fileName := by
  apply find_some_congr
  intro root member
  rw [in_root_eq, in_root_eq, among_entries_gain places.excluded plain (roots root member)]

theorem search_among_archives (places : Places) (disk : Disk) (qualifiedType fileName : Text)
    {archives : List Path}
    (padded : Padded (UnreadableAt disk (packagePath qualifiedType fileName) fileName)
      places.archives archives) :
    search { places with archives := archives } disk qualifiedType fileName =
      search places disk qualifiedType fileName := by
  have same := padded.find_some
    (inArchiveAt disk (packagePath qualifiedType fileName) fileName) fun _ => in_unreadable_archive
  rw [search, search]
  dsimp only
  rw [same]
  rfl

theorem search_on_larger {qualifiedType : Text}
    (gained : disk.Gains (fun _ => Unreadable (packagePath qualifiedType fileName) fileName) larger)
    (room : ∀ cache ∈ places.dependencyCaches, larger.entriesAt cache = disk.entriesAt cache ∨
      (sourceArchivesBelow larger cache).length ≤ places.maxSourceArchives)
    (roots : ∀ root ∈ places.sourceRoots, EntriesGain (fun name _ => name ≠ fileName)
      (disk.entriesAt root) (larger.entriesAt root)) :
    search places larger qualifiedType fileName = search places disk qualifiedType fileName := by
  rw [search, search]
  cases plain : Path.isPlainName fileName with
  | false => rfl
  | true =>
      have archives : inArchiveAt larger (packagePath qualifiedType fileName) fileName =
          inArchiveAt disk (packagePath qualifiedType fileName) fileName :=
        funext (in_archive_at_gain gained)
      dsimp only
      rw [in_project_gain plain roots, archives, in_dependency_caches_gain gained room]

theorem places_with_archives (settings : Config.Settings) (places : Places) (archives : List Path)
    (built : Places.ofSettings settings = .ok places) :
    places.archives =
        (settings.runtimeHome.map runtimeArchives).getD [] ++ settings.resolvedSourceArchives ∧
      places.maxSourceArchives = settings.maxSourceArchives ∧
      Places.ofSettings { settings with sourceArchives := archives } = .ok { places with
        archives := (settings.runtimeHome.map runtimeArchives).getD [] ++
          archives.map settings.resolve } := by
  rw [Places.ofSettings] at built ⊢
  cases read : readExcludes settings.exclude with
  | error error =>
      rw [read] at built
      cases built
  | ok excluded =>
      rw [read] at built
      cases built
      exact ⟨rfl, rfl, rfl⟩

/-- Paths that cannot be read may stand anywhere among the configured archives without changing what a
search finds. The same holds of files that cannot be read and come to stand anywhere on the disk, if
each dependency cache that gains any is looked into as a whole, and below the source roots none of them
has the name of the file asked for. -/
theorem unreadable_places_overlooked (settings : Config.Settings) (places : Places) (disk : Disk)
    (qualifiedType fileName : Text) (built : Places.ofSettings settings = .ok places) :
    let package := packagePath qualifiedType fileName
    (∀ archives, Padded (fun path => UnreadableAt disk package fileName (settings.resolve path))
        settings.sourceArchives archives →
      ∃ wider, Places.ofSettings { settings with sourceArchives := archives } = .ok wider ∧
        search wider disk qualifiedType fileName = search places disk qualifiedType fileName) ∧
    ∀ larger : Disk, disk.Gains (fun _ => Unreadable package fileName) larger →
      (∀ cache ∈ settings.resolvedDependencyCaches,
        larger.entriesAt cache = disk.entriesAt cache ∨
          (sourceArchivesBelow larger cache).length ≤ settings.maxSourceArchives) →
      (∀ root ∈ settings.resolvedSourceRoots, EntriesGain (fun name _ => name ≠ fileName)
        (disk.entriesAt root) (larger.entriesAt root)) →
      search places larger qualifiedType fileName = search places disk qualifiedType fileName := by
  intro package
  obtain ⟨sourceRoots, -, -, caches⟩ := places_of_settings settings places built
  constructor
  · intro archives padded
    obtain ⟨listed, -, wider⟩ := places_with_archives settings places archives built
    refine ⟨_, wider, ?_⟩
    apply search_among_archives
    rw [listed]
    exact (Padded.refl _).append (padded.map settings.resolve fun _ unreadable => unreadable)
  · intro larger gained room roots
    obtain ⟨-, most, -⟩ := places_with_archives settings places [] built
    rw [← caches, ← most] at room
    rw [← sourceRoots] at roots
    exact search_on_larger gained room roots

/-- The bytes of an archive with one member `c/F.java`, which holds an `x` and is listed with this
checksum. -/
def storedBytes (checksum : List UInt8) : ByteArray :=
  let name : List UInt8 := [99, 47, 70, 46, 106, 97, 118, 97]
  ⟨([80, 75, 3, 4, 20, 0, 0, 0, 0, 0, 0, 0, 0, 0] ++ checksum ++
    [1, 0, 0, 0, 1, 0, 0, 0, 8, 0, 0, 0] ++ name ++ [120] ++
    [80, 75, 1, 2, 20, 0, 20, 0, 0, 0, 0, 0, 0, 0, 0, 0] ++ checksum ++
    [1, 0, 0, 0, 1, 0, 0, 0, 8, 0, 0, 0, 0, 0, 0, 0, 0, 0, 0, 0, 0, 0, 0, 0, 0, 0] ++ name ++
    [80, 75, 5, 6, 0, 0, 0, 0, 1, 0, 1, 0, 54, 0, 0, 0, 39, 0, 0, 0, 0, 0]).toArray⟩

/-- An archive whose member is listed with another checksum than its content has. -/
def lostBytes : ByteArray := storedBytes [0x83, 0x16, 0xdc, 0]

theorem no_archive_unreadable (package fileName : Text) : Unreadable package fileName ⟨#[120]⟩ :=
  .noArchive (by decide +kernel)

theorem lost_bytes_open : (Archive.ofBytes? lostBytes).isSome = true := by decide +kernel

theorem lost_bytes_unreadable : Unreadable "c/F.java".toList "F.java".toList lostBytes :=
  .lostMember ((Archive.ofBytes? lostBytes).get lost_bytes_open) "c/F.java".toList
    (Option.some_get lost_bytes_open).symm (by decide +kernel) (by decide +kernel)

/-- A project without sources beside a dependency cache of which two source archives are looked into. -/
def besideCache : Config.Settings :=
  { Config.Settings.default {} with
    extractExternal := true
    projectRoot := "/w".toList
    sourceRoots := ["src".toList]
    exclude := []
    dependencyCaches := ["cache".toList]
    maxSourceArchives := 2 }

/-- The disk of the project, with these files in the dependency cache. -/
def diskWithCache (cached : List (Text × Node)) : Disk :=
  ⟨.directory [("w".toList, .directory
    [("src".toList, .directory []), ("cache".toList, .directory cached),
      ("text.zip".toList, .file ⟨#[120]⟩), ("lost.zip".toList, .file lostBytes)])], "/".toList⟩

theorem disk_with_cache_gains {added : Text → ByteArray → Prop} {cached others : List (Text × Node)}
    (gained : EntriesGain added cached others) :
    (diskWithCache cached).Gains added (diskWithCache others) := by
  have project : EntriesGain added
      [("src".toList, .directory []), ("cache".toList, .directory cached),
        ("text.zip".toList, .file ⟨#[120]⟩), ("lost.zip".toList, .file lostBytes)]
      [("src".toList, .directory []), ("cache".toList, .directory others),
        ("text.zip".toList, .file ⟨#[120]⟩), ("lost.zip".toList, .file lostBytes)] :=
    .directory _ .nil (.directory _ gained (.file _ _ (.file _ _ .nil)))
  exact ⟨.directory (.directory _ project .nil), rfl⟩

/-- A source archive with the file of the type `c.F`. -/
def goodArchive : Text × Node :=
  ("good-sources.jar".toList, .file (storedBytes [0x83, 0x16, 0xdc, 0x8c]))

/-- One unreadable path of each kind among the archives changes nothing, and neither does an unreadable
source archive in front of the good one in the cache. -/
theorem unreadable_places_overlooked_beside :
    let disk := diskWithCache [goodArchive]
    let larger := diskWithCache [("bad-sources.jar".toList, .file lostBytes), goodArchive]
    let archives := ["gone.zip".toList, "src".toList, "text.zip".toList, "lost.zip".toList]
    ∃ places wider, Places.ofSettings besideCache = .ok places ∧
      Places.ofSettings { besideCache with sourceArchives := archives } = .ok wider ∧
      search places disk "c.F".toList "F.java".toList = some ["x".toList] ∧
      search wider disk "c.F".toList "F.java".toList = some ["x".toList] ∧
      search places larger "c.F".toList "F.java".toList = some ["x".toList] := by
  intro disk larger archives
  obtain ⟨places, built⟩ : ∃ places, Places.ofSettings besideCache = .ok places := ⟨_, rfl⟩
  have found : search places disk "c.F".toList "F.java".toList = some ["x".toList] := by
    cases built
    decide +kernel
  obtain ⟨listed, gained⟩ := unreadable_places_overlooked besideCache places disk "c.F".toList
    "F.java".toList built
  have padded : Padded (fun path => UnreadableAt disk "c/F.java".toList "F.java".toList
      (besideCache.resolve path)) [] archives := by
    refine .put (.missing (by decide +kernel)) (.put (.directory [] rfl) (.put ?_ (.put ?_ .nil)))
    · exact .file _ rfl (no_archive_unreadable _ _)
    · exact .file _ rfl lost_bytes_unreadable
  have cached : EntriesGain (fun _ => Unreadable "c/F.java".toList "F.java".toList) [goodArchive]
      [("bad-sources.jar".toList, .file lostBytes), goodArchive] :=
    .put lost_bytes_unreadable rfl (.file _ _ .nil)
  obtain ⟨wider, widened, same⟩ := listed archives padded
  have room : ∀ cache ∈ besideCache.resolvedDependencyCaches,
      larger.entriesAt cache = disk.entriesAt cache ∨
        (sourceArchivesBelow larger cache).length ≤ besideCache.maxSourceArchives := by
    intro cache member
    rw [List.mem_singleton.1 member]
    exact .inr (by decide +kernel)
  have roots : ∀ root ∈ besideCache.resolvedSourceRoots, EntriesGain
      (fun name _ => name ≠ "F.java".toList) (disk.entriesAt root) (larger.entriesAt root) := by
    intro root member
    rw [List.mem_singleton.1 member]
    exact .nil
  exact ⟨places, wider, built, widened, found, same.trans found,
    (gained larger (disk_with_cache_gains cached) room roots).trans found⟩

/-- A dependency cache that is a source root as well. -/
def cacheAsRoot : Config.Settings :=
  { besideCache with sourceRoots := ["cache".toList] }

/-- A file that is no archive comes to stand in a dependency cache whose source archives are all looked
into, and a search for a file of its name finds it, where it found nothing before. -/
theorem added_file_found_by_name :
    let disk := diskWithCache []
    let larger := diskWithCache [("bad-sources.jar".toList, .file ⟨#[120]⟩)]
    cacheAsRoot.extractExternal = true ∧
      disk.Gains (fun name bytes => sourceArchiveEnding.isSuffixOf name = true ∧
        Archive.ofBytes? bytes = none) larger ∧
      (∀ cache ∈ cacheAsRoot.resolvedDependencyCaches,
        (sourceArchivesBelow larger cache).length ≤ cacheAsRoot.maxSourceArchives) ∧
      ∃ places, Places.ofSettings cacheAsRoot = .ok places ∧
        search places disk "a.B".toList "bad-sources.jar".toList = none ∧
        search places larger "a.B".toList "bad-sources.jar".toList = some ["x".toList] := by
  intro disk larger
  have cached : EntriesGain (fun name bytes => sourceArchiveEnding.isSuffixOf name = true ∧
      Archive.ofBytes? bytes = none) [] [("bad-sources.jar".toList, .file ⟨#[120]⟩)] :=
    .put ⟨by decide, by decide +kernel⟩ rfl .nil
  have room : ∀ cache ∈ cacheAsRoot.resolvedDependencyCaches,
      (sourceArchivesBelow larger cache).length ≤ cacheAsRoot.maxSourceArchives := by
    intro cache member
    rw [List.mem_singleton.1 member]
    decide +kernel
  exact ⟨rfl, disk_with_cache_gains cached, room, _, rfl, by decide +kernel, by decide +kernel⟩

end Lookup

end FaultContext
