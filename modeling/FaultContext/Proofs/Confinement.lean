import FaultContext.Lookup.Search
import FaultContext.Proofs.PathsBelow

/-!
# Reading stays in the configured places

Names come from traces that nobody vouches for. Whatever they are, a search looks at the entries below
the source roots and, with archives allowed, at the bytes of the archives and the entries below the
dependency caches. Two disks that agree there cannot be told apart by any run of questions, and what
the two runs remember is the same too.
-/

namespace FaultContext.Lookup

set_option autoImplicit false

open Files (Disk Node Path)

theorem find_some_congr {α β : Type} (items : List α) (one other : α → Option β)
    (same : ∀ item ∈ items, one item = other item) : items.findSome? one = items.findSome? other := by
  induction items with
  | nil => rfl
  | cons item items ih =>
      rw [List.findSome?_cons, List.findSome?_cons, same item (List.mem_cons_self ..),
        ih fun next member => same next (List.mem_cons_of_mem _ member)]

/-- The source below the entries of a root: at the place that the package tells, or by its name. -/
def amongEntries (excluded : List Glob.Pattern) (entries : List (Text × Node)) (package : Path)
    (fileName : Text) : Option Lines :=
  (if Path.isInside package then
    match Node.follow (.directory entries) [] (Text.split '/' package) with
    | some (.file bytes) => some (linesOf bytes)
    | _ => none
  else none).orElse fun _ => byName excluded (.directory entries) fileName

theorem among_no_entries (excluded : List Glob.Pattern) (package : Path) (fileName : Text) :
    amongEntries excluded [] package fileName = none := by
  have noWalk : byName excluded (.directory []) fileName = none := rfl
  rw [amongEntries, noWalk]
  split_ifs with inside
  · obtain ⟨-, downward⟩ := Path.is_inside_spec package inside
    split
    · rename_i bytes reached
      exact absurd reached (Node.follow_empty [] _ bytes downward)
    · rfl
  · rfl

theorem at_package_eq (disk : Disk) (root package : Path) (entries : List (Text × Node))
    (found : disk.find? root = some (.directory entries)) (inside : Path.isInside package = true) :
    atPackage disk root package =
      match Node.follow (.directory entries) [] (Text.split '/' package) with
      | some (.file bytes) => some (linesOf bytes)
      | _ => none := by
  rw [atPackage, if_pos inside, Disk.bytes?, Disk.find_join disk root package entries inside found]
  cases Node.follow (.directory entries) [] (Text.split '/' package) with
  | none => rfl
  | some node => cases node <;> rfl

/-- A root counts for what it holds, and for nothing where it is no directory. -/
theorem in_root_eq (places : Places) (disk : Disk) (root package : Path) (fileName : Text) :
    inRoot places disk package fileName root =
      amongEntries places.excluded (disk.entriesAt root) package fileName := by
  rw [inRoot]
  split
  · rename_i entries found
    rw [disk.entries_at_directory root entries found, amongEntries]
    split_ifs with inside
    · rw [at_package_eq disk root package entries found inside]
    · rw [atPackage, if_neg inside]
  · rename_i absent
    rw [disk.entries_at_no_directory root absent, among_no_entries]

theorem cached_archives_eq (places : Places) (disk : Disk) (cache : Path) :
    cachedArchives places disk cache =
      ((((Node.directory (disk.entriesAt cache)).walk fun _ => false).filter fun found =>
        sourceArchiveEnding.isSuffixOf found.fileName).take places.maxSourceArchives).map (·.bytes) := by
  rw [cachedArchives]
  split
  · rename_i entries found
    rw [disk.entries_at_directory cache entries found]
  · rename_i absent
    rw [disk.entries_at_no_directory cache absent]
    simp [Node.walk, Node.filesAt, Node.filesAmong]

/-- The disks agree in every place that a search may look at. -/
structure Agree (places : Places) (one other : Disk) : Prop where
  roots : ∀ root ∈ places.sourceRoots, one.entriesAt root = other.entriesAt root
  archives : places.useArchives = true →
    ∀ archive ∈ places.archives, one.bytes? archive = other.bytes? archive
  caches : places.useArchives = true →
    ∀ cache ∈ places.dependencyCaches, one.entriesAt cache = other.entriesAt cache

theorem search_agrees (places : Places) (one other : Disk) (agree : Agree places one other)
    (qualifiedType fileName : Text) :
    search places one qualifiedType fileName = search places other qualifiedType fileName := by
  have project (package : Path) :
      inProject places one package fileName = inProject places other package fileName := by
    apply find_some_congr
    intro root member
    rw [in_root_eq, in_root_eq, agree.roots root member]
  have configured (allowed : places.useArchives = true) (package : Path) :
      places.archives.findSome? (inArchiveAt one package fileName) =
        places.archives.findSome? (inArchiveAt other package fileName) := by
    apply find_some_congr
    intro archive member
    rw [inArchiveAt, inArchiveAt, agree.archives allowed archive member]
  have cached (allowed : places.useArchives = true) (package : Path) :
      inDependencyCaches places one package fileName =
        inDependencyCaches places other package fileName := by
    apply find_some_congr
    intro cache member
    rw [cached_archives_eq, cached_archives_eq, agree.caches allowed cache member]
  cases allowed : places.useArchives with
  | false => simp only [search, allowed, project, Bool.not_false, if_true]
  | true => simp only [search, project, configured allowed, cached allowed]

/-- Some questions one after the other, each a type and a file, with the state carried along. -/
def findSources (places : Places) (disk : Disk) :
    List (Text × Text) → FinderState → List Lines × FinderState
  | [], state => ([], state)
  | (qualifiedType, fileName) :: questions, state =>
      let (lines, state) := findSource places disk qualifiedType fileName state
      let (others, state) := findSources places disk questions state
      (lines :: others, state)

theorem find_source_agrees (places : Places) (one other : Disk) (agree : Agree places one other)
    (qualifiedType fileName : Text) (state : FinderState) :
    findSource places one qualifiedType fileName state =
      findSource places other qualifiedType fileName state := by
  rw [findSource, findSource, search_agrees places one other agree]

theorem find_sources_agree (places : Places) (one other : Disk) (agree : Agree places one other)
    (questions : List (Text × Text)) (state : FinderState) :
    findSources places one questions state = findSources places other questions state := by
  induction questions generalizing state with
  | nil => rfl
  | cons question questions ih =>
      obtain ⟨qualifiedType, fileName⟩ := question
      simp only [findSources, find_source_agrees places one other agree, ih]

theorem places_of_settings (settings : Config.Settings) (places : Places)
    (built : Places.ofSettings settings = .ok places) :
    places.sourceRoots = settings.resolvedSourceRoots ∧
      places.useArchives = settings.extractExternal ∧
      places.archives =
        (settings.runtimeHome.map runtimeArchives).getD [] ++ settings.resolvedSourceArchives ∧
      places.dependencyCaches = settings.resolvedDependencyCaches := by
  rw [Places.ofSettings] at built
  cases read : readExcludes settings.exclude with
  | error error =>
      rw [read] at built
      cases built
  | ok excluded =>
      rw [read] at built
      cases built
      exact ⟨rfl, rfl, rfl, rfl⟩

/-- Reading is confined to the configured places: no run of questions, whatever the types and the
files asked for, tells apart two disks with the same entries below the source roots. Only with
external code wanted do the archives and the entries below the dependency caches count as well. The
runs agree in every answer and in all that the finder carries, its cache and its counts. -/
theorem reading_confined_to_places (settings : Config.Settings) (places : Places) (one other : Disk)
    (questions : List (Text × Text)) (state : FinderState)
    (built : Places.ofSettings settings = .ok places)
    (roots : ∀ root ∈ settings.resolvedSourceRoots, one.entriesAt root = other.entriesAt root)
    (outside : settings.extractExternal = true →
      (∀ archive ∈ (settings.runtimeHome.map runtimeArchives).getD [] ++
          settings.resolvedSourceArchives, one.bytes? archive = other.bytes? archive) ∧
        ∀ cache ∈ settings.resolvedDependencyCaches, one.entriesAt cache = other.entriesAt cache) :
    findSources places one questions state = findSources places other questions state := by
  obtain ⟨sourceRoots, useArchives, archives, caches⟩ := places_of_settings settings places built
  refine find_sources_agree places one other ⟨?_, ?_, ?_⟩ questions state
  · rw [sourceRoots]
    exact roots
  · rw [useArchives, archives]
    exact fun wanted => (outside wanted).1
  · rw [useArchives, caches]
    exact fun wanted => (outside wanted).2

/-- A project without excludes at `/w`, with one source root. -/
def openSettings : Config.Settings :=
  { Config.Settings.default {} with
    projectRoot := "/w".toList
    sourceRoots := ["src".toList]
    exclude := [] }

/-- A disk with an empty source root beside a file of these bytes. -/
def diskWithSecret (secret : ByteArray) : Disk :=
  ⟨.directory
    [("secret.txt".toList, .file secret),
      ("w".toList, .directory [("src".toList, .directory [])])], "/w".toList⟩

theorem reading_confined_to_places_secret :
    ∃ places, Places.ofSettings openSettings = .ok places ∧
      (diskWithSecret ⟨#[1]⟩).bytes? "/secret.txt".toList ≠
        (diskWithSecret ⟨#[2]⟩).bytes? "/secret.txt".toList ∧
      ∀ questions state, findSources places (diskWithSecret ⟨#[1]⟩) questions state =
        findSources places (diskWithSecret ⟨#[2]⟩) questions state := by
  refine ⟨_, rfl, by decide, fun questions state => ?_⟩
  refine reading_confined_to_places openSettings _ (diskWithSecret ⟨#[1]⟩) (diskWithSecret ⟨#[2]⟩)
    questions state rfl ?_ ?_
  · intro root member
    obtain rfl : root = "/w/src".toList := List.mem_singleton.1 member
    rfl
  · intro wanted
    cases wanted

end FaultContext.Lookup
