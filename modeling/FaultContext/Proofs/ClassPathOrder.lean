import FaultContext.Origin.Resolver
import FaultContext.Proofs.Classification
import FaultContext.Proofs.SamePaths

/-!
# The order of a class path

The listings that a resolver keeps of archives change none of its answers while the disk stays as it is:
a listing is kept under the components of a path, and all paths with these components lead to the file
it was read from. So a type comes from the first entry that holds its class file, the platform before the
application, and what is missing or cannot be read holds none.
-/

namespace FaultContext.Origin.ClassPath

set_option autoImplicit false

open Files (Disk Node Path Archive)

/-- The entry at a path holds the class file, and this is the location to report: a directory from which
the class file leads to a file, or an archive that lists it. -/
inductive Held (disk : Disk) (file path : Path) : Text → Prop where
  | below {entries : List (Text × Node)} {bytes : ByteArray}
      (directory : disk.find? path = some (.directory entries))
      (found : disk.find? (Path.join path file) = some (.file bytes)) :
      Held disk file path (path ++ ['/'])
  | listed {bytes : ByteArray} {archive : Archive} (read : disk.find? path = some (.file bytes))
      (opened : Archive.ofBytes? bytes = some archive) (member : file ∈ archive.names) :
      Held disk file path path

/-- The location to report of an entry that holds the class file, read from the disk for this question
alone. -/
def held? (disk : Disk) (file path : Path) : Option Text :=
  match disk.find? path with
  | none => none
  | some (.directory _) =>
      if disk.isFile (Path.join path file) then some (path ++ ['/']) else none
  | some (.file bytes) =>
      match Archive.ofBytes? bytes with
      | none => none
      | some archive => if file ∈ archive.names then some path else none

/-- The first of the entries that holds the class file. -/
def firstHolder? (disk : Disk) (file : Path) (entries : List ClassPathEntry) : Option TypeOrigin :=
  entries.findSome? fun entry =>
    (held? disk file entry.path).map fun location => ⟨entry.loader, some location⟩

/-- The answer to a question for a type that keeps no listing. -/
def plainAnswer (disk : Disk) (entries : List ClassPathEntry) (name : Text) : Answer :=
  match firstHolder? disk (classFile name) entries with
  | some origin => .known origin
  | none => .unknown (.notFound name)

section Holders

variable {disk : Disk} {file path : Path} {location name : Text} {entries : List ClassPathEntry}
  {origin : TypeOrigin}

theorem held_iff : held? disk file path = some location ↔ Held disk file path location := by
  unfold held?
  constructor
  · intro held
    split at held
    · cases held
    · rename_i entries directory
      split_ifs at held with found
      obtain ⟨bytes, met⟩ := (disk.is_file_iff _).1 found
      cases held
      exact .below directory met
    · rename_i bytes read
      split at held
      · cases held
      · rename_i archive opened
        split_ifs at held with member
        cases held
        exact .listed read opened member
  · intro held
    cases held with
    | below directory found =>
        rw [directory]
        exact if_pos ((disk.is_file_iff _).2 ⟨_, found⟩)
    | listed read opened member =>
        rw [read]
        dsimp only
        rw [opened]
        exact if_pos member

theorem held_none_iff : held? disk file path = none ↔ ∀ location, ¬ Held disk file path location := by
  simp only [← held_iff]
  exact Option.eq_none_iff_forall_ne_some

theorem unreadable_holds_nothing
    (unreadable : ∀ node, disk.find? path = some node →
      ∃ bytes, node = .file bytes ∧ Archive.ofBytes? bytes = none) :
    ¬ Held disk file path location := by
  intro held
  cases held with
  | below directory found =>
      obtain ⟨bytes, file, -⟩ := unreadable _ directory
      cases file
  | listed read opened member =>
      obtain ⟨bytes, file, broken⟩ := unreadable _ read
      cases file
      rw [broken] at opened
      cases opened

theorem first_holder_iff : firstHolder? disk file entries = some origin ↔
    ∃ before entry after location, entries = before ++ entry :: after ∧
      (∀ earlier ∈ before, ∀ other, ¬ Held disk file earlier.path other) ∧
      Held disk file entry.path location ∧ origin = ⟨entry.loader, some location⟩ := by
  rw [firstHolder?, List.findSome?_eq_some_iff]
  constructor
  · rintro ⟨before, entry, after, parts, found, missed⟩
    obtain ⟨location, held, shown⟩ := Option.map_eq_some_iff.1 found
    refine ⟨before, entry, after, location, parts, ?_, held_iff.1 held, shown.symm⟩
    intro earlier member
    exact held_none_iff.1 (Option.map_eq_none_iff.1 (missed earlier member))
  · rintro ⟨before, entry, after, location, parts, missed, held, rfl⟩
    refine ⟨before, entry, after, parts, by rw [held_iff.2 held]; rfl, ?_⟩
    intro earlier member
    rw [held_none_iff.2 (missed earlier member)]
    rfl

theorem no_holder_iff : firstHolder? disk file entries = none ↔
    ∀ entry ∈ entries, ∀ location, ¬ Held disk file entry.path location := by
  simp only [firstHolder?, List.findSome?_eq_none_iff, Option.map_eq_none_iff, held_none_iff]

theorem plain_answer_known_iff :
    plainAnswer disk entries name = .known origin ↔
      firstHolder? disk (classFile name) entries = some origin := by
  rw [plainAnswer]
  split <;> simp_all

theorem plain_answer_unknown_iff :
    plainAnswer disk entries name = .unknown (.notFound name) ↔
      firstHolder? disk (classFile name) entries = none := by
  rw [plainAnswer]
  split <;> simp_all

end Holders

section Listings

variable {disk : Disk} {listings : Listings} {path : Path} {bytes : ByteArray}

/-- Whatever file the components of a kept listing lead to, the listing is that of this file. -/
def Faithful (disk : Disk) (listings : Listings) : Prop :=
  ∀ path bytes names, disk.find? path = some (.file bytes) →
    listings.lookup (Path.components path) = some names →
    (Archive.ofBytes? bytes).map Archive.names = some names

theorem faithful_start (disk : Disk) : Faithful disk [] := by
  intro path bytes names read kept
  cases kept

theorem faithful_kept (faithful : Faithful disk listings) {archive : Archive}
    (read : disk.find? path = some (.file bytes)) (opened : Archive.ofBytes? bytes = some archive) :
    Faithful disk ((Path.components path, archive.names) :: listings) := by
  intro other next names met kept
  rw [List.lookup_cons] at kept
  split at kept
  · -- Another spelling of the path that was read leads to the same file, if to any.
    rename_i same
    cases Disk.same_node (eq_of_beq same) met read
    cases kept
    rw [opened, Option.map_some]
  · exact faithful other next names met kept

theorem listing_spec (faithful : Faithful disk listings)
    (read : disk.find? path = some (.file bytes)) :
    (listing disk path listings).1 = (Archive.ofBytes? bytes).map Archive.names ∧
      Faithful disk (listing disk path listings).2 := by
  unfold listing
  split
  · rename_i names kept
    exact ⟨(faithful path bytes names read kept).symm, faithful⟩
  · rw [Disk.bytes_eq_some_iff.2 read, Option.bind_some]
    cases opened : Archive.ofBytes? bytes with
    | none => exact ⟨rfl, faithful⟩
    | some archive => exact ⟨rfl, faithful_kept faithful read opened⟩

theorem location_in_spec (faithful : Faithful disk listings) (path file : Path) :
    (locationIn disk path file listings).1 = held? disk file path ∧
      Faithful disk (locationIn disk path file listings).2 := by
  unfold locationIn held? Disk.isDirectory
  cases there : disk.find? path with
  | none =>
      have absent : disk.isFile path = false := by rw [Disk.isFile, there]; rfl
      rw [absent]
      exact ⟨rfl, faithful⟩
  | some node =>
      cases node with
      | directory entries => exact ⟨rfl, faithful⟩
      | file bytes =>
          have present : disk.isFile path = true := (disk.is_file_iff path).2 ⟨bytes, there⟩
          obtain ⟨read, next⟩ := listing_spec faithful there
          simp only [Option.any_some, Node.isDirectory, Node.isFile, Bool.not_true,
            Bool.false_eq_true, if_false, present, if_true]
          generalize listing disk path listings = told at read next
          obtain ⟨names, later⟩ := told
          obtain rfl : names = (Archive.ofBytes? bytes).map Archive.names := read
          cases Archive.ofBytes? bytes with
          | none => exact ⟨rfl, next⟩
          | some archive =>
              simp only [Option.map_some, List.contains_iff_mem]
              exact ⟨trivial, next⟩

theorem search_spec (faithful : Faithful disk listings) (file : Path) (entries : List ClassPathEntry) :
    (search disk file entries listings).1 = firstHolder? disk file entries ∧
      Faithful disk (search disk file entries listings).2 := by
  induction entries generalizing listings with
  | nil => exact ⟨rfl, faithful⟩
  | cons entry entries ih =>
      obtain ⟨said, next⟩ := location_in_spec faithful entry.path file
      unfold search
      rw [firstHolder?, List.findSome?_cons, ← said]
      split
      · rename_i location later found
        rw [found] at next ⊢
        exact ⟨rfl, next⟩
      · rename_i later missed
        rw [missed] at next ⊢
        exact ih next

theorem ask_spec (classPath : ClassPath) (faithful : Faithful disk listings) (name : Text) :
    (classPath.resolver.ask disk name listings).1 = plainAnswer disk classPath.entries name ∧
      Faithful disk (classPath.resolver.ask disk name listings).2 := by
  obtain ⟨found, next⟩ := search_spec faithful (classFile name) classPath.entries
  unfold resolver plainAnswer
  dsimp only
  rw [← found]
  split
  · rename_i origin later told
    rw [told] at next ⊢
    exact ⟨rfl, next⟩
  · rename_i later told
    rw [told] at next ⊢
    exact ⟨rfl, next⟩

theorem after_faithful (classPath : ClassPath) (disk : Disk) (asked : List Text)
    (faithful : Faithful disk listings) :
    Faithful disk (classPath.resolver.after disk asked listings) := by
  induction asked generalizing listings with
  | nil => exact faithful
  | cons name asked ih => exact ih (ask_spec classPath faithful name).2

theorem answers_plainly (classPath : ClassPath) (disk : Disk) :
    classPath.resolver.AnswersBy disk [] (plainAnswer disk classPath.entries) :=
  fun asked name => (ask_spec classPath (after_faithful classPath disk asked (faithful_start disk)) name).1

end Listings

/-- On a disk that stays as it is, a question gets the answer of a search that keeps no listing, whatever
was asked before. It goes through the entries of the platform and then through those of the application,
and the answer is the first entry that holds the class file, with its loader, or that there is none. An
entry that leads nowhere or to a file that is no archive never holds one. -/
theorem first_holder_answers (application platform : List Path) (disk : Disk) (asked : List Text)
    (name : Text) :
    let resolver := (ofEntries application platform).resolver
    let entries : List ClassPathEntry :=
      platform.map (⟨·, .platform⟩) ++ application.map (⟨·, .application⟩)
    let answer := (resolver.ask disk name (resolver.after disk asked [])).1
    answer = plainAnswer disk entries name ∧
      (∀ origin, answer = .known origin ↔
        ∃ before entry after location, entries = before ++ entry :: after ∧
          (∀ earlier ∈ before, ∀ other, ¬ Held disk (classFile name) earlier.path other) ∧
          Held disk (classFile name) entry.path location ∧
          origin = ⟨entry.loader, some location⟩) ∧
      (answer = .unknown (.notFound name) ↔
        ∀ entry ∈ entries, ∀ location, ¬ Held disk (classFile name) entry.path location) ∧
      ∀ path, (∀ node, disk.find? path = some node →
          ∃ bytes, node = .file bytes ∧ Archive.ofBytes? bytes = none) →
        ∀ location, ¬ Held disk (classFile name) path location := by
  intro resolver entries answer
  have plain : answer = plainAnswer disk entries name :=
    answers_plainly (ofEntries application platform) disk asked name
  refine ⟨plain, ?_, ?_, ?_⟩
  · intro origin
    rw [plain, plain_answer_known_iff, first_holder_iff]
  · rw [plain, plain_answer_unknown_iff, no_holder_iff]
  · intro path unreadable location
    exact unreadable_holds_nothing unreadable

end FaultContext.Origin.ClassPath
