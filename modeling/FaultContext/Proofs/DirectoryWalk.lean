import FaultContext.Lookup.Search
import FaultContext.Proofs.PathsBelow

/-!
# What a walk finds

A walk leaves out a hidden directory with all that is below it, and so finds a file just when nothing
on the way to it is hidden, the file itself included. The directory where the walk begins cannot be
hidden. With the excludes of a search for what is hidden, this says which file of a name a source root
gives when the place that the package tells holds none.
-/

namespace FaultContext

set_option autoImplicit false

namespace Files.Node

/-- Seen from a node, the names lead to a file with these bytes. -/
inductive Holds : Node → List Text → ByteArray → Prop where
  | here (bytes : ByteArray) : Holds (.file bytes) [] bytes
  | under {entries : List (Text × Node)} {name : Text} {node : Node} {names : List Text}
      {bytes : ByteArray} (member : (name, node) ∈ entries) (inner : Holds node names bytes) :
      Holds (.directory entries) (name :: names) bytes

/-- Nothing is hidden on the way from the end of `trail` along the names, nor at its end. -/
def InSight (hidden : List Text → Bool) (trail names : List Text) : Prop :=
  ∀ lead, lead ≠ [] → lead <+: names → hidden (trail ++ lead) = false

variable {hidden : List Text → Bool} {trail names : List Text} {name : Text}

theorem in_sight_nil : InSight hidden trail [] := by
  intro lead filled before
  exact absurd (List.prefix_nil.1 before) filled

theorem in_sight_cons :
    InSight hidden trail (name :: names) ↔
      hidden (trail ++ [name]) = false ∧ InSight hidden (trail ++ [name]) names := by
  constructor
  · intro sight
    constructor
    · exact sight [name] (List.cons_ne_nil _ _) ⟨names, rfl⟩
    · intro lead _ before
      rw [List.append_assoc]
      exact sight (name :: lead) (List.cons_ne_nil _ _) (List.cons_prefix_cons.2 ⟨rfl, before⟩)
  · rintro ⟨entrance, further⟩ lead filled before
    cases lead with
    | nil => exact absurd rfl filled
    | cons first lead =>
        obtain ⟨rfl, onward⟩ := List.cons_prefix_cons.1 before
        by_cases last : lead = []
        · rw [last]
          exact entrance
        · have inside := further lead last onward
          rwa [List.append_assoc] at inside

mutual

theorem mem_files_at (trail : List Text) (node : Node) (found : Found) :
    found ∈ filesAt hidden trail node ↔
      ∃ names, found.names = trail ++ names ∧ Holds node names found.bytes ∧
        InSight hidden trail names := by
  cases node with
  | file bytes =>
      rw [filesAt, List.mem_singleton]
      constructor
      · rintro rfl
        exact ⟨[], (List.append_nil trail).symm, .here bytes, in_sight_nil⟩
      · rintro ⟨names, whole, held, -⟩
        cases held
        rw [List.append_nil] at whole
        cases found
        cases whole
        rfl
  | directory entries =>
      rw [filesAt, mem_files_among trail entries found]
      constructor
      · rintro ⟨name, node, names, member, whole, held, sight⟩
        exact ⟨name :: names, whole, .under member held, sight⟩
      · rintro ⟨names, whole, held, sight⟩
        cases held with
        | under member held => exact ⟨_, _, _, member, whole, held, sight⟩

theorem mem_files_among (trail : List Text) (entries : List (Text × Node)) (found : Found) :
    found ∈ filesAmong hidden trail entries ↔
      ∃ name node names, (name, node) ∈ entries ∧ found.names = trail ++ name :: names ∧
        Holds node names found.bytes ∧ InSight hidden trail (name :: names) := by
  cases entries with
  | nil => simp [filesAmong]
  | cons entry entries =>
      obtain ⟨first, node⟩ := entry
      -- The trail grows by the name of the entry, so the statement holds for every trail.
      have entered : found ∈ (if hidden (trail ++ [first]) then []
            else filesAt hidden (trail ++ [first]) node) ↔
          ∃ names, found.names = trail ++ first :: names ∧ Holds node names found.bytes ∧
            InSight hidden trail (first :: names) := by
        cases closed : hidden (trail ++ [first]) with
        | true => simp [in_sight_cons, closed]
        | false => simp [in_sight_cons, closed, mem_files_at (trail ++ [first]) node found]
      rw [filesAmong, List.mem_append, entered, mem_files_among trail entries found]
      constructor
      · rintro (⟨names, there⟩ | ⟨name, other, names, member, there⟩)
        · exact ⟨first, node, names, List.mem_cons_self .., there⟩
        · exact ⟨name, other, names, List.mem_cons_of_mem _ member, there⟩
      · rintro ⟨name, other, names, member, there⟩
        rcases List.mem_cons.1 member with same | member
        · cases same
          exact .inl ⟨names, there⟩
        · exact .inr ⟨name, other, names, member, there⟩

end

/-- A walk comes upon the files that lie in sight, and upon no others. -/
theorem mem_walk_iff (node : Node) (found : Found) :
    found ∈ node.walk hidden ↔
      Holds node found.names found.bytes ∧ InSight hidden [] found.names := by
  rw [walk, mem_files_at]
  constructor
  · rintro ⟨names, whole, there⟩
    rw [List.nil_append] at whole
    rw [whole]
    exact there
  · intro there
    exact ⟨found.names, rfl, there⟩

theorem holds_below (entries : List (Text × Node)) (bytes : ByteArray)
    (held : Holds (.directory entries) names bytes) : names ≠ [] := by
  cases held
  exact List.cons_ne_nil _ _

end Files.Node

namespace Lookup

open Files (Disk Path Node Found)

/-- No exclude matches a leading part of the names, nor the names themselves. -/
def Unexcluded (excluded : List Glob.Pattern) (names : List Text) : Prop :=
  ∀ lead, lead ≠ [] → lead <+: names →
    ∀ pattern ∈ excluded, pattern.matches (Text.join ['/'] lead) = false

theorem in_sight_iff (excluded : List Glob.Pattern) (names : List Text) :
    Node.InSight (hides excluded) [] names ↔ Unexcluded excluded names := by
  simp [Node.InSight, Unexcluded, hides]

/-- Below the entries, the names lead to a file that is called so and that no exclude takes away. -/
structure Offers (excluded : List Glob.Pattern) (entries : List (Text × Node)) (fileName : Text)
    (names : List Text) (bytes : ByteArray) : Prop where
  held : Node.Holds (.directory entries) names bytes
  called : names.getLast? = some fileName
  unexcluded : Unexcluded excluded names

/-- The file that a walk below a root comes upon first under a name. -/
def firstNamed (excluded : List Glob.Pattern) (root : Node) (fileName : Text) : Option Found :=
  (root.walk (hides excluded)).find? fun found => found.fileName == fileName

theorem by_name_eq (excluded : List Glob.Pattern) (root : Node) (fileName : Text) :
    byName excluded root fileName =
      (firstNamed excluded root fileName).map fun found => linesOf found.bytes := rfl

theorem offers_iff (excluded : List Glob.Pattern) (entries : List (Text × Node)) (fileName : Text)
    (found : Found) :
    Offers excluded entries fileName found.names found.bytes ↔
      found ∈ (Node.directory entries).walk (hides excluded) ∧ found.fileName = fileName := by
  rw [Node.mem_walk_iff, in_sight_iff]
  constructor
  · rintro ⟨held, called, unexcluded⟩
    refine ⟨⟨held, unexcluded⟩, ?_⟩
    rw [Found.fileName, called, Option.getD_some]
  · rintro ⟨⟨held, unexcluded⟩, called⟩
    refine ⟨held, ?_, unexcluded⟩
    rw [← called, Found.fileName, List.getLast?_eq_some_getLast (Node.holds_below entries _ held)]
    rfl

theorem first_named_offered (excluded : List Glob.Pattern) (entries : List (Text × Node))
    (fileName : Text) (found : Found)
    (first : firstNamed excluded (.directory entries) fileName = some found) :
    Offers excluded entries fileName found.names found.bytes := by
  apply (offers_iff excluded entries fileName found).2
  constructor
  · exact List.mem_of_find?_eq_some first
  · simpa using List.find?_some first

theorem first_named_is_some_iff (excluded : List Glob.Pattern) (entries : List (Text × Node))
    (fileName : Text) :
    (firstNamed excluded (.directory entries) fileName).isSome = true ↔
      ∃ names bytes, Offers excluded entries fileName names bytes := by
  constructor
  · intro given
    obtain ⟨found, first⟩ := Option.isSome_iff_exists.1 given
    exact ⟨_, _, first_named_offered excluded entries fileName found first⟩
  · rintro ⟨names, bytes, offered⟩
    obtain ⟨member, called⟩ := (offers_iff excluded entries fileName ⟨names, bytes⟩).1 offered
    rw [firstNamed, List.find?_isSome]
    exact ⟨_, member, by simpa using called⟩

/-- A root with no file at the place that the package tells gives what a walk below it gives. -/
theorem in_root_walks (places : Places) (disk : Disk) (root package : Path) (fileName : Text)
    (displaced : disk.isDirectory root = true → atPackage disk root package = none) :
    inRoot places disk package fileName root =
      (firstNamed places.excluded (.directory (disk.entriesAt root)) fileName).map
        fun found => linesOf found.bytes := by
  unfold inRoot
  split
  · rename_i entries found
    rw [disk.entries_at_directory root entries found,
      displaced ((disk.is_directory_iff root).2 ⟨entries, found⟩)]
    exact by_name_eq places.excluded (.directory entries) fileName
  · rename_i absent
    rw [disk.entries_at_no_directory root absent]
    rfl

/-- A root without a file at the place that the package tells gives a file of the name just when it
holds one that no exclude takes away, with all that leads to it, and the file given is such a one. -/
theorem walk_finds_unexcluded_files (places : Places) (disk : Disk) (root package : Path)
    (fileName : Text) (entries : List (Text × Node))
    (directory : disk.find? root = some (.directory entries))
    (displaced : atPackage disk root package = none) :
    let given := firstNamed places.excluded (.directory entries) fileName
    inRoot places disk package fileName root = given.map (fun found => linesOf found.bytes) ∧
      (given.isSome = true ↔ ∃ names bytes, Offers places.excluded entries fileName names bytes) ∧
      ∀ found, given = some found →
        Offers places.excluded entries fileName found.names found.bytes := by
  intro given
  have walked := in_root_walks places disk root package fileName fun _ => displaced
  rw [disk.entries_at_directory root entries directory] at walked
  constructor
  · exact walked
  constructor
  · exact first_named_is_some_iff places.excluded entries fileName
  · intro found first
    exact first_named_offered places.excluded entries fileName found first

/-- Build output, and beside it a file of the same name that is kept. -/
def besideOutput : List (Text × Node) :=
  [("target".toList, .directory [("Foo.java".toList, .file ⟨#[1]⟩)]),
    ("legacy".toList, .directory [("Foo.java".toList, .file ⟨#[2]⟩)])]

/-- Places with one root, in which build output is excluded. -/
def placesWithoutOutput : Places :=
  { sourceRoots := ["/src".toList]
    excluded := [⟨.recursiveStart :: "target".toList.map .literal ++ [.recursiveEnd]⟩]
    useArchives := false
    archives := []
    dependencyCaches := []
    maxSourceArchives := 0 }

theorem walk_finds_unexcluded_files_beside :
    let disk : Disk := ⟨.directory [("src".toList, .directory besideOutput)], "/".toList⟩
    disk.find? "/src".toList = some (.directory besideOutput) ∧
      atPackage disk "/src".toList "com/acme/Foo.java".toList = none ∧
      ∃ bytes, Offers placesWithoutOutput.excluded besideOutput "Foo.java".toList
        ["legacy".toList, "Foo.java".toList] bytes := by
  intro disk
  have directory : disk.find? "/src".toList = some (.directory besideOutput) := rfl
  have displaced : atPackage disk "/src".toList "com/acme/Foo.java".toList = none := by decide
  have first : (firstNamed placesWithoutOutput.excluded (.directory besideOutput)
      "Foo.java".toList).map Found.names = some ["legacy".toList, "Foo.java".toList] := by
    decide +kernel
  obtain ⟨found, given, names⟩ := Option.map_eq_some_iff.1 first
  obtain ⟨-, -, offered⟩ := walk_finds_unexcluded_files placesWithoutOutput disk "/src".toList
    "com/acme/Foo.java".toList "Foo.java".toList besideOutput directory displaced
  exact ⟨directory, displaced, found.bytes, names ▸ offered found given⟩

end Lookup

end FaultContext
