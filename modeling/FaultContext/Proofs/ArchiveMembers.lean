import FaultContext.Lookup.Search
import FaultContext.Proofs.PathsBelow

/-!
# Which member of an archive is read

An archive gives the source of a type from the first member whose name ends as the name of the source
may end. For a type in a package that is any member of the right file name, in whatever directory: the
one at the place of the package is read where no namesake is listed before it. A type in the default
package has the bare file name for its place, and there the end of a longer name is enough.
-/

namespace FaultContext

set_option autoImplicit false

namespace Text

theorem split_unmarked (mark : Char) (text : Text) (absent : mark ∉ text) :
    split mark text = [text] := by
  induction text with
  | nil => rfl
  | cons c rest ih =>
      obtain ⟨differs, further⟩ := List.ne_and_not_mem_of_not_mem_cons absent
      rw [split, if_neg (Ne.symm differs), ih further]

/-- Every text has a last piece, the part of it behind the last mark. -/
theorem last_piece (mark : Char) (text : Text) :
    ∃ back, mark ∉ back ∧ (text = back ∨ ∃ front, text = front ++ mark :: back) := by
  induction text with
  | nil => exact ⟨[], List.not_mem_nil, .inl rfl⟩
  | cons c rest ih =>
      obtain ⟨back, absent, rfl | ⟨front, rfl⟩⟩ := ih
      · by_cases same : c = mark
        · exact ⟨rest, absent, .inr ⟨[], by rw [same, List.nil_append]⟩⟩
        · exact ⟨c :: rest, List.not_mem_cons_of_ne_of_not_mem (Ne.symm same) absent, .inl rfl⟩
      · exact ⟨back, absent, .inr ⟨c :: front, rfl⟩⟩

/-- An end without the mark lies behind the last mark. -/
theorem suffix_behind_mark (mark : Char) (front back ending : Text) (absent : mark ∉ ending)
    (ends : ending <:+ front ++ mark :: back) : ending <:+ back := by
  rcases List.suffix_or_suffix_of_suffix ends (List.suffix_append front (mark :: back)) with
    short | long
  · rcases List.suffix_cons_iff.1 short with rfl | behind
    · exact absurd (List.mem_cons_self ..) absent
    · exact behind
  · exact absurd (long.subset (List.mem_cons_self ..)) absent

end Text

namespace Files.Path

theorem of_piece_child_iff (piece : Text) :
    Component.ofPiece? piece = some (.child piece) ↔
      piece ≠ [] ∧ piece ≠ ['.'] ∧ piece ≠ ['.', '.'] := by
  unfold Component.ofPiece?
  split_ifs with dropped upward
  · rcases dropped with empty | here
    · simp [empty]
    · simp [here]
  · simp [upward]
  · rw [not_or] at dropped
    simp [dropped, upward]

theorem piece_of_plain_name (name : Text) (plain : isPlainName name = true) :
    Component.ofPiece? name = some (.child name) := by
  apply (of_piece_child_iff name).2
  refine ⟨?_, ?_, ?_⟩ <;> intro same <;> rw [same] at plain <;> cases plain

/-- What ends with a name is a name itself. -/
theorem piece_of_suffix (piece name : Text) (named : Component.ofPiece? name = some (.child name))
    (ends : name <:+ piece) : Component.ofPiece? piece = some (.child piece) := by
  obtain ⟨filled, here, up⟩ := (of_piece_child_iff name).1 named
  apply (of_piece_child_iff piece).2
  refine ⟨?_, ?_, ?_⟩ <;> intro same <;> rw [same] at ends
  · exact filled (List.suffix_nil.1 ends)
  · simp [List.suffix_cons_iff, filled, here] at ends
  · simp [List.suffix_cons_iff, filled, here, up] at ends

theorem file_name_of_pieces (path : Path) (front : List Text) (piece : Text)
    (pieces : Text.split '/' path = front ++ [piece])
    (named : Component.ofPiece? piece = some (.child piece)) : fileName? path = some piece := by
  have last : (components path).getLast? = some (.child piece) := by
    simp [components, pieces, named]
  rw [fileName?, last]

/-- A path ends in the piece behind its last slash, if that is a name. -/
theorem file_name_of_last_piece (path : Path) (piece : Text) (single : '/' ∉ piece)
    (named : Component.ofPiece? piece = some (.child piece))
    (shape : path = piece ∨ ∃ front, path = front ++ '/' :: piece) : fileName? path = some piece := by
  have alone := Text.split_unmarked '/' piece single
  rcases shape with rfl | ⟨front, rfl⟩
  · exact file_name_of_pieces path [] path alone named
  · apply file_name_of_pieces _ (Text.split '/' front) piece _ named
    rw [Text.split_append_mark, alone]

end Files.Path

namespace Lookup

open Files (Archive Member Path)

/-- A member that is no directory has the place for its name, or its name ends with a slash and the
place. -/
def StandsAt (place name : Text) : Prop :=
  name.getLast? ≠ some '/' ∧ (name = place ∨ ('/' :: place) <:+ name)

instance (place name : Text) : Decidable (StandsAt place name) :=
  inferInstanceAs (Decidable (_ ∧ _))

theorem stands_at_end (front place name : Text) (stands : StandsAt (front ++ '/' :: place) name) :
    StandsAt place name := by
  have inner : ('/' :: place) <:+ front ++ '/' :: place := List.suffix_append front ('/' :: place)
  obtain ⟨noDirectory, rfl | ends⟩ := stands
  · exact ⟨noDirectory, .inr inner⟩
  · exact ⟨noDirectory, .inr ((inner.trans (List.suffix_cons '/' _)).trans ends)⟩

theorem is_source_eq_true_iff (package fileName name : Text) :
    isSource package fileName name = true ↔
      name.getLast? ≠ some '/' ∧
        (package <:+ name ∨ ('/' :: fileName) <:+ name ∨ name = fileName) := by
  simp [isSource, or_assoc]

theorem package_path_default (qualifiedType fileName : Text) (packageless : '.' ∉ qualifiedType) :
    packagePath qualifiedType fileName = fileName := by
  rw [packagePath, (Text.cut_last_eq_none_iff '.' qualifiedType).2 packageless]

theorem package_path_packaged (qualifiedType fileName : Text) (packaged : '.' ∈ qualifiedType) :
    ∃ package, packagePath qualifiedType fileName = package ++ '/' :: fileName := by
  cases cut : Text.cutLast? '.' qualifiedType with
  | none => exact absurd packaged ((Text.cut_last_eq_none_iff '.' qualifiedType).1 cut)
  | some parts => exact ⟨Text.replace '.' '/' parts.1, by rw [packagePath, cut]⟩

/-- For a type in a package, the sources are the members with the name of the file. -/
theorem is_source_packaged (qualifiedType fileName name : Text) (packaged : '.' ∈ qualifiedType) :
    isSource (packagePath qualifiedType fileName) fileName name = true ↔ StandsAt fileName name := by
  obtain ⟨package, path⟩ := package_path_packaged qualifiedType fileName packaged
  rw [is_source_eq_true_iff, path]
  constructor
  · rintro ⟨noDirectory, placed | ends | same⟩
    · exact ⟨noDirectory, .inr ((List.suffix_append package ('/' :: fileName)).trans placed)⟩
    · exact ⟨noDirectory, .inr ends⟩
    · exact ⟨noDirectory, .inl same⟩
  · rintro ⟨noDirectory, same | ends⟩
    · exact ⟨noDirectory, .inr (.inr same)⟩
    · exact ⟨noDirectory, .inr (.inl ends)⟩

/-- In the default package the letters of the file at the end of a name are enough. -/
theorem is_source_default (qualifiedType fileName name : Text) (packageless : '.' ∉ qualifiedType) :
    isSource (packagePath qualifiedType fileName) fileName name = true ↔
      name.getLast? ≠ some '/' ∧ fileName <:+ name := by
  rw [is_source_eq_true_iff, package_path_default qualifiedType fileName packageless]
  constructor
  · rintro ⟨noDirectory, ends | ends | rfl⟩
    · exact ⟨noDirectory, ends⟩
    · exact ⟨noDirectory, (List.suffix_cons '/' fileName).trans ends⟩
    · exact ⟨noDirectory, List.suffix_refl name⟩
  · rintro ⟨noDirectory, ends⟩
    exact ⟨noDirectory, .inl ends⟩

section FileName

variable {fileName name : Text} (plain : Path.isPlainName fileName = true) (single : '/' ∉ fileName)

include plain single

theorem file_name_of_stands_at (stands : StandsAt fileName name) :
    Path.fileName? name = some fileName := by
  have named := Path.piece_of_plain_name fileName plain
  apply Path.file_name_of_last_piece name fileName single named
  obtain ⟨-, same | ⟨front, shape⟩⟩ := stands
  · exact .inl same
  · exact .inr ⟨front, shape.symm⟩

theorem file_name_of_suffix (ends : fileName <:+ name) :
    ∃ lead, Path.fileName? name = some (lead ++ fileName) := by
  have named := Path.piece_of_plain_name fileName plain
  obtain ⟨piece, alone, shape⟩ := Text.last_piece '/' name
  have inside : fileName <:+ piece := by
    rcases shape with rfl | ⟨front, rfl⟩
    · exact ends
    · exact Text.suffix_behind_mark '/' front piece fileName single ends
  have last := Path.file_name_of_last_piece name piece alone
    (Path.piece_of_suffix piece fileName named inside) shape
  obtain ⟨lead, rfl⟩ := inside
  exact ⟨lead, last⟩

end FileName

/-- The member that is read is no directory. It bears the name of the file asked for, unless the type
is in the default package and the name of the member merely ends with the letters of that name. -/
theorem member_bears_other_name_iff (archive : Archive) (qualifiedType fileName : Text)
    (lines : Lines) (plain : Path.isPlainName fileName = true) (single : '/' ∉ fileName)
    (found : inArchive archive (packagePath qualifiedType fileName) fileName = some lines) :
    ∃ name bytes,
      archive.names.find? (isSource (packagePath qualifiedType fileName) fileName) = some name ∧
        archive.read? name = some bytes ∧ lines = linesOf bytes ∧ name.getLast? ≠ some '/' ∧
        (Path.fileName? name ≠ some fileName ↔
          '.' ∉ qualifiedType ∧
            ∃ lead, lead ≠ [] ∧ Path.fileName? name = some (lead ++ fileName)) := by
  rw [inArchive] at found
  cases first : archive.names.find? (isSource (packagePath qualifiedType fileName) fileName) with
  | none =>
      rw [first] at found
      cases found
  | some name =>
      rw [first] at found
      obtain ⟨bytes, read, same⟩ := Option.map_eq_some_iff.1 found
      have source := List.find?_some first
      obtain ⟨noDirectory, -⟩ := (is_source_eq_true_iff _ _ _).1 source
      refine ⟨name, bytes, rfl, read, same.symm, noDirectory, ?_⟩
      constructor
      · intro other
        -- For a type in a package every way to be accepted ends in the name of the file.
        by_cases packaged : '.' ∈ qualifiedType
        · have stands := (is_source_packaged qualifiedType fileName name packaged).1 source
          exact absurd (file_name_of_stands_at plain single stands) other
        · obtain ⟨-, ends⟩ := (is_source_default qualifiedType fileName name packaged).1 source
          obtain ⟨lead, last⟩ := file_name_of_suffix plain single ends
          refine ⟨packaged, lead, ?_, last⟩
          rintro rfl
          exact other last
      · rintro ⟨-, lead, longer, last⟩ same
        rw [last, Option.some.injEq] at same
        exact longer (List.append_left_eq_self.1 same)

/-- An archive of which the name of the one member ends with the letters of another. -/
def longerNamed : Archive := ⟨[⟨"a/xFoo.java".toList, some ⟨#[120]⟩⟩]⟩

theorem member_bears_other_name_iff_longer :
    let file := "Foo.java".toList
    Path.isPlainName file = true ∧ '/' ∉ file ∧
      inArchive longerNamed (packagePath "Foo".toList file) file = some (linesOf ⟨#[120]⟩) ∧
      '.' ∉ "Foo".toList ∧
        ∃ lead, lead ≠ [] ∧ Path.fileName? "a/xFoo.java".toList = some (lead ++ file) := by
  intro file
  have plain : Path.isPlainName file = true := by decide
  have single : '/' ∉ file := by decide
  have found : inArchive longerNamed (packagePath "Foo".toList file) file =
      some (linesOf ⟨#[120]⟩) := rfl
  obtain ⟨name, bytes, first, -, -, -, bears⟩ := member_bears_other_name_iff longerNamed
    "Foo".toList file _ plain single found
  cases first
  exact ⟨plain, single, found, bears.1 (by decide)⟩

/-- For a type in the default package, the source of another type is read. -/
theorem longer_name_read :
    let file := "Foo.java".toList
    let source := isSource (packagePath "Foo".toList file) file
    Path.isPlainName file = true ∧ '/' ∉ file ∧
      longerNamed.names.find? source = some "a/xFoo.java".toList ∧
      inArchive longerNamed (packagePath "Foo".toList file) file = some (linesOf ⟨#[120]⟩) ∧
      Path.fileName? "a/xFoo.java".toList ≠ some file := by
  intro file source
  exact ⟨by decide, by decide, by decide, rfl, by decide⟩

/-- `item` is the first of the items that passes the test, and `before` are those in front of it. -/
structure First {α : Type} (test : α → Prop) (items before : List α) (item : α) : Prop where
  split : ∃ after, items = before ++ item :: after
  passes : test item
  missed : ∀ other ∈ before, ¬ test other

/-- Where a member stands at the place of the package, one is read, and it stands there just when no
other with the name of the file is listed before the first such member. -/
theorem member_at_place_read_iff (archive : Archive) (qualifiedType fileName : Text)
    (before : List Text) (own : Text) (packaged : '.' ∈ qualifiedType)
    (first : First (StandsAt (packagePath qualifiedType fileName)) archive.names before own) :
    let package := packagePath qualifiedType fileName
    ∃ name, archive.names.find? (isSource package fileName) = some name ∧
      inArchive archive package fileName = (archive.read? name).map linesOf ∧
      (StandsAt package name ↔ ∀ other ∈ before, ¬ StandsAt fileName other) := by
  intro package
  obtain ⟨front, path⟩ := package_path_packaged qualifiedType fileName packaged
  obtain ⟨after, listing⟩ := first.split
  have source := fun name => is_source_packaged qualifiedType fileName name packaged
  have ownSource : isSource package fileName own = true := by
    apply (source own).2
    apply stands_at_end front fileName own
    rw [← path]
    exact first.passes
  cases ahead : before.find? (isSource package fileName) with
  | none =>
      have found : archive.names.find? (isSource package fileName) = some own := by
        rw [listing, List.find?_append, ahead, Option.none_or, List.find?_cons_of_pos ownSource]
      refine ⟨own, found, by rw [inArchive, found], ?_⟩
      apply iff_of_true first.passes
      intro other member stands
      exact List.find?_eq_none.1 ahead other member ((source other).2 stands)
  | some name =>
      have found : archive.names.find? (isSource package fileName) = some name := by
        rw [listing, List.find?_append, ahead, Option.some_or]
      have member := List.mem_of_find?_eq_some ahead
      refine ⟨name, found, by rw [inArchive, found], ?_⟩
      apply iff_of_false (first.missed name member)
      intro alone
      exact alone name member ((source name).1 (List.find?_some ahead))

/-- An archive that lists a namesake in another package behind the source. -/
def namesakeBehind : Archive :=
  ⟨[⟨"z/xFoo.java".toList, some ⟨#[1]⟩⟩, ⟨"main/a/Foo.java".toList, some ⟨#[2]⟩⟩,
    ⟨"z/Foo.java".toList, some ⟨#[3]⟩⟩]⟩

theorem member_at_place_read_iff_behind :
    let package := packagePath "a.Foo".toList "Foo.java".toList
    '.' ∈ "a.Foo".toList ∧
      First (StandsAt package) namesakeBehind.names ["z/xFoo.java".toList]
        "main/a/Foo.java".toList ∧
      ∃ name, namesakeBehind.names.find? (isSource package "Foo.java".toList) = some name ∧
        StandsAt package name := by
  intro package
  have packaged : '.' ∈ "a.Foo".toList := by decide
  have first : First (StandsAt package) namesakeBehind.names ["z/xFoo.java".toList]
      "main/a/Foo.java".toList := ⟨⟨_, rfl⟩, by decide, by decide⟩
  obtain ⟨name, found, -, decided⟩ := member_at_place_read_iff namesakeBehind "a.Foo".toList
    "Foo.java".toList _ _ packaged first
  exact ⟨packaged, first, name, found, decided.2 (by decide)⟩

/-- An archive that lists a namesake in another package before the source. -/
def namesakeBefore : Archive :=
  ⟨[⟨"z/Foo.java".toList, some ⟨#[1]⟩⟩, ⟨"a/Foo.java".toList, some ⟨#[2]⟩⟩]⟩

/-- A member stands at the place of the package, and the one that is read does not. -/
theorem namesake_before_read :
    let package := packagePath "a.Foo".toList "Foo.java".toList
    '.' ∈ "a.Foo".toList ∧ Path.isPlainName "Foo.java".toList = true ∧
      (∃ name ∈ namesakeBefore.names, StandsAt package name) ∧
      namesakeBefore.names.find? (isSource package "Foo.java".toList) =
        some "z/Foo.java".toList ∧
      inArchive namesakeBefore package "Foo.java".toList = some (linesOf ⟨#[1]⟩) ∧
      ¬ StandsAt package "z/Foo.java".toList := by
  intro package
  exact ⟨by decide, by decide, by decide, by decide, rfl, by decide⟩

end Lookup

end FaultContext
