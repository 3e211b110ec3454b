import Mathlib.Tactic.SplitIfs
import FaultContext.Files.Disk

/-!
# Paths below a directory

A path that only leads downwards, joined to the path of a directory, is followed from that directory
on and nowhere else. So what it finds depends on the entries of the directory alone, however the path
of the directory was written and from wherever it was followed.
-/

namespace FaultContext

set_option autoImplicit false

namespace Text

theorem split_ne_nil (mark : Char) (text : Text) : split mark text ≠ [] := by
  cases text with
  | nil => simp [split]
  | cons c rest =>
      rw [split]
      split_ifs
      · simp
      · split <;> simp

theorem split_append_mark (mark : Char) (front back : Text) :
    split mark (front ++ mark :: back) = split mark front ++ split mark back := by
  induction front with
  | nil => simp [split]
  | cons c front ih =>
      rw [List.cons_append, split, split, ih]
      split_ifs
      · rfl
      · cases pieces : split mark front with
        | nil => exact absurd pieces (split_ne_nil mark front)
        | cons piece others => rfl

end Text

namespace Files

namespace Path

theorem is_absolute_append (base name : Path) (filled : base ≠ []) :
    isAbsolute (base ++ name) = isAbsolute base := by
  cases base with
  | nil => exact absurd rfl filled
  | cons c rest => rfl

/-- The path with a slash at its end. -/
def slashed (base : Path) : Path := if base.getLast? = some '/' then base else base ++ ['/']

theorem slashed_ne_nil (base : Path) (filled : base ≠ []) : slashed base ≠ [] := by
  rw [slashed]
  split_ifs <;> simp [filled]

theorem slashed_append (front base : Path) (filled : base ≠ []) :
    slashed (front ++ base) = front ++ slashed base := by
  have last : (front ++ base).getLast? = base.getLast? := by
    rw [List.getLast?_append, List.getLast?_eq_some_getLast filled]
    rfl
  rw [slashed, slashed, last]
  split_ifs
  · rfl
  · rw [List.append_assoc]

theorem is_absolute_slashed (base : Path) (filled : base ≠ []) :
    isAbsolute (slashed base) = isAbsolute base := by
  rw [slashed]
  split_ifs
  · rfl
  · exact is_absolute_append base _ filled

theorem join_relative (base name : Path) (filled : base ≠ []) (relative : isAbsolute name = false) :
    join base name = slashed base ++ name := by
  have notEmpty : base.isEmpty = false := by simpa using filled
  rw [join, slashed, relative, notEmpty]
  by_cases closed : base.getLast? = some '/'
  · simp [closed]
  · simp [closed]

theorem is_absolute_join (base name : Path) (filled : base ≠ [])
    (relative : isAbsolute name = false) : isAbsolute (join base name) = isAbsolute base := by
  rw [join_relative base name filled relative,
    is_absolute_append _ name (slashed_ne_nil base filled), is_absolute_slashed base filled]

/-- Only the end of the base matters to a join, so joins of relative paths associate. -/
theorem join_assoc (base middle name : Path) (filled : middle ≠ [])
    (middleRelative : isAbsolute middle = false) (relative : isAbsolute name = false) :
    join base (join middle name) = join (join base middle) name := by
  have joinedRelative : isAbsolute (join middle name) = false := by
    rw [is_absolute_join middle name filled relative, middleRelative]
  by_cases empty : base = []
  · subst empty
    simp [join, middleRelative]
  · have joinedFilled : join base middle ≠ [] := by
      rw [join_relative base middle empty middleRelative]
      simp [filled]
    rw [join_relative base _ empty joinedRelative, join_relative middle name filled relative,
      join_relative _ name joinedFilled relative, join_relative base middle empty middleRelative,
      slashed_append _ middle filled, List.append_assoc]

/-- A path that leads downwards starts at no root and never goes back up. -/
theorem is_inside_spec (path : Path) (inside : isInside path = true) :
    isAbsolute path = false ∧
      ∀ piece ∈ Text.split '/' path, Component.ofPiece? piece ≠ some .up := by
  rw [isInside, List.all_eq_true] at inside
  constructor
  · cases absolute : isAbsolute path with
    | false => rfl
    | true =>
        have rooted := inside .root (by simp [components, absolute])
        cases rooted
  · intro piece member upward
    have climbing := inside .up (by
      rw [components]
      exact List.mem_append_right _ (List.mem_filterMap.2 ⟨piece, member, upward⟩))
    cases climbing

end Path

namespace Node

theorem follow_nil (here : Node) (entered : List Node) : follow here entered [] = some here := by
  rw [follow.eq_def]

/-- One step along a path. -/
theorem follow_cons (here : Node) (entered : List Node) (piece : Text) (pieces : List Text) :
    follow here entered (piece :: pieces) =
      if here.isFile then none
      else
        match Path.Component.ofPiece? piece with
        | none => follow here entered pieces
        | some .up => follow (entered.headD here) entered.tail pieces
        | some (.child name) =>
            (here.child? name).bind fun next => follow next (here :: entered) pieces
        | some _ => none := by
  rw [follow.eq_def here entered (piece :: pieces)]
  dsimp only
  cases Path.Component.ofPiece? piece with
  | none => rfl
  | some component =>
      cases component with
      | up => cases entered <;> rfl
      | child name => cases below : here.child? name <;> simp [below]
      | root => rfl
      | here => rfl

/-- Where nothing leads back up, it does not matter which directories were entered before. -/
theorem follow_entered (here : Node) (entered others : List Node) (pieces : List Text)
    (downward : ∀ piece ∈ pieces, Path.Component.ofPiece? piece ≠ some .up) :
    follow here entered pieces = follow here others pieces := by
  induction pieces generalizing here entered others with
  | nil => rw [follow_nil, follow_nil]
  | cons piece pieces ih =>
      have further : ∀ next ∈ pieces, Path.Component.ofPiece? next ≠ some .up :=
        fun next member => downward next (List.mem_cons_of_mem _ member)
      rw [follow_cons, follow_cons]
      split_ifs
      · rfl
      · split
        · exact ih here entered others further
        · rename_i upward
          exact absurd upward (downward piece (List.mem_cons_self ..))
        · cases here.child? _ with
          | none => rfl
          | some next => exact ih next (here :: entered) (here :: others) further
        · rfl

theorem follow_append (here node : Node) (entered : List Node) (front back : List Text)
    (found : follow here entered front = some node)
    (downward : ∀ piece ∈ back, Path.Component.ofPiece? piece ≠ some .up) :
    follow here entered (front ++ back) = follow node [] back := by
  induction front generalizing here entered with
  | nil =>
      rw [follow_nil] at found
      cases found
      exact follow_entered node entered [] back downward
  | cons piece front ih =>
      rw [List.cons_append]
      rw [follow_cons] at found ⊢
      split_ifs at found ⊢
      split at found
      · exact ih here entered found
      · exact ih _ _ found
      · obtain ⟨next, child, found⟩ := Option.bind_eq_some_iff.1 found
        rw [child]
        exact ih next (here :: entered) found
      · cases found

/-- A slash at the end asks for a directory, and stays in it. -/
theorem follow_closing_slash (here node : Node) (entered : List Node) (pieces : List Text)
    (found : follow here entered (pieces ++ [[]]) = some node) :
    follow here entered pieces = some node := by
  induction pieces generalizing here entered with
  | nil =>
      rw [List.nil_append, follow_cons] at found
      split_ifs at found
      exact found
  | cons piece pieces ih =>
      rw [List.cons_append] at found
      rw [follow_cons] at found ⊢
      split_ifs at found ⊢
      split at found
      · exact ih here entered found
      · exact ih _ _ found
      · obtain ⟨next, child, found⟩ := Option.bind_eq_some_iff.1 found
        rw [child]
        exact ih next (here :: entered) found
      · cases found

theorem follow_join (top node : Node) (base name : Path) (filled : base ≠ [])
    (inside : Path.isInside name = true)
    (found : follow top [] (Text.split '/' base) = some node) :
    follow top [] (Text.split '/' (Path.join base name)) = follow node [] (Text.split '/' name) := by
  obtain ⟨relative, downward⟩ := Path.is_inside_spec name inside
  rw [Path.join_relative base name filled relative, Path.slashed]
  split_ifs with closed
  · obtain ⟨front, shape⟩ := List.getLast?_eq_some_iff.1 closed
    have pieces : Text.split '/' base = Text.split '/' front ++ [[]] := by
      rw [shape, Text.split_append_mark]
      rfl
    rw [pieces] at found
    have reached := follow_closing_slash top node [] (Text.split '/' front) found
    rw [shape, List.append_assoc, List.singleton_append, Text.split_append_mark]
    exact follow_append top node [] _ _ reached downward
  · rw [List.append_assoc, List.singleton_append, Text.split_append_mark]
    exact follow_append top node [] _ _ found downward

/-- Nothing below an empty directory is a file. -/
theorem follow_empty (entered : List Node) (pieces : List Text) (bytes : ByteArray)
    (downward : ∀ piece ∈ pieces, Path.Component.ofPiece? piece ≠ some .up) :
    follow (.directory []) entered pieces ≠ some (.file bytes) := by
  induction pieces with
  | nil =>
      rw [follow_nil]
      simp
  | cons piece pieces ih =>
      rw [follow_cons]
      split_ifs
      · simp
      · split
        · exact ih fun next member => downward next (List.mem_cons_of_mem _ member)
        · rename_i upward
          exact absurd upward (downward piece (List.mem_cons_self ..))
        · simp [child?]
        · simp

end Node

namespace Disk

/-- The entries below a path, in the order in which a walk meets them: all that there is below it, and
nothing where no directory is. -/
def entriesAt (disk : Disk) (path : Path) : List (Text × Node) :=
  match disk.find? path with
  | some (.directory entries) => entries
  | _ => []

theorem entries_at_directory (disk : Disk) (path : Path) (entries : List (Text × Node))
    (found : disk.find? path = some (.directory entries)) : disk.entriesAt path = entries := by
  rw [entriesAt, found]

theorem entries_at_no_directory (disk : Disk) (path : Path)
    (absent : ∀ entries, disk.find? path ≠ some (.directory entries)) : disk.entriesAt path = [] := by
  rw [entriesAt]
  split
  · rename_i entries found
    exact absurd found (absent entries)
  · rfl

theorem absolute_ne_nil (disk : Disk) (path : Path) (filled : path ≠ []) : disk.absolute path ≠ [] := by
  rw [absolute]
  split_ifs with rooted
  · exact filled
  · have relative : Path.isAbsolute path = false := by simpa using rooted
    by_cases empty : disk.workingDirectory = []
    · simpa [Path.join, relative, empty] using filled
    · rw [Path.join_relative _ path empty relative]
      simp [filled]

theorem absolute_join (disk : Disk) (base name : Path) (filled : base ≠ [])
    (relative : Path.isAbsolute name = false) :
    disk.absolute (Path.join base name) = Path.join (disk.absolute base) name := by
  rw [absolute, absolute, Path.is_absolute_join base name filled relative]
  split_ifs with rooted
  · rfl
  · exact Path.join_assoc disk.workingDirectory base name filled (by simpa using rooted) relative

/-- A path that leads downwards from a directory is followed from that directory on. -/
theorem find_join (disk : Disk) (base name : Path) (entries : List (Text × Node))
    (inside : Path.isInside name = true) (found : disk.find? base = some (.directory entries)) :
    disk.find? (Path.join base name) =
      Node.follow (.directory entries) [] (Text.split '/' name) := by
  obtain ⟨relative, -⟩ := Path.is_inside_spec name inside
  have filled : base ≠ [] := by
    rintro rfl
    simp [find?] at found
  have joinedFilled : Path.join base name ≠ [] := by
    rw [Path.join_relative base name filled relative]
    simp [Path.slashed_ne_nil base filled]
  rw [find?] at found ⊢
  rw [if_neg (by simpa using filled)] at found
  rw [if_neg (by simpa using joinedFilled), absolute_join disk base name filled relative]
  exact Node.follow_join disk.root _ (disk.absolute base) name (absolute_ne_nil disk base filled) inside
    found

end Disk

end Files

end FaultContext
