import FaultContext.Proofs.SamePaths
import FaultContext.Proofs.UnreadablePlaces

/-!
# Which names are plain

A plain name is told by its components, and these do not show what may stand behind a name: slashes, and
dots between slashes. So beside the bare names, which are no dots and hold no slash, a name is plain that
has slashes behind a bare name, as long as nothing but single dots stands between them.
-/

namespace FaultContext

set_option autoImplicit false

namespace Files.Path

/-- The name of a file and nothing more. -/
structure IsBareName (name : Text) : Prop where
  filled : name ≠ []
  single : '/' ∉ name
  notHere : name ≠ ['.']
  notUp : name ≠ ['.', '.']

/-- Slashes, each with nothing or one dot behind it. -/
inductive IsTrail : Text → Prop where
  | nil : IsTrail []
  | slash {rest : Text} : IsTrail rest → IsTrail ('/' :: rest)
  | dot {rest : Text} : IsTrail rest → IsTrail ('/' :: '.' :: rest)

theorem is_bare_name_iff (name : Text) :
    IsBareName name ↔ '/' ∉ name ∧ Component.ofPiece? name = some (.child name) := by
  rw [of_piece_child_iff]
  constructor
  · rintro ⟨filled, single, notHere, notUp⟩
    exact ⟨single, filled, notHere, notUp⟩
  · rintro ⟨single, filled, notHere, notUp⟩
    exact ⟨filled, single, notHere, notUp⟩

theorem of_piece_eq_none_iff (piece : Text) :
    Component.ofPiece? piece = none ↔ piece = [] ∨ piece = ['.'] := by
  rw [Component.ofPiece?]
  split_ifs with dropped <;> simp [dropped]

theorem steps_unmarked (front : Text) (unmarked : '/' ∉ front) :
    steps front = (Component.ofPiece? front).toList := by
  rw [steps, Text.split_unmarked '/' front unmarked]
  cases kept : Component.ofPiece? front <;> simp [kept]

theorem steps_slash (back : Path) : steps ('/' :: back) = steps back := steps_append_slash [] back

/-- A trail goes nowhere. -/
theorem steps_of_trail {trail : Text} (idle : IsTrail trail) : steps trail = [] := by
  induction idle with
  | nil => rfl
  | slash further ih => rw [steps_slash, ih]
  | dot further ih =>
      rw [steps_slash]
      cases further with
      | nil => rfl
      | slash _ | dot _ =>
          rw [steps_slash] at ih
          exact (steps_append_slash ['.'] _).trans ih

/-- What goes nowhere behind a slash is a trail. -/
theorem trail_of_steps (back : Text) (still : steps back = []) : IsTrail ('/' :: back) := by
  by_cases slash : '/' ∈ back
  -- Up to the next slash nothing or a dot stands, and behind it is a shorter text that goes nowhere.
  · obtain ⟨front, further, rfl, unmarked⟩ := List.eq_append_cons_of_mem slash
    rw [steps_append_slash, List.append_eq_nil_iff, steps_unmarked front unmarked,
      Option.toList_eq_nil_iff, of_piece_eq_none_iff] at still
    obtain ⟨rfl | rfl, rest⟩ := still
    · exact .slash (trail_of_steps further rest)
    · exact .dot (trail_of_steps further rest)
  · rw [steps_unmarked back slash, Option.toList_eq_nil_iff, of_piece_eq_none_iff] at still
    obtain rfl | rfl := still
    · exact .slash .nil
    · exact .dot .nil
termination_by back.length

theorem pieces_with_trail {front trail : Text} (unmarked : '/' ∉ front) (idle : IsTrail trail) :
    ∃ others, Text.split '/' (front ++ trail) = front :: others ∧
      others.filterMap Component.ofPiece? = [] := by
  have gone := steps_of_trail idle
  have alone := Text.split_unmarked '/' front unmarked
  cases idle with
  | nil => exact ⟨[], by rw [List.append_nil, alone], rfl⟩
  | slash _ | dot _ =>
      rw [steps_slash] at gone
      exact ⟨_, by rw [Text.split_append_mark, alone]; rfl, gone⟩

theorem is_plain_name_iff (name : Path) :
    isPlainName name = true ↔ ∃ child, components name = [.child child] := by
  rw [isPlainName]
  split
  · rename_i child shape
    simp [shape]
  · rename_i other
    simpa using other

/-- A trail behind a name that holds no slash makes no difference. -/
theorem plain_with_trail_iff {front trail : Text} (unmarked : '/' ∉ front) (idle : IsTrail trail) :
    isPlainName (front ++ trail) = true ↔ IsBareName front := by
  obtain ⟨others, pieces, gone⟩ := pieces_with_trail unmarked idle
  rw [is_plain_name_iff, is_bare_name_iff]
  constructor
  · rintro ⟨child, shape⟩
    refine ⟨unmarked, ?_⟩
    obtain ⟨start, parts, unstepped, -⟩ := components_start_steps (front ++ trail)
    have member : .child child ∈ start ++ steps (front ++ trail) := by
      rw [← parts, shape]
      exact List.mem_singleton_self _
    rcases List.mem_append.1 member with early | step
    · cases unstepped _ early
    · rw [steps, pieces, List.filterMap_cons, gone] at step
      cases kept : Component.ofPiece? front with
      | none =>
          rw [kept] at step
          cases step
      | some component =>
          rw [kept] at step
          rw [← List.mem_singleton.1 step] at kept ⊢
          rw [piece_of_child kept]
  · rintro ⟨-, named⟩
    obtain ⟨filled, notHere, -⟩ := (of_piece_child_iff front).1 named
    have relative : isAbsolute (front ++ trail) = false := by
      rw [is_absolute_append front trail filled]
      cases front with
      | nil => rfl
      | cons c rest => simpa [isAbsolute] using (List.ne_and_not_mem_of_not_mem_cons unmarked).1.symm
    have start : ((front :: others).head? == some ['.']) = false := by simpa using notHere
    refine ⟨front, ?_⟩
    rw [components, pieces, relative, start, List.filterMap_cons_some named, gone]
    rfl

theorem plain_iff_bare_with_trail (name : Path) :
    isPlainName name = true ↔
      ∃ bare trail, IsBareName bare ∧ IsTrail trail ∧ name = bare ++ trail := by
  constructor
  · intro plain
    by_cases slash : '/' ∈ name
    · obtain ⟨front, back, rfl, unmarked⟩ := List.eq_append_cons_of_mem slash
      -- Something stands before the slash that is a component, so that nothing behind it may be one.
      obtain ⟨first, shape⟩ := component_before_slash front back unmarked
      obtain ⟨child, only⟩ := (is_plain_name_iff _).1 plain
      rw [shape] at only
      have idle := trail_of_steps back (List.cons.inj only).2
      exact ⟨front, '/' :: back, (plain_with_trail_iff unmarked idle).1 plain, idle, rfl⟩
    · have whole : isPlainName (name ++ []) = true := by rwa [List.append_nil]
      exact ⟨name, [], (plain_with_trail_iff slash .nil).1 whole, .nil, (List.append_nil name).symm⟩
  · rintro ⟨bare, trail, named, idle, rfl⟩
    exact (plain_with_trail_iff named.single idle).2 named

/-- A name is plain just when it is a bare name with a trail. So plain names are the bare ones exactly
where nothing trails. -/
theorem plain_name_iff (name : Path) :
    (isPlainName name = true ↔
      ∃ bare trail, IsBareName bare ∧ IsTrail trail ∧ name = bare ++ trail) ∧
    ((isPlainName name = true ↔ IsBareName name) ↔
      ∀ bare trail, IsBareName bare → IsTrail trail → name = bare ++ trail → trail = []) := by
  have accepted := plain_iff_bare_with_trail name
  refine ⟨accepted, ?_⟩
  constructor
  · rintro same bare trail named idle rfl
    have single := (same.1 (accepted.2 ⟨bare, trail, named, idle, rfl⟩)).single
    cases idle with
    | nil => rfl
    | slash _ | dot _ => simp at single
  · intro untrailed
    constructor
    · intro plain
      obtain ⟨bare, trail, named, idle, shape⟩ := accepted.1 plain
      have empty := untrailed bare trail named idle shape
      rwa [shape, empty, List.append_nil]
    · intro named
      exact accepted.2 ⟨name, [], named, .nil, (List.append_nil name).symm⟩

end Files.Path

namespace Lookup

open Files (Archive Path)

/-- A name that holds a slash passes for plain, and the member of an archive that bears it is read. -/
theorem trailed_name_read :
    let file := "Foo.java/.".toList
    let archive : Archive := ⟨[⟨file, some ⟨#[120]⟩⟩]⟩
    Path.isPlainName file = true ∧ '/' ∈ file ∧ ¬ (Path.isPlainName file = true ↔ Path.IsBareName file) ∧
      inArchive archive (packagePath "Foo".toList file) file = some (linesOf ⟨#[120]⟩) := by
  intro file archive
  have plain : Path.isPlainName file = true := by decide
  have slashed : '/' ∈ file := by decide
  exact ⟨plain, slashed, fun same => (same.1 plain).single slashed, rfl⟩

end Lookup

end FaultContext
