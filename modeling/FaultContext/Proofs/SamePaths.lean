import FaultContext.Proofs.PathsBelow

/-!
# Paths with the same components

Two spellings of a path differ in slashes and dots that its components do not show. Each of these can at
most ask for a directory where there is none, so two paths with the same components lead to the same
file or directory if both lead anywhere.
-/

namespace FaultContext.Files

set_option autoImplicit false

namespace Path

/-- The steps of a path behind its start, down and up. -/
def steps (path : Path) : List Component := (Text.split '/' path).filterMap Component.ofPiece?

def Component.isStep : Component → Bool
  | .up | .child _ => true
  | .root | .here => false

theorem is_step_of_piece {piece : Text} {component : Component}
    (kept : Component.ofPiece? piece = some component) : component.isStep = true := by
  rw [Component.ofPiece?] at kept
  split_ifs at kept <;> cases kept <;> rfl

/-- The components of a path are its start, if it shows one, and its steps. -/
theorem components_start_steps (path : Path) : ∃ start, components path = start ++ steps path ∧
    (∀ component ∈ start, component.isStep = false) ∧
    (.root ∈ start ↔ isAbsolute path = true) := by
  refine ⟨_, rfl, ?_⟩
  cases isAbsolute path with
  | true => simp [Component.isStep]
  | false => by_cases dotted : (Text.split '/' path).head? = some ['.'] <;> simp [dotted, Component.isStep]

theorem steps_of_components (path : Path) : steps path = (components path).filter Component.isStep := by
  obtain ⟨start, shape, unstepped, -⟩ := components_start_steps path
  have gone : start.filter Component.isStep = [] :=
    List.filter_eq_nil_iff.2 fun component member => by simp [unstepped component member]
  have kept : (steps path).filter Component.isStep = steps path := by
    apply List.filter_eq_self.2
    intro component member
    obtain ⟨piece, -, step⟩ := List.mem_filterMap.1 member
    exact is_step_of_piece step
  rw [shape, List.filter_append, gone, kept, List.nil_append]

theorem root_mem_components_iff (path : Path) : .root ∈ components path ↔ isAbsolute path = true := by
  obtain ⟨start, shape, -, rooted⟩ := components_start_steps path
  rw [shape, List.mem_append, rooted, or_iff_left]
  intro member
  obtain ⟨piece, -, step⟩ := List.mem_filterMap.1 member
  cases is_step_of_piece step

theorem same_start_and_steps {one other : Path} (same : components one = components other) :
    isAbsolute one = isAbsolute other ∧ steps one = steps other := by
  constructor
  · rw [Bool.eq_iff_iff, ← root_mem_components_iff, ← root_mem_components_iff, same]
  · rw [steps_of_components, steps_of_components, same]

theorem steps_append_slash (front back : Path) :
    steps (front ++ '/' :: back) = steps front ++ steps back := by
  rw [steps, Text.split_append_mark, List.filterMap_append]
  rfl

theorem steps_join (base name : Path) (relative : isAbsolute name = false) :
    steps (join base name) = steps base ++ steps name := by
  by_cases empty : base = []
  · rw [join, relative, empty]
    rfl
  · have closing (front : Path) : steps (front ++ ['/']) = steps front := by
      rw [steps_append_slash]
      exact List.append_nil _
    rw [join_relative base name empty relative, slashed]
    split_ifs with closed
    · obtain ⟨front, shape⟩ := List.getLast?_eq_some_iff.1 closed
      rw [shape, closing, List.append_assoc, List.singleton_append, steps_append_slash]
    · rw [List.append_assoc, List.singleton_append, steps_append_slash]

end Path

namespace Node

/-- Follows the steps of a path, whatever was written between them. -/
def pursue (here : Node) (entered : List Node) : List Path.Component → Option Node
  | [] => some here
  | .up :: steps => pursue (entered.headD here) entered.tail steps
  | .child name :: steps => (here.child? name).bind fun next => pursue next (here :: entered) steps
  | _ :: _ => none

theorem pursue_of_follow {here node : Node} {entered : List Node} {pieces : List Text}
    (found : follow here entered pieces = some node) :
    pursue here entered (pieces.filterMap Path.Component.ofPiece?) = some node := by
  induction pieces generalizing here entered with
  | nil =>
      rw [follow_nil] at found
      exact found
  | cons piece pieces ih =>
      rw [follow_cons] at found
      split_ifs at found
      split at found
      · rename_i dropped
        rw [List.filterMap_cons_none dropped]
        exact ih found
      · rename_i upward
        rw [List.filterMap_cons_some upward]
        exact ih found
      · rename_i name downward
        obtain ⟨next, child, further⟩ := Option.bind_eq_some_iff.1 found
        rw [List.filterMap_cons_some downward, pursue, child]
        exact ih further
      · cases found

end Node

namespace Disk

variable {disk : Disk} {path one other : Path} {node next : Node}

theorem pursue_of_find (found : disk.find? path = some node) :
    disk.root.pursue []
      ((if Path.isAbsolute path then [] else Path.steps disk.workingDirectory) ++ Path.steps path) =
        some node := by
  rw [find?] at found
  split_ifs at found
  have pursued := Node.pursue_of_follow found
  rw [absolute] at pursued
  split_ifs at pursued ⊢ with rooted
  · exact pursued
  · rw [← Path.steps_join _ path (by simpa using rooted)]
    exact pursued

/-- Paths with the same components never lead to different places. -/
theorem same_node (same : Path.components one = Path.components other)
    (found : disk.find? one = some node) (met : disk.find? other = some next) : node = next := by
  obtain ⟨start, steps⟩ := Path.same_start_and_steps same
  have first := pursue_of_find found
  rw [start, steps, pursue_of_find met] at first
  exact (Option.some.inj first).symm

end Disk

end FaultContext.Files
