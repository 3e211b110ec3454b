import Mathlib.Data.List.Induction
import FaultContext.Proofs.Braces

/-!
# Where a function ends

A function ends in the line of one brace: the first closing brace at which as many braces have closed as
have opened, counted from the first character of the line that the function begins in. An end is missing
just where there is no such brace. Closing braces in front of every opening one are counted as well, so
they put the end off, and none of them is the end.
-/

namespace FaultContext.Code

set_option autoImplicit false

variable {depth : Int} {text front behind : Text} {lines above below : List Text} {first last : Nat}

theorem brace_depth_closed (front : Text) : braceDepth (front ++ ['}']) = braceDepth front - 1 := by
  rw [brace_depth_append, brace_depth_close, brace_depth_nil]
  omega

theorem not_closes_iff : ¬ Closes text ↔ ∀ front behind, text = front ++ '}' :: behind →
    braceDepth (front ++ ['}']) ≠ 0 := by
  constructor
  · intro still front behind parts balanced
    refine still ⟨front, behind, parts, ?_⟩
    rw [brace_depth_closed] at balanced
    omega
  · rintro unbalanced ⟨front, behind, parts, balanced⟩
    apply unbalanced front behind parts
    rw [brace_depth_closed]
    omega

/-- Of the closing braces that bring the depth back to zero one is the first. -/
theorem first_closing_brace (closes : ClosesFrom depth text) : ∃ front behind,
    text = front ++ '}' :: behind ∧ depth + braceDepth front = 1 ∧ ¬ ClosesFrom depth front := by
  -- From the end of the text: a character is taken off as long as a brace in front of it does it too.
  induction text using List.reverseRecOn with
  | nil => exact absurd closes not_closes_nil
  | append_singleton text c ih =>
      by_cases early : ClosesFrom depth text
      · obtain ⟨front, behind, rfl, balanced, still⟩ := ih early
        exact ⟨front, behind ++ [c], by simp, balanced, still⟩
      · obtain ⟨front, behind, parts, balanced⟩ := (closes_append.1 closes).resolve_left early
        cases front with
        | nil =>
            obtain ⟨rfl, -⟩ := List.cons.inj parts
            exact ⟨text, [], rfl, by simpa using balanced, early⟩
        | cons other front => simp at parts

theorem end_from_none_iff (lines : List Text) (depth : Int) (opened : Bool) (number : Nat)
    (settled : Settled depth opened) :
    endFrom depth opened number lines = none ↔ ¬ ClosesFrom depth lines.flatten := by
  induction lines generalizing depth opened number with
  | nil => simpa [endFrom] using not_closes_nil
  | cons line lines ih =>
      rw [endFrom, List.flatten_cons, closes_append]
      rcases scan_braces_spec line depth opened settled with
        ⟨closes, scanned⟩ | ⟨goesOn, begun, further, scanned⟩
      · simp [scanned, closes]
      · rw [scanned, or_iff_right goesOn]
        exact ih _ begun (number + 1) further

/-- The lines from `first` on, cut at the first closing brace at which the braces balance: the lines
`above` the one that it stands in, what is in `front` of it and `behind` it there, and the lines
`below`. -/
structure BalancesAt (lines : List Text) (first : Nat) (above : List Text) (front behind : Text)
    (below : List Text) : Prop where
  parts : lines.drop (first - 1) = above ++ (front ++ '}' :: behind) :: below
  balanced : braceDepth (above.flatten ++ front ++ ['}']) = 0
  unbalanced : ∀ earlier later, above.flatten ++ front = earlier ++ '}' :: later →
    braceDepth (earlier ++ ['}']) ≠ 0

theorem opened_of_balances (balances : BalancesAt lines first above front behind below) :
    '{' ∈ above.flatten ++ front := by
  have balanced := balances.balanced
  rw [brace_depth_closed, braceDepth] at balanced
  apply List.count_pos_iff.1
  omega

theorem balances_iff : BalancesAt lines first above front behind below ↔
    lines.drop (first - 1) = above ++ (front ++ '}' :: behind) :: below ∧
      braceDepth (above.flatten ++ front) = 1 ∧ ¬ Closes (above.flatten ++ front) := by
  rw [not_closes_iff]
  constructor
  · rintro ⟨parts, balanced, unbalanced⟩
    rw [brace_depth_closed] at balanced
    exact ⟨parts, by omega, unbalanced⟩
  · rintro ⟨parts, balanced, unbalanced⟩
    refine ⟨parts, ?_, unbalanced⟩
    rw [brace_depth_closed]
    omega

theorem find_end_line_balances_iff : findEndLine lines first = some last ↔
    1 ≤ first ∧ first ≤ lines.length ∧ ∃ above front behind below,
      BalancesAt lines first above front behind below ∧ last = first + above.length := by
  simp only [balances_iff]
  rw [findEndLine]
  split
  · rename_i outside
    constructor
    · intro none
      cases none
    · rintro ⟨positive, inside, -⟩
      omega
  · rename_i inside
    rw [end_from_iff _ 0 false first last (by simp [Settled])]
    constructor
    · rintro ⟨above, line, below, parts, rfl, still, closes⟩
      rw [List.flatten_append, List.flatten_singleton, closes_append] at closes
      obtain ⟨front, behind, rfl, balanced, before⟩ := first_closing_brace (closes.resolve_left still)
      refine ⟨by omega, by omega, above, front, behind, below, ⟨parts, ?_, ?_⟩, rfl⟩
      · rw [brace_depth_append]
        omega
      · rw [Closes, closes_append]
        exact not_or.2 ⟨still, before⟩
    · rintro ⟨-, -, above, front, behind, below, ⟨parts, balanced, still⟩, rfl⟩
      refine ⟨above, front ++ '}' :: behind, below, parts, rfl, ?_, ?_⟩
      · intro closed
        exact still (closes_append.2 (.inl closed))
      · exact ⟨above.flatten ++ front, behind, by simp, by omega⟩

theorem find_end_line_none_iff : findEndLine lines first = none ↔
    first = 0 ∨ lines.length < first ∨ ¬ Closes (lines.drop (first - 1)).flatten := by
  rw [findEndLine]
  split
  · rename_i outside
    exact iff_of_true rfl (or_assoc.1 (.inl outside))
  · rename_i inside
    obtain ⟨positive, bound⟩ := not_or.1 inside
    rw [end_from_none_iff _ 0 false first (by simp [Settled]), or_iff_right positive,
      or_iff_right bound]
    rfl

theorem closing_line (found : findEndLine lines first = some last) :
    ∃ line, lines[last - 1]? = some line ∧ '}' ∈ line := by
  obtain ⟨positive, -, above, front, behind, below, balances, rfl⟩ :=
    find_end_line_balances_iff.1 found
  refine ⟨front ++ '}' :: behind, ?_, by simp⟩
  have place : first + above.length - 1 = first - 1 + above.length := by omega
  rw [place, ← List.getElem?_drop, balances.parts, List.getElem?_append_right (Nat.le_refl _),
    Nat.sub_self, List.getElem?_cons_zero]

/-- The end of a function is the line of the first closing brace that balances the braces, and there is
an end just where there is such a brace; an opening one stands in front of it. -/
theorem end_at_first_balance (lines : List Text) (first : Nat) :
    (∀ last, findEndLine lines first = some last ↔
      1 ≤ first ∧ first ≤ lines.length ∧ ∃ above front behind below,
        BalancesAt lines first above front behind below ∧ last = first + above.length) ∧
    (findEndLine lines first = none ↔ first = 0 ∨ lines.length < first ∨
      ∀ front behind, (lines.drop (first - 1)).flatten = front ++ '}' :: behind →
        braceDepth (front ++ ['}']) ≠ 0) ∧
    ∀ last, findEndLine lines first = some last → first ≤ last ∧ last ≤ lines.length ∧
      ∃ above front behind below, BalancesAt lines first above front behind below ∧
        last = first + above.length ∧ '{' ∈ above.flatten ++ front := by
  refine ⟨fun last => find_end_line_balances_iff, ?_, ?_⟩
  · rw [find_end_line_none_iff, not_closes_iff]
  · intro last found
    obtain ⟨-, order, bound, -⟩ := (find_end_line_iff lines first last).1 found
    obtain ⟨-, -, above, front, behind, below, balances, place⟩ :=
      find_end_line_balances_iff.1 found
    exact ⟨order, bound, above, front, behind, below, balances, place, opened_of_balances balances⟩

/-- A handler that begins behind the brace of what it handles: that brace closes before any opens, so the
braces balance at the end of the inner block already. -/
def handler : List Text :=
  ["\x7d catch (Failure failure) \x7b", "    if (ready) \x7b retry(); \x7d", "\x7d"].map String.toList

theorem end_at_first_balance_handler : findEndLine handler 1 = some 2 ∧ 1 ≤ 2 ∧ 2 ≤ handler.length ∧
    ∃ above front behind below, BalancesAt handler 1 above front behind below ∧
      2 = 1 + above.length ∧ '{' ∈ above.flatten ++ front := by
  have found : findEndLine handler 1 = some 2 := by decide
  obtain ⟨order, bound, place⟩ := (end_at_first_balance handler 1).2.2 2 found
  exact ⟨found, order, bound, place⟩

end FaultContext.Code
