import FaultContext.Code.Excerpt

/-!
# Braces

Where a function ends is read off its braces alone. Counted from the first character of the line it
begins with, it ends with the first closing brace up to which as many braces have closed as have
opened. A closing brace in front of any opening one is counted and ends nothing, so whether a brace
has opened yet need not be asked: at a closing brace that balances the count, one has.
-/

namespace FaultContext.Code

set_option autoImplicit false

variable {depth : Int} {text front behind : Text} {lines : List Text}

/-- How many more braces of the text open than close. -/
def braceDepth (text : Text) : Int := (text.count '{' : Int) - text.count '}'

@[simp] theorem brace_depth_nil : braceDepth [] = 0 := rfl

theorem brace_depth_open (text : Text) : braceDepth ('{' :: text) = 1 + braceDepth text := by
  simp only [braceDepth, List.count_cons_self, List.count_cons_of_ne (show '{' ≠ '}' by decide)]
  omega

theorem brace_depth_close (text : Text) : braceDepth ('}' :: text) = braceDepth text - 1 := by
  simp only [braceDepth, List.count_cons_self, List.count_cons_of_ne (show '}' ≠ '{' by decide)]
  omega

theorem brace_depth_plain {c : Char} (noOpen : c ≠ '{') (noClose : c ≠ '}') (text : Text) :
    braceDepth (c :: text) = braceDepth text := by
  simp only [braceDepth, List.count_cons_of_ne noOpen, List.count_cons_of_ne noClose]

/-- Some closing brace of the text brings the depth back to zero; before the text it is `depth`. -/
def ClosesFrom (depth : Int) (text : Text) : Prop :=
  ∃ front behind, text = front ++ '}' :: behind ∧ depth + braceDepth front = 1

/-- The braces that open in the text have all closed somewhere in it. -/
def Closes (text : Text) : Prop := ClosesFrom 0 text

theorem not_closes_nil : ¬ ClosesFrom depth [] := by
  rintro ⟨front, behind, parts, -⟩
  simp at parts

theorem closes_open : ClosesFrom depth ('{' :: text) ↔ ClosesFrom (depth + 1) text := by
  constructor
  · rintro ⟨front, behind, parts, balanced⟩
    cases front with
    | nil => simp at parts
    | cons c front =>
        obtain ⟨rfl, rfl⟩ := List.cons.inj parts
        rw [brace_depth_open] at balanced
        exact ⟨front, behind, rfl, by omega⟩
  · rintro ⟨front, behind, rfl, balanced⟩
    refine ⟨'{' :: front, behind, rfl, ?_⟩
    rw [brace_depth_open]
    omega

theorem closes_close :
    ClosesFrom depth ('}' :: text) ↔ depth = 1 ∨ ClosesFrom (depth - 1) text := by
  constructor
  · rintro ⟨front, behind, parts, balanced⟩
    cases front with
    | nil =>
        left
        simpa using balanced
    | cons c front =>
        right
        obtain ⟨rfl, rfl⟩ := List.cons.inj parts
        rw [brace_depth_close] at balanced
        exact ⟨front, behind, rfl, by omega⟩
  · rintro (rfl | ⟨front, behind, rfl, balanced⟩)
    · exact ⟨[], text, rfl, by simp⟩
    · refine ⟨'}' :: front, behind, rfl, ?_⟩
      rw [brace_depth_close]
      omega

theorem closes_plain {c : Char} (noOpen : c ≠ '{') (noClose : c ≠ '}') :
    ClosesFrom depth (c :: text) ↔ ClosesFrom depth text := by
  constructor
  · rintro ⟨front, behind, parts, balanced⟩
    cases front with
    | nil => exact absurd (List.cons.inj parts).1 noClose
    | cons first front =>
        obtain ⟨rfl, rfl⟩ := List.cons.inj parts
        rw [brace_depth_plain noOpen noClose] at balanced
        exact ⟨front, behind, rfl, balanced⟩
  · rintro ⟨front, behind, rfl, balanced⟩
    refine ⟨c :: front, behind, rfl, ?_⟩
    rwa [brace_depth_plain noOpen noClose]

theorem brace_depth_append (front behind : Text) :
    braceDepth (front ++ behind) = braceDepth front + braceDepth behind := by
  simp only [braceDepth, List.count_append]
  omega

theorem closes_append : ClosesFrom depth (front ++ behind) ↔
    ClosesFrom depth front ∨ ClosesFrom (depth + braceDepth front) behind := by
  constructor
  · rintro ⟨left, right, parts, balanced⟩
    rcases List.append_eq_append_iff.1 parts with ⟨middle, rfl, shape⟩ | ⟨middle, rfl, shape⟩
    · right
      refine ⟨middle, right, shape, ?_⟩
      rw [brace_depth_append] at balanced
      omega
    · cases middle with
      | nil =>
          right
          refine ⟨[], right, by simpa using shape.symm, ?_⟩
          simpa using balanced
      | cons c middle =>
          obtain ⟨rfl, -⟩ := List.cons.inj shape
          exact .inl ⟨left, middle, rfl, balanced⟩
  · rintro (⟨left, right, rfl, balanced⟩ | ⟨left, right, rfl, balanced⟩)
    · exact ⟨left, right ++ behind, by simp, balanced⟩
    · refine ⟨front ++ left, right, by simp, ?_⟩
      rw [brace_depth_append]
      omega

/-- Before any brace has opened the depth cannot be positive. -/
def Settled (depth : Int) (opened : Bool) : Prop := opened = false → depth ≤ 0

theorem scan_braces_spec (text : Text) (depth : Int) (opened : Bool)
    (settled : Settled depth opened) :
    (ClosesFrom depth text ∧ scanBraces depth opened text = none) ∨
      (¬ ClosesFrom depth text ∧ ∃ begun, Settled (depth + braceDepth text) begun ∧
        scanBraces depth opened text = some (depth + braceDepth text, begun)) := by
  induction text generalizing depth opened with
  | nil => exact .inr ⟨not_closes_nil, opened, by simpa using settled, by simp [scanBraces]⟩
  | cons c text ih =>
      by_cases isOpen : c = '{'
      · subst isOpen
        rw [closes_open, brace_depth_open, ← Int.add_assoc, scanBraces, if_pos rfl]
        exact ih (depth + 1) true (by simp [Settled])
      · by_cases isClose : c = '}'
        · subst isClose
          rw [closes_close, brace_depth_close, scanBraces, if_neg (by decide), if_pos rfl]
          by_cases balanced : depth = 1
          · -- A depth of one needs an opening brace, so the scan stops here whatever it remembers.
            subst balanced
            cases opened with
            | false => exact absurd (settled rfl) (by decide)
            | true => exact .inl ⟨.inl rfl, rfl⟩
          · have goesOn : (opened && depth - 1 == 0) = false := by
              simp only [Bool.and_eq_false_iff, beq_eq_false_iff_ne]
              right
              omega
            have lower : Settled (depth - 1) opened := by
              intro closed
              have := settled closed
              omega
            rw [goesOn, show depth + (braceDepth text - 1) = depth - 1 + braceDepth text by omega]
            simpa [balanced] using ih (depth - 1) opened lower
        · rw [closes_plain isOpen isClose, brace_depth_plain isOpen isClose, scanBraces,
            if_neg isOpen, if_neg isClose]
          exact ih depth opened settled

/-- The braces close in the line behind some lines in which they do not. -/
theorem end_from_iff (lines : List Text) (depth : Int) (opened : Bool) (number last : Nat)
    (settled : Settled depth opened) :
    endFrom depth opened number lines = some last ↔
      ∃ before line after, lines = before ++ line :: after ∧ last = number + before.length ∧
        ¬ ClosesFrom depth before.flatten ∧ ClosesFrom depth (before ++ [line]).flatten := by
  induction lines generalizing depth opened number with
  | nil => simp [endFrom]
  | cons line lines ih =>
      rw [endFrom]
      rcases scan_braces_spec line depth opened settled with
        ⟨closes, scanned⟩ | ⟨goesOn, begun, further, scanned⟩
      · rw [scanned]
        constructor
        · rintro ⟨rfl⟩
          exact ⟨[], line, lines, rfl, rfl, not_closes_nil, by simpa using closes⟩
        · rintro ⟨before, other, after, parts, rfl, stillOpen, -⟩
          cases before with
          | nil => rfl
          | cons first before =>
              obtain ⟨rfl, -⟩ := List.cons.inj parts
              rw [List.flatten_cons, closes_append] at stillOpen
              exact absurd (.inl closes) stillOpen
      · rw [scanned]
        dsimp only
        rw [ih _ begun (number + 1) further]
        constructor
        · rintro ⟨before, other, after, rfl, rfl, stillOpen, closes⟩
          refine ⟨line :: before, other, after, rfl, ?_, ?_, ?_⟩
          · rw [List.length_cons]
            omega
          · rw [List.flatten_cons, closes_append]
            exact not_or.2 ⟨goesOn, stillOpen⟩
          · rw [List.cons_append, List.flatten_cons, closes_append]
            exact .inr closes
        · rintro ⟨before, other, after, parts, rfl, stillOpen, closes⟩
          cases before with
          | nil =>
              obtain ⟨rfl, -⟩ := List.cons.inj parts
              exact absurd (by simpa using closes) goesOn
          | cons first before =>
              obtain ⟨rfl, rfl⟩ := List.cons.inj parts
              rw [List.flatten_cons, closes_append] at stillOpen
              rw [List.cons_append, List.flatten_cons, closes_append] at closes
              refine ⟨before, other, after, rfl, ?_, fun early => stillOpen (.inr early),
                closes.resolve_left goesOn⟩
              rw [List.length_cons]
              omega

/-- The text from the line `first` on up to the line `stop`, without that line. -/
def textBetween (lines : List Text) (first stop : Nat) : Text :=
  ((lines.drop (first - 1)).take (stop - first)).flatten

theorem text_between_prefix (lines : List Text) (first : Nat) {stop later : Nat}
    (order : stop ≤ later) :
    ∃ more, textBetween lines first later = textBetween lines first stop ++ more := by
  have longer : (lines.drop (first - 1)).take (stop - first) <+:
      (lines.drop (first - 1)).take (later - first) :=
    List.take_prefix_take_left (by omega)
  obtain ⟨more, whole⟩ := longer
  refine ⟨more.flatten, ?_⟩
  rw [textBetween, ← whole, List.flatten_append]
  rfl

theorem closes_later {first stop later : Nat} (order : stop ≤ later)
    (closed : Closes (textBetween lines first stop)) : Closes (textBetween lines first later) := by
  obtain ⟨more, whole⟩ := text_between_prefix lines first order
  rw [whole, Closes, closes_append]
  exact .inl closed

theorem find_end_line_iff (lines : List Text) (first last : Nat) :
    findEndLine lines first = some last ↔ 0 < first ∧ first ≤ last ∧ last ≤ lines.length ∧
      ¬ Closes (textBetween lines first last) ∧ Closes (textBetween lines first (last + 1)) := by
  rw [findEndLine]
  split
  · rename_i outside
    constructor
    · intro none
      cases none
    · rintro ⟨positive, order, bound, -⟩
      omega
  · rename_i inside
    rw [end_from_iff _ 0 false first last (by simp [Settled])]
    constructor
    · rintro ⟨before, line, after, parts, rfl, stillOpen, closes⟩
      have size := congrArg List.length parts
      rw [List.length_drop, List.length_append, List.length_cons] at size
      refine ⟨by omega, by omega, by omega, ?_, ?_⟩
      · rw [textBetween, parts, Nat.add_sub_cancel_left, List.take_left]
        exact stillOpen
      · rw [textBetween, parts, Nat.add_assoc, Nat.add_sub_cancel_left, List.append_cons,
          List.take_left' (by simp)]
        exact closes
    · rintro ⟨positive, order, bound, stillOpen, closes⟩
      have within : last - first < (lines.drop (first - 1)).length := by
        rw [List.length_drop]
        omega
      refine ⟨(lines.drop (first - 1)).take (last - first), (lines.drop (first - 1))[last - first],
        (lines.drop (first - 1)).drop (last - first + 1), ?_, ?_, stillOpen, ?_⟩
      · rw [List.getElem_cons_drop, List.take_append_drop]
      · rw [List.length_take]
        omega
      · rw [List.take_append_getElem, ← Nat.sub_add_comm order]
        exact closes

/-- A line lies before the end just when the braces have not all closed above it. -/
theorem within_end_iff {first last target : Nat} (found : findEndLine lines first = some last) :
    target ≤ last ↔ ¬ Closes (textBetween lines first target) := by
  obtain ⟨-, -, -, stillOpen, closed⟩ := (find_end_line_iff lines first last).1 found
  constructor
  · intro before early
    exact stillOpen (closes_later before early)
  · intro still
    apply Nat.le_of_not_lt
    intro behind
    exact still (closes_later behind closed)

end FaultContext.Code
