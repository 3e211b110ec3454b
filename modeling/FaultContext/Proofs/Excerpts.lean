import FaultContext.Code.Excerpt
import FaultContext.Proofs.BoundaryRule
import FaultContext.Proofs.FunctionEnd
import FaultContext.Proofs.Trimming

/-!
# Excerpts of a source

An excerpt shows whole lines of its source, from the first to the last line of its range, joined and
without the white space around them, and never nothing. It is the function wherever one is found: a
function holds the brace that closes it, so it is not blank. Else it is the window around the line asked
about, which may lie outside of the source or hold blank lines only, and then there is no excerpt.
-/

namespace FaultContext.Code

set_option autoImplicit false

variable {lines shown : List Text} {line : Text} {range : LineRange} {kind : ExcerptKind}
  {excerpt : Excerpt} {context target : Nat} {functionName simpleTypeName : Text}

theorem join_eq_intercalate (between : Text) (pieces : List Text) :
    Text.join between pieces = List.intercalate between pieces := by
  induction pieces with
  | nil => rfl
  | cons piece pieces ih =>
      cases pieces with
      | nil => simp [Text.join]
      | cons next pieces =>
          rw [Text.join, ih, List.intercalate_cons_cons]

theorem blank_join_iff : Text.Blank (Text.join ['\n'] shown) ↔ ∀ line ∈ shown, Text.Blank line := by
  have gap : Text.Blank ['\n'] := by decide
  induction shown with
  | nil => simp [Text.join, Text.Blank]
  | cons line shown ih =>
      cases shown with
      | nil => simp [Text.join]
      | cons next shown =>
          rw [Text.join, Text.blank_append, Text.blank_append, List.forall_mem_cons, and_iff_left gap]
          exact and_congr_right fun _ => ih

/-- The lines that a range takes up in a source. -/
def LinesOf (lines : List Text) (range : LineRange) (shown : List Text) : Prop :=
  ∃ above below, lines = above ++ shown ++ below ∧ above.length + 1 = range.first ∧
    above.length + shown.length = range.last

theorem lines_of_range (begins : 1 ≤ range.first) (order : range.first ≤ range.last)
    (inside : range.last ≤ lines.length) :
    LinesOf lines range ((lines.take range.last).drop (range.first - 1)) := by
  refine ⟨(lines.take range.last).take (range.first - 1), lines.drop range.last, ?_, ?_, ?_⟩
  · rw [List.take_append_drop, List.take_append_drop]
  · simp only [List.length_take]
    omega
  · simp only [List.length_take, List.length_drop]
    omega

theorem mem_shown_iff (begins : 1 ≤ range.first) :
    line ∈ (lines.take range.last).drop (range.first - 1) ↔
      ∃ number, range.first ≤ number ∧ number ≤ range.last ∧ lines[number - 1]? = some line := by
  simp only [List.mem_iff_getElem?, List.getElem?_drop, List.getElem?_take]
  constructor
  · rintro ⟨index, found⟩
    split at found
    · refine ⟨range.first + index, by omega, by omega, ?_⟩
      rwa [show range.first + index - 1 = range.first - 1 + index by omega]
    · cases found
  · rintro ⟨number, lower, upper, found⟩
    refine ⟨number - range.first, ?_⟩
    rw [show range.first - 1 + (number - range.first) = number - 1 by omega, if_pos (by omega)]
    exact found

theorem body_of_eq_nil_iff (begins : 1 ≤ range.first) : bodyOf lines range = [] ↔
    ∀ number line, range.first ≤ number → number ≤ range.last → lines[number - 1]? = some line →
      Text.Blank line := by
  rw [bodyOf]
  split
  · rename_i outside
    refine iff_of_true rfl ?_
    intro number line lower upper found
    obtain ⟨bound, -⟩ := List.getElem?_eq_some_iff.1 found
    omega
  · rw [Text.trim_eq_nil_iff, blank_join_iff]
    simp only [mem_shown_iff begins]
    constructor
    · intro blank number line lower upper found
      exact blank line ⟨number, lower, upper, found⟩
    · rintro blank line ⟨number, lower, upper, found⟩
      exact blank number line lower upper found

theorem function_not_blank
    (found : findBoundaries lines target functionName simpleTypeName = some range) :
    bodyOf lines range ≠ [] := by
  obtain ⟨begins, order, -⟩ := boundaries_inside found
  obtain ⟨line, last, brace⟩ := closing_line (boundaries_close found)
  intro nothing
  have blank := (body_of_eq_nil_iff begins).1 nothing range.last line order (Nat.le_refl _) last
  exact absurd (blank _ brace) (by decide)

/-- An excerpt shows its lines: the text is theirs without the white space around it, and there is
some. -/
structure Shows (lines : List Text) (excerpt : Excerpt) : Prop where
  begins : 1 ≤ excerpt.range.first
  order : excerpt.range.first ≤ excerpt.range.last
  inside : excerpt.range.last ≤ lines.length
  filled : excerpt.body ≠ []
  text : ∃ shown, LinesOf lines excerpt.range shown ∧
    Text.Trimmed (List.intercalate ['\n'] shown) excerpt.body

theorem excerpt_none_iff : excerptOf? lines kind range = none ↔ bodyOf lines range = [] := by
  simp [excerptOf?]

theorem excerpt_some_iff : excerptOf? lines kind range = some excerpt ↔
    bodyOf lines range ≠ [] ∧ ⟨range, bodyOf lines range, kind⟩ = excerpt := by
  simp [excerptOf?]

theorem shows_of_filled (inside : range.last ≤ lines.length) (filled : bodyOf lines range ≠ []) :
    Shows lines ⟨range, bodyOf lines range, kind⟩ := by
  have within : ¬ (range.first = 0 ∨ range.last < range.first ∨ lines.length < range.first) := by
    intro outside
    exact filled (if_pos outside)
  have begins : 1 ≤ range.first := by omega
  have order : range.first ≤ range.last := by omega
  refine ⟨begins, order, inside, filled, _, lines_of_range begins order inside, ?_⟩
  rw [Text.trimmed_iff, ← join_eq_intercalate]
  exact if_neg within

theorem extract_eq (context : Nat) (lines : List Text) (target : Nat)
    (functionName simpleTypeName : Text) :
    extract context lines target functionName simpleTypeName =
      match findBoundaries lines target functionName simpleTypeName with
      | some range => some ⟨range, bodyOf lines range, .function⟩
      | none => contextWindow context lines target := by
  cases found : findBoundaries lines target functionName simpleTypeName with
  | some range =>
      have cut : excerptOf? lines .function range = some ⟨range, bodyOf lines range, .function⟩ :=
        excerpt_some_iff.2 ⟨function_not_blank found, rfl⟩
      cases lines with
      | nil => cases found
      | cons line rest =>
          rw [extract, found, Option.bind_some, cut]
          rfl
  | none =>
      cases lines with
      | nil =>
          refine (excerpt_none_iff.2 (if_pos (.inr (.inr ?_)))).symm
          exact Nat.lt_of_lt_of_le Nat.zero_lt_one (Nat.le_max_left 1 (target - context))
      | cons line rest =>
          rw [extract, found]
          rfl

theorem extract_shows
    (cut : extract context lines target functionName simpleTypeName = some excerpt) :
    Shows lines excerpt := by
  rw [extract_eq] at cut
  split at cut
  · rename_i range found
    obtain rfl := Option.some.inj cut
    exact shows_of_filled (boundaries_inside found).2.2 (function_not_blank found)
  · obtain ⟨filled, rfl⟩ := excerpt_some_iff.1 cut
    exact shows_of_filled (Nat.min_le_left ..) filled

/-- The lines at most `context` away from a line, of a source of so many lines. A sum that stops at the
largest word makes no difference where the lines can be counted in words. -/
structure WindowAround (context size target : Nat) (range : LineRange) : Prop where
  first : range.first = max 1 (target - context)
  last : range.last = min size (target + context)
  saturated : ∀ largest, size ≤ largest → range.last = min size (min largest (target + context))

theorem window_around (context : Nat) (lines : List Text) (target : Nat) :
    WindowAround context lines.length target (windowRange lines context target) := by
  refine ⟨rfl, rfl, ?_⟩
  intro largest room
  rw [← Nat.min_assoc, Nat.min_eq_left room]
  rfl

/-- An excerpt shows the function where one is found, and else the window around the line; there is none
just where no function is found and the lines of the window are blank. -/
theorem excerpt_of_function_or_window (context : Nat) (lines : List Text) (target : Nat)
    (functionName simpleTypeName : Text) :
    (∀ excerpt, extract context lines target functionName simpleTypeName = some excerpt →
      Shows lines excerpt ∧
        (excerpt.kind = .function ∧
            findBoundaries lines target functionName simpleTypeName = some excerpt.range ∨
          excerpt.kind = .contextWindow ∧
            findBoundaries lines target functionName simpleTypeName = none ∧
            WindowAround context lines.length target excerpt.range)) ∧
    (extract context lines target functionName simpleTypeName = none ↔
      findBoundaries lines target functionName simpleTypeName = none ∧
        ∀ number line, max 1 (target - context) ≤ number →
          number ≤ min lines.length (target + context) → lines[number - 1]? = some line →
            Text.Blank line) := by
  rw [extract_eq]
  cases found : findBoundaries lines target functionName simpleTypeName with
  | some range =>
      refine ⟨?_, by simp⟩
      rintro excerpt ⟨rfl⟩
      exact ⟨shows_of_filled (boundaries_inside found).2.2 (function_not_blank found),
        .inl ⟨rfl, rfl⟩⟩
  | none =>
      refine ⟨?_, ?_⟩
      · intro excerpt cut
        obtain ⟨filled, rfl⟩ := excerpt_some_iff.1 cut
        exact ⟨shows_of_filled (Nat.min_le_left ..) filled,
          .inr ⟨rfl, rfl, window_around context lines target⟩⟩
      · rw [and_iff_right rfl]
        exact excerpt_none_iff.trans (body_of_eq_nil_iff (Nat.le_max_left ..))

/-- A source that ends within a function, between blank lines. -/
def truncated : List Text :=
  ["", "public void run() \x7b", "    go();  ", "\t"].map String.toList

theorem excerpt_of_function_or_window_truncated :
    let largest := 0xFFFFFFFFFFFFFFFF
    let body := "public void run() \x7b\n    go();".toList
    let excerpt : Excerpt := ⟨⟨1, 4⟩, body, .contextWindow⟩
    extract largest truncated largest "run".toList "Job".toList = some excerpt ∧
      Shows truncated excerpt ∧ WindowAround largest truncated.length largest excerpt.range ∧
      extract 0 truncated largest "run".toList "Job".toList = none := by
  intro largest body excerpt
  have cut : extract largest truncated largest "run".toList "Job".toList = some excerpt := by decide
  obtain ⟨sound, -⟩ := excerpt_of_function_or_window largest truncated largest "run".toList
    "Job".toList
  obtain ⟨shows, ⟨kind, -⟩ | ⟨-, -, window⟩⟩ := sound excerpt cut
  · cases kind
  · exact ⟨cut, shows, window, by decide⟩

end FaultContext.Code
