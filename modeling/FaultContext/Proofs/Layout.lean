import Mathlib.Data.List.Forall2
import FaultContext.Proofs.BoundaryRule
import FaultContext.Proofs.Trimming

/-!
# Layout

How a source is laid out has no influence on where its functions are found. Of a line the search reads
two things, what is left without the blanks around it and without a comment, and its braces; so lines
that agree in both can stand for each other. White space around a line and a comment behind it, as long
as it holds no braces, change neither. Blank lines above the source are passed over, and move what is
found by their number.
-/

namespace FaultContext.Code

set_option autoImplicit false

variable {line other text front back rest : Text} {lines others : List Text}

theorem begins_comment_iff {c : Char} : "//".toList.isPrefixOf (c :: rest) = true ↔
    c = '/' ∧ rest.head? = some '/' := by
  rw [List.isPrefixOf_iff_prefix]
  cases rest with
  | nil => simp
  | cons next rest => simp [eq_comm]

theorem before_blank_append (blank : Text.Blank front) (text : Text) :
    Text.before "//".toList (front ++ text) = front ++ Text.before "//".toList text := by
  induction front with
  | nil => rfl
  | cons c front ih =>
      obtain ⟨white, blank⟩ := List.forall_mem_cons.1 blank
      have goesOn : ¬ "//".toList.isPrefixOf (c :: (front ++ text)) = true := by
        rw [begins_comment_iff]
        rintro ⟨rfl, -⟩
        exact absurd white (by decide)
      rw [List.cons_append, Text.before, if_neg goesOn, ih blank, List.cons_append]

/-- A comment begins in a text as it does without what follows, unless it begins behind the text. -/
theorem before_comment_append (text : Text) (apart : rest.head? ≠ some '/') :
    Text.before "//".toList (text ++ rest) = Text.before "//".toList text ∨
      Text.before "//".toList text = text ∧
        Text.before "//".toList (text ++ rest) = text ++ Text.before "//".toList rest := by
  induction text with
  | nil => exact .inr ⟨rfl, rfl⟩
  | cons c text ih =>
      have same : (text ++ rest).head? = some '/' ↔ text.head? = some '/' := by
        cases text with
        | nil => simpa using apart
        | cons next text => rfl
      rw [List.cons_append, Text.before, Text.before]
      simp only [begins_comment_iff, same]
      split
      · exact .inl rfl
      · rcases ih with early | ⟨whole, late⟩
        · exact .inl (by rw [early])
        · exact .inr ⟨by rw [whole], by rw [late, List.cons_append]⟩

theorem code_append (text : Text) (apart : rest.head? ≠ some '/')
    (blank : Text.Blank (Text.before "//".toList rest)) :
    Text.trim (Text.before "//".toList (text ++ rest)) =
      Text.trim (Text.before "//".toList text) := by
  rcases before_comment_append text apart with early | ⟨whole, late⟩
  · rw [early]
  · rw [late, whole, Text.trim_append_blank blank]

theorem slash_free (blank : Text.Blank text) : text.head? ≠ some '/' := by
  intro first
  have white := blank '/' (List.mem_of_mem_head? first)
  exact absurd white (by decide)

theorem before_blank (blank : Text.Blank text) : Text.before "//".toList text = text := by
  simpa [Text.before] using before_blank_append blank []

/-- Without a comment a line is the same whether it has been trimmed before or not. -/
theorem without_comment_eq (line : Text) :
    withoutComment line = Text.trim (Text.before "//".toList line) := by
  obtain ⟨⟨front, back, blankFront, blankBack, whole⟩, -, -⟩ :=
    Text.trimmed_iff.2 (Eq.refl (Text.trim line))
  have blank : Text.Blank (Text.before "//".toList back) := by rwa [before_blank blankBack]
  conv_rhs => rw [whole, List.append_assoc, before_blank_append blankFront,
    Text.trim_blank_append blankFront, code_append _ (slash_free blankBack) blank]
  rfl

theorem without_comment_padded (blankFront : Text.Blank front) (blankBack : Text.Blank back)
    (line : Text) : withoutComment (front ++ line ++ back) = withoutComment line := by
  rw [withoutComment, Text.trim_append_blank blankBack, Text.trim_blank_append blankFront]
  rfl

theorem without_comment_commented (line comment : Text) :
    withoutComment (line ++ " //".toList ++ comment) = withoutComment line := by
  have cut : Text.before "//".toList (" //".toList ++ comment) = " ".toList := by
    simp [Text.before]
  have blank : Text.Blank (Text.before "//".toList (" //".toList ++ comment)) := by
    rw [cut]
    decide
  rw [without_comment_eq, without_comment_eq, List.append_assoc, code_append line (by simp) blank]

def braces (line : Text) : Text := line.filter fun c => c == '{' || c == '}'

theorem braces_append (line other : Text) : braces (line ++ other) = braces line ++ braces other :=
  List.filter_append ..

theorem braces_eq_nil_iff : braces text = [] ↔ '{' ∉ text ∧ '}' ∉ text := by
  simp only [braces, List.filter_eq_nil_iff, Bool.or_eq_true, beq_iff_eq, not_or]
  constructor
  · intro plain
    exact ⟨fun member => (plain _ member).1 rfl, fun member => (plain _ member).2 rfl⟩
  · rintro ⟨noOpen, noClose⟩ c member
    exact ⟨fun same => noOpen (same ▸ member), fun same => noClose (same ▸ member)⟩

theorem braces_blank (blank : Text.Blank text) : braces text = [] := by
  refine braces_eq_nil_iff.2 ⟨fun member => ?_, fun member => ?_⟩
  · exact absurd (blank _ member) (by decide)
  · exact absurd (blank _ member) (by decide)

/-- Following the braces of a line needs no other character of it. -/
theorem scan_braces_only (depth : Int) (opened : Bool) (line : Text) :
    scanBraces depth opened (braces line) = scanBraces depth opened line := by
  induction line generalizing depth opened with
  | nil => rfl
  | cons c line ih =>
      have step : braces (c :: line) =
          if c = '{' ∨ c = '}' then c :: braces line else braces line := by
        simp [braces, List.filter_cons]
      rw [step]
      by_cases brace : c = '{' ∨ c = '}'
      · rw [if_pos brace, scanBraces, scanBraces]
        simp only [ih]
      · obtain ⟨noOpen, noClose⟩ := not_or.1 brace
        rw [if_neg brace, scanBraces, if_neg noOpen, if_neg noClose]
        exact ih depth opened

/-- Two lines in which a search for a function reads the same. -/
structure ReadAlike (line other : Text) : Prop where
  code : withoutComment line = withoutComment other
  braces : braces line = braces other

/-- How a line may be laid out anew: with white space around it, and with comments behind it that
hold no braces. -/
inductive Relaid (line : Text) : Text → Prop where
  | kept : Relaid line line
  | padded {other : Text} (front back : Text) (blankFront : Text.Blank front)
      (blankBack : Text.Blank back) (relaid : Relaid line other) : Relaid line (front ++ other ++ back)
  | commented {other : Text} (comment : Text) (plain : '{' ∉ comment ∧ '}' ∉ comment)
      (relaid : Relaid line other) : Relaid line (other ++ " //".toList ++ comment)

theorem alike_of_relaid (relaid : Relaid line other) : ReadAlike line other := by
  induction relaid with
  | kept => exact ⟨rfl, rfl⟩
  | padded front back blankFront blankBack relaid alike =>
      constructor
      · rw [without_comment_padded blankFront blankBack, alike.code]
      · rw [braces_append, braces_append, braces_blank blankFront, braces_blank blankBack,
          List.nil_append, List.append_nil, alike.braces]
  | commented comment plain relaid alike =>
      constructor
      · rw [without_comment_commented, alike.code]
      · rw [braces_append, braces_append, braces_eq_nil_iff.2 plain, List.append_nil, alike.braces]
        exact (List.append_nil _).symm

section Alike

variable {wanted : Wanted}

theorem declared_alike (alike : ReadAlike line other) :
    wanted.declaredBy line = wanted.declaredBy other := by
  simp only [Wanted.declaredBy, alike.code]

theorem other_declared_alike (alike : ReadAlike line other) :
    wanted.otherDeclaredBy line = wanted.otherDeclaredBy other := by
  simp only [Wanted.otherDeclaredBy, alike.code]

theorem end_from_alike (alike : List.Forall₂ ReadAlike lines others) (depth : Int) (opened : Bool)
    (number : Nat) : endFrom depth opened number lines = endFrom depth opened number others := by
  induction alike generalizing depth opened number with
  | nil => rfl
  | @cons line other lines others same alike ih =>
      rw [endFrom, endFrom, ← scan_braces_only depth opened line, same.braces, scan_braces_only]
      cases scanBraces depth opened other with
      | none => rfl
      | some state => exact ih state.1 state.2 (number + 1)

theorem find_end_line_alike (alike : List.Forall₂ ReadAlike lines others) (first : Nat) :
    findEndLine lines first = findEndLine others first := by
  unfold findEndLine
  rw [alike.length_eq, end_from_alike (List.forall₂_drop _ alike)]

theorem declaration_above_alike (alike : List.Forall₂ ReadAlike lines others) :
    declarationAbove wanted lines = declarationAbove wanted others := by
  induction alike with
  | nil => rfl
  | cons same alike ih =>
      rw [declarationAbove, declarationAbove, declared_alike same, other_declared_alike same,
        alike.length_eq, ih]

theorem first_closing_alike {rest other : List Text} (number : Nat)
    (alike : List.Forall₂ ReadAlike lines others) (further : List.Forall₂ ReadAlike rest other) :
    firstClosing wanted lines number rest = firstClosing wanted others number other := by
  induction further generalizing number with
  | nil => rfl
  | cons same further ih =>
      rw [firstClosing, firstClosing, declared_alike same, rangeFrom?, rangeFrom?,
        find_end_line_alike alike, ih]

theorem boundaries_alike (alike : List.Forall₂ ReadAlike lines others) (target : Nat) :
    wanted.boundaries lines target = wanted.boundaries others target := by
  have upwards : List.Forall₂ ReadAlike (lines.take target).reverse (others.take target).reverse :=
    List.forall₂_reverse_iff.2 (List.forall₂_take target alike)
  unfold Wanted.boundaries searchWholeFile
  rw [alike.length_eq, declaration_above_alike upwards, first_closing_alike 1 alike alike]
  simp only [rangeFrom?, find_end_line_alike alike]

end Alike

section Below

variable {wanted : Wanted} {above rest : List Text} {first number : Nat}

theorem without_comment_blank (blank : Text.Blank line) : withoutComment line = [] := by
  rw [without_comment_eq, before_blank blank, Text.trim_eq_nil_iff.2 blank]

theorem not_declared_blank (blank : Text.Blank line) : wanted.declaredBy line = false := by
  cases wanted <;> simp only [Wanted.declaredBy, without_comment_blank blank] <;> rfl

theorem not_other_declared_blank (blank : Text.Blank line) : wanted.otherDeclaredBy line = false := by
  cases wanted <;> simp only [Wanted.otherDeclaredBy, without_comment_blank blank] <;> rfl

theorem end_from_later (lines : List Text) (depth : Int) (opened : Bool) (number count : Nat) :
    endFrom depth opened (number + count) lines =
      (endFrom depth opened number lines).map fun last => last + count := by
  induction lines generalizing depth opened number with
  | nil => rfl
  | cons line lines ih =>
      rw [endFrom, endFrom]
      cases scanBraces depth opened line with
      | none => rfl
      | some state =>
          dsimp only
          rw [Nat.add_right_comm, ih]

theorem outside_below_iff (above lines : List Text) (positive : 0 < first) :
    first + above.length = 0 ∨ (above ++ lines).length < first + above.length ↔
      first = 0 ∨ lines.length < first := by
  rw [List.length_append]
  omega

theorem find_end_line_below (above lines : List Text) (positive : 0 < first) :
    findEndLine (above ++ lines) (first + above.length) =
      (findEndLine lines first).map fun last => last + above.length := by
  have place : first + above.length - 1 = above.length + (first - 1) := by omega
  unfold findEndLine
  simp only [outside_below_iff above lines positive]
  split
  · rfl
  · rw [place, List.drop_length_add_append, end_from_later]

def LineRange.below (range : LineRange) (count : Nat) : LineRange :=
  ⟨range.first + count, range.last + count⟩

theorem range_from_below (above lines : List Text) (positive : 0 < first) :
    rangeFrom? (above ++ lines) (first + above.length) =
      (rangeFrom? lines first).map fun range => range.below above.length := by
  unfold rangeFrom?
  rw [find_end_line_below above lines positive, Option.map_map, Option.map_map]
  rfl

theorem declaration_above_positive (found : declarationAbove wanted lines = some number) :
    0 < number := by
  induction lines with
  | nil => cases found
  | cons line lines ih =>
      rw [declarationAbove] at found
      split at found
      · obtain rfl := Option.some.inj found
        exact Nat.succ_pos _
      · split at found
        · cases found
        · exact ih found

theorem declaration_above_blank (blank : ∀ line ∈ above, Text.Blank line) :
    declarationAbove wanted above = none := by
  induction above with
  | nil => rfl
  | cons line above ih =>
      obtain ⟨here, blank⟩ := List.forall_mem_cons.1 blank
      rw [declarationAbove, not_declared_blank here, not_other_declared_blank here]
      exact ih blank

theorem declaration_above_append (blank : ∀ line ∈ above, Text.Blank line) :
    declarationAbove wanted (lines ++ above) =
      (declarationAbove wanted lines).map fun number => number + above.length := by
  induction lines with
  | nil => exact declaration_above_blank blank
  | cons line lines ih =>
      rw [List.cons_append, declarationAbove, declarationAbove, ih, List.length_append]
      split
      · rw [Option.map_some, Nat.add_right_comm]
      · split <;> rfl

theorem first_closing_blank (blank : ∀ line ∈ above, Text.Blank line) (number : Nat) :
    firstClosing wanted lines number (above ++ rest) =
      firstClosing wanted lines (number + above.length) rest := by
  induction above generalizing number with
  | nil => rfl
  | cons line above ih =>
      obtain ⟨here, blank⟩ := List.forall_mem_cons.1 blank
      rw [List.cons_append, firstClosing, not_declared_blank here, if_neg Bool.false_ne_true,
        List.length_cons, ← Nat.add_assoc, Nat.add_right_comm]
      exact ih blank (number + 1)

theorem first_closing_below (above lines rest : List Text) (positive : 0 < number) :
    firstClosing wanted (above ++ lines) (number + above.length) rest =
      (firstClosing wanted lines number rest).map fun range => range.below above.length := by
  induction rest generalizing number with
  | nil => rfl
  | cons line rest ih =>
      rw [firstClosing, firstClosing, range_from_below above lines positive, Nat.add_right_comm,
        ih (Nat.succ_pos number)]
      by_cases declared : wanted.declaredBy line = true
      · rw [if_pos declared, if_pos declared]
        cases rangeFrom? lines number <;> rfl
      · rw [if_neg declared, if_neg declared]

theorem search_whole_file_below (blank : ∀ line ∈ above, Text.Blank line) (lines : List Text) :
    searchWholeFile wanted (above ++ lines) =
      (searchWholeFile wanted lines).map fun range => range.below above.length := by
  unfold searchWholeFile
  rw [first_closing_blank blank, first_closing_below above lines lines Nat.one_pos]

theorem boundaries_below (blank : ∀ line ∈ above, Text.Blank line) (lines : List Text) {target : Nat}
    (positive : 0 < target) : wanted.boundaries (above ++ lines) (target + above.length) =
      (wanted.boundaries lines target).map fun range => range.below above.length := by
  have upwards : ((above ++ lines).take (target + above.length)).reverse =
      (lines.take target).reverse ++ above.reverse := by
    rw [Nat.add_comm, List.take_length_add_append, List.reverse_append]
  have blankUpwards : ∀ line ∈ above.reverse, Text.Blank line := by
    intro line member
    exact blank line (List.mem_reverse.1 member)
  unfold Wanted.boundaries
  simp only [outside_below_iff above lines positive]
  split
  · exact search_whole_file_below blank lines
  · rw [upwards, declaration_above_append blankUpwards, List.length_reverse,
      search_whole_file_below blank lines]
    cases found : declarationAbove wanted (lines.take target).reverse with
    | none => rfl
    | some first => exact range_from_below above lines (declaration_above_positive found)

end Below

/-- Where a function is found does not depend on how its source is laid out: lines may be padded with
white space and commented, and blank lines above the source move what is found by their number. -/
theorem boundaries_keep_to_layout (lines : List Text) (target : Nat)
    (functionName simpleTypeName : Text) :
    (∀ others, List.Forall₂ Relaid lines others →
      findBoundaries others target functionName simpleTypeName =
        findBoundaries lines target functionName simpleTypeName) ∧
    ∀ above, (∀ line ∈ above, Text.Blank line) → 0 < target →
      findBoundaries (above ++ lines) (target + above.length) functionName simpleTypeName =
        (findBoundaries lines target functionName simpleTypeName).map fun range =>
          range.below above.length := by
  simp only [find_boundaries_eq]
  constructor
  · intro others relaid
    have alike : List.Forall₂ ReadAlike lines others := relaid.imp fun _ _ => alike_of_relaid
    simp only [boundaries_alike alike]
  · intro above blank positive
    cases Wanted.of? functionName simpleTypeName with
    | none => rfl
    | some wanted => exact boundaries_below blank lines positive

/-- A function as it may be written, and the same laid out anew. -/
def tidy : List Text :=
  ["public void run() \x7b", "go(); // now \x7b or never \x7d", "\x7d"].map String.toList

def spaced : List Text :=
  ["  public void run() \x7b // starts", "\tgo(); // now \x7b or never \x7d // twice", "\x7d  "].map
    String.toList

theorem boundaries_keep_to_layout_spaced :
    List.Forall₂ Relaid tidy spaced ∧ (∀ line ∈ ["".toList, " \t".toList], Text.Blank line) ∧
      findBoundaries spaced 2 "run".toList "Job".toList = some ⟨1, 3⟩ ∧
      findBoundaries (["".toList, " \t".toList] ++ tidy) 4 "run".toList "Job".toList =
        some ⟨3, 5⟩ := by
  have relaid : List.Forall₂ Relaid tidy spaced :=
    .cons (.commented " starts".toList (by decide) (.padded "  ".toList [] (by decide) (by decide) .kept))
      (.cons (.commented " twice".toList (by decide) (.padded "\t".toList [] (by decide) (by decide) .kept))
        (.cons (.padded [] "  ".toList (by decide) (by decide) .kept) .nil))
  have blank : ∀ line ∈ ["".toList, " \t".toList], Text.Blank line := by decide
  have found : findBoundaries tidy 2 "run".toList "Job".toList = some ⟨1, 3⟩ := by decide
  obtain ⟨anew, below⟩ := boundaries_keep_to_layout tidy 2 "run".toList "Job".toList
  refine ⟨relaid, blank, (anew spaced relaid).trans found, ?_⟩
  have moved := below _ blank (by decide)
  rw [found] at moved
  exact moved

end FaultContext.Code
