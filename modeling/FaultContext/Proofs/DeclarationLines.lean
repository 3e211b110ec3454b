import FaultContext.Code.Declaration

/-!
# Lines that declare

What a line has to look like for it to be taken as the declaration of a name: how its parts lie beside
each other, where the scanners only say yes or no. The name is called, and in front of the call stands a
modifier or, directly, a word that is no statement keyword. The modifier may as well be letters within a
longer word, so a call behind such a word is taken for a declaration; the main statement says that this
is the one way in which a line without such parts is.
-/

namespace FaultContext

set_option autoImplicit false

namespace Text

variable {text rest : Text} {c : Char}

theorem trim_start_eq_cons_iff (solid : isBlank c = false) : trimStart text = c :: rest ↔
    ∃ blanks, (∀ b ∈ blanks, isBlank b = true) ∧ text = blanks ++ c :: rest := by
  constructor
  · intro found
    refine ⟨text.takeWhile isBlank, List.all_eq_true.1 List.all_takeWhile, ?_⟩
    rw [← found, trimStart, List.takeWhile_append_dropWhile]
  · rintro ⟨blanks, blank, rfl⟩
    rw [trimStart, List.dropWhile_append_of_pos blank, List.dropWhile_cons_of_neg (by simp [solid])]

theorem last_cons (c : Char) (front : Text) (previous : Option Char) :
    (c :: front).getLast?.or previous = front.getLast?.or (some c) := by
  cases front with
  | nil => rfl
  | cons first front => simp [List.getLast?_cons]

theorem forall_cuts {holds : Text → Text → Prop} (text : Text)
    (everywhere : ∀ place, place ≤ text.length → holds (text.take place) (text.drop place)) :
    ∀ front behind, text = front ++ behind → holds front behind := by
  rintro front behind rfl
  simpa using everywhere front.length (by simp)

end Text

namespace Code

variable {name text rest word : Text} {previous : Option Char}

/-- The text begins with a call of the name; blanks may stand in front of the parenthesis. -/
def CallsAt (name text : Text) : Prop :=
  ∃ blanks rest, (∀ b ∈ blanks, Text.isBlank b = true) ∧ text = name ++ blanks ++ '(' :: rest

theorem call_at_eq_some_iff : callAt? name text = some rest ↔
    ∃ blanks, (∀ b ∈ blanks, Text.isBlank b = true) ∧ text = name ++ blanks ++ '(' :: rest := by
  rw [callAt?]
  constructor
  · intro found
    split at found
    · cases found
    · rename_i behind stripped
      split at found
      · rename_i further opens
        obtain rfl := Option.some.inj found
        obtain ⟨blanks, blank, rfl⟩ := (Text.trim_start_eq_cons_iff (by decide)).1 opens
        exact ⟨blanks, blank, by rw [Text.strip_eq_some_iff.1 stripped, List.append_assoc]⟩
      · cases found
  · rintro ⟨blanks, blank, rfl⟩
    have solid : Text.isBlank '(' = false := by decide
    have opens : Text.trimStart (blanks ++ '(' :: rest) = '(' :: rest :=
      (Text.trim_start_eq_cons_iff solid).2 ⟨blanks, blank, rfl⟩
    rw [List.append_assoc, Text.strip_eq_some_iff.2 rfl]
    dsimp only
    rw [opens]
    rfl

theorem call_at_is_some_iff : (callAt? name text).isSome = true ↔ CallsAt name text := by
  rw [Option.isSome_iff_exists, CallsAt]
  simp only [call_at_eq_some_iff]
  exact exists_comm

theorem not_calls_at_nil : ¬ CallsAt name [] := by
  rintro ⟨blanks, rest, -, parts⟩
  simp at parts

theorem call_within_iff (name : Text) (oneLine : Bool) (previous : Option Char) (text : Text) :
    callWithin name oneLine previous text = true ↔ ∃ front behind, text = front ++ behind ∧
      (oneLine = true → '\n' ∉ front) ∧
      Text.isWordBoundary (front.getLast?.or previous) behind.head? = true ∧ CallsAt name behind := by
  induction text generalizing previous with
  | nil =>
      rw [callWithin]
      constructor
      · intro found
        cases found
      · rintro ⟨front, behind, parts, -, -, call⟩
        obtain ⟨rfl, rfl⟩ := List.append_eq_nil_iff.1 parts.symm
        exact absurd call not_calls_at_nil
  | cons c text ih =>
      rw [callWithin, Bool.or_eq_true, Bool.and_eq_true, Bool.and_eq_true, call_at_is_some_iff, ih]
      constructor
      · rintro (⟨boundary, call⟩ | ⟨sameLine, front, behind, rfl, unbroken, boundary, call⟩)
        · exact ⟨[], c :: text, rfl, by simp, boundary, call⟩
        · refine ⟨c :: front, behind, rfl, ?_, by rwa [Text.last_cons], call⟩
          intro one
          subst one
          have other : c ≠ '\n' := by simpa using sameLine
          simp [Ne.symm other, unbroken rfl]
      · rintro ⟨front, behind, parts, unbroken, boundary, call⟩
        cases front with
        | nil =>
            obtain rfl : c :: text = behind := parts
            exact .inl ⟨boundary, call⟩
        | cons first front =>
            obtain ⟨rfl, rfl⟩ := List.cons.inj parts
            rw [Text.last_cons] at boundary
            refine .inr ⟨?_, front, behind, rfl, ?_, boundary, call⟩
            · cases oneLine with
              | false => rfl
              | true =>
                  have absent := unbroken rfl
                  simp only [List.mem_cons, not_or] at absent
                  simpa using Ne.symm absent.1
            · intro one
              exact fun member => unbroken one (List.mem_cons_of_mem c member)

theorem modifiers_nonempty : ∀ word ∈ modifiers, word ≠ [] := by decide

theorem behind_modifier_iff (test : Option Char → Text → Bool) (text : Text) :
    behindModifier test text = true ↔ ∃ before word behind, word ∈ modifiers ∧
      text = before ++ word ++ behind ∧ test word.getLast? behind = true := by
  induction text with
  | nil =>
      rw [behindModifier]
      constructor
      · intro found
        cases found
      · rintro ⟨before, word, behind, member, parts, -⟩
        have front := (List.append_eq_nil_iff.1 parts.symm).1
        exact absurd (List.append_eq_nil_iff.1 front).2 (modifiers_nonempty word member)
  | cons c text ih =>
      rw [behindModifier, Bool.or_eq_true, ih, List.any_eq_true]
      constructor
      · rintro (⟨word, member, found⟩ | ⟨before, word, behind, member, rfl, found⟩)
        · split at found
          · rename_i behind stripped
            exact ⟨[], word, behind, member, Text.strip_eq_some_iff.1 stripped, found⟩
          · cases found
        · exact ⟨c :: before, word, behind, member, rfl, found⟩
      · rintro ⟨before, word, behind, member, parts, found⟩
        cases before with
        | nil =>
            left
            refine ⟨word, member, ?_⟩
            rw [Text.strip_eq_some_iff.2 (by simpa using parts)]
            exact found
        | cons first before =>
            obtain ⟨rfl, rfl⟩ := List.cons.inj parts
            exact .inr ⟨before, word, behind, member, rfl, found⟩

theorem call_behind_blanks_some {count : Nat} (bound : count ≤ (text.takeWhile Text.isBlank).length)
    (found : callBehindBlanks? name count text = some rest) :
    ∃ blanks behind, blanks ≠ [] ∧ (∀ b ∈ blanks, Text.isBlank b = true) ∧ text = blanks ++ behind ∧
      callAt? name behind = some rest := by
  induction count with
  | zero => simp [callBehindBlanks?] at found
  | succ count ih =>
      rw [callBehindBlanks?] at found
      split at found
      · rename_i further call
        obtain rfl := Option.some.inj found
        have leading : text.take (count + 1) <+: text.takeWhile Text.isBlank := by
          apply List.prefix_of_prefix_length_le (List.take_prefix _ _) (List.takeWhile_prefix _)
          rw [List.length_take]
          omega
        refine ⟨text.take (count + 1), text.drop (count + 1), ?_, ?_, ?_, call⟩
        · intro empty
          rcases List.take_eq_nil_iff.1 empty with none | none
          · omega
          · simp [none] at bound
        · intro b member
          exact List.all_eq_true.1 List.all_takeWhile b (leading.subset member)
        · rw [List.take_append_drop]
      · exact ih (Nat.le_of_succ_le bound) found

/-- How a word stands directly in front of a call: what is before it does not carry it on, and only
blanks are behind it. -/
structure DirectlyBefore (before : Text) (previous : Option Char) (word blanks : Text) : Prop where
  begins : (before.getLast?.or previous).any Text.isWord = false
  nonempty : word ≠ []
  isWord : ∀ c ∈ word, Text.isWord c = true
  apart : blanks ≠ []
  blank : ∀ b ∈ blanks, Text.isBlank b = true

theorem typed_call_behind_some (found : typedCallBehind? name previous text = some (word, rest)) :
    ∃ blanks behind, DirectlyBefore [] previous word blanks ∧ text = word ++ blanks ++ behind ∧
      callAt? name behind = some rest := by
  rw [typedCallBehind?] at found
  split at found
  · rename_i boundary
    rw [typedCallAt?] at found
    split at found
    · cases found
    · rename_i filled
      obtain ⟨further, call, shape⟩ := Option.map_eq_some_iff.1 found
      obtain ⟨rfl, rfl⟩ := Prod.mk.inj shape
      obtain ⟨blanks, behind, apart, blank, parts, called⟩ :=
        call_behind_blanks_some (Nat.le_refl _) call
      have nonempty : text.takeWhile Text.isWord ≠ [] := by simpa using filled
      have isWord : ∀ c ∈ text.takeWhile Text.isWord, Text.isWord c = true :=
        List.all_eq_true.1 List.all_takeWhile
      refine ⟨blanks, behind, ⟨?_, nonempty, isWord, apart, blank⟩, ?_, called⟩
      · -- A word begins here and at a boundary, so no word character is before it.
        cases text with
        | nil => exact absurd rfl nonempty
        | cons c text =>
            have first : Text.isWord c = true := by
              by_cases first : Text.isWord c = true
              · exact first
              · exact absurd (List.takeWhile_cons_of_neg first) nonempty
            simpa [Text.isWordBoundary, first] using boundary
      · rw [List.append_assoc, ← parts, List.takeWhile_append_dropWhile]
  · cases found

theorem words_before_calls_sound (name : Text) (previous : Option Char) (text : Text) :
    ∀ word ∈ wordsBeforeCalls name previous text, ∃ before blanks behind,
      DirectlyBefore before previous word blanks ∧ text = before ++ word ++ blanks ++ behind ∧
        CallsAt name behind := by
  induction previous, text using wordsBeforeCalls.induct name with
  | case1 previous =>
      intro word member
      simp [wordsBeforeCalls] at member
  | case2 previous c text first behind found ih =>
      intro word member
      obtain ⟨blanks, called, direct, parts, call⟩ := typed_call_behind_some found
      obtain ⟨spaces, blank, shape⟩ := call_at_eq_some_iff.1 call
      rw [wordsBeforeCalls, found] at member
      rcases List.mem_cons.1 member with rfl | later
      · exact ⟨[], blanks, called, direct, parts, spaces, behind, blank, shape⟩
      · -- The parenthesis of the first call is what the search goes on behind.
        obtain ⟨before, gap, further, shown, rest, calls⟩ := ih word later
        refine ⟨first ++ blanks ++ name ++ spaces ++ '(' :: before, gap, further, ?_, ?_, calls⟩
        · refine ⟨?_, shown.nonempty, shown.isWord, shown.apart, shown.blank⟩
          rw [List.getLast?_append, Option.or_assoc, Text.last_cons]
          exact shown.begins
        · rw [parts, shape, rest]
          simp
  | case3 previous c text found ih =>
      intro word member
      rw [wordsBeforeCalls, found] at member
      obtain ⟨before, gap, further, shown, rest, calls⟩ := ih word member
      refine ⟨c :: before, gap, further, ?_, by rw [rest]; rfl, calls⟩
      refine ⟨?_, shown.nonempty, shown.isWord, shown.apart, shown.blank⟩
      rw [Text.last_cons]
      exact shown.begins

/-- Neither side carries on a word that stands between them. -/
def StandsAlone (before behind : Text) : Prop :=
  before.getLast?.any Text.isWord = false ∧ behind.head?.any Text.isWord = false

/-- Some call of the name stands behind a modifier, or directly behind a word that is no statement
keyword. -/
def DeclarationShaped (name text : Text) : Prop :=
  ∃ front behind, text = front ++ behind ∧ CallsAt name behind ∧
    ((∃ before word gap, word ∈ modifiers ∧ front = before ++ word ++ gap ∧
        StandsAlone before (gap ++ behind)) ∨
      ∃ before word blanks, front = before ++ word ++ blanks ∧
        DirectlyBefore before none word blanks ∧ word ∉ statementKeywords)

/-- Behind the letters of a modifier within a longer word, and on the same line, stands a call of the
name that begins a word. -/
def HiddenModifier (name text : Text) : Prop :=
  ∃ before word gap behind, word ∈ modifiers ∧ text = before ++ word ++ gap ++ behind ∧
    ¬ StandsAlone before (gap ++ behind) ∧ '\n' ∉ gap ∧
    Text.isWordBoundary (gap.getLast?.or word.getLast?) behind.head? = true ∧ CallsAt name behind

theorem declared_by_iff (name line : Text) : (Wanted.function name).declaredBy line = true ↔
    callWithin name false none (withoutComment line) = true ∧
      (behindModifier (callWithin name true) (withoutComment line) = true ∨
        ∃ word ∈ wordsBeforeCalls name none (withoutComment line), word ∉ statementKeywords) := by
  simp [Wanted.declaredBy]

theorem shaped_or_hidden_of_declared {line : Text}
    (declared : (Wanted.function name).declaredBy line = true) :
    DeclarationShaped name (withoutComment line) ∨ HiddenModifier name (withoutComment line) := by
  obtain ⟨-, modified | typed⟩ := (declared_by_iff name line).1 declared
  · obtain ⟨before, word, rest, member, parts, found⟩ := (behind_modifier_iff _ _).1 modified
    obtain ⟨gap, behind, rfl, unbroken, boundary, call⟩ := (call_within_iff _ _ _ _).1 found
    by_cases alone : StandsAlone before (gap ++ behind)
    · left
      refine ⟨before ++ word ++ gap, behind, ?_, call, .inl ⟨before, word, gap, member, rfl, alone⟩⟩
      rw [parts, List.append_assoc (before ++ word)]
    · right
      refine ⟨before, word, gap, behind, member, ?_, alone, unbroken rfl, boundary, call⟩
      rw [parts, List.append_assoc (before ++ word)]
  · obtain ⟨word, member, noStatement⟩ := typed
    obtain ⟨before, blanks, behind, direct, parts, call⟩ :=
      words_before_calls_sound name none _ word member
    exact .inl ⟨before ++ word ++ blanks, behind, parts, call,
      .inr ⟨before, word, blanks, rfl, direct, noStatement⟩⟩

theorem declared_of_hidden {line : Text} (hidden : HiddenModifier name (withoutComment line)) :
    (Wanted.function name).declaredBy line = true := by
  obtain ⟨before, word, gap, behind, member, parts, -, unbroken, boundary, call⟩ := hidden
  have last : (before ++ word ++ gap).getLast?.or none = gap.getLast?.or word.getLast? := by
    rw [List.getLast?_append, List.getLast?_append, Option.or_none]
    cases ends : word.getLast? with
    | none => exact absurd (List.getLast?_eq_none_iff.1 ends) (modifiers_nonempty word member)
    | some c => rfl
  refine (declared_by_iff name line).2 ⟨?_, .inl ?_⟩
  · refine (call_within_iff _ _ _ _).2 ⟨before ++ word ++ gap, behind, parts, ?_, ?_, call⟩
    · intro one
      cases one
    · rwa [last]
  · refine (behind_modifier_iff _ _).2 ⟨before, word, gap ++ behind, member, ?_, ?_⟩
    · rw [parts, List.append_assoc (before ++ word)]
    · exact (call_within_iff _ _ _ _).2 ⟨gap, behind, rfl, fun _ => unbroken, boundary, call⟩

/-- A line is taken for a declaration of a name only if it is shaped like one, just in so far as a
line with a modifier hidden in front of the call is. -/
theorem declared_only_shaped_iff (name line : Text) :
    ((Wanted.function name).declaredBy line = true → DeclarationShaped name (withoutComment line)) ↔
      (HiddenModifier name (withoutComment line) →
        DeclarationShaped name (withoutComment line)) := by
  constructor
  · intro shaped hidden
    exact shaped (declared_of_hidden hidden)
  · intro shaped declared
    exact (shaped_or_hidden_of_declared declared).elim id shaped

/-- A call on a variable whose name begins with the letters of a modifier. -/
def callSite : Text := "    finalResult.compute(() -> \x7b \x7d);".toList

theorem call_site_declared :
    (Wanted.function "compute".toList).declaredBy callSite = true ∧
      ¬ DeclarationShaped "compute".toList (withoutComment callSite) := by
  have carriedOn : ∀ before rest, withoutComment callSite = before ++ rest → ∀ word ∈ modifiers,
      word.isPrefixOf rest = true → (rest.drop word.length).head?.any Text.isWord = true :=
    Text.forall_cuts _ (by decide +kernel)
  have unspaced : ∀ front behind, withoutComment callSite = front ++ behind →
      "compute".toList.isPrefixOf behind = true → front.any Text.isBlank = false :=
    Text.forall_cuts _ (by decide +kernel)
  refine ⟨by decide, ?_⟩
  rintro ⟨front, behind, parts, call, modified | typed⟩
  · obtain ⟨before, word, gap, member, rfl, -, apart⟩ := modified
    have further := carriedOn before (word ++ (gap ++ behind)) (by simp [parts]) word member (by simp)
    rw [List.drop_left, apart] at further
    cases further
  · obtain ⟨before, word, blanks, rfl, direct, -⟩ := typed
    obtain ⟨b, member⟩ := List.exists_mem_of_ne_nil blanks direct.apart
    obtain ⟨spaces, rest, -, called⟩ := call
    have solid := unspaced _ behind parts (by simp [called])
    exact List.any_eq_false.1 solid b (by simp [member]) (direct.blank b member)

end Code

end FaultContext
