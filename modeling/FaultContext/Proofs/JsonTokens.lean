import Mathlib.Tactic.SplitIfs
import FaultContext.Json.Reader
import FaultContext.Json.Writer

/-!
# Strings and whole numbers, written and read

A written string is read back whatever its characters are, and a whole number of 64 bits, signed or
not, is read back where nothing follows that a number could go on with.
-/

namespace FaultContext.Json

set_option autoImplicit false

section Strings

variable {c letter : Char}

theorem read_escape (known : escapedChar? letter = some c) (rest : Text) :
    readString? none ('\\' :: letter :: rest) = (readString? none rest).map (consChar none c) := by
  have named : letter ≠ 'u' := by
    rintro rfl
    cases known
  rw [readString?]
  · rw [known]
  · intro _ _ _ _ _ unicode
    exact absurd unicode named

theorem hex_unit_of_control : ∀ code < 0x20,
    hexUnit? '0' '0' (hexChar (code / 16)) (hexChar (code % 16)) = some code := by
  decide

theorem control_is_no_surrogate : ∀ code < 0x20,
    isHighSurrogate code = false ∧ isLowSurrogate code = false := by
  decide

theorem read_control (control : c.toNat < 0x20) (rest : Text) :
    readString? none
        ('\\' :: 'u' :: '0' :: '0' :: hexChar (c.toNat / 16) :: hexChar (c.toNat % 16) :: rest) =
      (readString? none rest).map (consChar none c) := by
  obtain ⟨high, low⟩ := control_is_no_surrogate c.toNat control
  rw [readString?.eq_def]
  simp only [hex_unit_of_control c.toNat control, high, low, Bool.false_eq_true, if_false,
    Char.ofNat_toNat]

theorem read_plain (quote : c ≠ '"') (backslash : c ≠ '\\') (printable : ¬c.toNat < 0x20)
    (rest : Text) :
    readString? none (c :: rest) = (readString? none rest).map (consChar none c) := by
  rw [readString?]
  · rw [if_neg]
    rintro (escape | control)
    · exact backslash escape
    · exact printable control
  · exact fun same => absurd same quote
  · exact fun _ _ _ _ _ same _ => absurd same backslash
  · exact fun _ _ same _ => absurd same backslash

theorem read_char (c : Char) (rest : Text) :
    readString? none (writeChar c ++ rest) = (readString? none rest).map (consChar none c) := by
  rw [writeChar]
  split_ifs with quote backslash backspace feed newline carriage tab control
  · subst quote
    exact read_escape rfl rest
  · subst backslash
    exact read_escape rfl rest
  · subst backspace
    exact read_escape rfl rest
  · subst feed
    exact read_escape rfl rest
  · subst newline
    exact read_escape rfl rest
  · subst carriage
    exact read_escape rfl rest
  · subst tab
    exact read_escape rfl rest
  · exact read_control control rest
  · exact read_plain quote backslash control rest

theorem read_string (content rest : Text) :
    readString? none (content.flatMap writeChar ++ '"' :: rest) = some (some content, rest) := by
  induction content with
  | nil => rfl
  | cons c content ih =>
      rw [List.flatMap_cons, List.append_assoc, read_char, ih]
      rfl

theorem write_char_printable (c : Char) : ∀ d ∈ writeChar c, 0x20 ≤ d.toNat := by
  have hex : ∀ n < 16, 0x20 ≤ (hexChar n).toNat := by decide
  rw [writeChar]
  split_ifs with quote backslash backspace feed newline carriage tab control
  all_goals simp only [List.mem_cons, List.not_mem_nil, or_false, forall_eq_or_imp, forall_eq]
  · decide
  · decide
  · decide
  · decide
  · decide
  · decide
  · decide
  · exact ⟨by decide, by decide, by decide, by decide, hex _ (by omega), hex _ (by omega)⟩
  · omega

end Strings

section WholeNumbers

/-- What a number cannot go on with. -/
def EndsNumber (rest : Text) : Prop :=
  ∀ c ∈ rest.head?, c.isDigit = false ∧ c ≠ '.' ∧ c ≠ 'e' ∧ c ≠ 'E'

variable {rest : Text}

theorem digit_run_append {digits : Text} (all : ∀ c ∈ digits, c.isDigit = true)
    (ends : EndsNumber rest) : digitRun (digits ++ rest) = (digits, rest) := by
  have taken : rest.takeWhile Char.isDigit = [] := by
    cases rest with
    | nil => rfl
    | cons c rest => exact List.takeWhile_cons_of_neg (by simp [(ends c rfl).1])
  have dropped : rest.dropWhile Char.isDigit = rest := by
    cases rest with
    | nil => rfl
    | cons c rest => exact List.dropWhile_cons_of_neg (by simp [(ends c rfl).1])
  rw [digitRun, List.takeWhile_append_of_pos all, List.dropWhile_append_of_pos all, taken, dropped,
    List.append_nil]

theorem absorb_all (digits : Text) (value : Nat)
    (fits : Nat.ofDigitChars 10 digits value ≤ Text.maxWord64) :
    Numeral.absorb value digits = (Nat.ofDigitChars 10 digits value, []) := by
  induction digits generalizing value with
  | nil => rfl
  | cons c digits ih =>
      rw [Nat.ofDigitChars_cons, Nat.mul_comm] at fits
      have grown : value * 10 + (c.toNat - '0'.toNat) ≤
          Nat.ofDigitChars 10 digits (value * 10 + (c.toNat - '0'.toNat)) := by
        rw [Nat.ofDigitChars_eq_ofDigitChars_zero]
        have base : 0 < 10 ^ digits.length := Nat.pow_pos (by decide)
        exact Nat.le_trans (Nat.le_mul_of_pos_left _ base) (Nat.le_add_right _ _)
      rw [Numeral.absorb, if_pos (Nat.le_trans grown fits), ih _ fits, Nat.ofDigitChars_cons,
        Nat.mul_comm]

theorem absorb_of_nat {n : Nat} (fits : n ≤ Text.maxWord64) :
    Numeral.absorb 0 (Text.ofNat n) = (n, []) := by
  have digits : Nat.ofDigitChars 10 (Text.ofNat n) 0 = n :=
    Nat.ofDigitChars_toDigits (by decide) (by decide)
  have bounded : Nat.ofDigitChars 10 (Text.ofNat n) 0 ≤ Text.maxWord64 := by
    rw [digits]
    exact fits
  rw [absorb_all (Text.ofNat n) 0 bounded, digits]

theorem first_digit_nonzero (n : Nat) (positive : 0 < n) : (Text.ofNat n).head? ≠ some '0' := by
  induction n using Nat.strongRecOn with
  | ind n ih =>
      rw [Text.ofNat, Nat.toDigits_eq_if (by decide)]
      split
      · intro zero
        have digit : n.digitChar = '0' := Option.some.inj zero
        rw [Nat.digitChar_eq_zero] at digit
        omega
      · -- A number of two digits or more begins as it does without its last digit.
        obtain ⟨c, digits, front⟩ := List.exists_cons_of_ne_nil (Nat.toDigits_ne_nil (n := n / 10) (b := 10))
        have earlier := ih (n / 10) (by omega) (by omega)
        rw [Text.ofNat, front] at earlier
        rw [front]
        exact earlier

theorem read_whole (n : Nat) (ends : EndsNumber rest) :
    readWhole? (Text.ofNat n ++ rest) = some (Text.ofNat n, rest) := by
  have all : ∀ c ∈ Text.ofNat n, c.isDigit = true := fun c => Text.is_digit_of_mem_of_nat
  rw [readWhole?, digit_run_append all ends]
  rcases Nat.eq_zero_or_pos n with rfl | positive
  · rfl
  · have first := first_digit_nonzero n positive
    have some_digit : Text.ofNat n ≠ [] := Nat.toDigits_ne_nil
    split
    · exact absurd ‹_› some_digit
    · rfl
    · simp_all
    · rfl

theorem read_fraction_none (ends : EndsNumber rest) : readFraction? rest = some (none, rest) := by
  cases rest with
  | nil => rfl
  | cons c rest =>
      rw [readFraction?]
      exact fun _ spelled => (ends c rfl).2.1 (List.cons.inj spelled).1

theorem read_exponent_none (ends : EndsNumber rest) : readExponent? rest = some (none, rest) := by
  cases rest with
  | nil => rfl
  | cons c rest =>
      obtain ⟨-, -, lower, upper⟩ := ends c rfl
      rw [readExponent?.eq_def]
      simp only [lower, upper, or_self, if_false]

theorem read_unsigned (n : Nat) (ends : EndsNumber rest) :
    readNumeral? (Text.ofNat n ++ rest) = some (⟨false, Text.ofNat n, none, none⟩, rest) := by
  have whole := read_whole n ends
  obtain ⟨c, digits, spelled⟩ := List.exists_cons_of_ne_nil (l := Text.ofNat n) Nat.toDigits_ne_nil
  have member : c ∈ Text.ofNat n := by
    rw [spelled]
    exact List.mem_cons_self
  have digit := Text.is_digit_of_mem_of_nat member
  have sign : c ≠ '-' := by
    rintro rfl
    revert digit
    decide
  rw [spelled, List.cons_append] at whole ⊢
  rw [readNumeral?.eq_def]
  split
  rename_i negative unsigned parts
  split at parts
  · rename_i negated
    exact absurd (List.cons.inj negated).1 sign
  · cases parts
    simp only [whole, read_fraction_none ends, read_exponent_none ends, Option.bind_eq_bind,
      Option.bind_some, Option.pure_def]

theorem read_negative (n : Nat) (ends : EndsNumber rest) :
    readNumeral? ('-' :: (Text.ofNat n ++ rest)) = some (⟨true, Text.ofNat n, none, none⟩, rest) := by
  simp only [readNumeral?, read_whole n ends, read_fraction_none ends, read_exponent_none ends,
    Option.bind_eq_bind, Option.bind_some, Option.pure_def]

theorem value_unsigned {n : Nat} (fits : n ≤ Text.maxWord64) :
    Numeral.value ⟨false, Text.ofNat n, none, none⟩ = .integer n := by
  simp [Numeral.value, absorb_of_nat fits]

theorem value_negative {n : Nat} (fits : Numeral.minInteger ≤ Int.negSucc n) :
    Numeral.value ⟨true, Text.ofNat (n + 1), none, none⟩ = .integer (Int.negSucc n) := by
  have bounded : n + 1 ≤ Text.maxWord64 := by
    simp only [Numeral.minInteger, Text.maxWord64] at fits ⊢
    omega
  have signed : Numeral.minInteger ≤ -((n + 1 : Nat) : Int) := fits
  have whole : n + 1 ≠ 0 := Nat.succ_ne_zero n
  simp only [Numeral.value, absorb_of_nat bounded, Option.isNone_none, List.isEmpty_nil,
    Bool.and_true, Bool.not_true, Bool.and_false, Bool.false_eq_true, if_false, whole, ne_eq,
    not_false_eq_true, signed, decide_true, if_true]
  rfl

theorem read_integer {value : Int} (least : Numeral.minInteger ≤ value)
    (greatest : value ≤ Text.maxWord64) (ends : EndsNumber rest) :
    (readNumeral? (Text.ofInt value ++ rest)).map (fun found => (found.1.value, found.2)) =
      some (.integer value, rest) := by
  cases value with
  | ofNat n =>
      rw [Text.ofInt, read_unsigned n ends, Option.map_some, value_unsigned (Int.ofNat_le.1 greatest)]
      rfl
  | negSucc n =>
      rw [Text.ofInt, List.cons_append, read_negative (n + 1) ends, Option.map_some,
        value_negative least]

end WholeNumbers

end FaultContext.Json
