/-!
# Text as a list of characters

Traces, source files and wire formats are read character by character, so a text is kept as its list
of characters and every operation on it is a recursion over that list. Positions never appear: a
text is cut into its parts, and the parts put back together give the text.

A line ends at a line feed, and one carriage return directly before that line feed belongs to the
line end. A carriage return anywhere else is an ordinary character, and a text that ends with a line
feed has no empty line after it.

In an unsigned decimal numeral a plus sign may come first and leading zeros are allowed, and a number
beyond the bound is no numeral at all.
-/

namespace FaultContext

set_option autoImplicit false

/-- A text is the list of its characters. -/
abbrev Text := List Char

namespace Text

def occurs (needle : Text) : Text → Bool
  | [] => needle.isEmpty
  | c :: rest => needle.isPrefixOf (c :: rest) || occurs needle rest

/-- The rest of the text after `lead`, when the text begins with it. -/
def strip? (lead : Text) (text : Text) : Option Text :=
  if lead.isPrefixOf text then some (text.drop lead.length) else none

/-- The parts before and after the first `mark`. -/
def cutFirst? (mark : Char) : Text → Option (Text × Text)
  | [] => none
  | c :: rest =>
      if c = mark then some ([], rest)
      else (cutFirst? mark rest).map fun parts => (c :: parts.1, parts.2)

def cutLast? (mark : Char) : Text → Option (Text × Text)
  | [] => none
  | c :: rest =>
      match cutLast? mark rest with
      | some parts => some (c :: parts.1, parts.2)
      | none => if c = mark then some ([], rest) else none

/-- The text before the first `needle`, or all of it. -/
def before (needle : Text) : Text → Text
  | [] => []
  | c :: rest => if needle.isPrefixOf (c :: rest) then [] else c :: before needle rest

/-- The pieces between the marks; always one more than there are marks. -/
def split (mark : Char) : Text → List Text
  | [] => [[]]
  | c :: rest =>
      if c = mark then [] :: split mark rest
      else
        match split mark rest with
        | [] => [[c]]
        | piece :: pieces => (c :: piece) :: pieces

def replace (old new : Char) (text : Text) : Text :=
  text.map fun c => if c = old then new else c

def join (between : Text) : List Text → Text
  | [] => []
  | [piece] => piece
  | piece :: next :: pieces => piece ++ between ++ join between (next :: pieces)

def ofNat (n : Nat) : Text := Nat.toDigits 10 n

def ofInt : Int → Text
  | .ofNat n => ofNat n
  | .negSucc n => '-' :: ofNat (n + 1)

theorem is_digit_of_mem_of_nat {n : Nat} {c : Char} (member : c ∈ ofNat n) : c.isDigit = true :=
  Nat.isDigit_of_mem_toDigits (by decide) (by decide) member

theorem occurs_iff_infix {needle text : Text} : occurs needle text = true ↔ needle <:+: text := by
  induction text with
  | nil => simp [occurs]
  | cons c text ih =>
      rw [occurs, Bool.or_eq_true, ih, List.isPrefixOf_iff_prefix, List.infix_cons_iff]

theorem strip_eq_some_iff {lead text rest : Text} :
    strip? lead text = some rest ↔ text = lead ++ rest := by
  rw [strip?]
  constructor
  · intro found
    split at found
    · rename_i begins
      obtain ⟨behind, rfl⟩ := List.isPrefixOf_iff_prefix.1 begins
      simpa using found
    · cases found
  · rintro rfl
    simp

theorem cutLast?_eq_some {mark : Char} {text left right : Text}
    (cut : cutLast? mark text = some (left, right)) :
    text = left ++ mark :: right := by
  induction text generalizing left with
  | nil => simp [cutLast?] at cut
  | cons c rest ih =>
      rw [cutLast?] at cut
      split at cut
      · rename_i parts found
        obtain ⟨rfl, rfl⟩ := Prod.mk.inj (Option.some.inj cut)
        rw [ih found, List.cons_append]
      · split at cut
        · rename_i same
          obtain ⟨rfl, rfl⟩ := Prod.mk.inj (Option.some.inj cut)
          simp [same]
        · simp at cut

theorem cut_last_eq_none_iff (mark : Char) (text : Text) :
    cutLast? mark text = none ↔ mark ∉ text := by
  induction text with
  | nil => simp [cutLast?]
  | cons c rest ih =>
      rw [cutLast?]
      cases cut : cutLast? mark rest with
      | some parts =>
          have present : mark ∈ rest := by
            rw [cutLast?_eq_some cut]
            simp
          simp [present]
      | none =>
          have absent := ih.1 cut
          by_cases same : c = mark
          · simp [same]
          · simp [same, Ne.symm same, absent]

/-- A part without the mark at the end of a text is what lies behind the last mark. -/
theorem cut_last_append {mark : Char} {back : Text} (absent : mark ∉ back) (front : Text) :
    cutLast? mark (front ++ mark :: back) = some (front, back) := by
  induction front with
  | nil =>
      rw [List.nil_append, cutLast?, (cut_last_eq_none_iff mark back).2 absent]
      simp
  | cons c front ih => rw [List.cons_append, cutLast?, ih]

theorem not_mem_replace {old new : Char} (apart : new ≠ old) (text : Text) :
    old ∉ replace old new text := by
  intro left
  obtain ⟨c, -, becomes⟩ := List.mem_map.1 left
  split at becomes
  · exact apart becomes
  · rename_i other
    exact other becomes

/-- A cut leaves a shorter part on the left, which is what ends a recursion on it. -/
theorem length_lt_of_cutLast? {mark : Char} {text left right : Text}
    (cut : cutLast? mark text = some (left, right)) :
    left.length < text.length := by
  rw [cutLast?_eq_some cut]
  simp

/-! ## Lines -/

def lines : Text → List Text
  | [] => []
  | '\n' :: rest => [] :: lines rest
  | '\r' :: '\n' :: rest => [] :: lines rest
  | c :: rest =>
      match lines rest with
      | [] => [[c]]
      | line :: others => (c :: line) :: others

/-- The inverse for lines that hold no line ends: each line followed by a line feed. -/
def unlines (ls : List Text) : Text := ls.flatMap fun line => line ++ ['\n']

/-! ## Numerals -/

def digitsValue (digits : Text) : Nat :=
  digits.foldl (fun value c => value * 10 + (c.toNat - '0'.toNat)) 0

/-- The value of a non-empty run of ASCII digits. -/
def readDigits? (text : Text) : Option Nat :=
  if !text.isEmpty && text.all Char.isDigit then some (digitsValue text) else none

def readNumeral? (bound : Nat) (text : Text) : Option Nat :=
  let digits :=
    match text with
    | '+' :: rest => rest
    | _ => text
  (readDigits? digits).filter (· ≤ bound)

def maxWord32 : Nat := 4294967295

def maxWord64 : Nat := 18446744073709551615

end Text

end FaultContext
