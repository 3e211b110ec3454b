import FaultContext.Json.Numeral

/-!
# Reading JSON

The strict grammar: nothing but blanks around the one value, no comments, no trailing commas, no
control characters inside strings. The reader is bounded by a budget of steps that the length of the
text pays for.
-/

namespace FaultContext.Json

set_option autoImplicit false

def isSpace (c : Char) : Bool := c = ' ' || c = '\n' || c = '\t' || c = '\r'

def skipSpace (text : Text) : Text := text.dropWhile isSpace

def hexDigit? (c : Char) : Option Nat :=
  if c.isDigit then some (c.toNat - '0'.toNat)
  else if 'a' ≤ c ∧ c ≤ 'f' then some (c.toNat - 'a'.toNat + 10)
  else if 'A' ≤ c ∧ c ≤ 'F' then some (c.toNat - 'A'.toNat + 10)
  else none

def hexUnit? (a b c d : Char) : Option Nat := do
  return (((← hexDigit? a) * 16 + (← hexDigit? b)) * 16 + (← hexDigit? c)) * 16 + (← hexDigit? d)

def isHighSurrogate (unit : Nat) : Bool := 0xd800 ≤ unit && unit ≤ 0xdbff

def isLowSurrogate (unit : Nat) : Bool := 0xdc00 ≤ unit && unit ≤ 0xdfff

def pairChar (high low : Nat) : Char :=
  Char.ofNat (0x10000 + (high - 0xd800) * 0x400 + (low - 0xdc00))

def escapedChar? : Char → Option Char
  | '"' => some '"'
  | '\\' => some '\\'
  | '/' => some '/'
  | 'b' => some '\x08'
  | 'f' => some '\x0c'
  | 'n' => some '\n'
  | 'r' => some '\r'
  | 't' => some '\t'
  | _ => none

/-- Puts a character in front of the content of a string. The content is missing for good when half a
surrogate pair came before the character. -/
def consChar (pending : Option Nat) (c : Char) (tail : Option Text × Text) : Option Text × Text :=
  (if pending.isSome then none else tail.1.map (c :: ·), tail.2)

/-- The rest of a string and what follows its closing quote, when `pending` is a first half of a
surrogate pair that came directly before. The content is missing when a half stays alone. -/
def readString? (pending : Option Nat) : Text → Option (Option Text × Text)
  | [] => none
  | '"' :: rest => some (if pending.isSome then none else some [], rest)
  | '\\' :: 'u' :: a :: b :: c :: d :: rest =>
      match hexUnit? a b c d, pending with
      | none, _ => none
      | some unit, some high =>
          if isLowSurrogate unit then
            (readString? none rest).map (consChar none (pairChar high unit))
          else (readString? none rest).map fun tail => (none, tail.2)
      | some unit, none =>
          if isHighSurrogate unit then readString? (some unit) rest
          else if isLowSurrogate unit then (readString? none rest).map fun tail => (none, tail.2)
          else (readString? none rest).map (consChar none (Char.ofNat unit))
  | '\\' :: c :: rest =>
      match escapedChar? c with
      | none => none
      | some escaped => (readString? none rest).map (consChar pending escaped)
  | c :: rest =>
      if c = '\\' ∨ c.toNat < 0x20 then none
      else (readString? none rest).map (consChar pending c)

def stringValue : Option Text → Value
  | some content => .text content
  | none => .unreadable

/-- An object from its members, whose names may be missing. -/
def objectValue (members : List (Option Text × Value)) : Value :=
  match members.mapM fun m => m.1.map fun name => (name, m.2) with
  | some named => .object named
  | none => .unreadable

mutual

def readValue? : Nat → Text → Option (Value × Text)
  | 0, _ => none
  | budget + 1, text =>
      match skipSpace text with
      | [] => none
      | 'n' :: 'u' :: 'l' :: 'l' :: rest => some (.null, rest)
      | 't' :: 'r' :: 'u' :: 'e' :: rest => some (.bool true, rest)
      | 'f' :: 'a' :: 'l' :: 's' :: 'e' :: rest => some (.bool false, rest)
      | '"' :: rest => (readString? none rest).map fun found => (stringValue found.1, found.2)
      | '[' :: rest =>
          match skipSpace rest with
          | ']' :: after => some (.array [], after)
          | _ => (readItems? budget rest).map fun found => (.array found.1, found.2)
      | '{' :: rest =>
          match skipSpace rest with
          | '}' :: after => some (.object [], after)
          | _ => (readMembers? budget rest).map fun found => (objectValue found.1, found.2)
      | other => (readNumeral? other).map fun found => (found.1.value, found.2)

/-- The items of a non-empty array and what follows its closing bracket. -/
def readItems? : Nat → Text → Option (List Value × Text)
  | 0, _ => none
  | budget + 1, text =>
      match readValue? budget text with
      | none => none
      | some (item, rest) =>
          match skipSpace rest with
          | ',' :: further =>
              (readItems? budget further).map fun found => (item :: found.1, found.2)
          | ']' :: after => some ([item], after)
          | _ => none

/-- The members of a non-empty object and what follows its closing brace. -/
def readMembers? : Nat → Text → Option (List (Option Text × Value) × Text)
  | 0, _ => none
  | budget + 1, text =>
      match skipSpace text with
      | '"' :: opened =>
          match readString? none opened with
          | none => none
          | some (name, afterName) =>
              match skipSpace afterName with
              | ':' :: afterColon =>
                  match readValue? budget afterColon with
                  | none => none
                  | some (value, rest) =>
                      match skipSpace rest with
                      | ',' :: further =>
                          (readMembers? budget further).map fun found =>
                            ((name, value) :: found.1, found.2)
                      | '}' :: after => some ([(name, value)], after)
                      | _ => none
              | _ => none
      | _ => none

end

/-- More steps than reading a text can take: no call passes on more than half a character a step. -/
def budgetFor (text : Text) : Nat := 2 * text.length + 2

def read? (text : Text) : Option Value :=
  match readValue? (budgetFor text) text with
  | some (value, rest) => if (skipSpace rest).isEmpty then some value else none
  | none => none

end FaultContext.Json
