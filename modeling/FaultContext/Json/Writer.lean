import FaultContext.Decimal.Shortest
import FaultContext.Json.Value

/-!
# Writing JSON

Two layouts of the same tokens: compact, with no blanks at all, and indented, with two blanks a
level. Strings escape the quote, the backslash and the control characters and nothing else, so the
compact form never holds a line end.
-/

namespace FaultContext.Json

set_option autoImplicit false

/-- Doubles are written positionally from `10 ^ -5` up to below `10 ^ 16`. -/
def numberLayout : Decimal.Layout where
  least := -5
  greatest := 15

/-- A double as a number. What is no number is written as null. -/
def writeNumber : Binary64 → Text
  | .finite negative significand exponent =>
      Decimal.render numberLayout negative significand exponent
  | _ => "null".toList

def hexChar (n : Nat) : Char := if n < 10 then Char.ofNat ('0'.toNat + n) else Char.ofNat ('a'.toNat + (n - 10))

def writeChar (c : Char) : Text :=
  if c = '"' then ['\\', '"']
  else if c = '\\' then ['\\', '\\']
  else if c = '\x08' then ['\\', 'b']
  else if c = '\x0c' then ['\\', 'f']
  else if c = '\n' then ['\\', 'n']
  else if c = '\r' then ['\\', 'r']
  else if c = '\t' then ['\\', 't']
  else if c.toNat < 0x20 then ['\\', 'u', '0', '0', hexChar (c.toNat / 16), hexChar (c.toNat % 16)]
  else [c]

def writeString (content : Text) : Text := '"' :: content.flatMap writeChar ++ ['"']

mutual

def compact : Value → Text
  | .null => "null".toList
  | .bool true => "true".toList
  | .bool false => "false".toList
  | .integer value => Text.ofInt value
  | .number value => writeNumber value
  | .text content => writeString content
  | .array [] => ['[', ']']
  | .array (item :: items) => '[' :: (compact item ++ compactItems items)
  | .object [] => ['{', '}']
  | .object ((name, value) :: members) =>
      '{' :: (writeString name ++ ':' :: compact value ++ compactMembers members)
  | .unreadable => "null".toList

/-- The further items of an array and its closing bracket. -/
def compactItems : List Value → Text
  | [] => [']']
  | item :: items => ',' :: (compact item ++ compactItems items)

/-- The further members of an object and its closing brace. -/
def compactMembers : List (Text × Value) → Text
  | [] => ['}']
  | (name, value) :: members =>
      ',' :: (writeString name ++ ':' :: compact value ++ compactMembers members)

end

/-- A new line with two blanks for each level. -/
def lineBreak (level : Nat) : Text := '\n' :: List.replicate (2 * level) ' '

mutual

/-- A value over several lines, inside `level` brackets. -/
def indented (level : Nat) : Value → Text
  | .array [] => ['[', ']']
  | .array (item :: items) =>
      '[' :: (lineBreak (level + 1) ++ indented (level + 1) item ++ indentedItems level items)
  | .object [] => ['{', '}']
  | .object ((name, value) :: members) =>
      '{' :: (lineBreak (level + 1) ++ writeString name ++ ':' :: ' ' :: indented (level + 1) value ++
        indentedMembers level members)
  | .null => "null".toList
  | .bool true => "true".toList
  | .bool false => "false".toList
  | .integer value => Text.ofInt value
  | .number value => writeNumber value
  | .text content => writeString content
  | .unreadable => "null".toList

def indentedItems (level : Nat) : List Value → Text
  | [] => lineBreak level ++ [']']
  | item :: items =>
      ',' :: (lineBreak (level + 1) ++ indented (level + 1) item ++ indentedItems level items)

def indentedMembers (level : Nat) : List (Text × Value) → Text
  | [] => lineBreak level ++ ['}']
  | (name, value) :: members =>
      ',' :: (lineBreak (level + 1) ++ writeString name ++ ':' :: ' ' :: indented (level + 1) value ++
        indentedMembers level members)

end

def pretty (value : Value) : Text := indented 0 value

end FaultContext.Json
