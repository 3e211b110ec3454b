import FaultContext.Json.Reader
import FaultContext.Text.Basic

/-!
# YAML nodes

What a YAML document says before anyone asks for types: scalars with a note on whether they were
quoted, lists, and mappings with their entries in order. Only a scalar without quotes can stand for a
number, a truth value or nothing, while a text may be any scalar, also one that looks like a number.
-/

namespace FaultContext.Yaml

set_option autoImplicit false

inductive Node where
  | scalar (plain : Bool) (content : Text)
  | sequence (items : List Node)
  | mapping (entries : List (Node × Node))

def Node.absent : Node := .scalar true []

def nullSpellings : List Text := ["", "~", "null", "Null", "NULL"].map String.toList

def Node.isNull : Node → Bool
  | .scalar true content => nullSpellings.contains content
  | _ => false

/-- A place in a document: the text from there on, the column, and whether only blanks stand before
it on its line. -/
structure Cursor where
  rest : Text
  column : Nat
  fresh : Bool

namespace Cursor

def start (text : Text) : Cursor := ⟨text, 0, true⟩

/-- Whether a token that needs a blank behind it ends here. -/
def blankAt : Text → Bool
  | [] => true
  | c :: _ => c = ' ' || c = '\t' || c = '\n'

/-- Whether three equal characters at the start of a line separate documents here. -/
def separates (c : Char) (cursor : Cursor) : Bool :=
  cursor.column == 0 &&
    match cursor.rest with
    | x :: y :: z :: rest => x = c && y = c && z = c && blankAt rest
    | _ => false

def ends (cursor : Cursor) : Bool :=
  cursor.rest.isEmpty || cursor.separates '-' || cursor.separates '.'

def atEntry (cursor : Cursor) : Bool :=
  match cursor.rest with
  | '-' :: rest => blankAt rest
  | _ => false

def advance (cursor : Cursor) (count : Nat) : Cursor :=
  ⟨cursor.rest.drop count, cursor.column + count, false⟩

/-- The next place that is neither blank nor in a comment. In a block, tabs are passed over only with
`tabs` and only up to the end of the line. -/
def skip (flow tabs comment fresh : Bool) (column : Nat) : Text → Cursor
  | [] => ⟨[], column, fresh⟩
  | c :: rest =>
      if c = '\n' then skip flow flow false true 0 rest
      else if comment then skip flow tabs true fresh (column + 1) rest
      else if c = ' ' ∨ (c = '\t' ∧ (tabs ∨ flow)) then skip flow tabs false fresh (column + 1) rest
      else if c = '#' then skip flow tabs true fresh (column + 1) rest
      else ⟨c :: rest, column, fresh⟩

def inFlow (cursor : Cursor) : Cursor :=
  skip true true false cursor.fresh cursor.column cursor.rest

def inBlock (cursor : Cursor) (tabs : Bool) : Cursor :=
  skip false tabs false cursor.fresh cursor.column cursor.rest

end Cursor

/-! ## Values of nodes -/

def trueSpellings : List Text := ["true", "True", "TRUE"].map String.toList

def falseSpellings : List Text := ["false", "False", "FALSE"].map String.toList

def asText : Node → Option Text
  | .scalar _ content => some content
  | _ => none

def asBool : Node → Option Bool
  | .scalar true content =>
      if trueSpellings.contains content then some true
      else if falseSpellings.contains content then some false
      else none
  | _ => none

/-- The digits of a base as a number of 64 bits. -/
def inBase? (base : Nat) (digits : Text) : Option Nat := do
  if digits.isEmpty then none
  let value ← digits.foldlM (fun value c => do
    let digit ← Json.hexDigit? c
    if digit < base then some (value * base + digit) else none) 0
  if value ≤ Text.maxWord64 then some value else none

/-- A number without a sign in a base that its first characters tell. Leading zeros make a text of
what would be a decimal number. -/
def unsigned? (content : Text) : Option Nat :=
  let digits :=
    match content with
    | '+' :: rest => rest
    | _ => content
  match digits with
  | '0' :: 'x' :: rest => inBase? 16 rest
  | '0' :: 'o' :: rest => inBase? 8 rest
  | '0' :: 'b' :: rest => inBase? 2 rest
  | '0' :: _ :: _ => none
  | _ => inBase? 10 digits

def asNat : Node → Option Nat
  | .scalar true content => unsigned? content
  | _ => none

def asList {α : Type} (item : Node → Option α) : Node → Option (List α)
  | .sequence items => items.mapM item
  | _ => none

def asChoice {α : Type} (named : Text → Option α) (node : Node) : Option α := (asText node).bind named

/-- The fields of a record with these field names, all of whose names are texts and none of which
comes twice. The node of no document has no fields, and a list gives all fields by position. -/
def fields? (names : List Text) : Node → Option (List (Text × Node))
  | .mapping entries => do
      let named ← entries.mapM fun entry => (asText entry.1).map fun name => (name, entry.2)
      if names.all fun name => (named.filter fun field => field.1 == name).length ≤ 1 then some named
      else none
  | .scalar true [] => some []
  | .sequence items => if items.length = names.length then some (names.zip items) else none
  | _ => none

end FaultContext.Yaml
