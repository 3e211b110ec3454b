import FaultContext.Json.Value
import FaultContext.Text.Basic

/-!
# Records inside JSON

How a record is taken out of a value. An object gives its fields by name: names outside the record
are passed over, whatever they hold, and a known name that comes twice is refused. An array gives
the fields by position; its tail may be missing as far as the fields there have a default.
-/

namespace FaultContext.Json

set_option autoImplicit false

/-- Takes a value of a type out of a JSON value. -/
abbrev Decoder (α : Type) := Value → Option α

def asText : Decoder Text
  | .text content => some content
  | _ => none

def asBool : Decoder Bool
  | .bool value => some value
  | _ => none

def asIntegerWithin (least greatest : Int) : Decoder Int
  | .integer value => if least ≤ value ∧ value ≤ greatest then some value else none
  | _ => none

/-- An unsigned number of 64 bits. -/
def asNat : Decoder Nat := fun value => (asIntegerWithin 0 Text.maxWord64 value).map Int.toNat

def minSigned64 : Int := -9223372036854775808

def maxSigned64 : Int := 9223372036854775807

def asSigned : Decoder Int := asIntegerWithin minSigned64 maxSigned64

def asList {α : Type} (item : Decoder α) : Decoder (List α)
  | .array items => items.mapM item
  | _ => none

def asNullable {α : Type} (decode : Decoder α) : Decoder (Option α)
  | .null => some none
  | value => (decode value).map some

/-- One of some named alternatives, given as its name or as an object that maps the name to null. -/
def asChoice {α : Type} (named : Text → Option α) : Decoder α
  | .text name => named name
  | .object [(name, .null)] => named name
  | _ => none

/-- The fields found in a value, and whether they were told apart by position. -/
structure Fields where
  positional : Bool
  found : List (Text × Value)

namespace Fields

def of? (names : List Text) : Value → Option Fields
  | .object members =>
      if names.all fun name => (members.filter fun m => m.1 == name).length ≤ 1 then
        some ⟨false, members⟩
      else none
  | .array items => if items.length ≤ names.length then some ⟨true, names.zip items⟩ else none
  | _ => none

def required {α : Type} (fields : Fields) (name : String) (decode : Decoder α) : Option α :=
  (fields.found.lookup name.toList).bind decode

/-- A field that may be absent from an object, though not from an array, and may be null. -/
def nullable {α : Type} (fields : Fields) (name : String) (decode : Decoder α) :
    Option (Option α) :=
  match fields.found.lookup name.toList with
  | some value => asNullable decode value
  | none => if fields.positional then none else some none

def withDefault {α : Type} (fields : Fields) (name : String) (default : α) (decode : Decoder α) :
    Option α :=
  match fields.found.lookup name.toList with
  | some value => decode value
  | none => some default

end Fields

end FaultContext.Json
