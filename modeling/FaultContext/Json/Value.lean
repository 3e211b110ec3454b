import FaultContext.Decimal.Binary64
import FaultContext.Text.Basic
import FaultContext.Text.Dictionary

/-!
# JSON values

What a JSON text says. Whole numbers of 64 bits, signed or unsigned, stay whole; every other number
is a double precision one. A string with a lone surrogate, a number beyond all doubles and an object
with such a string for a name are well-formed JSON and yet stand for nothing: they are `unreadable`,
which harms only who wants to look at them. A value can be put into order: the same value with the
members of every object in the order of their names, of two with one name the later one.
-/

namespace FaultContext.Json

set_option autoImplicit false

/-- A JSON value. The members of an object keep their order and their repetitions. -/
inductive Value where
  | null
  | bool (value : Bool)
  | integer (value : Int)
  | number (value : Binary64)
  | text (content : Text)
  | array (items : List Value)
  | object (members : List (Text × Value))
  | unreadable

/-- The members of an object, with nothing for a member that is left out. -/
def objectOf (members : List (Option (Text × Value))) : Value := .object (members.filterMap id)

def member? {α : Type} (name : String) (toValue : α → Value) (value : Option α) :
    Option (Text × Value) :=
  value.map fun v => (name.toList, toValue v)

def member (name : String) (value : Value) : Option (Text × Value) := some (name.toList, value)

def textOrNull : Option Text → Value
  | some content => .text content
  | none => .null

/-! ## Ordered members -/

mutual

/-- The value with ordered members, at every depth. -/
def ordered : Value → Value
  | .array items => .array (orderedItems items)
  | .object members => .object (Dictionary.ofList (orderedMembers members)).entries
  | .null => .null
  | .bool value => .bool value
  | .integer value => .integer value
  | .number value => .number value
  | .text content => .text content
  | .unreadable => .unreadable

def orderedItems : List Value → List Value
  | [] => []
  | item :: items => ordered item :: orderedItems items

def orderedMembers : List (Text × Value) → List (Text × Value)
  | [] => []
  | (name, value) :: members => (name, ordered value) :: orderedMembers members

end

end FaultContext.Json
