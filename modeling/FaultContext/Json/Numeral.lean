import FaultContext.Json.Value
import FaultContext.Text.Basic

/-!
# JSON numbers

The spelling of a number and the value it stands for. A number without fraction and exponent is
whole while it fits into 64 bits. Otherwise its leading digits, as many as fit into 64 bits, are
rounded to a double first and then multiplied or divided by a power of ten, each step rounded: the
result may be a neighbour of the nearest double.
-/

namespace FaultContext.Json

set_option autoImplicit false

/-- The parts of a spelled number. The exponent is its digits and whether a minus comes first. -/
structure Numeral where
  negative : Bool
  whole : Text
  fraction : Option Text
  exponent : Option (Bool × Text)
deriving DecidableEq, Repr

namespace Numeral

/-- Takes digits while the number they extend fits into 64 bits: the number, and the digits left. -/
def absorb (value : Nat) : Text → Nat × Text
  | [] => (value, [])
  | c :: rest =>
      let next := value * 10 + (c.toNat - '0'.toNat)
      if next ≤ Text.maxWord64 then absorb next rest else (value, c :: rest)

/-- The greatest power of ten among the doubles is `10 ^ 308`. -/
def greatestPower : Nat := 308

def powerOfTen (k : Nat) : Binary64 := Binary64.ofNat (Nat.pow 10 k)

/-- Divides by `10 ^ k`, in steps of the greatest power. -/
def scaleDown (x : Binary64) (k : Nat) : Binary64 :=
  if k ≤ greatestPower then x.div (powerOfTen k)
  else if x.isZero then x
  else scaleDown (x.div (powerOfTen greatestPower)) (k - greatestPower)
termination_by k
decreasing_by
  simp only [greatestPower] at *
  omega

/-- The double of `significand * 10 ^ exponent`, or nothing when it is too large. -/
def ofParts? (significand : Nat) (exponent : Int) : Option Binary64 :=
  let x := Binary64.ofNat significand
  if 0 ≤ exponent then
    if exponent.toNat ≤ greatestPower then
      let scaled := x.mul (powerOfTen exponent.toNat)
      if scaled.isInfinite then none else some scaled
    else if x.isZero then some x
    else none
  else some (scaleDown x exponent.natAbs)

def maxExponent : Nat := 2147483647

def withExponent? (significand : Nat) (start : Int) : Option (Bool × Text) → Option Binary64
  | none => ofParts? significand start
  | some (down, digits) =>
      let spelled := Text.digitsValue digits
      if spelled ≤ maxExponent then
        ofParts? significand (if down then start - spelled else start + spelled)
      else if significand = 0 ∨ down then some (Binary64.ofNat 0)
      else none

/-- The magnitude as a double. Digits of the whole part that do not fit raise the exponent, and
digits of the fraction that do not fit are dropped. -/
def magnitude? (numeral : Numeral) : Option Binary64 :=
  let whole := absorb 0 numeral.whole
  match numeral.fraction with
  | none => withExponent? whole.1 whole.2.length numeral.exponent
  | some fraction =>
      let extended := absorb whole.1 fraction
      let taken := fraction.length - extended.2.length
      withExponent? extended.1 ((whole.2.length : Int) - taken) numeral.exponent

def minInteger : Int := -9223372036854775808

/-- The value of a number. Minus zero is not whole. -/
def value (numeral : Numeral) : Value :=
  let whole := absorb 0 numeral.whole
  let spelledWhole := numeral.fraction.isNone && numeral.exponent.isNone && whole.2.isEmpty
  if spelledWhole && !numeral.negative then .integer whole.1
  else if spelledWhole && whole.1 ≠ 0 && minInteger ≤ -(whole.1 : Int) then .integer (-(whole.1 : Int))
  else
    match numeral.magnitude? with
    | some x => .number (if numeral.negative then x.neg else x)
    | none => .unreadable

end Numeral

def digitRun (text : Text) : Text × Text := (text.takeWhile Char.isDigit, text.dropWhile Char.isDigit)

def readFraction? : Text → Option (Option Text × Text)
  | '.' :: rest =>
      let run := digitRun rest
      if run.1.isEmpty then none else some (some run.1, run.2)
  | text => some (none, text)

def readExponentDigits? (down : Bool) (text : Text) : Option (Option (Bool × Text) × Text) :=
  let run := digitRun text
  if run.1.isEmpty then none else some (some (down, run.1), run.2)

def readExponent? : Text → Option (Option (Bool × Text) × Text)
  | c :: rest =>
      if c = 'e' ∨ c = 'E' then
        match rest with
        | '-' :: digits => readExponentDigits? true digits
        | '+' :: digits => readExponentDigits? false digits
        | digits => readExponentDigits? false digits
      else some (none, c :: rest)
  | [] => some (none, [])

/-- The digits before the point: a single zero, or digits that begin with another one. -/
def readWhole? (text : Text) : Option (Text × Text) :=
  let run := digitRun text
  match run.1 with
  | [] => none
  | ['0'] => some run
  | '0' :: _ => none
  | _ => some run

def readNumeral? (text : Text) : Option (Numeral × Text) := do
  let (negative, digits) :=
    match text with
    | '-' :: rest => (true, rest)
    | _ => (false, text)
  let (whole, afterWhole) ← readWhole? digits
  let (fraction, afterFraction) ← readFraction? afterWhole
  let (exponent, rest) ← readExponent? afterFraction
  return (⟨negative, whole, fraction, exponent⟩, rest)

end FaultContext.Json
