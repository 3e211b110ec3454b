import FaultContext.Decimal.Binary64
import FaultContext.Text.Basic

/-!
# Shortest decimal text

A double precision number is written with the fewest significant digits that read back as the same
number, and among those with the ones nearest to it. The search goes over the decimal grids from
coarse to fine: if any point of a grid reads back, so does one of the two points around the number.
-/

namespace FaultContext.Decimal

set_option autoImplicit false

/-- The value `digits * 10 ^ scale`. -/
structure Digits where
  digits : Nat
  scale : Int
deriving DecidableEq, Repr

/-- `n / d` divided by `10 ^ scale`. -/
def overGrid (n d : Nat) (scale : Int) : Nat × Nat :=
  if 0 ≤ scale then (n, d * Nat.pow 10 scale.toNat) else (n * Nat.pow 10 (-scale).toNat, d)

/-- The reals that round to a number: its two bounds and whether they belong to it. -/
structure Interval where
  low : Nat × Nat
  high : Nat × Nat
  closed : Bool

/-- What rounds to `significand * 2 ^ exponent`. Below a power of two the numbers lie twice as dense. -/
def Interval.around (significand : Nat) (exponent : Int) : Interval where
  low :=
    if significand = Nat.pow 2 52 ∧ Binary64.minExponent < exponent then
      Binary64.scaleRatio (4 * significand - 1) 1 (exponent - 2)
    else Binary64.scaleRatio (2 * significand - 1) 1 (exponent - 1)
  high := Binary64.scaleRatio (2 * significand + 1) 1 (exponent - 1)
  closed := significand % 2 = 0

def Interval.holds (interval : Interval) (n d : Nat) : Bool :=
  let above := interval.low.1 * d
  let below := interval.high.1 * d
  if interval.closed then above ≤ n * interval.low.2 && n * interval.high.2 ≤ below
  else above < n * interval.low.2 && n * interval.high.2 < below

/-- The point of the grid `10 ^ scale` to write for `n / d`, if one reads back: the nearer of two. -/
def onGrid? (interval : Interval) (n d : Nat) (scale : Int) : Option Digits :=
  let ratio := overGrid n d scale
  let floor := ratio.1 / ratio.2
  let point (digits : Nat) : Nat × Nat := overGrid digits 1 (-scale)
  let fits (digits : Nat) : Bool := interval.holds (point digits).1 (point digits).2
  match fits floor, fits (floor + 1) with
  | true, false => some ⟨floor, scale⟩
  | false, true => some ⟨floor + 1, scale⟩
  | false, false => none
  | true, true =>
      some ⟨roundHalfEven ratio.1 ratio.2, scale⟩

/-- The first grid with a point, among `count` grids from `scale` downwards. -/
def search (interval : Interval) (n d : Nat) : Nat → Int → Digits
  | 0, scale => ⟨(overGrid n d scale).1 / (overGrid n d scale).2, scale⟩
  | count + 1, scale => (onGrid? interval n d scale).getD (search interval n d count (scale - 1))

def leadingExponent (n d : Nat) : Int :=
  if d ≤ n then ((Nat.toDigits 10 (n / d)).length : Int) - 1
  else
    let places := (Nat.toDigits 10 (d / n)).length
    if d ≤ n * Nat.pow 10 (places - 1) then -((places : Int) - 1) else -(places : Int)

def shortest (significand : Nat) (exponent : Int) : Digits :=
  let ratio := Binary64.magnitude significand exponent
  search (Interval.around significand exponent) ratio.1 ratio.2 17 (leadingExponent ratio.1 ratio.2)

/-- How a number is laid out: the exponents of the leading digit that are written positionally. -/
structure Layout where
  least : Int
  greatest : Int

/-- The digits with a point among them or zeros around them. Whole numbers keep one zero after the
point; outside the positional range the exponent is written with its sign. -/
def Layout.write (layout : Layout) (digits : Text) (leading : Int) : Text :=
  if layout.least ≤ leading ∧ leading ≤ layout.greatest then
    if leading < 0 then
      ['0', '.'] ++ List.replicate (-leading - 1).toNat '0' ++ digits
    else
      let whole := leading.toNat + 1
      if digits.length ≤ whole then
        digits ++ List.replicate (whole - digits.length) '0' ++ ['.', '0']
      else digits.take whole ++ '.' :: digits.drop whole
  else
    let mantissa :=
      match digits with
      | [] => []
      | [only] => [only]
      | first :: rest => first :: '.' :: rest
    mantissa ++ ['e', if leading < 0 then '-' else '+'] ++ Text.ofNat leading.natAbs

def dropTrailingZeros (digits : Text) : Text := (digits.reverse.dropWhile (· == '0')).reverse

def render (layout : Layout) (negative : Bool) (significand : Nat) (exponent : Int) : Text :=
  let sign := if negative then ['-'] else []
  if significand = 0 then sign ++ ['0', '.', '0']
  else
    let found := shortest significand exponent
    let digits := Text.ofNat found.digits
    sign ++ layout.write (dropTrailingZeros digits) (found.scale + digits.length - 1)

end FaultContext.Decimal
