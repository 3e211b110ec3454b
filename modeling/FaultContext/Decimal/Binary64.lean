/-!
# Double precision numbers

The numbers of 53 significant bits with binary exponents from −1074 to 971, kept as sign,
significand and exponent. Every operation takes the exact rational result and rounds it once, to the
nearest number and to the even one of two; nothing here rests on the machine's arithmetic.
-/

namespace FaultContext

set_option autoImplicit false

/-- The nearest whole number to `n / d`, the even one of two. -/
def Decimal.roundHalfEven (n d : Nat) : Nat :=
  let whole := n / d
  let twice := 2 * (n % d)
  if twice < d then whole
  else if d < twice then whole + 1
  else if whole % 2 = 0 then whole else whole + 1

/-- A double precision number. A finite one stands for `significand * 2 ^ exponent`. -/
inductive Binary64 where
  | nan
  | infinite (negative : Bool)
  | finite (negative : Bool) (significand : Nat) (exponent : Int)
deriving DecidableEq, Repr

namespace Binary64

def minExponent : Int := -1074

def maxExponent : Int := 971

/-- `n / d * 2 ^ shift` as a quotient of two numbers. -/
def scaleRatio (n d : Nat) (shift : Int) : Nat × Nat :=
  if 0 ≤ shift then (n * Nat.pow 2 shift.toNat, d) else (n, d * Nat.pow 2 (-shift).toNat)

/-- The exponent at which `n / d` has a significand of 53 bits. -/
def fittingExponent (n d : Nat) : Int :=
  let guess : Int := (n.log2 : Int) - d.log2 - 52
  let scaled := scaleRatio n d (-guess)
  if Nat.pow 2 52 * scaled.2 ≤ scaled.1 then guess else guess - 1

/-- The double precision number nearest to `n / d`, for a positive `d`. -/
def ofRatio (negative : Bool) (n d : Nat) : Binary64 :=
  if n = 0 then .finite negative 0 minExponent
  else
    let exponent := max (fittingExponent n d) minExponent
    let scaled := scaleRatio n d (-exponent)
    let significand := Decimal.roundHalfEven scaled.1 scaled.2
    let (significand, exponent) :=
      if significand = Nat.pow 2 53 then (Nat.pow 2 52, exponent + 1) else (significand, exponent)
    if maxExponent < exponent then .infinite negative
    else .finite negative significand exponent

def ofNat (n : Nat) : Binary64 := ofRatio false n 1

def ofInt (i : Int) : Binary64 := ofRatio (i < 0) i.natAbs 1

def isZero : Binary64 → Bool
  | .finite _ 0 _ => true
  | _ => false

def isInfinite : Binary64 → Bool
  | .infinite _ => true
  | _ => false

def neg : Binary64 → Binary64
  | .nan => .nan
  | .infinite negative => .infinite (!negative)
  | .finite negative significand exponent => .finite (!negative) significand exponent

/-- The magnitude of a finite number as a quotient. -/
def magnitude (significand : Nat) (exponent : Int) : Nat × Nat := scaleRatio significand 1 exponent

def mul : Binary64 → Binary64 → Binary64
  | .nan, _ => .nan
  | _, .nan => .nan
  | .infinite s, .infinite t => .infinite (s != t)
  | .infinite s, .finite t m _ => if m = 0 then .nan else .infinite (s != t)
  | .finite s m _, .infinite t => if m = 0 then .nan else .infinite (s != t)
  | .finite s m p, .finite t n q =>
      let left := magnitude m p
      let right := magnitude n q
      ofRatio (s != t) (left.1 * right.1) (left.2 * right.2)

def div : Binary64 → Binary64 → Binary64
  | .nan, _ => .nan
  | _, .nan => .nan
  | .infinite _, .infinite _ => .nan
  | .infinite s, .finite t _ _ => .infinite (s != t)
  | .finite s _ _, .infinite t => .finite (s != t) 0 minExponent
  | .finite s m p, .finite t n q =>
      if n = 0 then (if m = 0 then .nan else .infinite (s != t))
      else
        let left := magnitude m p
        let right := magnitude n q
        ofRatio (s != t) (left.1 * right.2) (left.2 * right.1)

/-- The least natural number that is not below this one, at most `bound`. What is not a number
counts as zero. -/
def ceilNat (bound : Nat) : Binary64 → Nat
  | .nan => 0
  | .infinite negative => if negative then 0 else bound
  | .finite negative significand exponent =>
      let ratio := magnitude significand exponent
      if negative then 0 else min bound ((ratio.1 + ratio.2 - 1) / ratio.2)

end Binary64

end FaultContext
