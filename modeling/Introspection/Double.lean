/-!
# Binary floating-point numbers

The numbers of the 64-bit binary format, as exact values: a whole mantissa below 2^53 times a
power of two that is at least 2^-1074. The only arithmetic is rounding a quotient of integers to
the nearest such number, a tie going to the even mantissa; comparison and truncation are exact.
-/

namespace Introspection

/-- A number of the 64-bit binary format. -/
inductive Double
  | finite (negative : Bool) (mantissa : Nat) (exponent : Int)
  | infinite (negative : Bool)
  | nan
  deriving DecidableEq, Repr, Inhabited

namespace Double

/-- The exponent of the smallest positive number. -/
def leastExponent : Int := -1074

/-- The exponent of the greatest finite number. -/
def greatestExponent : Int := 971

/-- The quotient of two numbers, rounded to the nearest integer, a tie to the even one. -/
def nearestQuotient (numerator denominator : Nat) : Nat :=
  let quotient := numerator / denominator
  let rest := numerator % denominator
  if 2 * rest < denominator then quotient
  else if denominator < 2 * rest then quotient + 1
  else quotient + quotient % 2

/-- The fraction `numerator / denominator / 2 ^ exponent`. -/
def scaled (numerator denominator : Nat) (exponent : Int) : Nat × Nat :=
  if 0 ≤ exponent then (numerator, denominator * Nat.pow 2 exponent.toNat)
  else (numerator * Nat.pow 2 (-exponent).toNat, denominator)

/-- The exponent for which the fraction has a mantissa of 53 bits, or the least one. -/
def exponentOf (numerator denominator : Nat) : Int :=
  let guess : Int := (numerator.log2 : Int) - (denominator.log2 : Int) - 52
  let (top, bottom) := scaled numerator denominator guess
  max leastExponent (if top < bottom * Nat.pow 2 52 then guess - 1 else guess)

/-- The number nearest to a fraction of the given sign. -/
def ofFraction (negative : Bool) (numerator denominator : Nat) : Double :=
  if numerator = 0 then .finite negative 0 leastExponent
  else
    let exponent := exponentOf numerator denominator
    let (top, bottom) := scaled numerator denominator exponent
    let mantissa := nearestQuotient top bottom
    let (mantissa, exponent) :=
      if mantissa = Nat.pow 2 53 then (Nat.pow 2 52, exponent + 1) else (mantissa, exponent)
    if greatestExponent < exponent then .infinite negative
    else .finite negative mantissa exponent

/-- The number nearest to the quotient of an integer and a natural number. -/
def ofQuotient (numerator : Int) (denominator : Nat) : Double :=
  ofFraction (numerator < 0) numerator.natAbs denominator

/-- The number nearest to an integer. -/
def ofInt (value : Int) : Double := ofQuotient value 1

/-- The magnitude of a finite number as a fraction. -/
def magnitude (mantissa : Nat) (exponent : Int) : Nat × Nat :=
  if 0 ≤ exponent then (mantissa * Nat.pow 2 exponent.toNat, 1)
  else (mantissa, Nat.pow 2 (-exponent).toNat)

/-- The integer of the given sign and magnitude. -/
def signedInt (negative : Bool) (magnitude : Nat) : Int :=
  if negative then -magnitude else magnitude

/-- The integer part, for a finite number. -/
def truncate? : Double -> Option Int
  | .finite negative mantissa exponent =>
    let (top, bottom) := magnitude mantissa exponent
    some (signedInt negative (top / bottom))
  | _ => none

/-- The nearest integer to a number, a half being rounded away from zero; zero if it is not
finite. -/
def rounded : Double -> Int
  | .finite negative mantissa exponent =>
    let (top, bottom) := magnitude mantissa exponent
    signedInt negative ((2 * top + bottom) / (2 * bottom))
  | _ => 0

/-- The value, for a whole number. -/
def toInt? : Double -> Option Int
  | .finite negative mantissa exponent =>
    let (top, bottom) := magnitude mantissa exponent
    if top % bottom = 0 then some (signedInt negative (top / bottom)) else none
  | _ => none

/-- The sum of two numbers, rounded; opposite infinities have none. -/
def add : Double -> Double -> Double
  | .nan, _ => .nan
  | _, .nan => .nan
  | .infinite a, .infinite b => if a = b then .infinite a else .nan
  | .infinite a, .finite .. => .infinite a
  | .finite .., .infinite b => .infinite b
  | .finite a m e, .finite b m' e' =>
    let (top, bottom) := magnitude m e
    let (top', bottom') := magnitude m' e'
    ofQuotient (signedInt a top * bottom' + signedInt b top' * bottom) (bottom * bottom')

/-- The number of the opposite sign. -/
def negate : Double -> Double
  | .finite negative mantissa exponent => .finite (!negative) mantissa exponent
  | .infinite negative => .infinite (!negative)
  | .nan => .nan

/-- Whether the number is zero, of either sign. -/
def isZero : Double -> Bool
  | .finite _ mantissa _ => mantissa == 0
  | _ => false

/-- How the number compares with an integer; `none` for the number that is no number. -/
def compareInt (x : Double) (n : Int) : Option Ordering :=
  match x with
  | .finite negative mantissa exponent =>
    let (top, bottom) := magnitude mantissa exponent
    some (compare (signedInt negative top) (n * bottom))
  | .infinite negative => some (if negative then .lt else .gt)
  | .nan => none

/-- How two numbers compare; `none` when one of them is no number. -/
def compare? : Double -> Double -> Option Ordering
  | .nan, _ => none
  | _, .nan => none
  | .infinite a, .infinite b => some (compare b.toNat a.toNat)
  | .infinite a, .finite .. => some (if a then .lt else .gt)
  | .finite .., .infinite b => some (if b then .gt else .lt)
  | .finite a m e, .finite b m' e' =>
    let (top, bottom) := magnitude m e
    let (top', bottom') := magnitude m' e'
    some (compare (signedInt a top * bottom') (signedInt b top' * bottom))

end Double

end Introspection
