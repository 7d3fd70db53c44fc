import Introspection.Double
import Introspection.Text.Integer

/-!
# Decimal text of floating-point numbers

Writing a number with the fewest decimal digits that read back as it, and reading a decimal
number by rounding its exact value. Of the shortest candidates the nearest is written, and of two
equally near ones the even one. Numbers from 10^-4 up to 10^16 are written without an exponent.
-/

namespace Introspection.Double

/-- The numerators of a number, and of the ends of the interval that is rounded to it, over a
denominator that the three share. -/
structure Neighbourhood where
  low : Nat
  value : Nat
  high : Nat
  denominator : Nat
  /-- Whether the ends themselves are rounded to the number. -/
  closed : Bool

/-- The interval that is rounded to a positive number. -/
def neighbourhood (mantissa : Nat) (exponent : Int) : Neighbourhood :=
  let below := if mantissa = Nat.pow 2 52 ∧ leastExponent < exponent then 1 else 2
  let scale (quarters : Nat) : Nat × Nat := magnitude quarters (exponent - 2)
  { low := (scale (4 * mantissa - below)).1
    value := (scale (4 * mantissa)).1
    high := (scale (4 * mantissa + 2)).1
    denominator := (scale 1).2
    closed := mantissa % 2 = 0 }

/-- Whether `digits * 10 ^ power` lies in the interval. -/
def Neighbourhood.contains (around : Neighbourhood) (digits : Nat) (power : Int) : Bool :=
  let up := Nat.pow 10 power.toNat
  let down := Nat.pow 10 (-power).toNat
  let point := digits * up * around.denominator
  if around.closed then
    around.low * down ≤ point && point ≤ around.high * down
  else around.low * down < point && point < around.high * down

/-- The point of the grid of multiples of `10 ^ power` to write for the number: the nearer of its
two neighbours there, if that lies in the interval, or else the other one. -/
def Neighbourhood.pointOn? (around : Neighbourhood) (power : Int) : Option Nat :=
  let top := around.value * Nat.pow 10 (-power).toNat
  let bottom := around.denominator * Nat.pow 10 power.toNat
  let nearest := nearestQuotient top bottom
  let other := if nearest = top / bottom then nearest + 1 else top / bottom
  if around.contains nearest power then some nearest
  else if around.contains other power then some other
  else none

/-- The power of ten of the first digit of a positive fraction. -/
def leadingPower (numerator denominator : Nat) : Int :=
  if denominator ≤ numerator then ((Text.decimalDigits (numerator / denominator)).length : Int) - 1
  else
    match (List.range 400).find? (fun k => denominator ≤ numerator * Nat.pow 10 k) with
    | some k => -(k : Int)
    | none => -400

/-- The fewest digits that read back as the number, and the power of ten of the first of them. -/
def shortest (mantissa : Nat) (exponent : Int) : List Char × Int :=
  let around := neighbourhood mantissa exponent
  let power := leadingPower around.value around.denominator
  let found := (List.range 17).findSome? fun (more : Nat) =>
    (around.pointOn? (power - (more : Int))).map (·, power - (more : Int))
  match found with
  | some (digits, grid) =>
    let text := Text.decimalDigits digits
    let trimmed := (text.reverse.dropWhile (· == '0')).reverse
    (trimmed, grid + (text.length : Int) - 1)
  | none => (['0'], 0)

/-- The exponent of a number in exponent notation: signed, with two digits at least. -/
def exponentText (power : Int) : List Char :=
  let digits := Text.decimalDigits power.natAbs
  let sign := if power < 0 then '-' else '+'
  sign :: (if digits.length < 2 then '0' :: digits else digits)

/-- Digits with the point in its place, or an exponent after them. -/
def layout (digits : List Char) (power : Int) : List Char :=
  if -4 ≤ power ∧ power < 0 then
    '0' :: '.' :: List.replicate ((-power).toNat - 1) '0' ++ digits
  else if 0 ≤ power ∧ power < 16 then
    let whole := power.toNat + 1
    let padded := digits ++ List.replicate (whole - digits.length) '0'
    let fraction := padded.drop whole
    padded.take whole ++ '.' :: (if fraction.isEmpty then ['0'] else fraction)
  else
    let rest := digits.drop 1
    digits.take 1 ++ (if rest.isEmpty then [] else '.' :: rest) ++ 'e' :: exponentText power

/-- The text of a number. -/
def text : Double -> String
  | .nan => "nan"
  | .infinite negative => if negative then "-inf" else "inf"
  | .finite negative mantissa exponent =>
    let magnitude :=
      if mantissa = 0 then ['0', '.', '0']
      else
        let (digits, power) := shortest mantissa exponent
        layout digits power
    String.ofList (if negative then '-' :: magnitude else magnitude)

/-- The number nearest to `digits * 10 ^ power`. Powers so far out that the answer is certain are
not multiplied out. -/
def ofDecimal (negative : Bool) (digits : Nat) (power : Int) : Double :=
  if digits = 0 then ofFraction negative 0 1
  else
    let top := (Text.decimalDigits digits).length + power
    if 400 < top then .infinite negative
    else if top < -400 then ofFraction negative 0 1
    else if 0 ≤ power then ofFraction negative (digits * Nat.pow 10 power.toNat) 1
    else ofFraction negative digits (Nat.pow 10 (-power).toNat)

/-- Read a decimal number: digits before the point or after it or on both sides, and an exponent
if there is one, or one of the words for what is not finite. -/
def ofText? (text : List Char) : Option Double := do
  let (negative, unsignedText) := Text.signed text
  let word := String.ofList (unsignedText.map Char.toLower)
  if word = "inf" ∨ word = "infinity" then return .infinite negative
  if word = "nan" then return .nan
  let (whole, afterWhole) := Text.spanDigits unsignedText
  let (fraction, afterFraction) := match afterWhole with
    | '.' :: rest => Text.spanDigits rest
    | rest => ([], rest)
  if whole.isEmpty && fraction.isEmpty then none
  let power <- match afterFraction with
    | [] => some 0
    | c :: rest =>
      if c = 'e' ∨ c = 'E' then
        let (negative, digits) := Text.signed rest
        let (digits, unread) := Text.spanDigits digits
        if digits.isEmpty || !unread.isEmpty then none
        else some (Text.withSign negative (Text.numberOf digits))
      else none
  return ofDecimal negative (Text.numberOf (whole ++ fraction)) (power - fraction.length)

end Introspection.Double
