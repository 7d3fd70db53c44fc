import Introspection.Double.Text

/-!
# Numbers with a given count of digits

Three layouts of a floating-point number: with a count of digits after the point, with a count of
digits and an exponent, and whichever of the two is shorter. The exact value is rounded once, a
tie going to the even digit. The sign is not part of the text.

The exact value has at most 1074 digits after the point and fewer than that in all, so that zeros
are all that follows them.
-/

namespace Introspection.Double

/-- No more digits than this are anything but zeros. -/
def exactDigits : Nat := 1074

/-- Digits with a point before the last `places` of them, and zeros in front as far as needed. -/
def pointed (digits : List Char) (places : Nat) (keepPoint : Bool) : List Char :=
  let padded := List.replicate (places + 1 - digits.length) '0' ++ digits
  let whole := padded.take (padded.length - places)
  if places = 0 then (if keepPoint then whole ++ ['.'] else whole)
  else whole ++ '.' :: padded.drop (padded.length - places)

/-- A fraction with a count of digits after the point. -/
def fixed (top bottom places : Nat) (keepPoint : Bool) : List Char :=
  let exact := min places exactDigits
  let digits := Text.decimalDigits (nearestQuotient (top * Nat.pow 10 exact) bottom)
  pointed (digits ++ List.replicate (places - exact) '0') places keepPoint

/-- A fraction as `more + 1` digits and the power of ten of the first of them. -/
def exactLeading (top bottom more : Nat) : List Char × Int :=
  if top = 0 then (List.replicate (more + 1) '0', 0)
  else
    let power := leadingPower top bottom
    let shift := (more : Int) - power
    let digits :=
      nearestQuotient (top * Nat.pow 10 shift.toNat) (bottom * Nat.pow 10 (-shift).toNat)
    if digits = Nat.pow 10 (more + 1) then (Text.decimalDigits (digits / 10), power + 1)
    else (Text.decimalDigits digits, power)

/-- The same, where there may be so many digits that zeros are all that is left. -/
def leading (top bottom more : Nat) : List Char × Int :=
  let exact := min more exactDigits
  let (digits, power) := exactLeading top bottom exact
  (digits ++ List.replicate (more - exact) '0', power)

/-- Digits with a point after the first of them, and an exponent. -/
def withExponent (digits : List Char) (power : Int) (keepPoint : Bool) : List Char :=
  let rest := digits.drop 1
  digits.take 1 ++ (if rest.isEmpty && !keepPoint then [] else '.' :: rest) ++
    'e' :: exponentText power

/-- A fraction with an exponent, and a count of digits after the point. -/
def scientific (top bottom places : Nat) (keepPoint : Bool) : List Char :=
  let (digits, power) := leading top bottom places
  withExponent digits power keepPoint

/-- A fraction with a count of digits, zeros at the end left out; with an exponent when it is below
10^-4 or has more digits before the point than the count. -/
def general (top bottom count : Nat) (keepZeros : Bool) : List Char :=
  let count := max 1 count
  let (digits, power) := leading top bottom (count - 1)
  let kept := if keepZeros then digits else
    digits.take 1 ++ ((digits.drop 1).reverse.dropWhile (· == '0')).reverse
  if -4 ≤ power ∧ power < count then
    if power < 0 then pointed kept ((-power).toNat + kept.length - 1) keepZeros
    else
      let whole := power.toNat + 1
      let padded := kept ++ List.replicate (whole - kept.length) '0'
      pointed padded (padded.length - whole) keepZeros
  else withExponent kept power keepZeros

end Introspection.Double
