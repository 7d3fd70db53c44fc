import Introspection.Crypto.Rsa

/-!
# Private RSA keys

The numbers of a private key beside the public ones, and whether they belong together. A private
key that is given by its exponent alone has its two primes recovered: the exponents tell a multiple
of what every unit is raised to one by, so that a root of one other than one and minus one can be
found, and such a root splits the modulus.
-/

namespace Introspection.Crypto.Rsa

/-- What a private key tells beyond its public key and its exponent. -/
structure Parts where
  /-- The two primes. -/
  first : Nat
  second : Nat
  /-- The private exponent modulo the predecessor of each prime. -/
  firstExponent : Nat
  secondExponent : Nat
  /-- The inverse of the second prime modulo the first. -/
  coefficient : Nat

/-- The parts that the primes determine. -/
def Parts.ofPrimes (first second secret : Nat) : Parts where
  first := first
  second := second
  firstExponent := secret % (first - 1)
  secondExponent := secret % (second - 1)
  coefficient := Modular.inverse first second

/-- Whether a private exponent and the parts belong to a public key. -/
def Parts.belong (parts : Parts) (key : Key) (secret : Nat) : Bool :=
  let { first, second, firstExponent, secondExponent, coefficient } := parts
  let small := [first, second, firstExponent, secondExponent, coefficient, secret]
  key.isUsable && small.all (· < key.modulus) &&
    firstExponent % 2 == 1 && secondExponent % 2 == 1 && first * second == key.modulus &&
    first % 2 == 1 && second % 2 == 1 && Modular.isPrime first && Modular.isPrime second &&
    secret * key.exponent % Nat.lcm (first - 1) (second - 1) == 1 &&
    firstExponent == secret % (first - 1) && secondExponent == secret % (second - 1) &&
    coefficient < first && coefficient * second % first == 1

/-- The first among some powers, each the square of the one before, whose square is one while it
is not one or minus one itself. -/
def rootOfOne? (modulus : Nat) : (squares : Nat) -> Nat -> Option Nat
  | 0, _ => none
  | squares + 1, value =>
    let square := value * value % modulus
    if value ≠ 1 ∧ value ≠ modulus - 1 ∧ square = 1 then some value
    else rootOfOne? modulus squares square

/-- The bases whose powers are tried. -/
def bases : List Nat := (List.range 100).map (· + 2)

/-- The two factors of a modulus, the greater one first, when the exponents undo each other. -/
def factors? (key : Key) (secret : Nat) : Option (Nat × Nat) :=
  let { modulus, exponent } := key
  if secret ≤ 1 ∨ exponent ≤ 1 ∨ modulus = 0 then none
  else if Modular.power modulus 17 (exponent * secret) ≠ 17 then none
  else do
    let multiple := exponent * secret - 1
    let twos := Modular.halvings multiple
    let root <- bases.findSome? fun base =>
      rootOfOne? modulus twos (Modular.power modulus base (multiple / Nat.pow 2 twos))
    let factor := Nat.gcd (root + 1) modulus
    return (max factor (modulus / factor), min factor (modulus / factor))

/-- Whether a private exponent alone is that of a key. -/
def isSecret (key : Key) (secret : Nat) : Bool :=
  match factors? key secret with
  | some (first, second) => (Parts.ofPrimes first second secret).belong key secret
  | none => false

end Introspection.Crypto.Rsa
