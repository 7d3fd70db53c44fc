/-!
# Arithmetic modulo a number

Powers by repeated squaring, with them inverses modulo a prime, and a test of primes by the powers
of small numbers.
-/

namespace Introspection.Crypto.Modular

/-- A power of a number modulo another, by squaring once for each bit of the exponent. -/
def power (modulus base exponent : Nat) : Nat :=
  (List.range (exponent.log2 + 1)).foldr
    (fun bit value =>
      let square := value * value % modulus
      if exponent.testBit bit then square * base % modulus else square)
    (1 % modulus)

/-- The inverse of a number modulo a prime, zero for a multiple of it. -/
def inverse (prime number : Nat) : Nat := power prime (number % prime) (prime - 2)

/-- The difference of two numbers modulo another. -/
def sub (modulus a b : Nat) : Nat := (a % modulus + (modulus - b % modulus)) % modulus

/-- How often a number other than zero can be halved. -/
def halvings (number : Nat) : Nat :=
  ((List.range (number.log2 + 1)).find? fun bit => number.testBit bit).getD 0

/-- Whether a base does not show a number above two to be composite: a power of it by the odd part
of the predecessor is one, or squaring that power passes through minus one. -/
def passes (number base : Nat) : Bool :=
  let twos := halvings (number - 1)
  let start := power number base ((number - 1) / Nat.pow 2 twos)
  start == 1 || (List.range twos).any fun steps =>
    power number start (Nat.pow 2 steps) == number - 1

/-- The primes below a hundred. -/
def smallPrimes : List Nat := [
  2, 3, 5, 7, 11, 13, 17, 19, 23, 29, 31, 37, 41, 43, 47, 53, 59, 61, 67, 71, 73, 79, 83, 89, 97]

/-- Whether a number is taken for a prime: it is a small one, or has none as a divisor and is not
shown to be composite by any. -/
def isPrime (number : Nat) : Bool :=
  number ∈ smallPrimes ||
    (1 < number && smallPrimes.all fun base => number % base != 0 && passes number base)

end Introspection.Crypto.Modular
