import Introspection.Crypto.Digest
import Introspection.Crypto.Modular

/-!
# Signatures on elliptic curves

The curves P-256 and P-384, and the check of signatures over them (ECDSA). A signature is the two
numbers side by side, each at the length of the curve's order.
-/

namespace Introspection.Crypto

/-- A curve `y² = x³ - 3x + b` over a prime field, with a base point of prime order. -/
inductive Curve
  | p256
  | p384
  deriving DecidableEq, Repr

namespace Curve

/-- The name of a curve in keys. -/
def name : Curve -> String
  | .p256 => "P-256"
  | .p384 => "P-384"

/-- The length of a coordinate, and of each half of a signature, in bytes. -/
def size : Curve -> Nat
  | .p256 => 32
  | .p384 => 48

/-- The prime of the field. -/
def prime : Curve -> Nat
  | .p256 => 0xffffffff00000001000000000000000000000000ffffffffffffffffffffffff
  | .p384 => 0xfffffffffffffffffffffffffffffffffffffffffffffffffffffffffffffffeffffffff0000000000000000ffffffff

/-- The constant of the equation. -/
def constant : Curve -> Nat
  | .p256 => 0x5ac635d8aa3a93e7b3ebbd55769886bc651d06b0cc53b0f63bce3c3e27d2604b
  | .p384 => 0xb3312fa7e23ee7e4988e056be3f82d19181d9c6efe8141120314088f5013875ac656398d8a2ed19d2a85c8edd3ec2aef

/-- The order of the base point. -/
def order : Curve -> Nat
  | .p256 => 0xffffffff00000000ffffffffffffffffbce6faada7179e84f3b9cac2fc632551
  | .p384 => 0xffffffffffffffffffffffffffffffffffffffffffffffffc7634d81f4372ddf581a0db248b0a77aecec196accc52973

/-- A point: `none` is the one at infinity. -/
abbrev Point : Type := Option (Nat × Nat)

/-- The base point. -/
def base : Curve -> Point
  | .p256 => some (0x6b17d1f2e12c4247f8bce6e563a440f277037d812deb33a0f4a13945d898c296,
    0x4fe342e2fe1a7f9b8ee7eb4a7c0f9e162bce33576b315ececbb6406837bf51f5)
  | .p384 => some (0xaa87ca22be8b05378eb1c71ef320ad746e1d3b628ba79b9859f741e082542a385502f25dbf55296c3a545e3872760ab7,
    0x3617de4a96262c6f5d9e98bf9292dc29f8f41dbd289a147ce9da3113b5f0b8c00a60b1ce1d7e819d7a431d7c90ea0e5f)

/-- The point of a pair of coordinates, which are taken modulo the prime, if it is on the curve. -/
def point? (curve : Curve) (x y : Nat) : Option (Nat × Nat) :=
  let p := curve.prime
  let x := x % p
  let y := y % p
  if y * y % p = (x * x * x + (p - 3) * x + curve.constant) % p then some (x, y) else none

/-- The third point on the line through two points with a given slope, mirrored. -/
def chord (curve : Curve) (slope x y x' : Nat) : Point :=
  let p := curve.prime
  let x3 := Modular.sub p (slope * slope) (x + x')
  some (x3, Modular.sub p (slope * Modular.sub p x x3) y)

/-- The sum of two points. -/
def add (curve : Curve) : Point -> Point -> Point
  | none, b => b
  | a, none => a
  | some (x, y), some (x', y') =>
    let p := curve.prime
    if x = x' then
      if y = y' ∧ y ≠ 0 then
        let slope := (3 * x * x + (p - 3)) * Modular.inverse p (2 * y) % p
        curve.chord slope x y x
      else none
    else
      let slope := Modular.sub p y' y * Modular.inverse p (Modular.sub p x' x) % p
      curve.chord slope x y x'

/-- The sum of `u` times one point and `v` times another, by doubling once for each bit. -/
def combine (curve : Curve) (u : Nat) (a : Point) (v : Nat) (b : Point) : Point :=
  let both := curve.add a b
  (List.range (8 * curve.size)).foldr
    (fun bit sum =>
      let double := curve.add sum sum
      match u.testBit bit, v.testBit bit with
      | true, true => curve.add double both
      | true, false => curve.add double a
      | false, true => curve.add double b
      | false, false => double)
    none

/-- The public point of a private number. -/
def publicPoint (curve : Curve) (secret : Nat) : Point :=
  curve.combine (secret % curve.order) curve.base 0 none

/-- Check a signature, given as its two numbers, of a message under a public point. -/
def verify (curve : Curve) (point : Nat × Nat) (digest : Digest) (message : List UInt8)
    (r s : Nat) : Bool :=
  let n := curve.order
  if r = 0 ∨ n ≤ r ∨ s = 0 ∨ n ≤ s then false
  else
    let hash := Bytes.toNat ((digest.hash message).take curve.size)
    let w := Modular.inverse n s
    match curve.combine (hash * w % n) curve.base (r * w % n) (some point) with
    | some (x, _) => x % n == r
    | none => false

end Curve

end Introspection.Crypto
