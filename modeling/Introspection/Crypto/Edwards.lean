import Introspection.Crypto.Digest
import Introspection.Crypto.Modular

/-!
# Signatures on the Edwards curve

The check of Ed25519 signatures: the scalar of the signature has to be below the order of the base
point, and the point that it gives together with the public key has to have the very encoding
that the signature carries. The encoding of the public key itself may be one that is not reduced.
-/

namespace Introspection.Crypto.Edwards

/-- The prime of the field, `2^255 - 19`. -/
def prime : Nat := Nat.pow 2 255 - 19

/-- The order of the base point. -/
def order : Nat := Nat.pow 2 252 + 27742317777372353535851937790883648493

/-- The constant `d` of the curve `y² - x² = 1 + d x² y²`. -/
def constant : Nat :=
  37095705934669439343138083508754565189542113879843219016388785533085940283555

/-- A square root of minus one. -/
def rootOfMinusOne : Nat :=
  19681161376707505956807079304988542015446066515923890162744021073123829784752

/-- A point, by its coordinates. -/
abbrev Point : Type := Nat × Nat

/-- The base point. -/
def base : Point :=
  (15112221349535400772501151409588531511454012693041857206046113283949847762202,
    46316835694926478169428394003475163141307993866256225615783033603165251855960)

/-- The neutral point. -/
def neutral : Point := (0, 1)

/-- The sum of two points. -/
def add (a b : Point) : Point :=
  let (x, y) := a
  let (x', y') := b
  let product := constant * (x * x' % prime) % prime * (y * y' % prime) % prime
  let above := (1 + product) % prime
  let below := Modular.sub prime 1 product
  let inverse := Modular.inverse prime (above * below % prime)
  ((x * y' + x' * y) % prime * (inverse * below % prime) % prime,
    (y * y' + x * x') % prime * (inverse * above % prime) % prime)

/-- The point with the first coordinate negated. -/
def negate (a : Point) : Point := (Modular.sub prime 0 a.1, a.2)

/-- The sum of `u` times one point and `v` times another, by doubling once for each bit. -/
def combine (u : Nat) (a : Point) (v : Nat) (b : Point) : Point :=
  let both := add a b
  (List.range 256).foldr
    (fun bit sum =>
      let double := add sum sum
      match u.testBit bit, v.testBit bit with
      | true, true => add double both
      | true, false => add double a
      | false, true => add double b
      | false, false => double)
    neutral

/-- The encoding of a point: the second coordinate with the lowest bit of the first one on top. -/
def encode (a : Point) : List UInt8 := Bytes.ofNatReversed 32 (a.2 + a.1 % 2 * Nat.pow 2 255)

/-- The point of an encoding, if there is one. -/
def decode? (bytes : List UInt8) : Option Point :=
  if bytes.length ≠ 32 then none
  else
    let number := Bytes.toNatReversed bytes
    let y := number % Nat.pow 2 255 % prime
    let odd := number / Nat.pow 2 255
    let square := y * y % prime
    let top := Modular.sub prime square 1
    let bottom := (constant * square + 1) % prime
    let quotient := top * Modular.inverse prime bottom % prime
    let root := Modular.power prime quotient ((prime + 3) / 8)
    let root := if root * root % prime = quotient then root else root * rootOfMinusOne % prime
    if root * root % prime ≠ quotient then none
    else if root % 2 = odd then some (root, y)
    else some (Modular.sub prime 0 root, y)

/-- The scalar of a private key: the first half of its hash, with the lowest three bits and the
highest one cleared and the one below that set. -/
def scalar (key : List UInt8) : Nat :=
  let number := Bytes.toNatReversed ((Digest.sha512.hash key).take 32)
  number % Nat.pow 2 254 / 8 * 8 + Nat.pow 2 254

/-- The public key of a private one. -/
def publicKey (key : List UInt8) : List UInt8 := encode (combine (scalar key) base 0 neutral)

/-- Check a signature of a message under a public key. -/
def verify (key message signature : List UInt8) : Bool :=
  if signature.length ≠ 64 then false
  else
    let commitment := signature.take 32
    let scalar := Bytes.toNatReversed (signature.drop 32)
    if order ≤ scalar then false
    else match decode? key with
      | none => false
      | some point =>
        let challenge :=
          Bytes.toNatReversed (Digest.sha512.hash (commitment ++ key ++ message)) % order
        encode (combine scalar base challenge (negate point)) == commitment

end Introspection.Crypto.Edwards
