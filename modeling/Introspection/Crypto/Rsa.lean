import Introspection.Crypto.Digest
import Introspection.Crypto.Modular

/-!
# RSA signatures

Checking signatures of the two encodings: the deterministic one (PKCS #1 version 1.5), where the
padded hash has exactly one form, and the salted one (PSS), where the salt is recovered from the
signature and has the length of the hash.
-/

namespace Introspection.Crypto.Rsa

/-- A public key. -/
structure Key where
  modulus : Nat
  exponent : Nat
  deriving DecidableEq, Repr

namespace Key

/-- Whether the numbers can be those of a public key. -/
def isUsable (key : Key) : Bool :=
  3 ≤ key.exponent && key.exponent < key.modulus && key.exponent % 2 == 1

/-- The greatest length of a modulus, in bits, under which signatures are checked. -/
def bitLimit : Nat := 16384

/-- The greatest length of a modulus, in bits, that admits exponents of any length. -/
def smallBitLimit : Nat := 3072

/-- The greatest length of an exponent, in bits, beside any other modulus. -/
def exponentBitLimit : Nat := 64

/-- The length of the modulus in bits. -/
def bits (key : Key) : Nat := key.modulus.log2 + 1

/-- The length of the modulus in bytes, which is that of signatures. -/
def size (key : Key) : Nat := (key.bits + 7) / 8

/-- Whether the numbers are short enough for a signature to be checked at all. -/
def isShort (key : Key) : Bool :=
  key.bits ≤ bitLimit &&
    (key.bits ≤ smallBitLimit || key.exponent.log2 + 1 ≤ exponentBitLimit)

/-- The encoded message that a signature carries: one of the length of the modulus that spells a
number below it. -/
def recover? (key : Key) (signature : List UInt8) : Option Nat :=
  let number := Bytes.toNat signature
  if key.isShort ∧ signature.length = key.size ∧ number < key.modulus ∧ key.modulus % 2 = 1 then
    some (Modular.power key.modulus number key.exponent)
  else none

end Key

/-- The encoding of "the hash of this kind that follows", for the deterministic form. -/
def digestInfo : Digest -> List UInt8
  | .sha256 => [0x30, 0x31, 0x30, 0x0D, 0x06, 0x09, 0x60, 0x86, 0x48, 0x01, 0x65, 0x03, 0x04,
    0x02, 0x01, 0x05, 0x00, 0x04, 0x20]
  | .sha384 => [0x30, 0x41, 0x30, 0x0D, 0x06, 0x09, 0x60, 0x86, 0x48, 0x01, 0x65, 0x03, 0x04,
    0x02, 0x02, 0x05, 0x00, 0x04, 0x30]
  | .sha512 => [0x30, 0x51, 0x30, 0x0D, 0x06, 0x09, 0x60, 0x86, 0x48, 0x01, 0x65, 0x03, 0x04,
    0x02, 0x03, 0x05, 0x00, 0x04, 0x40]

/-- The deterministic encoding of a message in so many bytes, if they are enough for it. -/
def deterministic? (digest : Digest) (message : List UInt8) (size : Nat) : Option (List UInt8) :=
  let tail := digestInfo digest ++ digest.hash message
  if tail.length + 11 ≤ size then
    some (0x00 :: 0x01 :: List.replicate (size - tail.length - 3) 0xFF ++ 0x00 :: tail)
  else none

/-- Check a signature of the deterministic form. -/
def verifyDeterministic (key : Key) (digest : Digest) (message signature : List UInt8) : Bool :=
  match key.recover? signature, deterministic? digest message key.size with
  | some number, some encoded => Bytes.ofNat key.size number == encoded
  | _, _ => false

/-- As many bytes as asked for, from hashes of the seed with a counter. -/
def mask (digest : Digest) (seed : List UInt8) (length : Nat) : List UInt8 :=
  let blocks := (length + digest.size - 1) / digest.size
  ((List.range blocks).flatMap (fun index => digest.hash (seed ++ Bytes.ofNat 4 index))).take
    length

/-- Whether an encoded message of so many bits is a salted encoding of a message. -/
def isSalted (digest : Digest) (message encoded : List UInt8) (bits : Nat) : Bool :=
  let size := (bits + 7) / 8
  let hashSize := digest.size
  if size < 2 * hashSize + 2 then false
  else
    let masked := encoded.take (size - hashSize - 1)
    let hash := (encoded.drop (size - hashSize - 1)).take hashSize
    let spare := 8 * size - bits
    let firstMask : UInt8 := (255 / Nat.pow 2 spare).toUInt8
    let block := Bytes.xor masked (mask digest hash (size - hashSize - 1))
    let block := match block with
      | first :: rest => (first &&& firstMask) :: rest
      | [] => []
    let zeros := size - 2 * hashSize - 2
    let salt := block.drop (zeros + 1)
    encoded.getLastD 0 == 0xBC
      && (masked.headD 0 &&& ~~~ firstMask) == 0
      && block.take (zeros + 1) == List.replicate zeros 0 ++ [0x01]
      && digest.hash (List.replicate 8 0 ++ digest.hash message ++ salt) == hash

/-- Check a signature of the salted form. -/
def verifySalted (key : Key) (digest : Digest) (message signature : List UInt8) : Bool :=
  match key.recover? signature with
  | some number =>
    let bits := key.bits - 1
    let size := (bits + 7) / 8
    number < Nat.pow 256 size && isSalted digest message (Bytes.ofNat size number) bits
  | none => false

end Introspection.Crypto.Rsa
