import Introspection.Crypto.Sha256
import Introspection.Crypto.Sha512

/-!
# Hash functions and keyed hashes

The hash functions that signatures name, with the block size that a keyed hash (HMAC) depends on.
-/

namespace Introspection.Crypto

/-- A hash function. -/
inductive Digest
  | sha256
  | sha384
  | sha512
  deriving DecidableEq, Repr

namespace Digest

/-- The hash of a message. -/
def hash : Digest -> List UInt8 -> List UInt8
  | .sha256, message => Sha256.hash message
  | .sha384, message => Sha512.hash384 message
  | .sha512, message => Sha512.hash512 message

/-- The length of a hash in bytes. -/
def size : Digest -> Nat
  | .sha256 => 32
  | .sha384 => 48
  | .sha512 => 64

/-- The length of a block in bytes. -/
def blockSize : Digest -> Nat
  | .sha256 => 64
  | _ => 128

/-- The key brought to the length of a block: a longer one is hashed first. -/
def blockKey (digest : Digest) (key : List UInt8) : List UInt8 :=
  let short := if digest.blockSize < key.length then digest.hash key else key
  short ++ List.replicate (digest.blockSize - short.length) 0

/-- The keyed hash of a message. -/
def hmac (digest : Digest) (key message : List UInt8) : List UInt8 :=
  let block := digest.blockKey key
  let inner := digest.hash (block.map (· ^^^ 0x36) ++ message)
  digest.hash (block.map (· ^^^ 0x5C) ++ inner)

end Digest

end Introspection.Crypto
