import Introspection.Crypto.Digest

/-!
# Keys derived from passwords

The password-based derivation PBKDF2 with the keyed hash over SHA-256: every block of the key is
the exclusive or of as many keyed hashes in a row as there are iterations.
-/

namespace Introspection.Crypto.KeyDerivation

/-- Combine `count` further links of a chain of keyed hashes into what has been combined. -/
def combine (keyed : List UInt8 -> List UInt8) :
    (count : Nat) -> (last combined : List UInt8) -> List UInt8
  | 0, _, combined => combined
  | count + 1, last, combined =>
    let next := keyed last
    combine keyed count next (Bytes.xor combined next)

/-- A block of the derived key; the first one has the index 1. -/
def block (password salt : List UInt8) (iterations index : Nat) : List UInt8 :=
  let keyed := Digest.sha256.hmac password
  let first := keyed (salt ++ Bytes.ofNat 4 index)
  combine keyed (iterations - 1) first first

/-- The key of the given length in bytes. -/
def derive (password salt : List UInt8) (iterations length : Nat) : List UInt8 :=
  let blocks := (length + 31) / 32
  ((List.range blocks).flatMap (fun index => block password salt iterations (index + 1))).take
    length

end Introspection.Crypto.KeyDerivation
