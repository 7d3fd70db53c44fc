import Introspection.Crypto.KeyDerivation

/-!
# The length of a derived key

A key is derived at the length that is asked for (`length_derive`), whatever the password is. A
shorter key is the beginning of a longer one (`take_derive`): so who asks for few bytes learns, and
compares, the first bytes of the same key, and who asks for none compares nothing.
-/

namespace Introspection

theorem Bytes.length_ofNat (width number : Nat) : (ofNat width number).length = width := by
  rw [ofNat, List.length_reverse]
  induction width generalizing number with
  | zero => rfl
  | succ width ih => rw [ofNatReversed, List.length_cons, ih]

namespace Crypto

theorem Sha256.length_hash (message : List UInt8) : (hash message).length = 32 := by
  simp [hash, Chain.bytes, Bytes.length_ofNat]

theorem Digest.length_hmac_sha256 (key message : List UInt8) :
    (sha256.hmac key message).length = 32 :=
  Sha256.length_hash _

namespace KeyDerivation

variable {password salt : List UInt8} {iterations : Nat}

/-- Combining links keeps the length that all of them have. -/
theorem length_combine {keyed : List UInt8 -> List UInt8} {size : Nat}
    (sized : ∀ message, (keyed message).length = size) (count : Nat) (last : List UInt8)
    {combined : List UInt8} (isSized : combined.length = size) :
    (combine keyed count last combined).length = size := by
  induction count generalizing last combined with
  | zero => exact isSized
  | succ count ih =>
    apply ih
    rw [Bytes.xor, List.length_zipWith, isSized, sized, Nat.min_self]

theorem length_block (index : Nat) : (block password salt iterations index).length = 32 :=
  length_combine (Digest.length_hmac_sha256 password) _ _ (Digest.length_hmac_sha256 password _)

theorem length_blocks (count : Nat) :
    ((List.range count).flatMap fun index =>
      block password salt iterations (index + 1)).length = 32 * count := by
  induction count with
  | zero => rfl
  | succ count ih =>
    rw [List.range_succ, List.flatMap_append, List.length_append, ih, List.flatMap_singleton,
      length_block]
    omega

/-- A key is derived at the length that is asked for. -/
theorem length_derive (length : Nat) :
    (derive password salt iterations length).length = length := by
  rw [derive, List.length_take, length_blocks]
  omega

/-- A shorter key is the beginning of a longer one. -/
theorem take_derive {length longer : Nat} (le : length ≤ longer) :
    (derive password salt iterations longer).take length =
      derive password salt iterations length := by
  have more : (longer + 31) / 32 =
      (length + 31) / 32 + ((longer + 31) / 32 - (length + 31) / 32) := by
    omega
  have enough : length ≤ 32 * ((length + 31) / 32) := by omega
  rw [derive, derive, List.take_take, Nat.min_eq_left le, more, List.range_add, List.flatMap_append,
    List.take_append_of_le_length]
  rw [length_blocks]
  exact enough

end KeyDerivation

end Crypto

end Introspection
