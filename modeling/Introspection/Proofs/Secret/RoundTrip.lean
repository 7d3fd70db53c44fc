import Introspection.Proofs.Base64
import Introspection.Proofs.Evaluation
import Introspection.Proofs.Secret.Verification
import Introspection.Proofs.Text.Decimal
import Mathlib.Control.Monad.Basic

/-!
# A secret that was stored verifies

The written form of a stored secret spells just what it was written from (`spells_storedForm`): the
separators are found again, because they are no digits of any kind, and salt and key come back from
base64. Therefore a new secret is met by the secrets that derive the same key from its salt, and
among them by itself (`verify_create_iff`).
-/

namespace Introspection.Secret

section Form

/-- A letter or digit of ASCII, a hyphen or an underscore. -/
def IsFieldChar (c : Char) : Prop := c.isAlphanum ∨ c = '-' ∨ c = '_'

instance (c : Char) : Decidable (IsFieldChar c) := inferInstanceAs (Decidable (_ ∨ _))

/-- The characters of fields are neither padding nor separators. -/
theorem IsFieldChar.ne {c : Char} (isFieldChar : IsFieldChar c) : c ≠ '=' ∧ c ≠ separator := by
  constructor
  · rintro rfl
    exact absurd isFieldChar (by decide)
  · rintro rfl
    exact absurd isFieldChar (by decide)

/-- In the alphabet for addresses all characters are in ASCII, and all are characters of fields. -/
theorem addressDigit_plain {value : Nat} (small : value < 64) :
    (Base64.addressDigit value).toNat < 0x80 ∧
      IsFieldChar (Char.ofNat (Base64.addressDigit value).toNat) := by
  revert value
  decide

/-- Bytes are written in characters of fields. -/
theorem isFieldChar_of_mem_charsOf {bytes : List UInt8} {c : Char}
    (member : c ∈ charsOf (Base64.encodeAddress bytes)) : IsFieldChar c := by
  obtain ⟨byte, isByte, rfl⟩ := List.mem_map.mp member
  obtain ⟨value, small, rfl⟩ := Base64.exists_digit_of_mem_groups isByte
  exact (addressDigit_plain small).2

theorem separator_not_mem_charsOf (bytes : List UInt8) :
    separator ∉ charsOf (Base64.encodeAddress bytes) :=
  fun member => (isFieldChar_of_mem_charsOf member).ne.2 rfl

theorem separator_not_mem_decimal (count : Int) : separator ∉ (Text.decimal count).toList := by
  intro member
  rcases Text.mem_decimal member with same | isDigit
  · exact absurd same (by decide)
  · cases isDigit

/-- Bytes are read from the part that they are written as. -/
theorem bytes?_charsOf (bytes : List UInt8) :
    bytes? (charsOf (Base64.encodeAddress bytes)) = some bytes := by
  have ascii : ∀ byte ∈ Base64.encodeAddress bytes, byte.toNat < 0x80 := by
    intro byte member
    obtain ⟨value, small, rfl⟩ := Base64.exists_digit_of_mem_groups member
    exact (addressDigit_plain small).1
  have encoded : Text.Ascii.encode? (String.ofList (charsOf (Base64.encodeAddress bytes))) =
      some (Base64.encodeAddress bytes) := Text.Ascii.encode?_decode ascii
  rw [bytes?, encoded]
  exact Base64.decodeAddress?_encodeAddress bytes

theorem toList_storedForm (count : Int) (salt key : List UInt8) :
    (storedForm count salt key).toList = scheme.toList ++ separator ::
      ((Text.decimal count).toList ++ separator :: (charsOf (Base64.encodeAddress salt) ++
        separator :: charsOf (Base64.encodeAddress key))) := by
  simp [storedForm, List.intercalate]

/-- The written form of a stored secret spells it, if there are not too many digits in it. -/
theorem spells_storedForm {count : Int} (salt key : List UInt8)
    (short : (Text.decimalDigits count.natAbs).length ≤ Text.digitLimit) :
    Spells (storedForm count salt key) ⟨count, salt, key⟩ :=
  .parts (toList_storedForm count salt key) (separator_not_mem_decimal count)
    (separator_not_mem_charsOf salt) (Text.integer?_decimal short) (bytes?_charsOf salt)
    (bytes?_charsOf key)

end Form

section Creation

variable {count : Int} {salt : List UInt8}

/-- A salt that is asked for is taken, if it is not empty. -/
theorem saltFor_of_ne_nil (given : salt ≠ []) (fresh : List UInt8) :
    saltFor (some salt) fresh = salt := by
  simp [saltFor, Option.filter, given]

/-- A number of iterations that can be counted is written with few digits. -/
theorem Stored.IsCountable.length_decimalDigits_le {stored : Stored}
    (countable : stored.IsCountable) :
    (Text.decimalDigits stored.iterations.natAbs).length ≤ Text.digitLimit := by
  obtain ⟨positive, admitted, _, _⟩ := countable
  have fits : iterationLimit ≤ 10 ^ 20 := by decide
  have few : stored.iterations.natAbs < 10 ^ 20 := by omega
  have short : (Text.decimalDigits stored.iterations.natAbs).length ≤ 20 :=
    (Nat.length_toDigits_le_iff (by decide) (by decide)).mpr few
  exact Nat.le_trans short (by decide)

/-- What a new secret is stored with. -/
def newStored (secret : String) (count : Int) (salt : List UInt8) : Stored where
  iterations := count
  salt := salt
  key := Crypto.KeyDerivation.derive (Text.utf8 secret) salt (counted count.toNat) keyLength

/-- A derivation is set up with iterations that there are and that it can count. -/
theorem iterations_eq_ok {number : Nat} :
    iterations count = .ok number ↔ 1 ≤ count ∧ count < iterationLimit ∧ number = count.toNat := by
  unfold iterations
  split
  · next outside => exact iff_of_false nofun (by omega)
  · split
    · next zero => exact iff_of_false nofun (by omega)
    · next inside positive =>
      rw [Except.ok.injEq, eq_comm]
      exact ⟨fun same => ⟨by omega, by omega, same⟩, fun all => all.2.2⟩

/-- A key is derived where what is counted of the iterations is a positive number. -/
theorem derive_eq_ok {secret : String} {iterations length : Nat} {key : List UInt8} :
    derive secret salt iterations length = .ok key ↔
      1 ≤ counted iterations ∧ counted iterations < signedLimit ∧
        key = Crypto.KeyDerivation.derive (Text.utf8 secret) salt (counted iterations) length := by
  unfold derive
  split
  · next refused => exact iff_of_false nofun (by omega)
  · next admitted =>
    rw [Except.ok.injEq, eq_comm]
    exact ⟨fun same => ⟨by omega, by omega, same⟩, fun all => all.2.2⟩

/-- A new secret is stored if its iterations can be counted, and in the written form. -/
theorem create_eq_ok_iff {secret text : String} {asked : Option (List UInt8)}
    {fresh : List UInt8} :
    create secret count asked fresh = .ok text ↔
      (newStored secret count (saltFor asked fresh)).IsCountable ∧
        text = storedForm count (saltFor asked fresh)
          (newStored secret count (saltFor asked fresh)).key := by
  rw [create, hash, bind_eq_ok]
  constructor
  · rintro ⟨number, isNumber, isText⟩
    obtain ⟨positive, admitted, rfl⟩ := iterations_eq_ok.mp isNumber
    obtain ⟨key, isKey, isText⟩ := bind_eq_ok.mp isText
    obtain ⟨counts, signed, rfl⟩ := derive_eq_ok.mp isKey
    exact ⟨⟨positive, admitted, counts, signed⟩, (Except.ok.inj isText).symm⟩
  · rintro ⟨⟨positive, admitted, counts, signed⟩, rfl⟩
    exact ⟨_, iterations_eq_ok.mpr ⟨positive, admitted, rfl⟩,
      bind_eq_ok.mpr ⟨_, derive_eq_ok.mpr ⟨counts, signed, rfl⟩, rfl⟩⟩

/-- The text that a new secret is stored as spells what it is stored with. -/
theorem spells_of_create {secret text : String} {asked : Option (List UInt8)} {fresh : List UInt8}
    (created : create secret count asked fresh = .ok text) :
    Spells text (newStored secret count (saltFor asked fresh)) := by
  obtain ⟨countable, rfl⟩ := create_eq_ok_iff.mp created
  exact spells_storedForm _ _ countable.length_decimalDigits_le

/-- A new secret is stored with the key that it derives at full length. -/
theorem create_eq_ok {secret text : String} {asked : Option (List UInt8)} {fresh : List UInt8}
    (created : create secret count asked fresh = .ok text) :
    ∃ stored, Spells text stored ∧ stored.IsCountable ∧ stored.iterations = count ∧
      stored.salt = saltFor asked fresh ∧ stored.key = stored.derived secret keyLength :=
  ⟨_, spells_of_create created, (create_eq_ok_iff.mp created).1, rfl, rfl, rfl⟩

/-- A new secret verifies against what it is stored as. -/
theorem verify_create {secret text : String} {asked : Option (List UInt8)} {fresh : List UInt8}
    (created : create secret count asked fresh = .ok text) : verify secret text = .ok true := by
  obtain ⟨stored, spells, countable, _, _, isKey⟩ := create_eq_ok created
  have whole : stored.key.length = keyLength := by rw [isKey, Stored.length_derived]
  exact verify_eq_ok_true.mpr ⟨stored, spells, countable, by rw [whole, isKey]⟩

/-- Of iterations that need no more than the bits that are counted, all are counted. -/
theorem counted_of_lt (small : count < signedLimit) : counted count.toNat = count.toNat := by
  have fits : signedLimit ≤ counterLimit := by decide
  have positive : 0 < counterLimit := by decide
  exact Nat.mod_eq_of_lt (by omega)

end Creation

end Introspection.Secret
