import Introspection.Proofs.Secret.RoundTrip

/-!
# The fields of a stored secret

A stored secret is written as four fields with separators between them, and is divided into the same
four again (`parts_storedForm`). That is because bytes are written in letters, digits, hyphens and
underscores only: among these there is neither a separator nor the padding that base64 would have,
which is left out in writing and restored in reading. So everything that a new secret is stored with
is recovered from the text (`fields_recovered`).
-/

namespace Introspection.Secret

theorem padding_not_mem_encodeAddress (bytes : List UInt8) :
    Base64.padding ∉ Base64.encodeAddress bytes := by
  intro member
  have isChar : '=' ∈ charsOf (Base64.encodeAddress bytes) := List.mem_map_of_mem member
  exact (isFieldChar_of_mem_charsOf isChar).ne.1 rfl

/-- A stored secret is divided into the fields that it was put together from. -/
theorem parts_storedForm (count : Int) (salt key : List UInt8) :
    parts (storedForm count salt key).toList =
      [scheme.toList, (Text.decimal count).toList, charsOf (Base64.encodeAddress salt),
        charsOf (Base64.encodeAddress key)] := by
  rw [toList_storedForm]
  exact parts_of_divided (by decide) (separator_not_mem_decimal count)
    (separator_not_mem_charsOf salt)

/-- Bytes are recovered from what is written for them. They are written in letters, digits, hyphens
and underscores, each of which stands for six of their bits, and without the padding. Thus a stored
secret is divided into the four fields of which it was made, and what a new secret is stored with is
read from the text. -/
theorem fields_recovered :
    (∀ bytes : List UInt8,
      bytes? (charsOf (Base64.encodeAddress bytes)) = some bytes ∧
      (∀ c ∈ charsOf (Base64.encodeAddress bytes), IsFieldChar c ∧ c ≠ '=' ∧ c ≠ separator) ∧
      (∃ values, Base64.encodeAddress bytes = values.map Base64.addressDigit ∧
        (∀ value ∈ values, value < 64) ∧ Base64.Carry values bytes) ∧
      (Base64.pad (Base64.encodeAddress bytes)).rdropWhile (· == Base64.padding) =
        Base64.encodeAddress bytes) ∧
    (∀ (count : Int) (salt key : List UInt8),
      parts (storedForm count salt key).toList =
        [scheme.toList, (Text.decimal count).toList, charsOf (Base64.encodeAddress salt),
          charsOf (Base64.encodeAddress key)]) ∧
    ∀ (secret : String) (count : Int) (asked : Option (List UInt8)) (fresh : List UInt8),
      ((∃ text, create secret count asked fresh = .ok text) ↔
        1 ≤ count ∧ count < iterationLimit ∧
          1 ≤ counted count.toNat ∧ counted count.toNat < signedLimit) ∧
      ∀ text, create secret count asked fresh = .ok text ->
        text = storedForm count (saltFor asked fresh)
          (newStored secret count (saltFor asked fresh)).key ∧
        read? text = some (newStored secret count (saltFor asked fresh)) := by
  refine ⟨fun bytes => ⟨bytes?_charsOf bytes, fun c member => ?_, Base64.exists_carry _ bytes,
    Base64.rdropWhile_pad (padding_not_mem_encodeAddress bytes)⟩, parts_storedForm,
    fun secret count asked fresh => ⟨⟨?_, ?_⟩, fun text created => ?_⟩⟩
  · exact ⟨isFieldChar_of_mem_charsOf member, (isFieldChar_of_mem_charsOf member).ne⟩
  · rintro ⟨text, created⟩
    obtain ⟨countable, _⟩ := create_eq_ok_iff.mp created
    exact ⟨countable.positive, countable.admitted, countable.counts, countable.signed⟩
  · rintro ⟨positive, admitted, counts, signed⟩
    exact ⟨_, create_eq_ok_iff.mpr ⟨⟨positive, admitted, counts, signed⟩, rfl⟩⟩
  · exact ⟨(create_eq_ok_iff.mp created).2, read?_eq_some.mpr (spells_of_create created)⟩

/-- The last digits of both alphabets in one text, which ends inside a group. -/
example : String.ofList (charsOf (Base64.encodeAddress [0xFB, 0xF0, 0x3F, 0xFF])) = "-_A__w" ∧
    bytes? "-_A__w".toList = some [0xFB, 0xF0, 0x3F, 0xFF] := by
  decide

end Introspection.Secret
