import Introspection.Proofs.Text.Ascii
import Mathlib.Data.List.Count

/-!
# Marks in UTF-8

In UTF-8 a character of ASCII is a byte of its own, which is not among the bytes of any other
character (`toNat_of_mem_utf8EncodeChar`). So a text can be divided at such a character before it
is encoded or after: the byte is in the encoded text as often as the character is in the text
(`count_utf8`), and what stands before and after it is encoded on its own (`utf8_divided`). A text
in ASCII is read from its bytes (`Utf8.decode?_utf8`).
-/

namespace Introspection.Text

variable {mark : Char}

/-- A byte below 128 is the code of its character. -/
theorem toNat_of_mem_utf8EncodeChar {c : Char} {byte : UInt8}
    (member : byte ∈ String.utf8EncodeChar c) (ascii : byte.toNat < 0x80) :
    byte.toNat = c.toNat := by
  by_cases single : c.toNat < 0x80
  · rw [utf8EncodeChar_of_ascii single, List.mem_singleton] at member
    rw [member, toNat_toUInt8 (by omega)]
  · -- In a longer sequence the first byte is at least 192, and the others are at least 128.
    have long : ¬ c.val.toNat ≤ 127 := fun short => single (Nat.lt_succ_of_le short)
    simp only [String.utf8EncodeChar, if_neg long] at member
    exfalso
    split at member
    · simp only [List.mem_cons, List.not_mem_nil, or_false] at member
      rcases member with rfl | rfl <;> rw [UInt8.toNat_ofNat'] at ascii <;> omega
    · split at member
      · simp only [List.mem_cons, List.not_mem_nil, or_false] at member
        rcases member with rfl | rfl | rfl <;> rw [UInt8.toNat_ofNat'] at ascii <;> omega
      · simp only [List.mem_cons, List.not_mem_nil, or_false] at member
        rcases member with rfl | rfl | rfl | rfl <;> rw [UInt8.toNat_ofNat'] at ascii <;> omega

/-- The byte of a mark is in the encoding of the mark alone, where it is once. -/
theorem count_utf8EncodeChar (ascii : mark.toNat < 0x80) (c : Char) :
    (String.utf8EncodeChar c).count mark.toNat.toUInt8 = [c].count mark := by
  by_cases same : c = mark
  · rw [same, utf8EncodeChar_of_ascii ascii, List.count_singleton_self, List.count_singleton_self]
  · have isByte : mark.toNat.toUInt8.toNat = mark.toNat := toNat_toUInt8 (by omega)
    rw [List.count_singleton, if_neg (by simpa using same), List.count_eq_zero]
    intro member
    have code := toNat_of_mem_utf8EncodeChar member (by omega)
    rw [isByte] at code
    exact same (Char.toNat_inj.mp code.symm)

/-- A mark is in the encoded text as often as it is in the text. -/
theorem count_utf8 (ascii : mark.toNat < 0x80) (text : String) :
    (utf8 text).count mark.toNat.toUInt8 = text.toList.count mark := by
  unfold utf8
  induction text.toList with
  | nil => rfl
  | cons c rest ih =>
    rw [List.flatMap_cons, List.count_append, count_utf8EncodeChar ascii, ih, ← List.count_append,
      List.singleton_append]

/-- The bytes of a mark and of what stands before and after it. -/
theorem utf8_divided (ascii : mark.toNat < 0x80) (first rest : List Char) :
    utf8 (.ofList (first ++ mark :: rest)) =
      utf8 (.ofList first) ++ mark.toNat.toUInt8 :: utf8 (.ofList rest) := by
  simp only [utf8, String.toList_ofList, List.flatMap_append, List.flatMap_cons,
    utf8EncodeChar_of_ascii ascii, List.singleton_append]

namespace Utf8

/-- Where no sequence has begun, a character of ASCII is read from its byte. -/
theorem step_of_ascii {c : Char} (ascii : c.toNat < 0x80) (read : List (Option Char)) :
    step ⟨none, read⟩ c.toNat.toUInt8 = ⟨none, some c :: read⟩ := by
  have isCode : c.toNat.toUInt8.toNat = c.toNat := toNat_toUInt8 (by omega)
  simp only [step, start, isCode, if_pos ascii, Char.ofNat_toNat]

theorem foldl_step_of_ascii {text : List Char} (ascii : ∀ c ∈ text, c.toNat < 0x80)
    (read : List (Option Char)) :
    (text.map fun c => c.toNat.toUInt8).foldl step ⟨none, read⟩ =
      ⟨none, (text.map some).reverse ++ read⟩ := by
  induction text generalizing read with
  | nil => rfl
  | cons c rest ih =>
    rw [List.map_cons, List.foldl_cons, step_of_ascii (ascii c List.mem_cons_self),
      ih fun other member => ascii other (List.mem_cons_of_mem c member)]
    simp

/-- A text in ASCII is read from its bytes. -/
theorem decode?_utf8 {text : String} (ascii : IsAscii text) :
    decode? (utf8 text) = some text := by
  have isRead : scan (utf8 text) = text.toList.map some := by
    rw [utf8_of_isAscii ascii, scan, foldl_step_of_ascii ascii]
    simp
  have each : (text.toList.map some).mapM id = some text.toList :=
    mapM_map_eq_some fun _ _ => rfl
  rw [decode?, isRead, each, Option.map_some, String.ofList_toList]

end Utf8

end Introspection.Text
