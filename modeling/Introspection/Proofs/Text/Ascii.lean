import Introspection.Text.Blank
import Introspection.Text.Utf8

/-!
# Plain texts

A text in ASCII has one byte for each character, in whatever encoding. So such a text can be read
from its bytes (`Ascii.decode?_utf8`), and bytes below 128 from the text that they spell
(`Ascii.encode?_decode`). A text without blanks is what is left when blanks are taken off its ends
(`trim_eq_self`).
-/

namespace Introspection.Text

/-- A text has no character above U+007F. -/
def IsAscii (text : String) : Prop := ∀ c ∈ text.toList, c.toNat < 0x80

instance (text : String) : Decidable (IsAscii text) :=
  List.decidableBAll (fun c : Char => c.toNat < 0x80) text.toList

theorem IsAscii.append {first second : String} (isFirst : IsAscii first)
    (isSecond : IsAscii second) : IsAscii (first ++ second) := by
  intro c member
  rw [String.toList_append, List.mem_append] at member
  exact member.elim (isFirst c) (isSecond c)

/-- Items that are written one by one are read back one by one. -/
theorem mapM_map_eq_some {α β : Type} {write : α -> β} {read : β -> Option α} {items : List α}
    (each : ∀ item ∈ items, read (write item) = some item) :
    (items.map write).mapM read = some items := by
  induction items with
  | nil => rfl
  | cons item rest ih =>
    have later := ih fun other member => each other (List.mem_cons_of_mem item member)
    rw [List.map_cons, List.mapM_cons, each item List.mem_cons_self, later]
    rfl

theorem toNat_toUInt8 {code : Nat} (small : code < 0x100) : code.toUInt8.toNat = code := by
  rw [Nat.toUInt8_eq, UInt8.toNat_ofNat']
  omega

theorem toNat_ofNat (byte : UInt8) : (Char.ofNat byte.toNat).toNat = byte.toNat := by
  have small := byte.toNat_lt
  have valid : byte.toNat.isValidChar := .inl (by omega)
  rw [Char.ofNat, dif_pos valid]
  rfl

/-- In UTF-8 a character of ASCII is the byte of its code. -/
theorem utf8EncodeChar_of_ascii {c : Char} (ascii : c.toNat < 0x80) :
    String.utf8EncodeChar c = [c.toNat.toUInt8] := by
  have small : c.val ≤ 127 := UInt32.le_iff_toNat_le.mpr (Nat.le_of_lt_succ ascii)
  exact String.utf8EncodeChar_eq_singleton (Char.utf8Size_eq_one_iff.mpr small)

/-- In UTF-8 a text in ASCII is the bytes of its codes. -/
theorem utf8_of_isAscii {text : String} (ascii : IsAscii text) :
    utf8 text = text.toList.map fun c => c.toNat.toUInt8 := by
  have single : ∀ c ∈ text.toList, String.utf8EncodeChar c = [c.toNat.toUInt8] :=
    fun c member => utf8EncodeChar_of_ascii (ascii c member)
  rw [utf8, List.map_eq_flatMap, List.flatMap_def, List.flatMap_def, List.map_congr_left single]

/-- A text in ASCII is read from its bytes. -/
theorem Ascii.decode?_utf8 {text : String} (ascii : IsAscii text) :
    decode? (utf8 text) = some text := by
  have isRead : (text.toList.map fun c => c.toNat.toUInt8).mapM (fun byte : UInt8 =>
      if byte < 0x80 then some (Char.ofNat byte.toNat) else none) = some text.toList := by
    apply mapM_map_eq_some
    intro c member
    have small := ascii c member
    have same : c.toNat.toUInt8.toNat = c.toNat := toNat_toUInt8 (by omega)
    have below : c.toNat.toUInt8 < 0x80 := by
      rw [UInt8.lt_iff_toNat_lt, same]
      exact small
    rw [if_pos below, same, Char.ofNat_toNat]
  rw [utf8_of_isAscii ascii, decode?, isRead, Option.map_some, String.ofList_toList]

/-- Bytes below 128 are read from the text that they spell. -/
theorem Ascii.encode?_decode {bytes : List UInt8} (ascii : ∀ byte ∈ bytes, byte.toNat < 0x80) :
    encode? (Latin1.decode bytes) = some bytes := by
  rw [encode?, Latin1.decode, String.toList_ofList]
  apply mapM_map_eq_some
  intro byte member
  rw [toNat_ofNat, if_pos (ascii byte member), Nat.toUInt8_eq, UInt8.ofNat_toNat]

/-- Nothing is taken off a text in which there are no blanks. -/
theorem trim_eq_self {text : List Char} (noBlank : ∀ c ∈ text, isBlank c = false) :
    trim text = text := by
  have front (text : List Char) (noBlank : ∀ c ∈ text, isBlank c = false) :
      text.dropWhile isBlank = text := by
    cases text with
    | nil => rfl
    | cons c rest => exact List.dropWhile_cons_of_neg (by simp [noBlank c List.mem_cons_self])
  rw [trim, trimWhere, front text noBlank, front text.reverse, List.reverse_reverse]
  intro c member
  exact noBlank c (List.mem_reverse.mp member)

end Introspection.Text
