import Introspection.Http.Authorization
import Introspection.Proofs.Base64
import Introspection.Proofs.Text.Ascii

/-!
# The header of a basic credential

An id and a secret in ASCII are read from the header that they are written in
(`read?_basicHeader`), whatever else is in them: a colon ends the id, but not the secret, and blanks
are hidden by base64.
-/

namespace Introspection.Http.Authorization

/-- The header that carries an id and a secret. -/
def basicHeader (clientId secret : String) : String :=
  "Basic" ++ " " ++ Text.Latin1.decode (Base64.encode (Text.utf8 (clientId ++ ":" ++ secret)))

/-- A text is divided at the first character of a kind. -/
theorem divided_at {c : Char} {first : List Char} (absent : c ∉ first) (rest : List Char) :
    (first ++ c :: rest).takeWhile (· ≠ c) = first ∧
      (first ++ c :: rest).dropWhile (· ≠ c) = c :: rest := by
  have others : ∀ other ∈ first, decide (other ≠ c) = true := by
    intro other member
    refine decide_eq_true fun same => absent ?_
    exact same ▸ member
  rw [List.takeWhile_append_of_pos others, List.dropWhile_append_of_pos others]
  simp

/-- In base64 all characters are in ASCII, and none is a blank. -/
theorem plain_of_mem_encode {bytes : List UInt8} {byte : UInt8}
    (member : byte ∈ Base64.encode bytes) :
    byte.toNat < 0x80 ∧ Text.isBlank (Char.ofNat byte.toNat) = false := by
  have digits : ∀ value < 64, (Base64.standardDigit value).toNat < 0x80 ∧
      Text.isBlank (Char.ofNat (Base64.standardDigit value).toNat) = false := by decide
  rcases Base64.mem_encode member with rfl | ⟨value, small, rfl⟩
  · decide
  · exact digits value small

/-- The text of a credential, after a scheme that has no space in it, is divided from it and stays
whole. -/
theorem divide_written {scheme : String} (noSpace : ' ' ∉ scheme.toList) (bytes : List UInt8) :
    divide (scheme ++ " " ++ Text.Latin1.decode (Base64.encode bytes)) =
      (scheme, Text.Latin1.decode (Base64.encode bytes)) := by
  have noBlank : ∀ c ∈ (Text.Latin1.decode (Base64.encode bytes)).toList,
      Text.isBlank c = false := by
    intro c member
    rw [Text.Latin1.decode, String.toList_ofList] at member
    obtain ⟨byte, isByte, rfl⟩ := List.mem_map.mp member
    exact (plain_of_mem_encode isByte).2
  have whole : (scheme ++ " " ++ Text.Latin1.decode (Base64.encode bytes)).toList =
      scheme.toList ++ ' ' :: (Text.Latin1.decode (Base64.encode bytes)).toList := by
    simp
  obtain ⟨before, after⟩ := divided_at noSpace (Text.Latin1.decode (Base64.encode bytes)).toList
  simp only [divide, whole, before, after, List.drop_one, List.tail_cons, Text.trim_eq_self noBlank,
    String.ofList_toList]

/-- An id and a secret are read from the text that stands for them in base64. -/
theorem readBasic?_encode {clientId secret : String} (idAscii : Text.IsAscii clientId)
    (noColon : ':' ∉ clientId.toList) (ascii : Text.IsAscii secret) :
    readBasic? (Text.Latin1.decode (Base64.encode (Text.utf8 (clientId ++ ":" ++ secret)))) =
      some (clientId, secret) := by
  have pairAscii : Text.IsAscii (clientId ++ ":" ++ secret) :=
    (idAscii.append (by decide)).append ascii
  have encoded := Text.Ascii.encode?_decode fun byte member =>
    (@plain_of_mem_encode (Text.utf8 (clientId ++ ":" ++ secret)) byte member).1
  have whole : (clientId ++ ":" ++ secret).toList = clientId.toList ++ ':' :: secret.toList := by
    simp
  obtain ⟨before, after⟩ := divided_at noColon secret.toList
  simp only [readBasic?, encoded, Option.bind_eq_bind, Option.bind_some, Base64.decode?_encode,
    Text.Ascii.decode?_utf8 pairAscii, whole, before, after, String.ofList_toList]

/-- An id and a secret in ASCII are read from the header that they are written in, if there is no
colon in the id. -/
theorem read?_basicHeader {clientId secret : String} (idAscii : Text.IsAscii clientId)
    (noColon : ':' ∉ clientId.toList) (ascii : Text.IsAscii secret) :
    read? (some (basicHeader clientId secret)) = some ⟨none, some (clientId, secret)⟩ := by
  have divided : divide (basicHeader clientId secret) = ("Basic", _) :=
    divide_written (by decide) (Text.utf8 (clientId ++ ":" ++ secret))
  have isBasic : (schemeOf (basicHeader clientId secret) == "basic") = true := by
    simp only [schemeOf, divided]
    decide
  rw [read?, Option.getD_some, if_pos isBasic, divided, readBasic?_encode idAscii noColon ascii]
  rfl

end Introspection.Http.Authorization
