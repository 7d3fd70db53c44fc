import Introspection.Assertion
import Introspection.Proofs.Json.Depth
import Introspection.Proofs.Text.Utf8

/-!
# The two readings of an assertion

Before an assertion is checked, its parts are read from its text, divided at every dot; when it is
checked, from its bytes, divided at the first dot and at the last. Only an assertion with two dots
passes the check, and of such a one both readings are the same (`exists_parse_eq`): dots are where
they are in the text and in its bytes alike, and each part is read by one reader. So they find the
same header and the same claims (`unverified_of_parse`).
-/

namespace Introspection.Assertion

/-- An assertion is three parts with dots between them. -/
structure HasParts (assertion : String) (header claims signature : List Char) : Prop where
  whole : assertion.toList = header ++ '.' :: (claims ++ '.' :: signature)
  headerEnds : '.' ∉ header
  claimsEnd : '.' ∉ claims
  signatureEnds : '.' ∉ signature

variable {depth : Nat} {assertion : String} {header claims signature : List Char} {parsed : Parsed}

/-- The dot is a mark of ASCII. -/
theorem dot_eq : dot = '.'.toNat.toUInt8 := rfl

theorem dot_not_mem_utf8 {part : List Char} (ends : '.' ∉ part) :
    dot ∉ Text.utf8 (.ofList part) := by
  rw [← List.count_eq_zero, dot_eq, Text.count_utf8 (by decide), String.toList_ofList]
  exact List.count_eq_zero.mpr ends

/-- An assertion whose bytes have two dots has three parts. -/
theorem exists_hasParts (dots : (Text.utf8 assertion).count dot = 2) :
    ∃ header claims signature, HasParts assertion header claims signature := by
  rw [dot_eq, Text.count_utf8 (by decide)] at dots
  have first : '.' ∈ assertion.toList := List.count_pos_iff.mp (by omega)
  obtain ⟨header, rest, whole, headerEnds⟩ := List.eq_append_cons_of_mem first
  rw [whole, List.count_append, List.count_eq_zero.mpr headerEnds, List.count_cons_self] at dots
  have second : '.' ∈ rest := List.count_pos_iff.mp (by omega)
  obtain ⟨claims, signature, rfl, claimsEnd⟩ := List.eq_append_cons_of_mem second
  rw [List.count_append, List.count_eq_zero.mpr claimsEnd, List.count_cons_self] at dots
  exact ⟨header, claims, signature, whole, headerEnds, claimsEnd,
    List.count_eq_zero.mp (by omega)⟩

/-- A run of bytes is divided at its first dot. -/
theorem divided_at_dot {first : List UInt8} (ends : dot ∉ first) (rest : List UInt8) :
    (first ++ dot :: rest).takeWhile (· != dot) = first ∧
      (first ++ dot :: rest).dropWhile (· != dot) = dot :: rest := by
  have others : ∀ byte ∈ first, (byte != dot) = true := fun byte member => by
    simpa using ne_of_mem_of_not_mem member ends
  rw [List.takeWhile_append_of_pos others, List.dropWhile_append_of_pos others]
  simp

namespace HasParts

/-- The parts of the text, divided at every dot. -/
theorem splitOn_eq (parts : HasParts assertion header claims signature) :
    assertion.toList.splitOn '.' = [header, claims, signature] := by
  rw [parts.whole, List.splitOn_append_cons_self_of_not_mem parts.headerEnds,
    List.splitOn_append_cons_self_of_not_mem parts.claimsEnd,
    List.splitOn_eq_singleton parts.signatureEnds]

/-- The bytes of an assertion are those of its parts. -/
theorem utf8_eq (parts : HasParts assertion header claims signature) :
    Text.utf8 assertion =
      (Text.utf8 (.ofList header) ++ dot :: Text.utf8 (.ofList claims)) ++
        dot :: Text.utf8 (.ofList signature) := by
  rw [← @String.ofList_toList assertion, parts.whole, Text.utf8_divided (by decide),
    Text.utf8_divided (by decide), dot_eq, List.append_assoc, List.cons_append]

/-- What is read of an assertion when it is taken apart as bytes is read from its parts. -/
theorem parse_eq (parts : HasParts assertion header claims signature) :
    parse depth (Text.utf8 assertion) = (do
      if sizeLimit < (Text.utf8 assertion).length then throw .unusable
      let headerRead <- readPart depth (Text.utf8 (.ofList header))
      if !criticalHeadersHold headerRead then throw .unusable
      let claimsRead <- readPart depth (Text.utf8 (.ofList claims))
      let signatureRead <- orUnusable (Base64.decodeAddress? (Text.utf8 (.ofList signature)))
      return ⟨headerRead, claimsRead,
        Text.utf8 (.ofList header) ++ dot :: Text.utf8 (.ofList claims), signatureRead⟩) := by
  generalize isSigned : Text.utf8 (.ofList header) ++ dot :: Text.utf8 (.ofList claims) = signed
  have signatureEnds : dot ∉ (Text.utf8 (.ofList signature)).reverse := by
    simpa using dot_not_mem_utf8 parts.signatureEnds
  have isSignature : ((Text.utf8 assertion).reverse.takeWhile (· != dot)).reverse =
      Text.utf8 (.ofList signature) := by
    rw [parts.utf8_eq, List.reverse_append, List.reverse_cons, List.append_assoc,
      List.singleton_append, (divided_at_dot signatureEnds _).1, List.reverse_reverse]
  have isTaken : (Text.utf8 assertion).take
      ((Text.utf8 assertion).length - (Text.utf8 (.ofList signature)).length - 1) = signed := by
    rw [parts.utf8_eq, isSigned]
    refine List.take_left' ?_
    rw [List.length_append, List.length_cons]
    omega
  obtain ⟨isHeader, isClaims⟩ := divided_at_dot (dot_not_mem_utf8 parts.headerEnds)
    (Text.utf8 (.ofList claims))
  rw [isSigned] at isHeader isClaims
  simp only [parse, isSignature, isTaken, isHeader, isClaims, List.drop_one, List.tail_cons]

/-- The header and the claims, read on their own. -/
theorem unverified_eq (parts : HasParts assertion header claims signature) (depth : Nat) :
    unverifiedHeader depth assertion = readPart depth (Text.utf8 (.ofList header)) ∧
      unverifiedClaims depth assertion = readPart depth (Text.utf8 (.ofList claims)) := by
  constructor
  · simp [unverifiedHeader, unverifiedPart, parts.splitOn_eq, orUnusable]
  · simp [unverifiedClaims, unverifiedPart, parts.splitOn_eq, orUnusable]

end HasParts

/-- To take an assertion of three parts apart is to read its header and its claims as they are read
without a look at the signature, and then the signature. -/
theorem exists_parse_eq (dots : (Text.utf8 assertion).count dot = 2) (depth : Nat) :
    ∃ signed signature, parse depth (Text.utf8 assertion) = (do
      if sizeLimit < (Text.utf8 assertion).length then throw .unusable
      let header <- unverifiedHeader depth assertion
      if !criticalHeadersHold header then throw .unusable
      let claims <- unverifiedClaims depth assertion
      let signature <- orUnusable (Base64.decodeAddress? signature)
      return ⟨header, claims, signed, signature⟩) := by
  obtain ⟨header, claims, signature, parts⟩ := exists_hasParts dots
  obtain ⟨isHeader, areClaims⟩ := parts.unverified_eq depth
  rw [isHeader, areClaims]
  exact ⟨_, _, parts.parse_eq⟩

/-- A part that is read is read alike with a higher limit of nesting. -/
theorem readPart_mono {deeper : Nat} {part : List UInt8} {members : Members}
    (higher : depth ≤ deeper) (isRead : readPart depth part = .ok members) :
    readPart deeper part = .ok members := by
  unfold readPart at isRead ⊢
  obtain ⟨bytes, decoded, isRead⟩ := bind_eq_ok.mp isRead
  obtain ⟨text, isText, isRead⟩ := bind_eq_ok.mp isRead
  obtain ⟨value, isValue, isRead⟩ := bind_eq_ok.mp isRead
  rw [decoded, ok_bind, isText, ok_bind]
  cases found : Json.read depth text.toList with
  | error flaw =>
    rw [found] at isValue
    cases isValue
  | ok other =>
    rw [found] at isValue
    obtain rfl := Except.ok.inj isValue
    rw [Json.read_mono higher found]
    exact isRead

theorem unverifiedPart_mono {deeper place : Nat} {members : Members} (higher : depth ≤ deeper)
    (isRead : unverifiedPart depth assertion place = .ok members) :
    unverifiedPart deeper assertion place = .ok members := by
  unfold unverifiedPart at isRead ⊢
  obtain ⟨part, isPart, isRead⟩ := bind_eq_ok.mp isRead
  rw [isPart, ok_bind]
  exact readPart_mono higher isRead

/-- What is read of an assertion before it is checked is what is checked. -/
theorem unverified_of_parse (dots : (Text.utf8 assertion).count dot = 2)
    (read : parse depth (Text.utf8 assertion) = .ok parsed) :
    unverifiedHeader depth assertion = .ok parsed.header ∧
      unverifiedClaims depth assertion = .ok parsed.claims := by
  obtain ⟨signed, signature, isParse⟩ := exists_parse_eq dots depth
  rw [isParse] at read
  split at read
  · cases read
  · obtain ⟨header, isHeader, read⟩ := bind_eq_ok.mp read
    split at read
    · cases read
    · obtain ⟨claims, areClaims, read⟩ := bind_eq_ok.mp read
      obtain ⟨_, _, read⟩ := bind_eq_ok.mp read
      obtain rfl := Except.ok.inj read
      exact ⟨isHeader, areClaims⟩

end Introspection.Assertion
