import Introspection.Json.Printer
import Introspection.Json.Reader
import Introspection.Proofs.Evaluation
import Introspection.Proofs.Text.Decimal

/-!
# Answers can be read back

What is written as an answer is read as the value that it was written from, for objects of texts,
truth values and whole numbers (`read?_write`). The reader takes a text up to its closing quote
wherever that comes, a number up to the first character that is not part of one, and of members of
one name the last; so what is read back does not depend on what the texts are, on what stands after
a number, or on the number of members.
-/

namespace Introspection

namespace Json

section Texts

variable {done rest : List Char}

/-- Wherever a text goes on with the escape of a code, it is the escape of one. -/
def Continues (text : List Char) : Prop :=
  ∀ a b c d rest, text = '\\' :: 'u' :: a :: b :: c :: d :: rest ->
    (Hex.number? [a, b, c, d]).isSome

/-- A code that is not the first half of a surrogate pair is read as its character, whatever code
comes after it. -/
theorem readText_unit {a b c d : Char} {code : Nat} (number : Hex.number? [a, b, c, d] = some code)
    (low : code < 0xD800) (continues : Continues rest) :
    readText done ('\\' :: 'u' :: a :: b :: c :: d :: rest) =
      readText (scalar code :: done) rest := by
  by_cases escape : ∃ e f g h later, rest = '\\' :: 'u' :: e :: f :: g :: h :: later
  · obtain ⟨e, f, g, h, later, rfl⟩ := escape
    obtain ⟨second, isSecond⟩ := Option.isSome_iff_exists.mp (continues e f g h later rfl)
    have notFirstHalf : ¬ 0xD800 ≤ code := by omega
    rw [readText]
    simp [number, isSecond, notFirstHalf]
  · rw [readText]
    · simp [number]
    · grind

/-- A character that stands for itself. -/
theorem readText_plain {c : Char} (noQuote : c ≠ '"') (noBackslash : c ≠ '\\')
    (printable : 0x20 ≤ c.toNat) :
    readText done (c :: rest) = readText (c :: done) rest := by
  rw [readText]
  · simp [Nat.not_lt.mpr printable]
  all_goals grind

/-- A character that is written as a letter after a backslash. -/
theorem readText_escape {c letter : Char} (isEscape : escape? letter = some c) :
    readText done ('\\' :: letter :: rest) = readText (c :: done) rest := by
  have noCode : letter ≠ 'u' := by
    rintro rfl
    cases isEscape
  rw [readText]
  · simp [isEscape]
  all_goals grind

/-- The forms in which a character is written in an answer. -/
inductive WrittenAs (c : Char) : List Char -> Prop
  /-- As a letter after a backslash. -/
  | letter {letter : Char} (isEscape : escape? letter = some c) : WrittenAs c ['\\', letter]
  /-- By its code, for a control character. -/
  | code {digits : List Char} (four : digits.length = 4)
      (number : Hex.number? digits = some c.toNat) (control : c.toNat < 0x20) :
      WrittenAs c ('\\' :: 'u' :: digits)
  /-- As itself. -/
  | plain (noQuote : c ≠ '"') (noBackslash : c ≠ '\\') (visible : 0x20 ≤ c.toNat) :
      WrittenAs c [c]

/-- The escape of a control character spells its code. -/
theorem number?_hexDigits {code : Nat} (control : code < 0x20) :
    Hex.number? (Text.hexDigits 4 code) = some code := by
  revert code
  decide

/-- Every character is written in one of these forms. -/
theorem writtenAs_writtenChar (c : Char) : WrittenAs c (writtenChar false c) := by
  have char_eq (code : Nat) (isCode : c.toNat = code) : Char.ofNat code = c := by
    rw [← isCode, Char.ofNat_toNat]
  simp only [writtenChar]
  split
  · next special =>
    rcases special with rfl | rfl
    · exact .letter rfl
    · exact .letter rfl
  next notSpecial =>
  split
  · next isChar => exact .letter (congrArg some isChar.symm)
  split
  · next isChar => exact .letter (congrArg some isChar.symm)
  split
  · next isChar => exact .letter (congrArg some isChar.symm)
  split
  · next isCode => exact .letter (congrArg some (char_eq 8 isCode))
  split
  · next isCode => exact .letter (congrArg some (char_eq 12 isCode))
  split
  · next control => exact .code rfl (number?_hexDigits control) control
  next visible =>
  simp only [Bool.false_eq_true, false_and, if_false]
  exact .plain (fun isQuote => notSpecial (.inl isQuote))
    (fun isBackslash => notSpecial (.inr isBackslash)) (Nat.not_lt.mp visible)

/-- A character is read as it was written. -/
theorem WrittenAs.readText {c : Char} {written : List Char} (as : WrittenAs c written)
    (continues : Continues rest) :
    Json.readText done (written ++ rest) = Json.readText (c :: done) rest := by
  cases as with
  | letter isEscape => exact readText_escape isEscape
  | plain noQuote noBackslash visible => exact readText_plain noQuote noBackslash visible
  | @code digits four number control =>
    have valid : c.toNat.isValidChar := c.valid
    have isScalar : scalar c.toNat = c := by
      rw [scalar, if_pos valid, Char.ofNat_toNat]
    match digits, four with
    | [e, f, g, h], _ =>
      have read : Json.readText done ('\\' :: 'u' :: e :: f :: g :: h :: rest) =
        Json.readText (scalar c.toNat :: done) rest :=
          readText_unit number (by omega) continues
      rwa [isScalar] at read

/-- A written character is the escape of a code only where it was written as one. -/
theorem WrittenAs.continues {c : Char} {written : List Char} (as : WrittenAs c written) :
    Continues (written ++ rest) := by
  intro e f g h later same
  cases as with
  | @letter letter isEscape =>
    obtain ⟨rfl, _⟩ : letter = 'u' ∧ rest = e :: f :: g :: h :: later := by simpa using same
    cases isEscape
  | plain noQuote noBackslash visible => exact absurd (List.cons.inj same).1 noBackslash
  | @code digits four number control =>
    match digits, four with
    | [_, _, _, _], _ =>
      simp only [List.cons_append, List.cons.injEq] at same
      obtain ⟨_, _, rfl, rfl, rfl, rfl, _⟩ := same
      exact number ▸ rfl

/-- A text is read up to its closing quote. -/
theorem readText_written (text rest : List Char) (done : List Char) :
    readText done (text.flatMap (writtenChar false) ++ '"' :: rest) =
      some (String.ofList (done.reverse ++ text), rest) := by
  induction text generalizing done with
  | nil => simp [readText]
  | cons c text ih =>
    have continues : Continues (text.flatMap (writtenChar false) ++ '"' :: rest) := by
      cases text with
      | nil =>
        intro _ _ _ _ _ same
        cases same
      | cons c text =>
        rw [List.flatMap_cons, List.append_assoc]
        exact (writtenAs_writtenChar c).continues
    rw [List.flatMap_cons, List.append_assoc, (writtenAs_writtenChar c).readText continues, ih]
    simp

end Texts

section Numbers

open Text

/-- Zero is written as a zero; every other number starts with another digit. -/
theorem decimalDigits_eq_cons (number : Nat) :
    number = 0 ∧ decimalDigits number = ['0'] ∨
      ∃ first rest, decimalDigits number = first :: rest ∧ first ≠ '0' ∧ first ≠ '-' := by
  induction number using Nat.strongRecOn with
  | ind number ih =>
    unfold decimalDigits at ih ⊢
    rw [Nat.toDigits_eq_if (by decide)]
    split
    · next small =>
      clear ih
      have digits : ∀ digit < 10, digit = 0 ∧ [digit.digitChar] = ['0'] ∨
          digit.digitChar ≠ '0' ∧ digit.digitChar ≠ '-' := by decide
      rcases digits number small with zero | others
      · exact .inl zero
      · exact .inr ⟨_, [], rfl, others⟩
    · next large =>
      rcases ih (number / 10) (by omega) with ⟨zero, _⟩ | ⟨first, rest, spelled, others⟩
      · omega
      · exact .inr ⟨first, rest ++ [(number % 10).digitChar], by rw [spelled]; rfl, others⟩

/-- A character that is not part of a number. -/
structure EndsNumber (c : Char) : Prop where
  noDigit : asciiDigit? c = none
  noPoint : c ≠ '.'
  noExponent : ¬ (c = 'e' ∨ c = 'E')

theorem endsNumber_comma : EndsNumber ',' := ⟨rfl, by decide, by decide⟩

theorem endsNumber_close : EndsNumber '\x7d' := ⟨rfl, by decide, by decide⟩

/-- The digits of a number are read up to the first character that is none. -/
theorem spanDigits_decimalDigits (number : Nat) {c : Char} (noDigit : asciiDigit? c = none)
    (rest : List Char) :
    spanDigits (decimalDigits number ++ c :: rest) =
      ((decimalDigits number).filterMap asciiDigit?, c :: rest) := by
  have digits : ∀ c ∈ decimalDigits number, (asciiDigit? c).isSome := fun c => isSome_asciiDigit?
  simp [spanDigits, List.takeWhile_append_of_pos digits, List.dropWhile_append_of_pos digits,
    noDigit]

/-- Digits are read as a number up to the first character that is not part of one, with a minus
sign or without. -/
theorem readNumber_decimalDigits (number : Nat) {c : Char} (ends : EndsNumber c)
    (rest : List Char) (short : (decimalDigits number).length ≤ digitLimit) :
    readNumber (decimalDigits number ++ c :: rest) = some (.int number, c :: rest) ∧
      readNumber ('-' :: decimalDigits number ++ c :: rest) = some (.int (-number), c :: rest) := by
  obtain ⟨noDigit, noPoint, noExponent⟩ := ends
  rcases decimalDigits_eq_cons number with ⟨rfl, zero⟩ | ⟨first, others, spelled, notZero, notMinus⟩
  · rw [zero]
    constructor
    · simp [readNumber, noPoint, noExponent, digitLimit, numberOf, withSign]
    · simp [readNumber, noPoint, noExponent, digitLimit, numberOf, withSign]
  · have span := spanDigits_decimalDigits number noDigit rest
    have isNumber := numberOf_decimalDigits number
    have given : (decimalDigits number).filterMap asciiDigit? ≠ [] := by
      have member : first ∈ decimalDigits number := by simp [spelled]
      obtain ⟨value, isValue⟩ := Option.isSome_iff_exists.mp (isSome_asciiDigit? member)
      simp [spelled, isValue]
    have notLong : ¬ digitLimit < ((decimalDigits number).filterMap asciiDigit?).length :=
      Nat.not_lt.mpr (Nat.le_trans (List.length_filterMap_le _ _) short)
    generalize (decimalDigits number).filterMap asciiDigit? = values at *
    rw [spelled, List.cons_append] at span
    rw [spelled]
    constructor
    · simp [readNumber, notZero, notMinus, span, given, noPoint, noExponent, notLong, isNumber,
        withSign]
    · simp [readNumber, notZero, span, given, noPoint, noExponent, notLong, isNumber, withSign]

/-- A whole number is read up to the first character that is not part of one. -/
theorem readNumber_decimal (value : Int) {c : Char} (ends : EndsNumber c) (rest : List Char)
    (short : (decimalDigits value.natAbs).length ≤ digitLimit) :
    readNumber ((decimal value).toList ++ c :: rest) = some (.int value, c :: rest) := by
  cases value with
  | ofNat number => simpa [decimal] using (readNumber_decimalDigits number ends rest short).1
  | negSucc number =>
    simp only [decimal, String.toList_ofList]
    exact (readNumber_decimalDigits (number + 1) ends rest short).2

end Numbers

section Values

open Text (isSome_asciiDigit? ne_of_isSome_asciiDigit?)

/-- A value without parts that can be written and read again: a number with a fraction or an
exponent may lose digits, and a long one is refused. -/
inductive IsScalar : Json -> Prop
  | null : IsScalar .null
  | bool (value : Bool) : IsScalar (.bool value)
  | int {value : Int} (short : (Text.decimalDigits value.natAbs).length ≤ Text.digitLimit) :
      IsScalar (.int value)
  | string (value : String) : IsScalar (.string value)

/-- What starts with a digit, or with a minus sign before one, is read as a number. -/
theorem readValue_digit (fuel depth : Nat) {first : Char}
    (isDigit : (Text.asciiDigit? first).isSome) (rest : List Char) :
    Json.readValue (fuel + 1) depth (first :: rest) = orMalformed (readNumber (first :: rest)) ∧
      Json.readValue (fuel + 1) depth ('-' :: first :: rest) =
        orMalformed (readNumber ('-' :: first :: rest)) := by
  constructor
  · rw [Json.readValue]
    all_goals
      intro _ same
      simp only [List.cons.injEq] at same
      exact ne_of_isSome_asciiDigit? isDigit (by decide) same.1
  · rw [Json.readValue]
    all_goals
      intro _ same
      simp only [List.cons.injEq] at same
      first
        | exact absurd same.1 (by decide)
        | exact ne_of_isSome_asciiDigit? isDigit (by decide) same.2.1

/-- A whole number starts with a digit, or with a minus sign before one. -/
theorem decimal_eq_cons (value : Int) :
    ∃ first rest, (Text.asciiDigit? first).isSome ∧
      ((Text.decimal value).toList = first :: rest ∨
        (Text.decimal value).toList = '-' :: first :: rest) := by
  have starts (number : Nat) : ∃ first rest, (Text.asciiDigit? first).isSome ∧
      Text.decimalDigits number = first :: rest := by
    have nonempty : Text.decimalDigits number ≠ [] := Nat.toDigits_ne_nil
    obtain ⟨first, rest, spelled⟩ := List.exists_cons_of_ne_nil nonempty
    have member : first ∈ Text.decimalDigits number := by simp [spelled]
    exact ⟨first, rest, isSome_asciiDigit? member, spelled⟩
  cases value with
  | ofNat number =>
    obtain ⟨first, rest, isDigit, spelled⟩ := starts number
    exact ⟨first, rest, isDigit, .inl (by simp [Text.decimal, spelled])⟩
  | negSucc number =>
    obtain ⟨first, rest, isDigit, spelled⟩ := starts (number + 1)
    exact ⟨first, rest, isDigit, .inr (by simp [Text.decimal, spelled])⟩

/-- A value without parts is read as it was written, up to the first character that is not part of
a number. -/
theorem IsScalar.readValue {value : Json} (scalar : value.IsScalar) (fuel depth : Nat) {c : Char}
    (ends : EndsNumber c) (rest : List Char) :
    Json.readValue (fuel + 1) depth ((value.write .answer).toList ++ c :: rest) =
      .ok (value, c :: rest) := by
  cases scalar with
  | null => rfl
  | bool value => cases value <;> rfl
  | string value =>
    have read := readText_written value.toList (c :: rest) []
    simp [write, writtenText, Style.answer, Json.readValue, read, orMalformed]
  | @int value short =>
    have read := readNumber_decimal value ends rest short
    obtain ⟨first, others, isDigit, spelled | spelled⟩ := decimal_eq_cons value
    · rw [spelled] at read
      rw [write, spelled, List.cons_append, (readValue_digit fuel depth isDigit _).1]
      exact congrArg orMalformed read
    · rw [spelled] at read
      rw [write, spelled, List.cons_append, List.cons_append,
        (readValue_digit fuel depth isDigit _).2]
      exact congrArg orMalformed read

/-- A value without parts has no space before it. -/
theorem IsScalar.skipSpace {value : Json} (scalar : value.IsScalar) (rest : List Char) :
    Json.skipSpace ((value.write .answer).toList ++ rest) =
      (value.write .answer).toList ++ rest := by
  cases scalar with
  | null => rfl
  | bool value => cases value <;> rfl
  | string value => simp [write, writtenText, Json.skipSpace, isSpace]
  | @int value short =>
    obtain ⟨first, others, isDigit, spelled | spelled⟩ := decimal_eq_cons value
    · have other {c : Char} : Text.asciiDigit? c = none -> first ≠ c :=
        ne_of_isSome_asciiDigit? isDigit
      have noSpace : isSpace first = false := by
        have noBlank : first ≠ ' ' := other rfl
        have noTab : first ≠ '\t' := other rfl
        have noFeed : first ≠ '\n' := other rfl
        have noReturn : first ≠ '\r' := other rfl
        simp [isSpace, noBlank, noTab, noFeed, noReturn]
      rw [write, spelled]
      simp [Json.skipSpace, noSpace]
    · rw [write, spelled]
      simp [Json.skipSpace, isSpace]

/-- The text of a member in an answer. -/
def memberText (name : String) (value : Json) : List Char :=
  (writtenText .answer name ++ Style.answer.colon ++ value.write .answer).toList

/-- The text of members in an answer, with commas between them. -/
def membersText (members : List (String × Json)) : List Char :=
  (Style.answer.comma.intercalate (writeMembers .answer members)).toList

theorem memberText_eq (name : String) (value : Json) :
    memberText name value = '"' :: (name.toList.flatMap (writtenChar false) ++
      '"' :: ':' :: (value.write .answer).toList) := by
  simp [memberText, writtenText, Style.answer]

theorem membersText_singleton (name : String) (value : Json) :
    membersText [(name, value)] = memberText name value := by
  rw [membersText, writeMembers, writeMembers, String.intercalate_singleton, memberText]

theorem membersText_cons_cons (name : String) (value : Json) (next : String × Json)
    (others : List (String × Json)) :
    membersText ((name, value) :: next :: others) =
      memberText name value ++ ',' :: membersText (next :: others) := by
  rw [membersText, membersText, memberText, writeMembers, writeMembers,
    String.intercalate_cons_cons, String.toList_append, String.toList_append, List.append_assoc]
  rfl

/-- The text of members starts with the quote of a name. -/
theorem membersText_eq_cons (member : String × Json) (members : List (String × Json)) :
    ∃ rest, membersText (member :: members) = '"' :: rest := by
  cases members with
  | nil => exact ⟨_, by rw [membersText_singleton, memberText_eq]⟩
  | cons next others => exact ⟨_, by rw [membersText_cons_cons, memberText_eq, List.cons_append]⟩

/-- Every member takes up a place in the text. -/
theorem length_le_membersText (members : List (String × Json)) :
    members.length ≤ (membersText members).length := by
  induction members with
  | nil => exact Nat.zero_le _
  | cons member members ih =>
    obtain ⟨name, value⟩ := member
    cases members with
    | nil => simp [membersText_singleton, memberText_eq]
    | cons next others =>
      simp only [membersText_cons_cons, List.length_append, List.length_cons] at ih ⊢
      omega

/-- A member of an object is read, be it followed by others or the last one. -/
theorem readMembers_member (fuel depth : Nat) (done : List (String × Json)) (name : String)
    {value : Json} (scalar : value.IsScalar) (rest : List Char) :
    readMembers (fuel + 2) depth done (memberText name value ++ ',' :: rest) =
        readMembers (fuel + 1) depth (insert name value done) (skipSpace rest) ∧
      readMembers (fuel + 2) depth done (memberText name value ++ '\x7d' :: rest) =
        .ok (.object (insert name value done), rest) := by
  have readName (text : List Char) :
      readText [] (name.toList.flatMap (writtenChar false) ++ '"' :: text) = some (name, text) := by
    simpa using readText_written name.toList text []
  have colon (text : List Char) : skipSpace (':' :: text) = ':' :: text := rfl
  constructor
  · have comma : skipSpace (',' :: rest) = ',' :: rest := rfl
    have readValue := scalar.readValue fuel depth endsNumber_comma rest
    simp [memberText_eq, readMembers, readName, orMalformed, colon, scalar.skipSpace, readValue,
      comma]
  · have close : skipSpace ('\x7d' :: rest) = '\x7d' :: rest := rfl
    have readValue := scalar.readValue fuel depth endsNumber_close rest
    simp [memberText_eq, readMembers, readName, orMalformed, colon, scalar.skipSpace, readValue,
      close]

/-- A member of a new name is added at the end. -/
theorem insert_of_fresh {name : String} (value : Json) {members : List (String × Json)}
    (fresh : name ∉ members.map Prod.fst) :
    insert name value members = members ++ [(name, value)] := by
  induction members with
  | nil => rfl
  | cons entry rest ih =>
    rw [List.map_cons, List.mem_cons, not_or] at fresh
    simp [insert, Ne.symm fresh.1, ih fresh.2]

/-- The members of an object are read as they were written, up to the closing bracket. -/
theorem readMembers_written {members : List (String × Json)} (nonempty : members ≠ [])
    (scalars : ∀ member ∈ members, member.2.IsScalar) (done : List (String × Json))
    (distinct : ((done ++ members).map Prod.fst).Nodup) (fuel depth : Nat) (rest : List Char) :
    readMembers (fuel + members.length + 1) depth done (membersText members ++ '\x7d' :: rest) =
      .ok (.object (done ++ members), rest) := by
  induction members generalizing done with
  | nil => exact absurd rfl nonempty
  | cons member members ih =>
    obtain ⟨name, value⟩ := member
    have scalar : value.IsScalar := scalars (name, value) List.mem_cons_self
    have fresh : name ∉ done.map Prod.fst := by
      intro earlier
      rw [List.map_append, List.nodup_append] at distinct
      exact distinct.2.2 name earlier name (by simp) rfl
    have inserted := insert_of_fresh value fresh
    cases members with
    | nil =>
      rw [membersText_singleton, List.length_singleton,
        (readMembers_member fuel depth done name scalar rest).2, inserted]
    | cons next others =>
      have later := ih (by simp) (fun member among => scalars member (List.mem_cons_of_mem _ among))
        (done ++ [(name, value)]) (by simpa using distinct)
      have fuel_eq : fuel + ((name, value) :: next :: others).length + 1 =
          (fuel + others.length + 1) + 2 := by
        simp only [List.length_cons]
        omega
      have skipped : skipSpace (membersText (next :: others) ++ '\x7d' :: rest) =
          membersText (next :: others) ++ '\x7d' :: rest := by
        obtain ⟨text, starts⟩ := membersText_eq_cons next others
        rw [starts]
        rfl
      rw [membersText_cons_cons, fuel_eq, List.append_assoc, List.cons_append,
        (readMembers_member _ depth done name scalar _).1, inserted]
      simpa [skipped, Nat.add_assoc] using later

/-- What is written as an answer is read back wherever one object may be opened: an object of values
without parts, under different names. -/
theorem read_write {members : List (String × Json)}
    (scalars : ∀ member ∈ members, member.2.IsScalar) (distinct : (members.map Prod.fst).Nodup)
    (depth : Nat) :
    read (depth + 1) ((Json.object members).write .answer).toList = .ok (.object members) := by
  cases members with
  | nil => rfl
  | cons member members =>
    have text_eq : ((Json.object (member :: members)).write .answer).toList =
        '\x7b' :: (membersText (member :: members) ++ ['\x7d']) := by
      simp [write, membersText]
    have enough := length_le_membersText (member :: members)
    obtain ⟨fuel, fuel_eq⟩ : ∃ fuel,
        2 * ('\x7b' :: (membersText (member :: members) ++ ['\x7d'])).length =
          fuel + (member :: members).length + 1 := by
      refine ⟨_, (Nat.sub_add_cancel ?_).symm.trans (Nat.add_assoc _ _ _).symm⟩
      simp only [List.length_cons, List.length_append] at enough ⊢
      omega
    have isRead := readMembers_written (List.cons_ne_nil member members) scalars []
      (by simpa using distinct) fuel depth []
    obtain ⟨text, starts⟩ := membersText_eq_cons member members
    have opened : readValue (fuel + (member :: members).length + 1 + 1) (depth + 1)
        (skipSpace ('\x7b' :: (membersText (member :: members) ++ ['\x7d']))) =
          .ok (.object (member :: members), []) := by
      rw [starts] at isRead ⊢
      exact isRead
    rw [text_eq, read, fuel_eq, opened]
    rfl

/-- An object that is written as an answer is read back. -/
theorem read?_write {members : List (String × Json)}
    (scalars : ∀ member ∈ members, member.2.IsScalar) (distinct : (members.map Prod.fst).Nodup) :
    read? ((Json.object members).write .answer).toList = some (.object members) := by
  have opened : ((Json.object members).write .answer).toList ≠ [] := by simp [write]
  obtain ⟨first, rest, text_eq⟩ := List.exists_cons_of_ne_nil opened
  have isRead := read_write scalars distinct rest.length
  rw [text_eq] at isRead ⊢
  rw [read?, List.length_cons, isRead]
  rfl

end Values

end Json

end Introspection
