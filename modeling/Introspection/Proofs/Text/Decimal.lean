import Introspection.Proofs.Text.Ascii
import Introspection.Text.Integer

/-!
# Integers in decimal

An integer that is written in decimal is read as what it is (`integer?_decimal`), as long as it has
no more digits than are read. The digits make up the number (`numberOf_decimalDigits`), and there is
nothing else in the text that the reader might stop at, apart from the sign.
-/

namespace Introspection.Text

section Digits

/-- The number of the values of digits that are followed by one more. -/
theorem numberOf_concat (values : List Nat) (last : Nat) :
    numberOf (values ++ [last]) = 10 * numberOf values + last := by
  simp [numberOf]

theorem asciiDigit?_digitChar {digit : Nat} (small : digit < 10) :
    asciiDigit? digit.digitChar = some digit := by
  revert digit
  decide

theorem isSome_asciiDigit? {number : Nat} {c : Char} (member : c ∈ decimalDigits number) :
    (asciiDigit? c).isSome := by
  have isDigit : c.isDigit = true := Nat.isDigit_of_mem_toDigits (by decide) (by decide) member
  simp only [Char.isDigit, Bool.and_eq_true, decide_eq_true_eq] at isDigit
  have inRange : '0' ≤ c ∧ c ≤ '9' := isDigit
  rw [asciiDigit?, if_pos inRange]
  rfl

/-- A digit is none of the characters that are no digits. -/
theorem ne_of_isSome_asciiDigit? {first c : Char} (isDigit : (asciiDigit? first).isSome)
    (noDigit : asciiDigit? c = none) : first ≠ c := by
  rintro rfl
  rw [noDigit] at isDigit
  cases isDigit

/-- The values of the digits of a number make up the number. -/
theorem numberOf_decimalDigits (number : Nat) :
    numberOf ((decimalDigits number).filterMap asciiDigit?) = number := by
  induction number using Nat.strongRecOn with
  | ind number ih =>
    unfold decimalDigits at ih ⊢
    rw [Nat.toDigits_eq_if (by decide)]
    split
    · next small => simp [asciiDigit?_digitChar small, numberOf]
    · next large =>
      have last := asciiDigit?_digitChar (Nat.mod_lt number (by decide : 0 < 10))
      rw [List.filterMap_append, List.filterMap_cons_some last, List.filterMap_nil,
        numberOf_concat, ih (number / 10) (by omega)]
      omega

/-- Where a digit lies among the characters. -/
theorem toNat_of_isSome_asciiDigit? {c : Char} (isDigit : (asciiDigit? c).isSome) :
    0x30 ≤ c.toNat ∧ c.toNat ≤ 0x39 := by
  unfold asciiDigit? at isDigit
  split at isDigit
  · next inRange => exact inRange
  · cases isDigit

/-- Among the digits of all scripts those of ASCII have the same values. -/
theorem digit?_eq_asciiDigit? {c : Char} (isDigit : (asciiDigit? c).isSome) :
    digit? c = asciiDigit? c := by
  have each : ∀ code < 0x3A, 0x30 ≤ code ->
      digit? (Char.ofNat code) = asciiDigit? (Char.ofNat code) := by decide
  obtain ⟨low, high⟩ := toNat_of_isSome_asciiDigit? isDigit
  have same := each c.toNat (by omega) low
  rwa [Char.ofNat_toNat] at same

/-- In decimal there are digits, and possibly a minus sign. -/
theorem mem_decimal {value : Int} {c : Char} (member : c ∈ (decimal value).toList) :
    c = '-' ∨ (asciiDigit? c).isSome := by
  cases value with
  | ofNat number =>
    rw [decimal, String.toList_ofList] at member
    exact .inr (isSome_asciiDigit? member)
  | negSucc number =>
    rw [decimal, String.toList_ofList] at member
    exact (List.mem_cons.mp member).imp_right isSome_asciiDigit?

theorem isBlank_of_isSome_asciiDigit? {c : Char} (isDigit : (asciiDigit? c).isSome) :
    isBlank c = false := by
  obtain ⟨low, high⟩ := toNat_of_isSome_asciiDigit? isDigit
  simp [isBlank, isWhiteSpace]
  omega

end Digits

section Reading

/-- Digits of ASCII are read one by one. -/
theorem mapM_digit?_of_digits {digits : List Char}
    (isDigits : ∀ c ∈ digits, (asciiDigit? c).isSome) :
    digits.mapM digit? = some (digits.filterMap asciiDigit?) := by
  induction digits with
  | nil => rfl
  | cons c rest ih =>
    have isDigit := isDigits c List.mem_cons_self
    obtain ⟨value, isValue⟩ := Option.isSome_iff_exists.mp isDigit
    have later := ih fun other member => isDigits other (List.mem_cons_of_mem c member)
    rw [List.mapM_cons, digit?_eq_asciiDigit? isDigit, isValue, later,
      List.filterMap_cons_some isValue]
    rfl

/-- A run of digits of ASCII is read as their values. -/
theorem digitRun?_of_digits {digits : List Char} (given : digits ≠ [])
    (isDigits : ∀ c ∈ digits, (asciiDigit? c).isSome) :
    digitRun? digit? digits = some (digits.filterMap asciiDigit?) := by
  have whole : digits.splitOn '_' = [digits] := by
    apply List.splitOn_eq_singleton
    intro member
    cases isDigits '_' member
  simp [digitRun?, whole, given, mapM_digit?_of_digits isDigits]

/-- Digits of ASCII have no sign before them. -/
theorem signed_of_digits {digits : List Char} (isDigits : ∀ c ∈ digits, (asciiDigit? c).isSome) :
    signed digits = (false, digits) := by
  cases digits with
  | nil => rfl
  | cons c rest =>
    have isDigit := isDigits c List.mem_cons_self
    have noMinus : c ≠ '-' := ne_of_isSome_asciiDigit? isDigit (by decide)
    have noPlus : c ≠ '+' := ne_of_isSome_asciiDigit? isDigit (by decide)
    simp [signed, noMinus, noPlus]

/-- Digits are read as the number that they make up, with a minus sign or without. -/
theorem integer?_of_digits {digits : List Char} (given : digits ≠ [])
    (isDigits : ∀ c ∈ digits, (asciiDigit? c).isSome) (short : digits.length ≤ digitLimit) :
    integer? digits = some (numberOf (digits.filterMap asciiDigit?) : Int) ∧
      integer? ('-' :: digits) = some (-numberOf (digits.filterMap asciiDigit?) : Int) := by
  have noBlank : ∀ c ∈ digits, isBlank c = false :=
    fun c member => isBlank_of_isSome_asciiDigit? (isDigits c member)
  have noBlankSigned : ∀ c ∈ '-' :: digits, isBlank c = false := by
    intro c member
    rcases List.mem_cons.mp member with rfl | later
    · decide
    · exact noBlank c later
  have notLong : ¬ digitLimit < (digits.filterMap asciiDigit?).length :=
    Nat.not_lt.mpr (Nat.le_trans (List.length_filterMap_le _ _) short)
  have values := digitRun?_of_digits given isDigits
  constructor
  · simp [integer?, trim_eq_self noBlank, signed_of_digits isDigits, values, notLong, withSign]
  · simp [integer?, trim_eq_self noBlankSigned, signed, values, notLong, withSign]

/-- An integer is read as it was written, if it does not have too many digits. -/
theorem integer?_decimal {value : Int}
    (short : (decimalDigits value.natAbs).length ≤ digitLimit) :
    integer? (decimal value).toList = some value := by
  have reads (number : Nat) (short : (decimalDigits number).length ≤ digitLimit) :
      integer? (decimalDigits number) = some (number : Int) ∧
        integer? ('-' :: decimalDigits number) = some (-number : Int) := by
    have given : decimalDigits number ≠ [] := Nat.toDigits_ne_nil
    have asDigits := integer?_of_digits given (fun _ => isSome_asciiDigit?) short
    rwa [numberOf_decimalDigits] at asDigits
  cases value with
  | ofNat number =>
    rw [decimal, String.toList_ofList, (reads number short).1]
    rfl
  | negSucc number =>
    rw [decimal, String.toList_ofList, (reads (number + 1) short).2, Int.negSucc_eq]
    rfl

end Reading

end Introspection.Text
