import Introspection.Text.Blank
import Introspection.Text.Digit

/-!
# Integers in text

Writing integers in decimal, and two readings of them. Both allow a sign, space around the number
and an underscore between digits. `integer?` takes the digits of every script, as in a stored
secret; `plainInteger?` takes the digits 0 to 9 and a fraction of zeros, as in a record field.
-/

namespace Introspection.Text

/-- The decimal digits of a number, without leading zeros. -/
def decimalDigits (number : Nat) : List Char := Nat.toDigits 10 number

/-- An integer in decimal. -/
def decimal : Int -> String
  | .ofNat number => String.ofList (decimalDigits number)
  | .negSucc number => String.ofList ('-' :: decimalDigits (number + 1))

/-- No number with more digits than this is read. -/
def digitLimit : Nat := 4300

/-- The values of digits with single underscores between them. -/
def digitRun? (digit? : Char -> Option Nat) (text : List Char) : Option (List Nat) := do
  let runs <- (text.splitOn '_').mapM fun run =>
    if run.isEmpty then none else run.mapM digit?
  return runs.flatten

/-- The sign of a number and the text after it. -/
def signed : List Char -> Bool × List Char
  | '-' :: rest => (true, rest)
  | '+' :: rest => (false, rest)
  | text => (false, text)

/-- The integer of the given sign and magnitude. -/
def withSign (negative : Bool) (magnitude : Nat) : Int :=
  if negative then -magnitude else magnitude

/-- Read an integer with digits of any script. -/
def integer? (text : List Char) : Option Int := do
  let (negative, digits) := signed (trim text)
  let values <- digitRun? digit? digits
  if digitLimit < values.length then none else some (withSign negative (numberOf values))

/-- Why a text is not a plain integer. -/
inductive IntegerFault
  | malformed
  | tooLong
  deriving DecidableEq, Repr

/-- The text without its underscores, when none of them leads, trails or follows another. -/
def withoutUnderscores? (text : List Char) : Option (List Char) :=
  let pieces := text.splitOn '_'
  if pieces.length = 1 ∨ pieces.all (fun piece => !piece.isEmpty) then some pieces.flatten else none

/-- The text without its fraction, when that consists of zeros, at least one of them. -/
def withoutZeroFraction (text : List Char) : List Char :=
  match text.dropWhile (· ≠ '.') with
  | '.' :: fraction =>
    if !fraction.isEmpty && fraction.all (· == '0') then text.takeWhile (· ≠ '.') else text
  | _ => text

/-- The text without the zeros at its front, of which the last stays when no digit follows it.
Underscores count as zeros after the first zero, and a minus sign may stand after the zeros. A text
that does not start with a digit has no such form. -/
def withoutLeadingZeros? : List Char -> Option (List Char)
  | '0' :: rest =>
    let isZero c := c == '0' || c == '_'
    match rest.dropWhile isZero with
    | [] => some [rest.getLastD '0']
    | '.' :: fraction => some ((rest.takeWhile isZero).getLastD '0' :: '.' :: fraction)
    | c :: digits =>
      if c == '-' || (asciiDigit? c).isSome then some (c :: digits) else none
  | c :: rest => if (asciiDigit? c).isSome then some (c :: rest) else none
  | [] => none

/-- The digits of a number written loosely: zeros at the front, a fraction of zeros and
underscores between digits are left out. -/
def plainDigits? (text : List Char) : Option (List Char) := do
  let text := withoutZeroFraction (<- withoutLeadingZeros? text)
  return (withoutUnderscores? text).getD text

/-- The strict form of an integer written loosely: no space around it and no plus sign. -/
def plainForm? (text : List Char) : Option (List Char) :=
  match trimWhere isWhiteSpace text with
  | '+' :: rest => plainDigits? rest
  | '-' :: rest => (plainDigits? rest).map ('-' :: ·)
  | text => plainDigits? text

/-- Read an integer in strict form: a minus sign or none, and digits of which the first is no
zero, or a zero alone. A run of digits that is too long, its sign counted, is reported whatever
stands after it. -/
def strictInteger? (text : List Char) : Except IntegerFault Int :=
  let (negative, digits) := match text with
    | '-' :: rest => (true, rest)
    | text => (false, text)
  match digits with
  | ['0'] => .ok 0
  | '0' :: _ => .error .malformed
  | digits =>
    let (values, rest) := spanDigits digits
    if digitLimit < values.length + negative.toNat then .error .tooLong
    else if values.isEmpty || !rest.isEmpty then .error .malformed
    else .ok (withSign negative (numberOf values))

/-- Read an integer with the digits 0 to 9 and possibly a fraction of zeros. -/
def plainInteger? (text : List Char) : Except IntegerFault Int :=
  match strictInteger? text with
  | .error .malformed =>
    match plainForm? text with
    | some form => strictInteger? form
    | none => .error .malformed
  | result => result

end Introspection.Text
