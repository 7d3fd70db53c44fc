import Introspection.Hex
import Introspection.Json
import Introspection.Double.Text

/-!
# Reading JSON

The grammar of JSON texts, with the words `NaN`, `Infinity` and `-Infinity` as numbers. Of members
with one name the last counts. A text is refused when it has an unescaped control character in a
string, a whole number of more than 4300 digits, or anything but space after its value.

How deeply lists and objects may stand in one another is limited from outside. A text in which they
do so more deeply is not refused like one that is malformed: it is a flaw of another kind, found
where the bracket stands that is one too many, whatever comes after it.

Half of a surrogate pair has no character of its own and is read as U+FFFD.
-/

namespace Introspection.Json

/-- Why no value is read from a text. -/
inductive Flaw
  | malformed
  | tooDeep
  deriving DecidableEq, Repr

/-- What was read, if anything was. -/
def orMalformed {α : Type} (found : Option α) : Except Flaw α := found.elim (.error .malformed) .ok

/-- The four characters that may stand between the parts of a text. -/
def isSpace (c : Char) : Bool := c == ' ' || c == '\t' || c == '\n' || c == '\r'

/-- The text from its first character that is not space. -/
def skipSpace (text : List Char) : List Char := text.dropWhile isSpace

/-- The character of a code, U+FFFD for half of a surrogate pair. -/
def scalar (code : Nat) : Char := if code.isValidChar then Char.ofNat code else '\uFFFD'

/-- The character that one letter after a backslash stands for. -/
def escape? : Char -> Option Char
  | '"' => some '"'
  | '\\' => some '\\'
  | '/' => some '/'
  | 'b' => some '\x08'
  | 'f' => some '\x0c'
  | 'n' => some '\n'
  | 'r' => some '\r'
  | 't' => some '\t'
  | _ => none

/-- Read a string after its opening quote, given what has been read of it (last first). -/
def readText (done : List Char) : List Char -> Option (String × List Char)
  | [] => none
  | '"' :: rest => some (String.ofList done.reverse, rest)
  | '\\' :: 'u' :: a :: b :: c :: d :: '\\' :: 'u' :: e :: f :: g :: h :: rest => do
    let first <- Hex.number? [a, b, c, d]
    let second <- Hex.number? [e, f, g, h]
    if 0xD800 ≤ first ∧ first < 0xDC00 ∧ 0xDC00 ≤ second ∧ second < 0xE000 then
      let code := 0x10000 + (first - 0xD800) * 0x400 + (second - 0xDC00)
      readText (scalar code :: done) rest
    else readText (scalar first :: done) ('\\' :: 'u' :: e :: f :: g :: h :: rest)
  | '\\' :: 'u' :: a :: b :: c :: d :: rest => do
    let code <- Hex.number? [a, b, c, d]
    readText (scalar code :: done) rest
  | '\\' :: c :: rest => do readText ((<- escape? c) :: done) rest
  | c :: rest => if c.toNat < 0x20 then none else readText (c :: done) rest

/-- Read a number, whose first character is a digit or a minus sign before one. -/
def readNumber (text : List Char) : Option (Json × List Char) := do
  let (negative, unsignedText) := match text with
    | '-' :: rest => (true, rest)
    | rest => (false, rest)
  let (whole, afterWhole) <- match unsignedText with
    | '0' :: rest => some ([0], rest)
    | rest => some (Text.spanDigits rest)
  if whole.isEmpty then none
  let (fraction, afterFraction) := match afterWhole with
    | '.' :: rest =>
      let (digits, after) := Text.spanDigits rest
      if digits.isEmpty then ([], afterWhole) else (digits, after)
    | _ => ([], afterWhole)
  let (power, rest) := match afterFraction with
    | c :: rest =>
      if c = 'e' ∨ c = 'E' then
        let (negative, digits) := Text.signed rest
        let (digits, after) := Text.spanDigits digits
        if digits.isEmpty then (none, afterFraction)
        else (some (Text.withSign negative (Text.numberOf digits)), after)
      else (none, afterFraction)
    | [] => (none, [])
  if fraction.isEmpty && power.isNone then
    if Text.digitLimit < whole.length then none
    else some (.int (Text.withSign negative (Text.numberOf whole)), rest)
  else
    let digits := Text.numberOf (whole ++ fraction)
    some (.double (Double.ofDecimal negative digits (power.getD 0 - fraction.length)), rest)

mutual

/-- Read a value, with a bound on the number of readers at work, and on how many brackets may be
opened in one another. -/
def readValue : (fuel depth : Nat) -> List Char -> Except Flaw (Json × List Char)
  | 0, _, _ => .error .malformed
  | fuel + 1, depth, text =>
    match text with
    | '"' :: rest => orMalformed ((readText [] rest).map fun (value, rest) => (.string value, rest))
    | '[' :: rest => match depth with
      | 0 => .error .tooDeep
      | depth + 1 => match skipSpace rest with
        | ']' :: rest => .ok (.list [], rest)
        | rest => readItems fuel depth [] rest
    | '\x7b' :: rest => match depth with
      | 0 => .error .tooDeep
      | depth + 1 => match skipSpace rest with
        | '\x7d' :: rest => .ok (.object [], rest)
        | rest => readMembers fuel depth [] rest
    | 'n' :: 'u' :: 'l' :: 'l' :: rest => .ok (.null, rest)
    | 't' :: 'r' :: 'u' :: 'e' :: rest => .ok (.bool true, rest)
    | 'f' :: 'a' :: 'l' :: 's' :: 'e' :: rest => .ok (.bool false, rest)
    | 'N' :: 'a' :: 'N' :: rest => .ok (.double .nan, rest)
    | 'I' :: 'n' :: 'f' :: 'i' :: 'n' :: 'i' :: 't' :: 'y' :: rest =>
      .ok (.double (.infinite false), rest)
    | '-' :: 'I' :: 'n' :: 'f' :: 'i' :: 'n' :: 'i' :: 't' :: 'y' :: rest =>
      .ok (.double (.infinite true), rest)
    | _ => orMalformed (readNumber text)

/-- Read the items of a list from the next one on, given those before it (last first). -/
def readItems : (fuel depth : Nat) -> List Json -> List Char -> Except Flaw (Json × List Char)
  | 0, _, _, _ => .error .malformed
  | fuel + 1, depth, items, text => do
    let (item, rest) <- readValue fuel depth text
    match skipSpace rest with
    | ',' :: rest => readItems fuel depth (item :: items) (skipSpace rest)
    | ']' :: rest => .ok (.list (item :: items).reverse, rest)
    | _ => .error .malformed

/-- Read the members of an object from the next one on, given those before it. -/
def readMembers : (fuel depth : Nat) -> List (String × Json) -> List Char ->
    Except Flaw (Json × List Char)
  | 0, _, _, _ => .error .malformed
  | fuel + 1, depth, members, text => match text with
    | '"' :: rest => do
      let (name, rest) <- orMalformed (readText [] rest)
      match skipSpace rest with
      | ':' :: rest =>
        let (value, rest) <- readValue fuel depth (skipSpace rest)
        let members := insert name value members
        match skipSpace rest with
        | ',' :: rest => readMembers fuel depth members (skipSpace rest)
        | '\x7d' :: rest => .ok (.object members, rest)
        | _ => .error .malformed
      | _ => .error .malformed
    | _ => .error .malformed

end

/-- Read a text that holds one value, with lists and objects to some depth. Every reader takes a
character before it calls another, so the length of the text bounds their number. -/
def read (depth : Nat) (text : List Char) : Except Flaw Json := do
  let (value, rest) <- readValue (2 * text.length + 1) depth (skipSpace text)
  if (skipSpace rest).isEmpty then .ok value else .error .malformed

/-- Read a text that holds one value, however deep: there are no more brackets than characters. -/
def read? (text : List Char) : Option Json := (read text.length text).toOption

end Introspection.Json
