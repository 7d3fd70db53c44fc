import Introspection.Json
import Introspection.Text.Integer
import Introspection.Text.Quoted
import Introspection.Double.Text

/-!
# Writing JSON

Two written forms: answers are compact and leave every character above U+001F as it is, log lines
have a space after each comma and colon and are pure ASCII. Both write numbers in the same way and
escape a quote, a backslash and control characters.

Beside them stands the display form, in which values appear inside messages and identifiers.
-/

namespace Introspection.Json

/-- How a value is written. -/
structure Style where
  /-- Between two items or members. -/
  comma : String
  /-- Between the name of a member and its value. -/
  colon : String
  /-- Whether characters outside the printable part of ASCII are written by their code. -/
  ascii : Bool

/-- The form of an answer. -/
def Style.answer : Style := ⟨",", ":", false⟩

/-- The form of a log line. -/
def Style.logLine : Style := ⟨", ", ": ", true⟩

/-- The escape of a UTF-16 unit. -/
def unitEscape (unit : Nat) : List Char := '\\' :: 'u' :: Text.hexDigits 4 unit

/-- One character of a string. -/
def writtenChar (ascii : Bool) (c : Char) : List Char :=
  let code := c.toNat
  if c = '"' ∨ c = '\\' then ['\\', c]
  else if c = '\n' then ['\\', 'n']
  else if c = '\r' then ['\\', 'r']
  else if c = '\t' then ['\\', 't']
  else if code = 8 then ['\\', 'b']
  else if code = 12 then ['\\', 'f']
  else if code < 0x20 then unitEscape code
  else if ascii ∧ 0x7F ≤ code then
    if code < 0x10000 then unitEscape code
    else unitEscape (0xD800 + (code - 0x10000) / 0x400) ++
      unitEscape (0xDC00 + (code - 0x10000) % 0x400)
  else [c]

/-- A string between its quotes. -/
def writtenText (style : Style) (text : String) : String :=
  String.ofList ('"' :: text.toList.flatMap (writtenChar style.ascii) ++ ['"'])

/-- The text of a number that is not finite, which JSON itself lacks, or of one that is. -/
def writtenDouble : Double -> String
  | .nan => "NaN"
  | .infinite negative => if negative then "-Infinity" else "Infinity"
  | value => value.text

mutual

/-- The text of a value. -/
def write (style : Style) : Json -> String
  | .null => "null"
  | .bool value => if value then "true" else "false"
  | .int value => Text.decimal value
  | .double value => writtenDouble value
  | .string value => writtenText style value
  | .list items => "[" ++ style.comma.intercalate (writeItems style items) ++ "]"
  | .object members =>
    "\x7b" ++ style.comma.intercalate (writeMembers style members) ++ "\x7d"

/-- The texts of the items of a list. -/
def writeItems (style : Style) : List Json -> List String
  | [] => []
  | item :: rest => write style item :: writeItems style rest

/-- The texts of the members of an object. -/
def writeMembers (style : Style) : List (String × Json) -> List String
  | [] => []
  | (name, value) :: rest =>
    (writtenText style name ++ style.colon ++ write style value) :: writeMembers style rest

end

mutual

/-- The display form of a value inside another one. -/
def displayInner : Json -> String
  | .null => "None"
  | .bool value => if value then "True" else "False"
  | .int value => Text.decimal value
  | .double value => value.text
  | .string value => Text.quoted value
  | .list items => "[" ++ (", ").intercalate (displayItems items) ++ "]"
  | .object members => "\x7b" ++ (", ").intercalate (displayMembers members) ++ "\x7d"

/-- The display forms of the items of a list. -/
def displayItems : List Json -> List String
  | [] => []
  | item :: rest => displayInner item :: displayItems rest

/-- The display forms of the members of an object. -/
def displayMembers : List (String × Json) -> List String
  | [] => []
  | (name, value) :: rest =>
    (Text.quoted name ++ ": " ++ displayInner value) :: displayMembers rest

end

/-- The display form of a value: a text stands for itself, and inside a list or an object it is
quoted. -/
def display : Json -> String
  | .string value => value
  | value => displayInner value

end Introspection.Json
