import Introspection.Hex
import Introspection.Text.Utf8

/-!
# Percent encoding

Bytes written as `%` and two hexadecimal digits inside a text. Reading undoes them in each run of
ASCII characters by itself, since a run spells UTF-8 on its own; an incomplete escape stands for
itself.
-/

namespace Introspection.Percent

/-- The bytes of a run of ASCII characters. -/
def bytes : List Char -> List UInt8
  | '%' :: high :: low :: rest => match Hex.number? [high, low] with
    | some byte => byte.toUInt8 :: bytes rest
    | none => '%'.toNat.toUInt8 :: bytes (high :: low :: rest)
  | c :: rest => c.toNat.toUInt8 :: bytes rest
  | [] => []

/-- Whether a character is of ASCII. -/
def isAscii (c : Char) : Bool := c.toNat < 0x80

/-- Divide a text into runs of ASCII characters and runs of others. -/
def runs : List Char -> List (List Char)
  | [] => []
  | c :: rest => match runs rest with
    | (d :: run) :: others =>
      if isAscii c = isAscii d then (c :: d :: run) :: others else [c] :: (d :: run) :: others
    | others => [c] :: others

/-- The text with its escapes undone. -/
def decode (text : List Char) : String :=
  String.join <| (runs text).map fun run =>
    if run.all isAscii then Text.Utf8.decode (bytes run) else String.ofList run

/-- A name or value of a query with its escapes undone; a plus sign is a space. -/
def unescape (text : List Char) : String := decode (text.map fun c => if c = '+' then ' ' else c)

/-- The name and value of a piece of a query, parted by its first equals sign. -/
def pairOf (piece : List Char) : String × String :=
  (unescape (piece.takeWhile (· ≠ '=')), unescape ((piece.dropWhile (· ≠ '=')).drop 1))

/-- The names and values of a query, whose pieces have ampersands between them. -/
def pairs (query : List Char) : List (String × String) :=
  ((query.splitOn '&').filter (fun piece => !piece.isEmpty)).map pairOf

/-- The characters that stand for themselves in any address. -/
def isUnreserved (c : Char) : Bool :=
  isAscii c && (c.isAlphanum || c == '_' || c == '.' || c == '-' || c == '~')

/-- The escape of a byte, with capital letters. -/
def escape (byte : UInt8) : List Char :=
  let digit (value : Nat) : Char := (Nat.digitChar value).toUpper
  ['%', digit (byte.toNat / 16), digit (byte.toNat % 16)]

/-- The text with the bytes of all characters escaped that are neither unreserved nor listed. -/
def encode (safe : List Char) (text : String) : String :=
  String.ofList <| text.toList.flatMap fun c =>
    if isUnreserved c || safe.contains c then [c]
    else (String.utf8EncodeChar c).flatMap escape

end Introspection.Percent
