/-!
# Blank characters

Which characters separate words and surround numbers. Two sets are in use: the blanks, which
separate the words of a stored scope, and the white space around a number in a record, which
leaves out the four information separators U+001C to U+001F.

Zero width space U+200B, the Mongolian vowel separator U+180E and the byte order mark U+FEFF are
in neither set.
-/

namespace Introspection.Text

/-- A character of the Unicode property `White_Space`. -/
def isWhiteSpace (c : Char) : Bool :=
  let code := c.toNat
  (0x09 ≤ code && code ≤ 0x0D) || code == 0x20 || code == 0x85 || code == 0xA0 ||
    code == 0x1680 || (0x2000 ≤ code && code ≤ 0x200A) || code == 0x2028 || code == 0x2029 ||
    code == 0x202F || code == 0x205F || code == 0x3000

/-- White space, or one of the information separators U+001C to U+001F. -/
def isBlank (c : Char) : Bool :=
  isWhiteSpace c || (0x1C ≤ c.toNat && c.toNat ≤ 0x1F)

/-- White space of ASCII. -/
def isAsciiBlank (c : Char) : Bool := c.toNat < 0x80 && isWhiteSpace c

/-- What is left when the characters of `drop` are taken off both ends. -/
def trimWhere (drop : Char -> Bool) (text : List Char) : List Char :=
  ((text.dropWhile drop).reverse.dropWhile drop).reverse

/-- The text without the blanks around it. -/
def trim (text : List Char) : List Char := trimWhere isBlank text

/-- The words of a text: its longest runs of characters that are not blank. -/
def words (text : List Char) : List (List Char) :=
  (text.splitOnP isBlank).filter (fun word => !word.isEmpty)

end Introspection.Text
