import Introspection.Json.Reader
import Introspection.Text.Utf16
import Introspection.Text.Utf8

/-!
# JSON documents

Values given by bytes. The first bytes tell the encoding: since a text starts with two characters
of ASCII, the places of zeros among them show how wide its units are and in which order their bytes
come. Without zeros the encoding is UTF-8, with a byte order mark or without.
-/

namespace Introspection.Json

/-- The text of a document. -/
def documentText? (bytes : List UInt8) : Option (List Char) :=
  match bytes with
  | 0xEF :: 0xBB :: 0xBF :: rest => (Text.Utf8.decode? rest).map String.toList
  | [0, _] => Text.decodeUtf16? .greatFirst bytes
  | [_, 0] => Text.decodeUtf16? .smallFirst bytes
  | 0 :: 0 :: _ :: _ :: _ => Text.decodeUtf32? .greatFirst bytes
  | 0 :: _ :: _ :: _ :: _ => Text.decodeUtf16? .greatFirst bytes
  | _ :: 0 :: 0 :: 0 :: _ => Text.decodeUtf32? .smallFirst bytes
  | _ :: 0 :: _ :: _ :: _ => Text.decodeUtf16? .smallFirst bytes
  | bytes => (Text.Utf8.decode? bytes).map String.toList

/-- The value of a document, with lists and objects to some depth. -/
def ofDocument (depth : Nat) (bytes : List UInt8) : Except Flaw Json := do
  read depth (<- orMalformed (documentText? bytes))

end Introspection.Json
