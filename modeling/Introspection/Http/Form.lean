import Introspection.Http.Message
import Introspection.Http.Multipart
import Introspection.Http.ParameterizedValue
import Introspection.Percent
import Introspection.Text.Charset

/-!
# Forms

The fields that the body of a request carries, in either of two encodings. The type of the body
decides which; a body of any other type carries no fields. Of several fields of one name the last
counts, and an empty one counts as absent.
-/

namespace Introspection.Http.Form

/-- Names and values of fields, in order. -/
abbrev Fields : Type := List (String × String)

/-- The value of the last field of a name, unless it is empty. -/
def value? (fields : Fields) (name : String) : Option String :=
  match fields.reverse.find? (·.1 == name) with
  | some (_, value) => if value.isEmpty then none else some value
  | none => none

/-- The fields of a body that is written like a query. -/
def readEscaped (body : List UInt8) : Fields := Percent.pairs (Text.Latin1.decode body).toList

/-- The bytes of a text that was read byte by byte. -/
def bytesOf (text : String) : List UInt8 := (Text.Latin1.encode? text).getD []

/-- The value of a header line, if it has the given name in lower case. -/
def valueOf? (name : String) (line : List UInt8) : Option String :=
  let text := (Text.Latin1.decode line).toList
  if lowerCase (String.ofList (text.takeWhile (· ≠ ':'))) = name then
    some (String.ofList ((text.dropWhile (· ≠ ':')).drop 1))
  else none

/-- The field that a part of a body is, read in a charset: the last of its header lines that tell
how it is disposed gives its name. -/
def fieldOf? (charset : String) (part : Multipart.Part) : Option (String × String) := do
  let disposition <- (part.header.filterMap (valueOf? "content-disposition")).getLast?
  let name <- (ParameterizedValue.read disposition).parameter? "name"
  return (Text.Charset.read charset (bytesOf name), Text.Charset.read charset part.content)

/-- The charset of parts when no other is named. -/
def defaultCharset : String := "utf-8"

/-- The fields of a request. -/
def read (request : Request) : Fields :=
  let type := ParameterizedValue.read ((request.headers.get? "content-type").getD "")
  if type.value = "application/x-www-form-urlencoded" then readEscaped request.body
  else if type.value = "multipart/form-data" then
    match type.parameter? "boundary" with
    | some boundary =>
      let charset := (type.parameter? "charset").getD defaultCharset
      (Multipart.parts (bytesOf boundary) request.body).filterMap (fieldOf? charset)
    | none => []
  else []

end Introspection.Http.Form
