import Introspection.Base64
import Introspection.Credential

/-!
# The authorization header

The credentials that a request carries. The scheme ends at the first space. A bearer credential
is all that follows, a basic one is an id and a secret in base64 with a colon between them. A
header of another scheme, or one that is cut short, carries nothing; a basic one that cannot be
read is an error of its own.
-/

namespace Introspection.Http.Authorization

/-- A scheme and what follows it, without the blanks around. -/
def divide (header : String) : String × String :=
  let text := header.toList
  (String.ofList (text.takeWhile (· ≠ ' ')),
    String.ofList (Text.trim ((text.dropWhile (· ≠ ' ')).drop 1)))

/-- The scheme in lower case. -/
def schemeOf (header : String) : String :=
  String.ofList ((divide header).1.toList.map Char.toLower)

/-- The bearer credential of a header. -/
def bearer? (header : String) : Option (String × String) :=
  let (scheme, value) := divide header
  if schemeOf header == "bearer" && !value.isEmpty then some (scheme, value) else none

/-- The id and the secret that a text in base64 stands for. -/
def readBasic? (encoded : String) : Option (String × String) := do
  let bytes <- Base64.decode? (<- Text.Ascii.encode? encoded)
  let text <- Text.Ascii.decode? bytes
  match text.toList.dropWhile (· ≠ ':') with
  | _ :: secret =>
    some (String.ofList (text.toList.takeWhile (· ≠ ':')), String.ofList secret)
  | [] => none

/-- The credentials of a header, `none` for a basic one that cannot be read. -/
def read? (header : Option String) : Option Credentials :=
  let header := header.getD ""
  if schemeOf header == "basic" then
    (readBasic? (divide header).2).map fun pair => ⟨none, some pair⟩
  else some ⟨bearer? header, none⟩

end Introspection.Http.Authorization
