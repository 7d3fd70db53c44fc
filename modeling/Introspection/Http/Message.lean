import Introspection.Bytes
import Introspection.Json.Printer
import Introspection.Text.Utf8
import Introspection.Web.Authority

/-!
# Requests and responses

HTTP messages as they are exchanged with the outer world: names of header fields are compared
without regard to case, and of several fields of one name the first counts.
-/

namespace Introspection.Http

/-- Header fields, names and values, in order. -/
abbrev Headers : Type := List (String × String)

/-- A name of a header field in lower case. -/
def lowerCase (name : String) : String := String.ofList (name.toList.map Char.toLower)

/-- The value of the first field of a name, given in lower case. -/
def Headers.get? (headers : Headers) (name : String) : Option String :=
  (headers.find? (fun field => lowerCase field.1 == name)).map (·.2)

/-- A request, and the name of the server that it has reached. -/
structure Request where
  server : String
  method : String
  scheme : String
  path : String
  query : String
  headers : Headers
  body : List UInt8

/-- The host that a request is addressed to: the one that it names, or the server that it has
reached if it names none. -/
def Request.host (request : Request) : String :=
  ((request.headers.get? "host").filter Web.isAuthority).getD request.server

/-- The whole address of a request for another path of the same host. -/
def Request.addressOf (request : Request) (path : String) : String :=
  let query := if request.query.isEmpty then "" else "?" ++ request.query
  request.scheme ++ "://" ++ request.host ++ path ++ query

/-- The whole address that a request is for. -/
def Request.address (request : Request) : String := request.addressOf request.path

/-- A response; names of header fields are in lower case. -/
structure Response where
  status : Nat
  headers : Headers
  body : String
  deriving DecidableEq, Repr

namespace Response

/-- A response with a text. -/
def ofText (status : Nat) (mediaType : String) (headers : Headers) (body : String) : Response :=
  { status
    headers := headers ++ [("content-length", Text.decimal (Text.utf8 body).length),
      ("content-type", mediaType)]
    body }

/-- A response with a JSON value. -/
def ofJson (status : Nat) (headers : Headers) (value : Json) : Response :=
  ofText status "application/json" headers (value.write .answer)

/-- A response with nothing but a message. -/
def detail (status : Nat) (headers : Headers) (message : String) : Response :=
  ofJson status headers (.object [("detail", .string message)])

/-- The response with further header fields. -/
def adding (response : Response) (headers : Headers) : Response :=
  { response with headers := response.headers ++ headers }

end Response

end Introspection.Http
