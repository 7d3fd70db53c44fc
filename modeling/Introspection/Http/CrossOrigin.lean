import Introspection.Http.Message
import Introspection.Text.Blank

/-!
# Requests from other origins

Which requests browsers may make for pages of other origins. Every origin is admitted. A browser
asks beforehand whether a method and header fields are; all other responses only tell that the
origin is.
-/

namespace Introspection.Http.CrossOrigin

/-- The methods that are admitted. -/
def methods : List String := ["POST", "OPTIONS"]

/-- The header fields that are admitted. -/
def headers : List String :=
  ["Accept", "Accept-Language", "Authorization", "Content-Language", "Content-Type"]

/-- How long an answer holds, in seconds. -/
def maxAge : Nat := 600

/-- The field that admits every origin. -/
def allowOrigin : String × String := ("access-control-allow-origin", "*")

/-- Whether a request asks beforehand, and for which method. -/
def asked? (request : Request) : Option String :=
  if request.method == "OPTIONS" && (request.headers.get? "origin").isSome then
    request.headers.get? "access-control-request-method"
  else none

/-- The header fields that a list names, in lower case. -/
def named (list : String) : List String :=
  (list.toList.splitOn ',').map fun name =>
    String.ofList (Text.trim (name.map Char.toLower))

/-- What of a request that asks beforehand is not admitted. -/
def refused (request : Request) (method : String) : List String :=
  let admitted := headers.map lowerCase
  (if method ∈ methods then [] else ["method"]) ++
    (match request.headers.get? "access-control-request-headers" with
      | some list => if (named list).all (· ∈ admitted) then [] else ["headers"]
      | none => []) ++
    (if (request.headers.get? "access-control-request-private-network").isSome
      then ["private-network"] else [])

/-- The answer to a request that asks beforehand. -/
def answer (request : Request) (method : String) : Response :=
  let refused := refused request method
  let headers := [
    ("access-control-allow-headers", (", ").intercalate headers),
    ("access-control-allow-methods", (", ").intercalate methods),
    allowOrigin,
    ("access-control-max-age", Text.decimal maxAge),
    ("vary", (", ").intercalate ["Origin", "Access-Control-Request-Method",
      "Access-Control-Request-Headers", "Access-Control-Request-Private-Network"])]
  if refused.isEmpty then .ofText 200 "text/plain; charset=utf-8" headers "OK"
  else .ofText 400 "text/plain; charset=utf-8" headers
    ("Disallowed CORS " ++ (", ").intercalate refused)

/-- A response as another origin may see it. -/
def allow (request : Request) (response : Response) : Response :=
  let origin := if (request.headers.get? "origin").isSome then [allowOrigin] else []
  response.adding (origin ++ [("vary", "Origin")])

end Introspection.Http.CrossOrigin
