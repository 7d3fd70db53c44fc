import Introspection.Http.Authorization
import Introspection.Http.CrossOrigin
import Introspection.Http.Form
import Introspection.Record.Form
import Introspection.Settings

/-!
# The service over HTTP

The addresses that are served, and what is answered there: a check of health, and introspection,
which reads the form, authenticates the requester and decides. What is found out is answered with
status 200, a refusal by the policy with 403, a credential that is not accepted with 401, and a
store that cannot answer with 500. Every such response carries the identifier of its request.

Any other failure is answered with 500 as well, outside of all that is added to responses.
-/

namespace Introspection.Http

/-- What the settings say about introspection. None of it is read before a decision needs it. -/
structure Configuration where
  protectionScope : Json
  rule : Json
  issuer : Json
  leeway : Json

/-- What settings that have been checked say about introspection. -/
def Configuration.ofSettings (settings : Settings) : Configuration where
  protectionScope := .string settings.protectionScope
  rule := .string settings.rule.name
  issuer := .ofString? settings.issuer
  leeway := .int settings.leeway

/-- The policy that the settings lay down. -/
def Configuration.policy (configuration : Configuration) : Except Failure Policy := do
  return ⟨configuration.protectionScope, <- ScopeRule.ofJson configuration.rule,
    configuration.issuer⟩

/-- What is put on record: the event, what it carries, and the failure that it is about. -/
structure Entry where
  name : String
  level : Level
  fields : List (String × Json)
  about : Option Failure

/-- What comes of a request: the response, what was put on record, what was queried and fetched,
and the failure that was not met in any other way than by status 500. -/
structure Exchange where
  response : Response
  entries : List Entry
  asked : List Question
  queries : List Query
  failure : Option Failure

/-- The path of introspection. -/
def introspectPath : String := "/introspect"

/-- The path of the check of health. -/
def healthPath : String := "/healthz"

/-- The name of the header field for the identifier of a request. -/
def requestIdHeader : String := "X-Request-ID"

/-- The challenge of every denial. -/
def challenge : String := "Bearer, Basic"

/-- The identifier of a request: the one it was sent with, unless it is empty, or a fresh one. -/
def requestId (request : Request) (fresh : String) : String :=
  match request.headers.get? (lowerCase requestIdHeader) with
  | some identifier => if identifier.isEmpty then fresh else identifier
  | none => fresh

/-- How a request for introspection ends when nothing fails. -/
inductive Verdict
  /-- The basic credential cannot be read. -/
  | malformedBasic
  /-- The credential is not accepted. -/
  | denied (denial : Denial)
  /-- The request has been decided. -/
  | decided (outcome : Outcome)
  deriving DecidableEq

/-- Authenticate the requester and decide. -/
def introspect (configuration : Configuration) (now : Int) (depth : Nat) (request : Request) :
    Procedure Verdict := do
  let form := Form.read request
  match Authorization.read? (request.headers.get? "authorization") with
  | none => return .malformedBasic
  | some credentials =>
    let occasion : Occasion := ⟨request.address, now, configuration.leeway, depth⟩
    match <- Credential.authenticate occasion credentials with
    | .error denial => return .denied denial
    | .ok requester =>
      let policy <- Inquiry.ofExcept configuration.policy
      return .decided (<- Procedure.ofDecision (Decision.introspect policy
        (Form.value? form "token") (.ofString? (Form.value? form "token_type_hint")) requester))

/-- The fields that keep an answer from being stored. -/
def noStore : Headers := [("cache-control", "no-store"), ("pragma", "no-cache")]

/-- The response to a verdict. -/
def Verdict.response : Verdict -> Response
  | .malformedBasic => .detail 401 [("www-authenticate", "Basic")] "Not authenticated"
  | .denied denial => .detail 401 [("www-authenticate", challenge)] denial.name
  | .decided outcome => match outcome.answer? with
    | some answer => .ofJson 200 noStore answer.payload
    | none => .detail 403 noStore "forbidden"

/-- The response to a failure. -/
def failureResponse : Response := .detail 500 [] "Internal Server Error"

/-- The values that name a request. -/
def named (request : Request) : List (String × Json) :=
  [("method", .string request.method),
    ("path", .string (String.ofList (request.path.toList.filter (· ≠ '\n'))))]

/-- The entry for a store that cannot answer. -/
def storeEntry (request : Request) (store : Store) (fromDatabase : Bool) : Entry :=
  ⟨"collaborator_failure", .error, ("store", .string store.name) :: named request,
    some (.unavailable store fromDatabase)⟩

/-- The entry for any other failure. -/
def unhandledEntry (request : Request) (failure : Failure) : Entry :=
  ⟨"unhandled_exception", .error, named request ++ [("path_params", .object [])], some failure⟩

/-- An entry with the values that all entries of a request share. -/
def Entry.during (request : Request) (identifier : String) (entry : Entry) : Entry :=
  let shared := ("request_id", .string identifier) :: named request
  { entry with fields := entry.fields ++ shared.filter fun field =>
      !entry.fields.any (·.1 == field.1) }

/-- The entry of an event. -/
def Entry.ofEvent (event : Event) : Entry := ⟨event.name, event.level, event.fields, none⟩

/-- A response as it leaves the service: admitted for its origin, with the identifier. -/
def finish (request : Request) (identifier : String) (response : Response) : Response :=
  (CrossOrigin.allow request response).adding [(lowerCase requestIdHeader, identifier)]

/-- An exchange in which nothing was looked up. -/
def plain (response : Response) : Exchange := ⟨response, [], [], [], none⟩

/-- Serve introspection. -/
def serveIntrospection (surroundings : Surroundings) (configuration : Configuration)
    (identifier : String) (request : Request) : Exchange :=
  let transcript := Session.run surroundings
    (introspect configuration surroundings.now.wholeSeconds surroundings.depth request)
    Session.empty
  let entries := transcript.events.map fun event =>
    (Entry.ofEvent event).during request identifier
  match transcript.result with
  | .ok verdict =>
    ⟨finish request identifier verdict.response, entries, transcript.asked,
      transcript.state.queries, none⟩
  | .error (.unavailable store fromDatabase) =>
    let entry := (storeEntry request store fromDatabase).during request identifier
    ⟨finish request identifier failureResponse, entries ++ [entry], transcript.asked,
      transcript.state.queries, none⟩
  | .error failure =>
    ⟨failureResponse, entries ++ [unhandledEntry request failure], transcript.asked,
      transcript.state.queries, some failure⟩

/-- What is served. -/
inductive Page
  | introspection
  | health
  /-- A description of the service. -/
  | description
  deriving DecidableEq, Repr

/-- The paths of descriptions of the service. -/
def descriptionPaths : List String := ["/openapi.json", "/docs", "/docs/oauth2-redirect", "/redoc"]

/-- What is served at a path. A line feed at its end does not count. -/
def pageAt? (path : String) : Option Page :=
  let is (name : String) : Bool := path == name || path == name ++ "\n"
  if is introspectPath then some .introspection
  else if is healthPath then some .health
  else if descriptionPaths.any is then some .description
  else none

/-- The methods that a page is served with. -/
def Page.methods : Page -> List String
  | .introspection => ["POST"]
  | .health => ["GET"]
  | .description => ["GET", "HEAD"]

/-- The characters that stand for themselves in the address of a redirection. -/
def addressMarks : List Char := [
  ':', '/', '%', '#', '?', '=', '@', '[', ']', '!', '$', '&', '\'', '(', ')', '*', '+', ',', ';']

/-- The path without slashes at its end, if it is a served path then and has some. -/
def withoutSlashes? (path : String) : Option String :=
  let shorter := String.ofList (path.toList.reverse.dropWhile (· == '/')).reverse
  if shorter ≠ path ∧ (pageAt? shorter).isSome then some shorter else none

/-- The response for what is not served at all, or not with this method. The descriptions of the
service are not here. -/
def notServed (request : Request) : Response :=
  match pageAt? request.path with
  | some page =>
    if page.methods.contains request.method then .detail 404 [] "Not Found"
    else .detail 405 [("allow", (", ").intercalate page.methods)] "Method Not Allowed"
  | none => match withoutSlashes? request.path with
    | some path =>
      ⟨307, [("content-length", "0"),
        ("location", Percent.encode addressMarks (request.addressOf path))], ""⟩
    | none => .detail 404 [] "Not Found"

/-- The response that the service is up. -/
def healthResponse : Response := .ofJson 200 [] (.object [("ok", .bool true)])

/-- Serve a request. -/
def serve (surroundings : Surroundings) (configuration : Configuration) (fresh : String)
    (request : Request) : Exchange :=
  let identifier := requestId request fresh
  match CrossOrigin.asked? request with
  | some method =>
    plain ((CrossOrigin.answer request method).adding [(lowerCase requestIdHeader, identifier)])
  | none =>
    match (pageAt? request.path).filter (·.methods.contains request.method) with
    | some .introspection => serveIntrospection surroundings configuration identifier request
    | some .health => plain (finish request identifier healthResponse)
    | _ => plain (finish request identifier (notServed request))

end Introspection.Http
