import Introspection.Assertion.SharedKey
import Introspection.Json.Document
import Introspection.Secret
import Introspection.Session
import Introspection.Text.Case
import Introspection.Web.Address

/-!
# Credentials

Who a request comes from. A bearer credential that is a live access token makes a delegated
requester. Any other bearer credential has to be an assertion of a client, which names itself in
claims that are read before they are checked; a basic credential is a client's id and secret. Both
make a direct requester, once the credential has been checked in the way that the client is
registered for.

Every refusal here is a denial with a reason; failures of stores and of ill-formed data end the
procedure.
-/

namespace Introspection

/-- Why a credential is not accepted. -/
inductive Denial
  | unauthorized
  | unauthorizedClient
  | invalidClient
  | invalidKeys
  | invalidAssertion
  | invalidAlgorithm
  | missingClaim (name : String)
  | invalidAudience
  deriving DecidableEq, Repr

/-- The reason that is told. -/
def Denial.name : Denial -> String
  | .unauthorized => "unauthorized"
  | .unauthorizedClient => "unauthorized_client"
  | .invalidClient => "invalid_client"
  | .invalidKeys => "invalid_client_keys"
  | .invalidAssertion => "invalid_client_assertion"
  | .invalidAlgorithm => "invalid_alg"
  | .missingClaim name => "missing_" ++ name
  | .invalidAudience => "invalid_audience"

/-- How a client authenticates. -/
inductive AuthMethod
  | privateKey
  | secretBasic
  | sharedBearer
  deriving DecidableEq, Repr

namespace AuthMethod

/-- Every method, in the order in which they are listed. -/
def all : List AuthMethod := [.privateKey, .secretBasic, .sharedBearer]

/-- The name under which a method is registered. -/
def name : AuthMethod -> String
  | .privateKey => "private_key_jwt"
  | .secretBasic => "client_secret_basic"
  | .sharedBearer => "shared_bearer"

/-- The method of a name in any case. -/
def ofName? (text : String) : Option AuthMethod := all.find? (·.name == Text.lower text)

/-- The method that a stored value names. A value that counts as absent names none; of any other,
only a text can be looked up. -/
def ofJson? : Json -> Except Failure (Option AuthMethod)
  | .string text => .ok (ofName? text)
  | value => if value.isVoid then .ok none else .error .unsupportedKey

/-- Whether the method uses a bearer credential. -/
def isBearer : AuthMethod -> Bool
  | .secretBasic => false
  | _ => true

end AuthMethod

/-- The credentials of a request: a scheme with its value, and an id with a secret. -/
structure Credentials where
  bearer : Option (String × String)
  basic : Option (String × String)
  deriving DecidableEq, Repr

/-- What the check of a credential takes from the request and the settings. -/
structure Occasion where
  /-- The address that was requested. -/
  address : String
  /-- The present, in whole seconds since 1970. -/
  now : Int
  /-- How many seconds the clocks of clients may be off. It is looked at only where it is needed,
  and has to be a number there. -/
  leeway : Json
  /-- How deeply lists and objects may stand in one another in what is read for the check. -/
  depth : Nat

/-- The claims that every assertion has to have. -/
def requiredClaims : List String := ["iss", "sub", "aud", "exp", "iat"]

namespace Credential

open Assertion (Members Fault Parsed)

/-- A claim, `null` when it is absent. -/
def claim (claims : Members) (name : String) : Json := (Json.member? name claims).getD .null

/-- What an assertion may name as its audience: the requested address without its query. -/
def audience (address : String) : String :=
  String.ofList (address.toList.takeWhile (· ≠ '?'))

/-- Whether the audience that claims name is the requested address or has it among others. -/
def isAudience (address : String) : (named : Json) -> Except Failure Bool
  | .string text => .ok (text == audience address)
  | .list items => .ok (items.any (fun item => item.string? == some (audience address)))
  | .object members => .ok (members.any (fun member => member.1 == audience address))
  | named => if named.isVoid then .ok false else .error .wrongType

/-- Check claims against the request and the client: all that are required, then the audience,
then that issuer and subject are the client. -/
def checkClaims (address clientId : String) (claims : Members) :
    Except Failure (Except Denial Unit) :=
  match requiredClaims.find? (fun name => (Json.member? name claims).isNone) with
  | some name => .ok (.error (.missingClaim name))
  | none => do
    if !(<- isAudience address (claim claims "aud")) then return .error .invalidAudience
    let issuer := claim claims "iss"
    if issuer.isVoid || issuer.display != (claim claims "sub").display
        || issuer.display != clientId then
      return .error .invalidClient
    return .ok ()

/-- The denial or the failure that a fault amounts to. -/
def ofFault {α : Type} (denial : Denial) : Except Fault α -> Except Failure (Except Denial α)
  | .ok value => .ok (.ok value)
  | .error .unusable => .ok (.error denial)
  | .error (.failed failure) => .error failure

/-- Check an assertion of a client: first that its header names the algorithm that is laid down
for the client, if one is, then that there are keys at all, then its signature and times, then its
claims. -/
def verifyAssertion (occasion : Occasion) (client : ClientRow)
    (accepted : List Assertion.Algorithm)
    (keys : Except Fault (Members -> Except Fault Assertion.Key)) (assertion : String) :
    Except Failure (Except Denial Parsed) := do
  if !client.signingAlg.isVoid then
    match <- ofFault .invalidAssertion (Assertion.unverifiedHeader occasion.depth assertion) with
    | .error denial => return .error denial
    | .ok header =>
      if !(claim header "alg").same client.signingAlg then return .error .invalidAlgorithm
  match <- ofFault .invalidAssertion (keys.bind fun keyFor =>
      Assertion.check accepted keyFor occasion.depth occasion.now occasion.leeway assertion) with
  | .error denial => return .error denial
  | .ok parsed =>
    match <- checkClaims occasion.address client.clientId parsed.claims with
    | .error denial => return .error denial
    | .ok () => return .ok parsed

/-- The value of a document, if the server gave one. A body that holds none counts as no document,
but a value that is nested too deeply is a failure. -/
def document (depth : Nat) : Reply -> Except Failure (Option Json)
  | .unreachable => .ok none
  | .answered status body =>
    if 200 ≤ status ∧ status < 300 then
      match Json.ofDocument depth body with
      | .ok value => .ok (some value)
      | .error .malformed => .ok none
      | .error .tooDeep => .error .tooDeep
    else .ok none

/-- Ask for the document at an address. What cannot be asked for is not there: an address whose
host is not written in ASCII, and one that names no server, though of the latter this shows only
after it has been asked for. -/
def fetch (depth : Nat) (address : Web.Address) : Procedure (Option Json) := do
  if !address.host.toList.all Percent.isAscii then return none
  let reply <- Procedure.ask (.document address.target)
  if address.namesServer then Inquiry.ofExcept (document depth reply) else return none

/-- The key set of a client: the one stored, or else the one at its address. -/
def keySet (depth : Nat) (client : ClientRow) : Procedure Json := do
  match client.keys with
  | .object members => return .object members
  | _ =>
    if client.keysAddress.isVoid then return .null
    match client.keysAddress with
    | .string text => match Web.Address.read? text with
      | none => .fail .invalidAddress
      | some address => match <- fetch depth address with
        | some value => return value
        | none =>
          Inquiry.record (.keysFetchFailed client.clientId)
          return .null
    | _ => .fail .wrongType

/-- Check an assertion against a key set. -/
def verifyWithKeySet (occasion : Occasion) (client : ClientRow) (keySet : Json)
    (assertion : String) : Except Failure (Except Denial Parsed) :=
  match keySet with
  | .object members => do
    if (claim members "keys").isVoid then return .error .invalidKeys
    match <- ofFault .invalidKeys (Assertion.Key.ofSet members) with
    | .error denial => return .error denial
    | .ok keys =>
      verifyAssertion occasion client Assertion.Algorithm.publicKey
        (.ok fun header => Assertion.Key.select keys (Assertion.keyIdentifier header)) assertion
  | _ => .ok (.error .invalidKeys)

/-- Check an assertion against a client secret. -/
def verifyWithSecret (occasion : Occasion) (client : ClientRow) (assertion : String) :
    Except Failure (Except Denial Parsed) :=
  if client.secret.isVoid then .ok (.error .unauthorizedClient)
  else verifyAssertion occasion client Assertion.Algorithm.sharedSecret
    ((Assertion.SharedKey.ofSecret occasion.depth client.secret).map Assertion.SharedKey.keyFor)
    assertion

/-- Check a presented secret against the stored one. -/
def verifySecret (client : ClientRow) (presented : String) :
    Except Failure (Except Denial Unit) := do
  if client.secret.isVoid || presented.isEmpty then return .error .unauthorizedClient
  match client.secret with
  | .string stored =>
    if <- Secret.verify presented stored then return .ok () else return .error .invalidClient
  | _ => throw .unsupportedKey

/-- Check the value of a credential in the way that the client is registered for, if the
credential came in the scheme for it. -/
def check (occasion : Occasion) (client : ClientRow) (isBearer : Bool) (value : String) :
    Procedure (Except Denial Unit) :=
  match AuthMethod.ofJson? client.authMethod with
  | .error failure => .fail failure
  | .ok none => return .error .unauthorizedClient
  | .ok (some method) =>
    if method.isBearer != isBearer then return .error .unauthorizedClient
    else match method with
      | .privateKey => do
        let keySet <- keySet occasion.depth client
        let checked <- Inquiry.ofExcept (verifyWithKeySet occasion client keySet value)
        return checked.map fun _ => ()
      | .sharedBearer => do
        let checked <- Inquiry.ofExcept (verifyWithSecret occasion client value)
        return checked.map fun _ => ()
      | .secretBasic => Inquiry.ofExcept (verifySecret client value)

/-- The direct requester that a client is, once its credential has been checked. -/
def direct (occasion : Occasion) (clientId : String) (isBearer : Bool) (value : String) :
    Procedure (Except Denial Requester) := do
  match <- Procedure.ask (.registration clientId) with
  | none => return .error .invalidClient
  | some client =>
    match <- check occasion client isBearer value with
    | .error denial => return .error denial
    | .ok () => return .ok (.direct client.clientId (ScopeSet.ofList [clientRole]))

/-- The value of a credential in the bearer scheme, unless it is empty. -/
def bearerValue? (credentials : Credentials) : Option String :=
  credentials.bearer.bind fun (scheme, value) =>
    if String.ofList (scheme.toList.map Char.toLower) == "bearer" && !value.isEmpty then some value
    else none

/-- The requester that credentials stand for. -/
def authenticate (occasion : Occasion) (credentials : Credentials) :
    Procedure (Except Denial Requester) := do
  match bearerValue? credentials with
  | some value =>
    match <- Procedure.ofDecision (Decision.delegatedRequester value) with
    | some requester => return .ok requester
    | none =>
      match <- Inquiry.ofExcept
          (ofFault .invalidAssertion (Assertion.unverifiedClaims occasion.depth value)) with
      | .error denial => return .error denial
      | .ok claims =>
        let issuer := claim claims "iss"
        let named := if issuer.isVoid then claim claims "sub" else issuer
        if named.isVoid then return .error .unauthorized
        else direct occasion named.display true value
  | none =>
    match credentials.basic with
    | none => return .error .unauthorized
    | some (clientId, secret) =>
      if clientId.isEmpty then return .error .unauthorized
      else direct occasion clientId false secret

/-- What a request is marked with once it is known who it comes from: the id of the client. -/
def mark : Except Failure (Except Denial Requester) -> Option String
  | .ok (.ok requester) => some requester.clientId
  | _ => none

end Credential

end Introspection
