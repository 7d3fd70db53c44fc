import Introspection.Inquiry
import Introspection.Record

/-!
# The decision about a token

Whether a requester may ask, which token a value names, whether the policy lets the requester see
it, and what is told about it. The steps come in this order and the first one that settles the
answer ends the decision: no token given, requester refused, token unknown, requester not
permitted, token active.

Nothing here reads a store: the decision asks for at most four records.
-/

namespace Introspection

/-- A question for one record. -/
inductive Lookup
  | client (clientId : String)
  | access (value : String)
  | refresh (value : String)
  | user (username clientId : String)
  deriving DecidableEq, Repr

namespace Lookup

/-- The type of record that answers a lookup, `none` standing for no record. -/
@[reducible] def Reply : Lookup -> Type
  | .client _ => Option ClientProfile
  | .access _ => Option AccessToken
  | .refresh _ => Option RefreshToken
  | .user _ _ => Option UserContext

/-- The store that a lookup goes to. -/
def store : Lookup -> Store
  | .client _ => .clients
  | .access _ => .accessTokens
  | .refresh _ => .refreshTokens
  | .user _ _ => .users

end Lookup

/-- A decision over lookups of records. -/
abbrev Decision (result : Type) : Type := Inquiry Lookup Lookup.Reply result

/-- What the operator of the service lays down. -/
structure Policy where
  /-- The scope that a delegated requester needs, as it is set. -/
  protectionScope : Json
  /-- How scopes have to relate for a requester to see a token of another client. -/
  rule : ScopeRule
  /-- The issuer named in answers, as it is set. -/
  issuer : Json

namespace Decision

/-- Look up one record. -/
def lookup (question : Lookup) : Decision question.Reply := Inquiry.question question

/-- Whether scopes hold the one that is asked for. Only a text can be among them; a list or an
object cannot even be looked for. -/
def isHeld (scopes : ScopeSet) : (required : Json) -> Except Failure Bool
  | .string name => .ok (name ∈ scopes)
  | .list _ => .error .wrongType
  | .object _ => .error .wrongType
  | _ => .ok false

/-- The profile of a requester that may ask; any other is refused. A delegated requester needs the
protection scope before anything is looked up; a direct one needs the client role and permission in
its registration. -/
def authenticate (protectionScope : Json) (requester : Requester) : Decision ClientProfile :=
  match requester with
  | .delegated clientId grantedScopes => do
    if <- Inquiry.ofExcept (isHeld grantedScopes protectionScope) then
      match <- lookup (.client clientId) with
      | some profile => return profile
      | none =>
        Inquiry.record (.clientNotFound clientId)
        .fail (.refused .clientNotFound)
    else
      Inquiry.record (.requesterMissingScope clientId protectionScope)
      .fail (.refused .insufficientScope)
  | .direct clientId authorities => do
    match <- lookup (.client clientId) with
    | some profile =>
      if (clientRole ∈ authorities ∨ clientRole ∈ profile.authorities) ∧
          profile.allowIntrospection then
        return profile
      else
        Inquiry.record (.notAllowedForClient clientId)
        .fail (.refused .introspectionNotAllowed)
    | none =>
      Inquiry.record (.clientNotFound clientId)
      .fail (.refused .clientNotFound)

/-- The token that a value names, an access token before a refresh token. The hint is put on
record as it is given and has no other effect. -/
def findToken (value : String) (hint : Json) : Decision (Option SubjectToken) := do
  match <- lookup (.access value) with
  | some token => return some (.access token)
  | none =>
    Inquiry.record (.accessTokenNotFound hint)
    match <- lookup (.refresh value) with
    | some token => return some (.refresh token)
    | none =>
      Inquiry.record (.tokenNotFound hint)
      return none

/-- The user that a token was issued for. Tokens of clients on their own behalf have none. -/
def findUser (grant : Grant) : Decision (Option UserContext) :=
  match grant.principal with
  | none => return none
  | some principal =>
    if principal.isEmpty then return none else lookup (.user principal grant.clientId)

/-- The token that a value names, with its user. -/
def resolve (value : String) (hint : Json) : Decision (Option ResolvedToken) := do
  match <- findToken value hint with
  | none => return none
  | some token => return some ⟨token, <- findUser token.grant⟩

/-- Whether a requester may see tokens of other clients at all. -/
def mayCrossClients (protectionScope : Json) (requester : Requester) (profile : ClientProfile) :
    Except Failure Bool :=
  match requester with
  | .delegated _ grantedScopes => isHeld grantedScopes protectionScope
  | .direct _ _ => .ok profile.allowIntrospection

/-- Whether a requester may see a token of a client with some scopes: its own always, that of
another client when it may cross clients and the scope rule holds. -/
def isPermitted (protectionScope : Json) (rule : ScopeRule) (requester : Requester)
    (profile : ClientProfile) (owner : String) (scopes : ScopeSet) : Except Failure Bool :=
  if profile.clientId = owner then .ok true
  else (mayCrossClients protectionScope requester profile).map
    (· && rule.holds profile.scopes scopes)

/-- What is told about an active token. -/
def answer (issuer : Option String) (token : SubjectToken) (user : Option UserContext) :
    Answer where
  active := true
  scope := some token.grant.scopes.toText
  clientId := some token.grant.clientId
  expiry := token.grant.expiresAt.map Moment.wholeSeconds
  subject := user.map (·.subject)
  username := user.bind (·.preferredUsername)
  tokenType := token.tokenType?
  issuer := issuer

/-- What is told about an active token under an issuer as it is set, which has to be a text if
there is one. -/
def assemble (issuer : Json) (token : SubjectToken) (user : Option UserContext) :
    Except Failure Answer :=
  match issuer with
  | .null => .ok (answer none token user)
  | .string name => .ok (answer (some name) token user)
  | _ => .error (.invalidRecord [⟨[.field "iss"], .notText⟩])

/-- The delegated requester that a bearer credential stands for, if it is an access token: the
client it was issued to, with the scopes granted to it. -/
def delegatedRequester (credential : String) : Decision (Option Requester) := do
  match <- lookup (.access credential) with
  | none => return none
  | some token =>
    Inquiry.record (.delegatedRequester token.grant.clientId)
    return some (.delegated token.grant.clientId token.grant.scopes)

/-- The token that a value names, with its user, if the requester may see it. A requester that may
not ask, or not see this token, is refused. -/
def visibleToken (policy : Policy) (value : String) (hint : Json) (requester : Requester) :
    Decision (Option ResolvedToken) := do
  let profile <- authenticate policy.protectionScope requester
  match <- resolve value hint with
  | none => return none
  | some resolved =>
    let grant := resolved.token.grant
    if <- Inquiry.ofExcept (isPermitted policy.protectionScope policy.rule requester profile
        grant.clientId grant.scopes) then
      return some resolved
    else .fail (.refused .notPermitted)

/-- Refuse an answer. -/
def refuse (requester : Requester) (refusal : Refusal) : Decision Outcome := do
  Inquiry.record (.forbidden requester.clientId refusal.name)
  return .forbidden refusal

/-- Tell about a token. -/
def tell (policy : Policy) (requester : Requester) (resolved : ResolvedToken) :
    Decision Outcome := do
  let answer <- Inquiry.ofExcept (assemble policy.issuer resolved.token resolved.user)
  Inquiry.record (.active requester.clientId resolved.token.grant.clientId)
  return .active answer

/-- Decide one request. A refusal is an outcome; any other failure is passed on. -/
def introspect (policy : Policy) (token : Option String) (hint : Json) (requester : Requester) :
    Decision Outcome := do
  let value := token.getD ""
  if value.isEmpty then
    Inquiry.record (.missingToken requester.clientId)
    return .inactive .missingInput
  else
    match <- (visibleToken policy value hint requester).orRefused with
    | .error refusal => refuse requester refusal
    | .ok none => return .inactive .tokenNotFound
    | .ok (some resolved) => tell policy requester resolved

end Decision

end Introspection
