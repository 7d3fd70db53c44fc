import Introspection.Moment
import Introspection.Scope

/-!
# Records

What the stores hold about clients, tokens and users, as the decision sees it: who asks, what is
registered about the one who asks, and what is known about the token asked about.
-/

namespace Introspection

/-- The role that authentication with the client's own credentials grants. -/
def clientRole : String := "ROLE_CLIENT"

/-- The scope that entitles a delegated requester to ask, unless the settings name another. -/
def defaultProtectionScope : String := "uma_protection"

/-- Who asks. A delegated requester came with a bearer token and has the scopes granted to it; a
direct one authenticated with its own credentials and has the roles that this granted. -/
inductive Requester
  | delegated (clientId : String) (grantedScopes : ScopeSet)
  | direct (clientId : String) (authorities : ScopeSet)
  deriving DecidableEq

/-- The client that asks, or for which the token was issued that the requester came with. -/
def Requester.clientId : Requester -> String
  | .delegated clientId _ => clientId
  | .direct clientId _ => clientId

/-- What is registered about a client. -/
structure ClientProfile where
  clientId : String
  allowIntrospection : Bool
  scopes : ScopeSet
  authorities : ScopeSet
  deriving DecidableEq

/-- What a token of either kind was granted: to which client, for which user, and until when. -/
structure Grant where
  clientId : String
  scopes : ScopeSet
  principal : Option String
  expiresAt : Option Moment
  deriving DecidableEq

/-- An access token. -/
structure AccessToken where
  value : String
  grant : Grant
  tokenType : String
  deriving DecidableEq

/-- The type of an access token for which none is stored. -/
def defaultTokenType : String := "Bearer"

/-- A refresh token. -/
structure RefreshToken where
  value : String
  grant : Grant
  deriving DecidableEq

/-- A token asked about, of either kind. -/
inductive SubjectToken
  | access (token : AccessToken)
  | refresh (token : RefreshToken)
  deriving DecidableEq

namespace SubjectToken

/-- What the token was granted. -/
def grant : SubjectToken -> Grant
  | .access token => token.grant
  | .refresh token => token.grant

/-- The type of the token, which only access tokens have. -/
def tokenType? : SubjectToken -> Option String
  | .access token => some token.tokenType
  | .refresh _ => none

end SubjectToken

/-- A user as one client sees them. -/
structure UserContext where
  subject : String
  preferredUsername : Option String
  deriving DecidableEq

/-- A token with the user it was issued for, if there is one. -/
structure ResolvedToken where
  token : SubjectToken
  user : Option UserContext
  deriving DecidableEq

/-- What is told about a token. -/
structure Answer where
  active : Bool
  scope : Option String
  clientId : Option String
  expiry : Option Int
  subject : Option String
  username : Option String
  tokenType : Option String
  issuer : Option String
  deriving DecidableEq

namespace Answer

/-- The answer for a token that is not active. -/
def inactive : Answer := ⟨false, none, none, none, none, none, none, none⟩

/-- The fields of an answer by their public names, absent ones as `null`. -/
def fields (answer : Answer) : List (String × Json) := [
  ("active", .bool answer.active),
  ("scope", .ofString? answer.scope),
  ("client_id", .ofString? answer.clientId),
  ("exp", (answer.expiry.map Json.int).getD .null),
  ("sub", .ofString? answer.subject),
  ("username", .ofString? answer.username),
  ("token_type", .ofString? answer.tokenType),
  ("iss", .ofString? answer.issuer)]

/-- What is published: nothing but `active` for an inactive token, and no field without a
value. -/
def payload (answer : Answer) : Json :=
  if answer.active then .object (answer.fields.filter (fun field => !field.2 matches .null))
  else .object [("active", .bool false)]

end Answer

/-- Why a token is answered as inactive. -/
inductive InactiveReason
  | missingInput
  | tokenNotFound
  deriving DecidableEq, Repr

namespace InactiveReason

/-- Every reason, in the order in which they are listed. -/
def all : List InactiveReason := [.missingInput, .tokenNotFound]

/-- The name of a reason. -/
def name : InactiveReason -> String
  | .missingInput => "missing_input"
  | .tokenNotFound => "token_not_found"

end InactiveReason

/-- How a request for introspection is decided. -/
inductive Outcome
  | inactive (reason : InactiveReason)
  | forbidden (reason : Refusal)
  | active (answer : Answer)
  deriving DecidableEq

/-- What is answered, for an outcome that is an answer. -/
def Outcome.answer? : Outcome -> Option Answer
  | .inactive _ => some .inactive
  | .forbidden _ => none
  | .active answer => some answer

end Introspection
