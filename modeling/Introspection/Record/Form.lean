import Introspection.Checked
import Introspection.Decision

/-!
# Records as objects

Every record by the names of its fields: reading it from an object, with all defects of its
fields, and writing it as one. Fields that are not known are ignored. A field that may be absent
has its default here.
-/

namespace Introspection

open Checked

/-- The names of a scope set as a list. -/
def ScopeSet.toJson (scopes : ScopeSet) : Json := .list (scopes.members.map Json.string)

/-- A point in time in its written form, or `null`. -/
def Moment.toJson? : Option Moment -> Json
  | some moment => .string moment.text
  | none => .null

/-- Give a value to a name in a record that has been made. No field can be changed; a name with a
low line at its front is not the name of a field, and what it gets is no part of the record. -/
def Checked.assign (name : String) : Checked Unit :=
  if name.toList.head? = some '_' then .valid ()
  else (defect .frozen).under (.field name)

namespace Requester

/-- Read a requester that came with a bearer token. -/
def readDelegated (fields : List (String × Json)) : Checked Requester :=
  Requester.delegated <$> required "client_id" text fields
    <*> withDefault "granted_scopes" .empty scopeSet fields

/-- Read a requester that authenticated with its own credentials. -/
def readDirect (fields : List (String × Json)) : Checked Requester :=
  Requester.direct <$> required "client_id" text fields
    <*> withDefault "authorities" .empty scopeSet fields

/-- The fields of a requester. -/
def fields : Requester -> List (String × Json)
  | .delegated clientId grantedScopes =>
    [("client_id", .string clientId), ("granted_scopes", grantedScopes.toJson)]
  | .direct clientId authorities =>
    [("client_id", .string clientId), ("authorities", authorities.toJson)]

end Requester

namespace ClientProfile

/-- Read a profile. -/
def read (fields : List (String × Json)) : Checked ClientProfile :=
  ClientProfile.mk <$> required "client_id" text fields
    <*> withDefault "allow_introspection" false bool fields
    <*> withDefault "scopes" .empty scopeSet fields
    <*> withDefault "authorities" .empty scopeSet fields

/-- The fields of a profile. -/
def fields (profile : ClientProfile) : List (String × Json) := [
  ("client_id", .string profile.clientId),
  ("allow_introspection", .bool profile.allowIntrospection),
  ("scopes", profile.scopes.toJson),
  ("authorities", profile.authorities.toJson)]

end ClientProfile

namespace Grant

/-- Read what a token was granted. -/
def read (fields : List (String × Json)) : Checked Grant :=
  Grant.mk <$> required "client_id" text fields
    <*> withDefault "scopes" .empty scopeSet fields
    <*> withDefault "principal_name" none (optional text) fields
    <*> withDefault "expires_at" none (optional moment) fields

/-- The fields that tokens of both kinds have, with their value. -/
def fields (value : String) (grant : Grant) : List (String × Json) := [
  ("value", .string value),
  ("client_id", .string grant.clientId),
  ("scopes", grant.scopes.toJson),
  ("principal_name", .ofString? grant.principal),
  ("expires_at", Moment.toJson? grant.expiresAt)]

end Grant

namespace AccessToken

/-- Read an access token. -/
def read (fields : List (String × Json)) : Checked AccessToken :=
  AccessToken.mk <$> required "value" text fields
    <*> Grant.read fields
    <*> withDefault "token_type" defaultTokenType text fields

/-- The fields of an access token. -/
def fields (token : AccessToken) : List (String × Json) :=
  token.grant.fields token.value ++ [("token_type", .string token.tokenType)]

end AccessToken

namespace RefreshToken

/-- Read a refresh token. -/
def read (fields : List (String × Json)) : Checked RefreshToken :=
  RefreshToken.mk <$> required "value" text fields <*> Grant.read fields

/-- The fields of a refresh token. -/
def fields (token : RefreshToken) : List (String × Json) := token.grant.fields token.value

end RefreshToken

namespace SubjectToken

/-- The names of the two kinds of token in the place of a defect. -/
def kinds : Place × Place := (.field "AccessTokenRecord", .field "RefreshTokenRecord")

/-- Read a token of either kind. What can be read as an access token is one; if it can be read as
neither kind, the defects of both readings are told. -/
def read (value : Json) : Checked SubjectToken :=
  match record AccessToken.read value, record RefreshToken.read value with
  | .valid token, _ => .valid (.access token)
  | .invalid _, .valid token => .valid (.refresh token)
  | .invalid errors, .invalid more =>
    .invalid ((errors.map fun error => { error with place := kinds.1 :: error.place }) ++
      more.map fun error => { error with place := kinds.2 :: error.place })

/-- The fields of a token. -/
def fields : SubjectToken -> List (String × Json)
  | .access token => token.fields
  | .refresh token => token.fields

end SubjectToken

namespace UserContext

/-- Read a user. -/
def read (fields : List (String × Json)) : Checked UserContext :=
  UserContext.mk <$> required "sub" text fields
    <*> withDefault "preferred_username" none (optional text) fields

/-- The fields of a user. -/
def fields (user : UserContext) : List (String × Json) := [
  ("sub", .string user.subject),
  ("preferred_username", .ofString? user.preferredUsername)]

end UserContext

namespace ResolvedToken

/-- Read a token with its user. -/
def read (fields : List (String × Json)) : Checked ResolvedToken :=
  ResolvedToken.mk <$> required "token" SubjectToken.read fields
    <*> withDefault "user" none (optional (record UserContext.read)) fields

/-- The fields of a token with its user. -/
def fields (resolved : ResolvedToken) : List (String × Json) := [
  ("token", .object resolved.token.fields),
  ("user", (resolved.user.map fun user => Json.object user.fields).getD .null)]

end ResolvedToken

namespace Answer

/-- Read an answer. -/
def read (fields : List (String × Json)) : Checked Answer :=
  Answer.mk <$> required "active" bool fields
    <*> withDefault "scope" none (optional text) fields
    <*> withDefault "client_id" none (optional text) fields
    <*> withDefault "exp" none (optional int) fields
    <*> withDefault "sub" none (optional text) fields
    <*> withDefault "username" none (optional text) fields
    <*> withDefault "token_type" none (optional text) fields
    <*> withDefault "iss" none (optional text) fields

end Answer

namespace InactiveReason

/-- The reason of a name. -/
def ofJson (value : Json) : Checked InactiveReason :=
  match all.find? (fun reason => value.string? == some reason.name) with
  | some reason => .valid reason
  | none => defect .notChoice

/-- Read the reason of an inactive outcome. -/
def read (fields : List (String × Json)) : Checked InactiveReason :=
  required "reason" ofJson fields

end InactiveReason

end Introspection
