import Introspection.Json

/-!
# Events

What is put on record while a request is decided. Each event has a name, a level and the values
that it carries besides.
-/

namespace Introspection

/-- How serious an event is. -/
inductive Level
  | debug
  | info
  | warning
  | error
  | critical
  deriving DecidableEq, Repr

/-- The name of a level. -/
def Level.name : Level -> String
  | .debug => "debug"
  | .info => "info"
  | .warning => "warning"
  | .error => "error"
  | .critical => "critical"

/-- An event in the decision of a request. -/
inductive Event
  /-- No token was given. -/
  | missingToken (requester : String)
  /-- A delegated requester came without the scope that it needs. -/
  | requesterMissingScope (requester : String) (required : Json)
  /-- A direct requester is not registered as one that may ask. -/
  | notAllowedForClient (requester : String)
  /-- Nothing is registered about the requester. -/
  | clientNotFound (requester : String)
  /-- The value is no access token; refresh tokens are tried next. -/
  | accessTokenNotFound (hint : Json)
  /-- The value is no token at all. -/
  | tokenNotFound (hint : Json)
  /-- The requester gets no answer. -/
  | forbidden (requester reason : String)
  /-- The requester is told about a token of the owner. -/
  | active (requester owner : String)
  /-- A bearer credential is one of the access tokens issued here. -/
  | delegatedRequester (clientId : String)
  /-- The key set of a client could not be fetched. -/
  | keysFetchFailed (clientId : String)
  deriving Repr

namespace Event

/-- The name of an event. -/
def name : Event -> String
  | .missingToken _ => "introspection_missing_token"
  | .requesterMissingScope _ _ => "introspection_requester_missing_scope"
  | .notAllowedForClient _ => "introspection_not_allowed_for_client"
  | .clientNotFound _ => "introspection_client_not_found"
  | .accessTokenNotFound _ => "access_token_not_found_trying_refresh"
  | .tokenNotFound _ => "token_not_found"
  | .forbidden _ _ => "introspection_forbidden"
  | .active _ _ => "introspection_active"
  | .delegatedRequester _ => "delegated_requester"
  | .keysFetchFailed _ => "client_jwks_fetch_failed"

/-- The level of an event. -/
def level : Event -> Level
  | .missingToken _ => .info
  | .requesterMissingScope _ _ => .warning
  | .notAllowedForClient _ => .warning
  | .clientNotFound _ => .error
  | .accessTokenNotFound _ => .info
  | .tokenNotFound _ => .info
  | .forbidden _ _ => .warning
  | .active _ _ => .info
  | .delegatedRequester _ => .debug
  | .keysFetchFailed _ => .warning

/-- The values that an event carries. -/
def fields : Event -> List (String × Json)
  | .missingToken requester => [("client_id", .string requester)]
  | .requesterMissingScope requester required =>
    [("client_id", .string requester), ("required_scope", required)]
  | .notAllowedForClient requester => [("client_id", .string requester)]
  | .clientNotFound requester => [("client_id", .string requester)]
  | .accessTokenNotFound hint => [("token_type_hint", hint)]
  | .tokenNotFound hint => [("token_type_hint", hint)]
  | .forbidden requester reason => [("client_id", .string requester), ("reason", .string reason)]
  | .active requester owner =>
    [("client_id", .string requester), ("token_client_id", .string owner)]
  | .delegatedRequester clientId => [("client_id", .string clientId)]
  | .keysFetchFailed clientId => [("client_id", .string clientId)]

end Event

end Introspection
