import Introspection.Crypto.Sha256
import Introspection.Hex
import Introspection.Checked
import Introspection.Stores
import Introspection.Text.Utf8

/-!
# The database

The rows that records are made from, and the queries that select them: a client by its id, an
access token by its value, a refresh token by the hash of its value, a user by name. Tokens are
selected only while they are live, that is until strictly before their time of expiry.

A row is kept as it is stored. Making a record of it normalizes its scopes, and fails when they
are not scopes at all.
-/

namespace Introspection

/-- A registered client. -/
structure ClientRow where
  clientId : String
  /-- The registered way to authenticate. -/
  authMethod : Json
  /-- The only algorithm that assertions may be signed with, if one is laid down. -/
  signingAlg : Json
  secret : Json
  /-- The key set, when it is stored itself. -/
  keys : Json
  /-- Where the key set is fetched, when it is not. -/
  keysAddress : Json
  allowIntrospection : Json
  scope : Json
  authorities : Json

/-- An access token. -/
structure AccessTokenRow where
  token : String
  /-- The id of the client that it was issued to. -/
  owner : Json
  tokenType : Json
  scope : Json
  principal : Json
  expiresAt : Option Moment

/-- A refresh token, stored by the hash of its value. -/
structure RefreshTokenRow where
  tokenHash : String
  /-- The id of the client that it was issued to. -/
  owner : Json
  scope : Json
  principal : Json
  expiresAt : Option Moment

/-- The identifier by which one client knows a user. -/
structure PairwiseIdentifier where
  clientId : Json
  identifier : Json

/-- A user. -/
structure UserRow where
  subject : Json
  preferredUsername : String
  pairwise : List PairwiseIdentifier

/-- How queries of a table fail. -/
inductive Outage
  /-- The database reports an error. -/
  | database
  /-- The connection is refused. -/
  | connection
  deriving DecidableEq, Repr

/-- The tables, and which of them fail. Each table has at most one row of a key. -/
structure Database where
  clients : List ClientRow
  accessTokens : List AccessTokenRow
  refreshTokens : List RefreshTokenRow
  users : List UserRow
  outages : Entries Store Outage

/-- The hash under which the value of a refresh token is stored. -/
def tokenHash (value : String) : String := Hex.encode (Crypto.Sha256.hash (Text.utf8 value))

/-- The name of the table behind a store. -/
def Store.table : Store -> String
  | .clients => "client"
  | .accessTokens => "access_token"
  | .refreshTokens => "refresh_token"
  | .users => "user_info"

/-- The scopes of a stored value as members of a field, with the defects of those that are no
names. -/
def Scope.column (field : String) (stored : Json) : Except Failure (Checked ScopeSet) := do
  let members <- Scope.members stored
  match Scope.defects field members with
  | [] => return .valid (Scope.ofMembers members)
  | errors => return .invalid errors

/-- The profile of a registered client. -/
def ClientRow.profile (row : ClientRow) : Except Failure ClientProfile := do
  let scopes <- Scope.column "scopes" row.scope
  let authorities <- Scope.column "authorities" row.authorities
  (ClientProfile.mk row.clientId (!row.allowIntrospection.isVoid) <$> scopes
    <*> authorities).toExcept

/-- What a stored token was granted, with the defects of what is stored about it. -/
def Grant.ofColumns (owner scope principal : Json) (expiresAt : Option Moment) :
    Except Failure (Checked Grant) := do
  let scopes <- Scope.column "scopes" scope
  return (fun owner scopes principal => ⟨owner, scopes, principal, expiresAt⟩)
    <$> (Checked.text owner).under (.field "client_id")
    <*> scopes
    <*> (Checked.optional Checked.text principal).under (.field "principal_name")

/-- The type of an access token that is stored, or the default for a value that counts as
absent. -/
def AccessTokenRow.typeName (row : AccessTokenRow) : Checked String :=
  if row.tokenType.isVoid then .valid defaultTokenType
  else (Checked.text row.tokenType).under (.field "token_type")

/-- The record of a stored access token. -/
def AccessTokenRow.record (row : AccessTokenRow) : Except Failure AccessToken := do
  let grant <- Grant.ofColumns row.owner row.scope row.principal row.expiresAt
  (AccessToken.mk row.token <$> grant <*> row.typeName).toExcept

/-- The record of a stored refresh token, for the value that it was found by. -/
def RefreshTokenRow.record (row : RefreshTokenRow) (value : String) :
    Except Failure RefreshToken := do
  let grant <- Grant.ofColumns row.owner row.scope row.principal row.expiresAt
  (grant.map (RefreshToken.mk value)).toExcept

/-- The stored subject that a client sees a user under: the identifier that the client knows them
by, if there is one. -/
def UserRow.subjectFor (row : UserRow) (clientId : String) : Json :=
  match row.pairwise.find? (·.clientId.string? == some clientId) with
  | some pairwise => pairwise.identifier
  | none => row.subject

/-- A user as a client sees them. -/
def UserRow.seenBy (row : UserRow) (clientId : String) : Except Failure UserContext :=
  (((Checked.text (row.subjectFor clientId)).under (.field "sub")).map
    (UserContext.mk · (some row.preferredUsername))).toExcept

namespace Database

/-- The registration of a client. -/
def client? (database : Database) (clientId : String) : Option ClientRow :=
  database.clients.find? (·.clientId = clientId)

/-- The access token of a value, while it is live. -/
def accessToken? (database : Database) (now : Moment) (value : String) : Option AccessTokenRow :=
  database.accessTokens.find? fun row => row.token = value && Moment.isAfter row.expiresAt now

/-- The refresh token of a hash, while it is live. -/
def refreshToken? (database : Database) (now : Moment) (hash : String) : Option RefreshTokenRow :=
  database.refreshTokens.find? fun row => row.tokenHash = hash && Moment.isAfter row.expiresAt now

/-- The user of a name. -/
def user? (database : Database) (username : String) : Option UserRow :=
  database.users.find? (·.preferredUsername = username)

/-- The failure of a query of a table, if the table fails. -/
def failure? (database : Database) (store : Store) : Option Failure :=
  (database.outages.get? store).map fun
    | .database => .unavailable store true
    | .connection => .connectionRefused

/-- Register a client, in place of one of the same id. -/
def putClient (database : Database) (row : ClientRow) : Database :=
  { database with clients := database.clients.filter (·.clientId ≠ row.clientId) ++ [row] }

/-- Store an access token, in place of one of the same value. -/
def putAccessToken (database : Database) (row : AccessTokenRow) : Database :=
  { database with
    accessTokens := database.accessTokens.filter (·.token ≠ row.token) ++ [row] }

/-- Store a refresh token, in place of one of the same hash. -/
def putRefreshToken (database : Database) (row : RefreshTokenRow) : Database :=
  { database with
    refreshTokens := database.refreshTokens.filter (·.tokenHash ≠ row.tokenHash) ++ [row] }

/-- Store a user, in place of one of the same name. -/
def putUser (database : Database) (row : UserRow) : Database :=
  { database with
    users := database.users.filter (·.preferredUsername ≠ row.preferredUsername) ++ [row] }

end Database

end Introspection
