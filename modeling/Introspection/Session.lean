import Introspection.Database

/-!
# Sessions

Reading the database during one request. The rows of clients and access tokens are remembered for
the length of the session, a missing row like one that is there; a query that fails is not
remembered. Refresh tokens and users are queried each time. Every query is on record, also one
that fails.

A whole request may ask for a record, for the registration of a client, or for a document on the
network.
-/

namespace Introspection

/-- A query of a table by a key. -/
structure Query where
  store : Store
  key : String
  deriving DecidableEq, Repr

/-- What a session remembers, and the queries it has made, in order. -/
structure Session where
  clients : Entries String (Option ClientRow)
  accessTokens : Entries String (Option AccessTokenRow)
  queries : List Query

/-- The answer of a server to a request for a document. -/
inductive Reply
  /-- The server was not reached, or gave no answer in time. -/
  | unreachable
  | answered (status : Nat) (body : List UInt8)
  deriving DecidableEq, Repr

/-- What a request finds in place: the database, the time, the servers that documents are fetched
from, and how deeply lists and objects may stand in one another in what is read. -/
structure Surroundings where
  database : Database
  now : Moment
  fetch : String -> Reply
  depth : Nat

/-- A question that deciding a request may put. -/
inductive Question
  | record (lookup : Lookup)
  | registration (clientId : String)
  | document (address : String)
  deriving DecidableEq, Repr

/-- The type of what answers a question. -/
@[reducible] def Question.Reply : Question -> Type
  | .record lookup => lookup.Reply
  | .registration _ => Option ClientRow
  | .document _ => Introspection.Reply

/-- A decision about a whole request. -/
abbrev Procedure (result : Type) : Type := Inquiry Question Question.Reply result

namespace Procedure

/-- A decision over records as part of a procedure. -/
def ofDecision {α : Type} (decision : Decision α) : Procedure α :=
  decision.translate Question.record (fun _ reply => reply)

/-- Put a question. -/
def ask (question : Question) : Procedure question.Reply := Inquiry.question question

end Procedure

namespace Session

/-- A session that has read nothing. -/
def empty : Session := ⟨[], [], []⟩

/-- Put a query on record and make it. -/
def query {α : Type} (database : Database) (store : Store) (key : String) (found : α)
    (session : Session) : Except Failure α × Session :=
  let session := { session with queries := session.queries ++ [⟨store, key⟩] }
  match database.failure? store with
  | some failure => (.error failure, session)
  | none => (.ok found, session)

/-- The registration of a client. -/
def client (database : Database) (clientId : String) (session : Session) :
    Except Failure (Option ClientRow) × Session :=
  match session.clients.get? clientId with
  | some remembered => (.ok remembered, session)
  | none =>
    match session.query database .clients clientId (database.client? clientId) with
    | (.ok row, session) =>
      (.ok row, { session with clients := session.clients ++ [(clientId, row)] })
    | (.error failure, session) => (.error failure, session)

/-- The row of an access token. -/
def accessToken (database : Database) (now : Moment) (value : String) (session : Session) :
    Except Failure (Option AccessTokenRow) × Session :=
  match session.accessTokens.get? value with
  | some remembered => (.ok remembered, session)
  | none =>
    match session.query database .accessTokens value (database.accessToken? now value) with
    | (.ok row, session) =>
      (.ok row, { session with accessTokens := session.accessTokens ++ [(value, row)] })
    | (.error failure, session) => (.error failure, session)

/-- The row of a refresh token, by its hash. -/
def refreshToken (database : Database) (now : Moment) (hash : String) (session : Session) :
    Except Failure (Option RefreshTokenRow) × Session :=
  session.query database .refreshTokens hash (database.refreshToken? now hash)

/-- The row of a user. -/
def user (database : Database) (username : String) (session : Session) :
    Except Failure (Option UserRow) × Session :=
  session.query database .users username (database.user? username)

/-- Make a record of a row that was read, if there is one. -/
def recordOf {row α : Type} (make : row -> Except Failure α)
    (read : Except Failure (Option row) × Session) : Except Failure (Option α) × Session :=
  match read with
  | (.ok (some row), session) => ((make row).map some, session)
  | (.ok none, session) => (.ok none, session)
  | (.error failure, session) => (.error failure, session)

/-- Answer a lookup of a record. -/
def lookup (database : Database) (now : Moment) :
    (question : Lookup) -> Session -> Except Failure question.Reply × Session
  | .client clientId, session => recordOf ClientRow.profile (session.client database clientId)
  | .access value, session =>
    recordOf AccessTokenRow.record (session.accessToken database now value)
  | .refresh value, session =>
    recordOf (fun row => row.record value) (session.refreshToken database now (tokenHash value))
  | .user username clientId, session =>
    recordOf (fun row => row.seenBy clientId) (session.user database username)

/-- Answer a question of a procedure. -/
def reply (surroundings : Surroundings) :
    (question : Question) -> Session -> Except Failure question.Reply × Session
  | .record question, session =>
    session.lookup surroundings.database surroundings.now question
  | .registration clientId, session => session.client surroundings.database clientId
  | .document address, session => (.ok (surroundings.fetch address), session)

/-- Run a decision over records. -/
def runDecision {α : Type} (database : Database) (now : Moment) (decision : Decision α)
    (session : Session) : Transcript Lookup Session α :=
  Inquiry.run (fun question session => session.lookup database now question) decision session

/-- Run a procedure. -/
def run {α : Type} (surroundings : Surroundings) (procedure : Procedure α) (session : Session) :
    Transcript Question Session α :=
  Inquiry.run (fun question session => session.reply surroundings question) procedure session

end Session

end Introspection
