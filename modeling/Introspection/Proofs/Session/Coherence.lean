import Introspection.Proofs.Evaluation
import Introspection.Session

/-!
# What a session remembers

A session remembers rows in order not to query them again, and for nothing else. Whatever it
remembers under a key is what the table answers to the query of the key (`Session.Coherent`), so
a run in a session ends, asks and records as a run over the tables themselves (`visible_run`,
`visible_runDecision`). This is so for tables that fail as well, since a failed query leaves
nothing to remember.
-/

namespace Introspection

variable {α : Type} {database : Database} {now : Moment} {surroundings : Surroundings}

namespace Entries

variable {key value : Type} [DecidableEq key]

/-- What entries hold under their keys is what a table answers. -/
def AgreeWith (entries : Entries key value) (table : key -> Except Failure value) : Prop :=
  ∀ name record, entries.get? name = some record -> table name = .ok record

/-- Entries go on agreeing with a table when an answer of the table is added. -/
theorem AgreeWith.concat {entries : Entries key value} {table : key -> Except Failure value}
    (agree : entries.AgreeWith table) {name : key} {record : value}
    (answered : table name = .ok record) :
    AgreeWith (entries ++ [(name, record)]) table := by
  intro wanted found present
  rw [get?, List.find?_append, Option.map_or] at present
  rcases Option.or_eq_some_iff.mp present with earlier | ⟨_, added⟩
  · exact agree _ _ earlier
  · obtain ⟨rfl, rfl⟩ : name = wanted ∧ record = found := by
      simpa [List.find?_singleton] using added
    exact answered

end Entries

namespace Database

/-- What a table answers to a query, given what is found in it. -/
def answer (database : Database) (store : Store) (found : α) : Except Failure α :=
  match database.failure? store with
  | some failure => .error failure
  | none => .ok found

/-- A table that answers has found what it answers. -/
theorem answer_eq_ok {store : Store} {found value : α}
    (answered : database.answer store found = .ok value) : found = value := by
  unfold answer at answered
  split at answered
  · cases answered
  · exact Except.ok.inj answered

/-- A table answers with what is found in it, unless it fails. -/
theorem answer_eq_ok_iff {store : Store} {found value : α} :
    database.answer store found = .ok value ↔ database.failure? store = none ∧ found = value := by
  unfold answer
  cases database.failure? store with
  | none => simp
  | some failure => simp

theorem answer_eq_error {store : Store} {found : α} {failure : Failure} :
    database.answer store found = .error failure ↔ database.failure? store = some failure := by
  unfold answer
  cases database.failure? store with
  | none => simp
  | some other => simp

/-- How a table fails: its database reports an error, or refuses the connection. -/
theorem failure?_eq_some {store : Store} {failure : Failure} :
    database.failure? store = some failure ↔
      database.outages.get? store = some .database ∧ failure = .unavailable store true ∨
        database.outages.get? store = some .connection ∧ failure = .connectionRefused := by
  unfold failure?
  cases database.outages.get? store with
  | none => simp
  | some outage =>
    cases outage with
    | database => simp [@eq_comm Failure failure]
    | connection => simp [@eq_comm Failure failure]

/-- The answer to a lookup, by a query of a table. -/
def reply (database : Database) (now : Moment) :
    (question : Lookup) -> Except Failure question.Reply
  | .client clientId => do
    (<- database.answer .clients (database.client? clientId)).mapM ClientRow.profile
  | .access value => do
    (<- database.answer .accessTokens (database.accessToken? now value)).mapM
      AccessTokenRow.record
  | .refresh value => do
    (<- database.answer .refreshTokens (database.refreshToken? now (tokenHash value))).mapM
      fun row => row.record value
  | .user username clientId => do
    (<- database.answer .users (database.user? username)).mapM fun row => row.seenBy clientId

/-- No record is told where the table answers and has no row, and nowhere else: a row of which no
record can be made is a failure. -/
theorem answer_mapM_eq_none {row : Type} {store : Store} {found : Option row}
    {make : row -> Except Failure α} :
    (database.answer store found >>= fun found => found.mapM make) = .ok none ↔
      database.failure? store = none ∧ found = none := by
  rw [bind_eq_ok]
  constructor
  · rintro ⟨_, queried, unread⟩
    obtain ⟨answered, rfl⟩ := answer_eq_ok_iff.mp queried
    cases found with
    | none => exact ⟨answered, rfl⟩
    | some row =>
      rw [Option.mapM_some] at unread
      cases made : make row with
      | ok record => rw [made] at unread; cases unread
      | error failure => rw [made] at unread; cases unread
  · rintro ⟨answered, rfl⟩
    exact ⟨none, answer_eq_ok_iff.mpr ⟨answered, rfl⟩, rfl⟩

/-- A record is told where the table answers with a row that it is made of. -/
theorem answer_mapM_eq_some {row : Type} {store : Store} {found : Option row}
    {make : row -> Except Failure α} {record : α} :
    (database.answer store found >>= fun found => found.mapM make) = .ok (some record) ↔
      database.failure? store = none ∧ ∃ read, found = some read ∧ make read = .ok record := by
  rw [bind_eq_ok]
  simp only [answer_eq_ok_iff]
  constructor
  · rintro ⟨_, ⟨answered, rfl⟩, made⟩
    cases found with
    | none => cases made
    | some read =>
      rw [Option.mapM_some] at made
      obtain ⟨other, isRecord, same⟩ := bind_eq_ok.mp made
      cases same
      exact ⟨answered, read, rfl, isRecord⟩
  · rintro ⟨answered, read, rfl, made⟩
    refine ⟨_, ⟨answered, rfl⟩, ?_⟩
    rw [Option.mapM_some, made]
    rfl

theorem reply_access_eq_none {value : String} :
    database.reply now (.access value) = .ok none ↔
      database.failure? .accessTokens = none ∧ database.accessToken? now value = none :=
  answer_mapM_eq_none

theorem reply_refresh_eq_none {value : String} :
    database.reply now (.refresh value) = .ok none ↔
      database.failure? .refreshTokens = none ∧
        database.refreshToken? now (tokenHash value) = none :=
  answer_mapM_eq_none

end Database

/-- The answer to a question of a procedure, by a query of a table or from the network. -/
def Surroundings.reply (surroundings : Surroundings) :
    (question : Question) -> Except Failure question.Reply
  | .record question => surroundings.database.reply surroundings.now question
  | .registration clientId =>
    surroundings.database.answer .clients (surroundings.database.client? clientId)
  | .document address => .ok (surroundings.fetch address)

namespace Procedure

/-- A question is evaluated by its answer. -/
@[simp] theorem eval_ask (question : Question) :
    @Inquiry.eval _ _ (no_index question.Reply) surroundings.reply (ask question) =
      surroundings.reply question :=
  Inquiry.eval_question question

/-- A decision over records is evaluated as part of a procedure by the tables. -/
@[simp] theorem eval_ofDecision (decision : Decision α) :
    (ofDecision decision).eval surroundings.reply =
      decision.eval (surroundings.database.reply surroundings.now) := by
  rw [ofDecision, Inquiry.eval_translate]
  congr 1
  funext question
  simp only [Surroundings.reply]
  cases surroundings.database.reply surroundings.now question with
  | ok record => rfl
  | error failure => rfl

end Procedure

namespace Session

/-- A session remembers rows as their tables answer. -/
structure Coherent (database : Database) (now : Moment) (session : Session) : Prop where
  clients : session.clients.AgreeWith fun clientId =>
    database.answer .clients (database.client? clientId)
  accessTokens : session.accessTokens.AgreeWith fun value =>
    database.answer .accessTokens (database.accessToken? now value)

/-- A session that has read nothing has nothing wrong to remember. -/
theorem empty_coherent : empty.Coherent database now where
  clients _ _ present := by simp [empty, Entries.get?] at present
  accessTokens _ _ present := by simp [empty, Entries.get?] at present

/-- A query is answered by the table, and put on record. -/
theorem query_eq (store : Store) (key : String) (found : α) (session : Session) :
    session.query database store key found = (database.answer store found,
      { session with queries := session.queries ++ [⟨store, key⟩] }) := by
  unfold query Database.answer
  cases database.failure? store with
  | some failure => rfl
  | none => rfl

/-- A record is made of the row that was read, and the session stays as the reading left it. -/
theorem recordOf_eq {row : Type} (make : row -> Except Failure α)
    (read : Except Failure (Option row) × Session) :
    recordOf make read = ((do (<- read.1).mapM make), read.2) := by
  obtain ⟨outcome, session⟩ := read
  cases outcome with
  | error failure => rfl
  | ok found =>
    cases found with
    | none => rfl
    | some found =>
      simp only [recordOf, ok_bind, Option.mapM_some]
      cases make found with
      | ok record => rfl
      | error failure => rfl

namespace Coherent

variable {session : Session}

/-- The registration of a client is read as the table answers. -/
theorem client (coherent : session.Coherent database now) (clientId : String) :
    (session.client database clientId).1 =
        database.answer .clients (database.client? clientId) ∧
      (session.client database clientId).2.Coherent database now := by
  unfold Session.client
  cases remembered : session.clients.get? clientId with
  | some row => exact ⟨(coherent.clients _ _ remembered).symm, coherent⟩
  | none =>
    rw [query_eq]
    cases answered : database.answer .clients (database.client? clientId) with
    | error failure => exact ⟨rfl, coherent.clients, coherent.accessTokens⟩
    | ok row => exact ⟨rfl, coherent.clients.concat answered, coherent.accessTokens⟩

/-- The row of an access token is read as the table answers. -/
theorem accessToken (coherent : session.Coherent database now) (value : String) :
    (session.accessToken database now value).1 =
        database.answer .accessTokens (database.accessToken? now value) ∧
      (session.accessToken database now value).2.Coherent database now := by
  unfold Session.accessToken
  cases remembered : session.accessTokens.get? value with
  | some row => exact ⟨(coherent.accessTokens _ _ remembered).symm, coherent⟩
  | none =>
    rw [query_eq]
    cases answered : database.answer .accessTokens (database.accessToken? now value) with
    | error failure => exact ⟨rfl, coherent.clients, coherent.accessTokens⟩
    | ok row => exact ⟨rfl, coherent.clients, coherent.accessTokens.concat answered⟩

/-- A lookup is answered from the tables. -/
theorem lookup (coherent : session.Coherent database now) (question : Lookup) :
    (session.lookup database now question).1 = database.reply now question ∧
      (session.lookup database now question).2.Coherent database now := by
  cases question with
  | client clientId =>
    obtain ⟨answered, kept⟩ := coherent.client clientId
    simp only [Session.lookup, recordOf_eq, answered, Database.reply]
    exact ⟨trivial, kept⟩
  | access value =>
    obtain ⟨answered, kept⟩ := coherent.accessToken value
    simp only [Session.lookup, recordOf_eq, answered, Database.reply]
    exact ⟨trivial, kept⟩
  | refresh value =>
    simp only [Session.lookup, Session.refreshToken, query_eq, recordOf_eq, Database.reply]
    exact ⟨trivial, coherent.clients, coherent.accessTokens⟩
  | user username clientId =>
    simp only [Session.lookup, Session.user, query_eq, recordOf_eq, Database.reply]
    exact ⟨trivial, coherent.clients, coherent.accessTokens⟩

/-- A question of a procedure is answered from the tables and the network. -/
theorem reply (coherent : session.Coherent surroundings.database surroundings.now)
    (question : Question) :
    (session.reply surroundings question).1 = surroundings.reply question ∧
      (session.reply surroundings question).2.Coherent surroundings.database
        surroundings.now := by
  cases question with
  | record question => exact coherent.lookup question
  | registration clientId => exact coherent.client clientId
  | document address => exact ⟨rfl, coherent⟩

end Coherent

/-- A procedure runs in a session as it does over the tables, and leaves the session coherent. -/
theorem visible_run (procedure : Procedure α) {session : Session}
    (coherent : session.Coherent surroundings.database surroundings.now) :
    (Session.run surroundings procedure session).visible =
        procedure.answered surroundings.reply ∧
      (Session.run surroundings procedure session).state.Coherent surroundings.database
        surroundings.now :=
  Inquiry.visible_run (Coherent surroundings.database surroundings.now)
    (fun question _ holds => holds.reply question) procedure coherent

/-- A decision over records runs in a session as it does over the tables, and leaves the session
coherent. -/
theorem visible_runDecision (decision : Decision α) {session : Session}
    (coherent : session.Coherent database now) :
    (session.runDecision database now decision).visible =
        decision.answered (database.reply now) ∧
      (session.runDecision database now decision).state.Coherent database now :=
  Inquiry.visible_run (Coherent database now) (fun question _ holds => holds.lookup question)
    decision coherent

/-- How a procedure ends in a new session. -/
theorem result_run (procedure : Procedure α) :
    (Session.run surroundings procedure empty).result = procedure.eval surroundings.reply := by
  rw [← Transcript.visible_result, (visible_run procedure empty_coherent).1]
  exact Inquiry.answered_result procedure

/-- What a procedure asks in a new session. -/
theorem asked_run (procedure : Procedure α) :
    (Session.run surroundings procedure empty).asked =
      (procedure.answered surroundings.reply).asked :=
  congrArg Transcript.asked (visible_run procedure empty_coherent).1

/-- How a decision ends in a session in which a procedure was run before. -/
theorem result_runDecision {β : Type} (before : Procedure β) (decision : Decision α) :
    ((Session.run surroundings before empty).state.runDecision surroundings.database
        surroundings.now decision).result =
      decision.eval (surroundings.database.reply surroundings.now) := by
  have coherent : (Session.run surroundings before empty).state.Coherent surroundings.database
      surroundings.now := (visible_run before empty_coherent).2
  rw [← Transcript.visible_result, (visible_runDecision decision coherent).1]
  exact Inquiry.answered_result decision

end Session

end Introspection
