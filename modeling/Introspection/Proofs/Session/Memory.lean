import Introspection.Proofs.Session.Coherence
import Mathlib.Data.List.Induction
import Mathlib.Data.List.TakeWhile

/-!
# What is remembered while everything changes

A session reads the tables of clients and of access tokens through four calls: for a row, and for
the record that is made of it. From one call to the next the rows may have changed, the time may
have passed and the table may have come to fail. What is under a key is read once nevertheless, at
the first call for the key that the table answers (`firstAnswer`): from then on calls for the key
are answered from what was read then, even if it was no row, and nothing is queried for them
(`CallLaw`). A query that fails leaves no trace but that it was made (`CallLaw.failed`).

The step is told in one equation, in which a call is answered from memory or else by the table
(`visit_eq`). The run follows by induction on the calls before (`snapshot_after`).

It is the row that is remembered. A record is made of it at each call for one, and where none can be
made, calls for the record fail each time while the row stays remembered (`unreadRow_remembered`).
-/

namespace Introspection

/-- A place in the memory of a session, under a key of one of the remembered tables. -/
inductive Slot
  | client (clientId : String)
  | token (value : String)
  deriving DecidableEq

namespace Slot

/-- What the table has under its keys. -/
@[reducible] def Row : Slot -> Type
  | .client _ => ClientRow
  | .token _ => AccessTokenRow

/-- What is made of a row. -/
@[reducible] def Record : Slot -> Type
  | .client _ => ClientProfile
  | .token _ => AccessToken

/-- The query of the table by the key. -/
def query : Slot -> Query
  | .client clientId => ⟨.clients, clientId⟩
  | .token value => ⟨.accessTokens, value⟩

/-- What is in the table under the key. -/
def found (database : Database) (now : Moment) : (slot : Slot) -> Option slot.Row
  | .client clientId => database.client? clientId
  | .token value => database.accessToken? now value

/-- Make a record of a row. -/
def make : (slot : Slot) -> slot.Row -> Except Failure slot.Record
  | .client _, row => row.profile
  | .token _, row => row.record

theorem query_injective : Function.Injective query := by
  intro slot other same
  cases slot <;> cases other <;> cases same <;> rfl

end Slot

/-- A call on a session, for what is remembered under a key. -/
inductive Visit
  | row (slot : Slot)
  | record (slot : Slot)

namespace Visit

/-- The key that the call is for. -/
def slot : Visit -> Slot
  | .row slot => slot
  | .record slot => slot

/-- The type of what answers the call. -/
@[reducible] def Reply : Visit -> Type
  | .row slot => Option slot.Row
  | .record slot => Option slot.Record

/-- What answers the call, given what was read under the key. -/
def view : (visit : Visit) -> Option visit.slot.Row -> Except Failure visit.Reply
  | .row _, found => .ok found
  | .record slot, found => found.mapM slot.make

end Visit

/-- A call with the database and the time that it comes to. -/
structure Call where
  database : Database
  now : Moment
  visit : Visit

/-- What the table would answer to a query by a key then. -/
def Call.answer (call : Call) (slot : Slot) : Except Failure (Option slot.Row) :=
  call.database.answer slot.query.store (slot.found call.database call.now)

/-- What the table would answer to the calls for a key, in order. -/
def answersFor (slot : Slot) (calls : List Call) : List (Except Failure (Option slot.Row)) :=
  (calls.filter (·.visit.slot = slot)).map (·.answer slot)

/-- What the table answered at the first of the calls for a key that it did not fail at. -/
def firstAnswer (slot : Slot) (calls : List Call) : Option (Option slot.Row) :=
  (answersFor slot calls).findSome? Except.toOption

/-- How many of the calls for a key the table failed at before it answered one. -/
def failuresBefore (slot : Slot) (calls : List Call) : Nat :=
  ((answersFor slot calls).takeWhile (·.toOption.isNone)).length

section Answers

variable {slot : Slot} {calls : List Call} {call : Call}

theorem answersFor_concat_self (isFor : call.visit.slot = slot) :
    answersFor slot (calls ++ [call]) = answersFor slot calls ++ [call.answer slot] := by
  simp [answersFor, isFor]

/-- Calls for other keys are of no account. -/
theorem answers_concat_of_ne (other : call.visit.slot ≠ slot) :
    firstAnswer slot (calls ++ [call]) = firstAnswer slot calls ∧
      failuresBefore slot (calls ++ [call]) = failuresBefore slot calls := by
  have same : answersFor slot (calls ++ [call]) = answersFor slot calls := by
    simp [answersFor, other]
  rw [firstAnswer, failuresBefore, same]
  exact ⟨rfl, rfl⟩

/-- Once a table has answered, later calls are of no account. -/
theorem answers_concat_of_some (isFor : call.visit.slot = slot) {row : Option slot.Row}
    (answered : firstAnswer slot calls = some row) :
    firstAnswer slot (calls ++ [call]) = some row ∧
      failuresBefore slot (calls ++ [call]) = failuresBefore slot calls := by
  have stops : ((answersFor slot calls).takeWhile (·.toOption.isNone)).length ≠
      (answersFor slot calls).length := by
    intro all
    have failed := (List.takeWhile_prefix _).eq_of_length all
    rw [List.takeWhile_eq_self_iff] at failed
    obtain ⟨answer, member, isRow⟩ := List.exists_of_findSome?_eq_some answered
    simpa [isRow] using failed answer member
  rw [firstAnswer, failuresBefore, answersFor_concat_self isFor, List.findSome?_append,
    List.takeWhile_append, if_neg stops]
  exact ⟨by rw [← firstAnswer, answered, Option.some_or], rfl⟩

/-- Until a table has answered, the next call decides. -/
theorem answers_concat_of_none (isFor : call.visit.slot = slot)
    (unanswered : firstAnswer slot calls = none) :
    firstAnswer slot (calls ++ [call]) = (call.answer slot).toOption ∧
      failuresBefore slot (calls ++ [call]) =
        failuresBefore slot calls + if (call.answer slot).toOption.isNone then 1 else 0 := by
  have failed : (answersFor slot calls).takeWhile (·.toOption.isNone) = answersFor slot calls := by
    rw [List.takeWhile_eq_self_iff]
    intro answer member
    exact Option.isNone_iff_eq_none.mpr (List.findSome?_eq_none_iff.mp unanswered answer member)
  rw [firstAnswer, failuresBefore, failuresBefore, answersFor_concat_self isFor,
    List.findSome?_append, List.takeWhile_append, failed, if_pos rfl, List.length_append]
  refine ⟨?_, congrArg _ ?_⟩
  · rw [← firstAnswer, unanswered, Option.none_or]
    cases call.answer slot <;> rfl
  · cases call.answer slot <;> rfl

end Answers

namespace Session

variable {database : Database} {now : Moment} {session : Session}

/-- Make a call on a session. -/
def visit (database : Database) (now : Moment) :
    (visit : Visit) -> Session -> Except Failure visit.Reply × Session
  | .row (.client clientId), session => session.client database clientId
  | .row (.token value), session => session.accessToken database now value
  | .record (.client clientId), session => session.lookup database now (.client clientId)
  | .record (.token value), session => session.lookup database now (.access value)

/-- What a new session has come to after some calls. -/
def after (calls : List Call) : Session :=
  calls.foldl (fun session call => (session.visit call.database call.now call.visit).2) empty

/-- What a session remembers under a key, if it remembers anything. -/
def remembered (session : Session) : (slot : Slot) -> Option (Option slot.Row)
  | .client clientId => session.clients.get? clientId
  | .token value => session.accessTokens.get? value

/-- The session with another query on record. -/
def querying (session : Session) (query : Query) : Session :=
  { session with queries := session.queries ++ [query] }

/-- The session that remembers what was read under a key as well. -/
def remember (session : Session) : (slot : Slot) -> Option slot.Row -> Session
  | .client clientId, row => { session with clients := session.clients ++ [(clientId, row)] }
  | .token value, row => { session with accessTokens := session.accessTokens ++ [(value, row)] }

@[simp] theorem queries_querying (query : Query) :
    (session.querying query).queries = session.queries ++ [query] := rfl

@[simp] theorem remembered_querying (query : Query) (slot : Slot) :
    (session.querying query).remembered slot = session.remembered slot := by
  cases slot <;> rfl

@[simp] theorem queries_remember (slot : Slot) (row : Option slot.Row) :
    (session.remember slot row).queries = session.queries := by
  cases slot <;> rfl

theorem remembered_remember_self {slot : Slot} (fresh : session.remembered slot = none)
    (row : Option slot.Row) : (session.remember slot row).remembered slot = some row := by
  cases slot with
  | client clientId =>
    simp only [remembered, remember, Entries.get?] at fresh ⊢
    rw [List.find?_append, Option.map_or, fresh]
    simp
  | token value =>
    simp only [remembered, remember, Entries.get?] at fresh ⊢
    rw [List.find?_append, Option.map_or, fresh]
    simp

theorem remembered_remember_of_ne {slot other : Slot} (different : slot ≠ other)
    (row : Option slot.Row) :
    (session.remember slot row).remembered other = session.remembered other := by
  cases slot <;> cases other <;>
    simp_all [remembered, remember, Entries.get?, List.find?_append]

/-- A row is read from what is remembered under its key, or else from the table, which is queried
for it. -/
theorem visit_row (slot : Slot) :
    session.visit database now (.row slot) =
      match session.remembered slot with
      | some row => (.ok row, session)
      | none => match database.answer slot.query.store (slot.found database now) with
        | .ok row => (.ok row, (session.querying slot.query).remember slot row)
        | .error failure => (.error failure, session.querying slot.query) := by
  cases slot with
  | client clientId =>
    simp only [visit, client, remembered, query_eq]
    cases session.clients.get? clientId with
    | some row => rfl
    | none =>
      dsimp only [Slot.query, Slot.found]
      cases database.answer .clients (database.client? clientId) <;> rfl
  | token value =>
    simp only [visit, accessToken, remembered, query_eq]
    cases session.accessTokens.get? value with
    | some row => rfl
    | none =>
      dsimp only [Slot.query, Slot.found]
      cases database.answer .accessTokens (database.accessToken? now value) <;> rfl

/-- A record is made of the row that is read. -/
theorem visit_record (slot : Slot) :
    session.visit database now (.record slot) =
      ((session.visit database now (.row slot)).1 >>= (Visit.record slot).view,
        (session.visit database now (.row slot)).2) := by
  cases slot with
  | client clientId => exact recordOf_eq _ _
  | token value => exact recordOf_eq _ _

/-- A call is answered from what is remembered under its key, or else from the table, which is
queried for it. -/
theorem visit_eq (call : Call) :
    session.visit call.database call.now call.visit =
      match session.remembered call.visit.slot with
      | some row => (call.visit.view row, session)
      | none => match call.answer call.visit.slot with
        | .ok row => (call.visit.view row,
          (session.querying call.visit.slot.query).remember call.visit.slot row)
        | .error failure => (.error failure, session.querying call.visit.slot.query) := by
  obtain ⟨database, now, visit⟩ := call
  cases visit with
  | row slot =>
    rw [visit_row]
    dsimp only [Visit.slot, Call.answer]
    cases session.remembered slot with
    | some row => rfl
    | none => cases database.answer slot.query.store (slot.found database now) <;> rfl
  | record slot =>
    rw [visit_record, visit_row]
    dsimp only [Visit.slot, Call.answer]
    cases session.remembered slot with
    | some row => rfl
    | none => cases database.answer slot.query.store (slot.found database now) <;> rfl

/-- After some calls, a session remembers under a key what the table answered first, and has queried
the table once for each failure before and once for this answer. -/
structure Snapshot (slot : Slot) (calls : List Call) (session : Session) : Prop where
  remembered : session.remembered slot = firstAnswer slot calls
  queries : session.queries.count slot.query =
    failuresBefore slot calls + if (firstAnswer slot calls).isSome then 1 else 0

variable {slot : Slot} {calls : List Call}

/-- A new session has nothing to remember. -/
theorem empty_snapshot (slot : Slot) : empty.Snapshot slot [] where
  remembered := by cases slot <;> rfl
  queries := rfl

/-- A query by one key is none by another. -/
theorem count_querying (session : Session) (slot other : Slot) :
    (session.querying slot.query).queries.count other.query =
      session.queries.count other.query + if slot = other then 1 else 0 := by
  simp [List.count_append, List.count_singleton, Slot.query_injective.eq_iff]

/-- A call for one key leaves what is under another as it is. -/
theorem visit_of_ne {call : Call} (other : call.visit.slot ≠ slot) :
    (session.visit call.database call.now call.visit).2.remembered slot =
        session.remembered slot ∧
      (session.visit call.database call.now call.visit).2.queries.count slot.query =
        session.queries.count slot.query := by
  have counted := session.count_querying call.visit.slot slot
  rw [if_neg other, Nat.add_zero] at counted
  rw [visit_eq]
  cases session.remembered call.visit.slot with
  | some row => exact ⟨rfl, rfl⟩
  | none =>
    cases call.answer call.visit.slot with
    | error failure => exact ⟨remembered_querying .., counted⟩
    | ok row =>
      dsimp only
      rw [remembered_remember_of_ne other, remembered_querying, queries_remember]
      exact ⟨rfl, counted⟩

/-- One more call keeps it so. -/
theorem Snapshot.visit (snapshot : session.Snapshot slot calls) (call : Call) :
    (session.visit call.database call.now call.visit).2.Snapshot slot (calls ++ [call]) := by
  by_cases isFor : call.visit.slot = slot
  · subst isFor
    have isFirst := snapshot.remembered
    have counted := session.count_querying call.visit.slot call.visit.slot
    rw [if_pos rfl, snapshot.queries, ← isFirst] at counted
    rw [visit_eq]
    -- What is held is the first answer, so that without it this call decides.
    cases held : session.remembered call.visit.slot with
    | some row =>
      obtain ⟨first, failures⟩ :=
        answers_concat_of_some (rfl : call.visit.slot = _) (isFirst.symm.trans held)
      refine ⟨held.trans first.symm, ?_⟩
      rw [snapshot.queries, failures, first, ← isFirst, held]
    | none =>
      obtain ⟨first, failures⟩ :=
        answers_concat_of_none (rfl : call.visit.slot = _) (isFirst.symm.trans held)
      rw [held] at counted
      cases answered : call.answer call.visit.slot with
      | error failure =>
        rw [answered] at first failures
        refine ⟨by rw [remembered_querying, held, first]; rfl, ?_⟩
        rw [counted, failures, first]
        rfl
      | ok row =>
        rw [answered] at first failures
        have fresh :
            (session.querying call.visit.slot.query).remembered call.visit.slot = none := by
          rw [remembered_querying, held]
        refine ⟨by rw [remembered_remember_self fresh, first]; rfl, ?_⟩
        rw [queries_remember, counted, failures, first]
        rfl
  · -- The call is for another key, which neither what is held nor what is counted depends on.
    obtain ⟨first, failures⟩ : firstAnswer slot (calls ++ [call]) = firstAnswer slot calls ∧
        failuresBefore slot (calls ++ [call]) = failuresBefore slot calls :=
      answers_concat_of_ne isFor
    constructor
    · rw [(visit_of_ne isFor).1, first, snapshot.remembered]
    · rw [(visit_of_ne isFor).2, first, failures, snapshot.queries]

/-- What a session has come to after some calls, and the next one. -/
theorem after_concat (calls : List Call) (call : Call) :
    after (calls ++ [call]) =
      ((after calls).visit call.database call.now call.visit).2 := by
  simp [after]

/-- Whatever the calls are, it is so for each key. -/
theorem snapshot_after (slot : Slot) (calls : List Call) : (after calls).Snapshot slot calls := by
  induction calls using List.reverseRecOn with
  | nil => exact empty_snapshot slot
  | append_singleton before call kept =>
    rw [after_concat]
    exact kept.visit call

/-- How the call that comes after some others ends. -/
structure CallLaw (before : List Call) (call : Call) : Prop where
  /-- Once the table has answered for the key, it is this answer, and nothing is queried. -/
  answered (row : Option call.visit.slot.Row) : firstAnswer call.visit.slot before = some row ->
    (after before).visit call.database call.now call.visit = (call.visit.view row, after before)
  /-- Until then, it is what the table answers. -/
  first (row : Option call.visit.slot.Row) : firstAnswer call.visit.slot before = none ->
    call.answer call.visit.slot = .ok row ->
      ((after before).visit call.database call.now call.visit).1 = call.visit.view row
  /-- Where the table fails, so does the call. What is remembered stays as it was. -/
  failed (failure : Failure) : firstAnswer call.visit.slot before = none ->
    call.answer call.visit.slot = .error failure ->
      (after before).visit call.database call.now call.visit =
        (.error failure, (after before).querying call.visit.slot.query)
  /-- The failure that the database reports is that the store is unavailable. -/
  reported (failure : Failure) : call.answer call.visit.slot = .error failure ->
    call.database.outages.get? call.visit.slot.query.store = some .database ->
      failure = .unavailable call.visit.slot.query.store true

/-- Calls see one state of what is under a key, whatever becomes of the rows, the time and the
tables between them: after any calls, for any keys, the session remembers what the tables answered
first and has queried them no more often than it took; and the next call, for any row or record,
is answered from this. -/
theorem calls_consistent (before : List Call) (call : Call) :
    (∀ slot, (after before).Snapshot slot before) ∧ CallLaw before call := by
  refine ⟨fun slot => snapshot_after slot before, ?_⟩
  have remembered := (snapshot_after call.visit.slot before).remembered
  constructor
  · intro row isFirst
    rw [visit_eq, remembered, isFirst]
  · intro row unanswered answered
    rw [visit_eq, remembered, unanswered, answered]
  · intro failure unanswered failed
    rw [visit_eq, remembered, unanswered, failed]
  · intro failure failed reports
    obtain ⟨_, rfl⟩ | ⟨refuses, _⟩ :=
      Database.failure?_eq_some.mp (Database.answer_eq_error.mp failed)
    · rfl
    · rw [reports] at refuses
      cases refuses

/-- A call for the profile of a client with a number as its scope. -/
def unreadProfile : Call where
  database :=
    { clients := [⟨"shop", .null, .null, .null, .null, .null, .null, .int 7, .null⟩]
      accessTokens := []
      refreshTokens := []
      users := []
      outages := [] }
  now := ⟨0, some 0⟩
  visit := .record (.client "shop")

/-- The call fails, though no store is unavailable. Its row is remembered, and so the next call
fails without a query. -/
theorem unreadRow_remembered :
    let visit (before : List Call) :=
      (after before).visit unreadProfile.database unreadProfile.now (.record (.client "shop"))
    (visit []).1 = .error .wrongType ∧
      (∀ store fromDatabase, (visit []).1 ≠ .error (.unavailable store fromDatabase)) ∧
        ((visit []).2.remembered (.client "shop")).isSome ∧
          (visit [unreadProfile]).1 = .error .wrongType ∧
            (visit [unreadProfile]).2.queries = [⟨.clients, "shop"⟩] := by
  intro visit
  have fails : (visit []).1 = .error .wrongType := rfl
  refine ⟨fails, fun store fromDatabase => ?_, rfl, rfl, rfl⟩
  rw [fails]
  exact nofun

end Session

end Introspection
