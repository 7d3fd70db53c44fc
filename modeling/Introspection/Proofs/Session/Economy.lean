import Introspection.Proofs.Credential.Identity
import Introspection.Proofs.Database.Breakdown
import Introspection.Proofs.Decision.Steps
import Introspection.Proofs.Http.Propagation

/-!
# What a request costs the database

A question is answered from what the session remembers, or else by one query. Which queries go to
the database can therefore be read off the questions of a procedure: they are the queries that the
questions come down to, less those of a remembered store that were made before (`Query.issued`,
`queries_run`). This holds for a row that is missing as for one that is there; a query that fails
ends the procedure, and so is not made again either.

A request for introspection comes down to six queries at most: the bearer credential among the
access tokens, the client that the credential names, this client once more for its profile, the
token of the form among the access tokens and among the refresh tokens, and the user that the token
was issued for (`introspect_takes`). Only the remembered stores come twice among them, and so no
query is made twice (`serve_queries_once`).
-/

namespace Introspection

/-- The stores whose rows a session remembers. -/
def Store.isRemembered : Store -> Bool
  | .clients => true
  | .accessTokens => true
  | _ => false

/-- The queries that are made when some are wanted one after the other: those of remembered stores
only where they have not been made before. -/
def Query.issued : (earlier wanted : List Query) -> List Query
  | _, [] => []
  | earlier, query :: rest =>
    if query.store.isRemembered ∧ query ∈ earlier then issued earlier rest
    else query :: issued (earlier ++ [query]) rest

namespace Query

variable {earlier wanted : List Query} {query : Query}

/-- Queries that are made are wanted, in the same order. -/
theorem issued_sublist : (issued earlier wanted).Sublist wanted := by
  induction wanted generalizing earlier with
  | nil => exact .slnil
  | cons query rest ih =>
    unfold issued
    split
    · exact ih.cons query
    · exact ih.cons_cons query

/-- Queries of remembered stores are not made where they have been made before. -/
theorem not_mem_of_mem_issued (made : query ∈ issued earlier wanted)
    (remembered : query.store.isRemembered) : query ∉ earlier := by
  induction wanted generalizing earlier with
  | nil => simp [issued] at made
  | cons first rest ih =>
    unfold issued at made
    split at made
    · exact ih made
    · next fresh =>
      rcases List.mem_cons.mp made with rfl | later
      · exact fun before => fresh ⟨remembered, before⟩
      · exact fun before => ih later (List.mem_append_left _ before)

/-- No query is made twice when those of the stores that are not remembered are wanted once. -/
theorem nodup_issued (once : (wanted.filter fun query => !query.store.isRemembered).Nodup) :
    (issued earlier wanted).Nodup := by
  induction wanted generalizing earlier with
  | nil => exact .nil
  | cons query rest ih =>
    have onceLater := once.sublist ((List.sublist_cons_self query rest).filter _)
    unfold issued
    split
    · exact ih onceLater
    · refine List.nodup_cons.mpr ⟨fun again => ?_, ih onceLater⟩
      by_cases remembered : query.store.isRemembered
      · exact not_mem_of_mem_issued again remembered (List.mem_append_right _ (by simp))
      · have isOther : (!query.store.isRemembered) = true := by simpa using remembered
        rw [List.filter_cons, if_pos isOther] at once
        exact (List.nodup_cons.mp once).1
          (List.mem_filter.mpr ⟨issued_sublist.subset again, isOther⟩)

/-- Queries that are wanted in two parts are made in two parts. -/
theorem issued_append {first second : List Query} :
    issued earlier (first ++ second) =
      issued earlier first ++ issued (earlier ++ issued earlier first) second := by
  induction first generalizing earlier with
  | nil => simp [issued]
  | cons query rest ih =>
    simp only [List.cons_append, issued]
    split
    · exact ih
    · rw [ih]
      simp

end Query

/-- The query that a record is looked up by. -/
def Lookup.query : Lookup -> Query
  | .client clientId => ⟨.clients, clientId⟩
  | .access value => ⟨.accessTokens, value⟩
  | .refresh value => ⟨.refreshTokens, tokenHash value⟩
  | .user username _ => ⟨.users, username⟩

/-- The queries that a question comes down to: one, or none when it is about a document. -/
def Question.queries : Question -> List Query
  | .record lookup => [lookup.query]
  | .registration clientId => [⟨.clients, clientId⟩]
  | .document _ => []

variable {α β : Type} {database : Database} {now : Moment} {surroundings : Surroundings}

/-- What has a record after an entry was added. -/
theorem Entries.isSome_get?_concat {value : Type} (entries : Entries String value) (name : String)
    (record : value) (key : String) :
    (Entries.get? (entries ++ [(name, record)]) key).isSome ↔
      (entries.get? key).isSome ∨ key = name := by
  simp [Entries.get?, List.find?_append, List.find?_singleton, @eq_comm _ name]

namespace Session

/-- Of each remembered store, a session remembers the keys that were queried. -/
structure Accounted (session : Session) : Prop where
  clients : ∀ key, (session.clients.get? key).isSome ↔ ⟨.clients, key⟩ ∈ session.queries
  accessTokens : ∀ key,
    (session.accessTokens.get? key).isSome ↔ ⟨.accessTokens, key⟩ ∈ session.queries

theorem empty_accounted : empty.Accounted where
  clients key := by simp [empty, Entries.get?]
  accessTokens key := by simp [empty, Entries.get?]

/-- A step of a session makes those of the wanted queries that have to be made, and if it has an
answer, leaves the session to go on with. -/
structure Makes (wanted : List Query) (session : Session)
    (step : Except Failure α × Session) : Prop where
  queries : step.2.queries = session.queries ++ Query.issued session.queries wanted
  accounted : ∀ value, step.1 = .ok value -> step.2.Accounted

namespace Accounted

variable {session : Session}

/-- The registration of a client costs one query, unless it is remembered. -/
theorem client (accounted : session.Accounted) (clientId : String) :
    Makes [⟨.clients, clientId⟩] session (session.client database clientId) := by
  unfold Session.client
  cases remembered : session.clients.get? clientId with
  | some row =>
    have before := (accounted.clients clientId).mp (by simp [remembered])
    exact ⟨by simp [Query.issued, Store.isRemembered, before], fun _ _ => accounted⟩
  | none =>
    have fresh : (⟨.clients, clientId⟩ : Query) ∉ session.queries := fun before => by
      simpa [remembered] using (accounted.clients clientId).mpr before
    rw [query_eq]
    cases database.answer .clients (database.client? clientId) with
    | error failure => exact ⟨by simp [Query.issued, fresh], fun _ answered => by cases answered⟩
    | ok row =>
      refine ⟨by simp [Query.issued, fresh], fun _ _ => ⟨fun key => ?_, fun key => ?_⟩⟩
      · rw [Entries.isSome_get?_concat, accounted.clients]
        simp
      · simpa using accounted.accessTokens key

/-- The row of an access token costs one query, unless it is remembered. -/
theorem accessToken (accounted : session.Accounted) (value : String) :
    Makes [⟨.accessTokens, value⟩] session (session.accessToken database now value) := by
  unfold Session.accessToken
  cases remembered : session.accessTokens.get? value with
  | some row =>
    have before := (accounted.accessTokens value).mp (by simp [remembered])
    exact ⟨by simp [Query.issued, Store.isRemembered, before], fun _ _ => accounted⟩
  | none =>
    have fresh : (⟨.accessTokens, value⟩ : Query) ∉ session.queries := fun before => by
      simpa [remembered] using (accounted.accessTokens value).mpr before
    rw [query_eq]
    cases database.answer .accessTokens (database.accessToken? now value) with
    | error failure => exact ⟨by simp [Query.issued, fresh], fun _ answered => by cases answered⟩
    | ok row =>
      refine ⟨by simp [Query.issued, fresh], fun _ _ => ⟨fun key => ?_, fun key => ?_⟩⟩
      · simpa using accounted.clients key
      · rw [Entries.isSome_get?_concat, accounted.accessTokens]
        simp

/-- A query of another store is made each time. -/
theorem query (accounted : session.Accounted) {store : Store}
    (notRemembered : store.isRemembered = false) (key : String) (found : α) :
    Makes [⟨store, key⟩] session (session.query database store key found) := by
  rw [query_eq]
  refine ⟨by simp [Query.issued, notRemembered], fun _ _ => ⟨fun other => ?_, fun other => ?_⟩⟩
  · rw [accounted.clients]
    cases store <;> simp_all [Store.isRemembered]
  · rw [accounted.accessTokens]
    cases store <;> simp_all [Store.isRemembered]

end Accounted

/-- Making a record of a row costs nothing. -/
theorem Makes.recordOf {row : Type} {wanted : List Query} {session : Session}
    {read : Except Failure (Option row) × Session} (made : Makes wanted session read)
    (make : row -> Except Failure α) : Makes wanted session (Session.recordOf make read) := by
  rw [recordOf_eq]
  refine ⟨made.queries, fun _ recorded => ?_⟩
  obtain ⟨_, answered, _⟩ := bind_eq_ok.mp recorded
  exact made.accounted _ answered

/-- A question makes the query that it comes down to, where it has to be made. -/
theorem Accounted.reply {session : Session} (accounted : session.Accounted) (question : Question) :
    Makes question.queries session (session.reply surroundings question) := by
  cases question with
  | document address =>
    exact ⟨by simp [Session.reply, Question.queries, Query.issued], fun _ _ => accounted⟩
  | registration clientId => exact accounted.client clientId
  | record question =>
    cases question with
    | client clientId => exact (accounted.client clientId).recordOf _
    | access value => exact (accounted.accessToken value).recordOf _
    | refresh value => exact (accounted.query rfl (tokenHash value) _).recordOf _
    | user username clientId => exact (accounted.query rfl username _).recordOf _

/-- The queries of a run are those that its questions come down to, less those of remembered stores
that were made before. A query that fails is not remembered, and so this is about procedures that
end with it. -/
theorem queries_run {procedure : Procedure α} (meets : procedure.MeetsRefusals) {session : Session}
    (accounted : session.Accounted)
    (coherent : session.Coherent surroundings.database surroundings.now) :
    let transcript := Session.run surroundings procedure session
    transcript.state.queries = session.queries ++
      Query.issued session.queries (transcript.asked.flatMap Question.queries) := by
  induction meets generalizing session with
  | done value => simp [Session.run, Inquiry.run, Query.issued]
  | fail failure => simp [Session.run, Inquiry.run, Query.issued]
  | note event _ ih => exact ih accounted coherent
  | @ask question rest passedOn _ ih =>
    have made : Makes question.queries session (session.reply surroundings question) :=
      accounted.reply question
    obtain ⟨answer, kept⟩ := coherent.reply question
    simp only [Session.run, Inquiry.run] at ih ⊢
    cases answered : session.reply surroundings question with
    | mk outcome after =>
      rw [answered] at made answer kept
      have recorded : after.queries =
        session.queries ++ Query.issued session.queries question.queries := made.queries
      cases outcome with
      | error failure =>
        dsimp only
        rw [passedOn failure (surroundings.reply_isA answer.symm)]
        simpa [Inquiry.run] using recorded
      | ok value =>
        simp only [ih _ (made.accounted value rfl) kept, recorded, List.flatMap_cons,
          Query.issued_append, List.append_assoc]

/-- A question that comes down to a query of a failing store cannot be answered. -/
theorem reply_eq_error {question : Question} {query : Query} {failure : Failure}
    (takes : query ∈ question.queries)
    (failed : surroundings.database.failure? query.store = some failure) :
    surroundings.reply question = .error failure := by
  have unanswered {α : Type} (found : α) :
      surroundings.database.answer query.store found = .error failure :=
    Database.answer_eq_error.mpr failed
  cases question with
  | document address => cases takes
  | registration clientId =>
    obtain rfl := List.mem_singleton.mp takes
    exact unanswered _
  | record lookup =>
    obtain rfl := List.mem_singleton.mp takes
    cases lookup with
    | client clientId => exact bind_eq_error.mpr (.inl (unanswered _))
    | access value => exact bind_eq_error.mpr (.inl (unanswered _))
    | refresh value => exact bind_eq_error.mpr (.inl (unanswered _))
    | user username clientId => exact bind_eq_error.mpr (.inl (unanswered _))

/-- A query of a failing store ends the procedure with the failure. -/
theorem result_eq_error_of_query {procedure : Procedure α} (meets : procedure.MeetsRefusals)
    {query : Query} {failure : Failure}
    (made : query ∈ (Session.run surroundings procedure .empty).state.queries)
    (failed : surroundings.database.failure? query.store = some failure) :
    (Session.run surroundings procedure .empty).result = .error failure := by
  rw [queries_run meets empty_accounted empty_coherent] at made
  obtain ⟨question, asked, takes⟩ := List.mem_flatMap.mp (Query.issued_sublist.subset made)
  rw [asked_run] at asked
  rw [result_run]
  have unanswered := reply_eq_error takes failed
  exact Inquiry.eval_eq_error_of_asked meets asked unanswered (surroundings.reply_isA unanswered)

end Session

namespace Inquiry

variable {Question : Type} {Reply : Question -> Type}

/-- A decision whose questions have fixed answers takes no more than some queries, in their order.
Which queries a question comes down to is given. -/
def TakesAtMost (queries : Question -> List Query)
    (reply : (question : Question) -> Except Failure (Reply question))
    (inquiry : Inquiry Question Reply α) (bound : List Query) : Prop :=
  ((inquiry.answered reply).asked.flatMap queries).Sublist bound

namespace TakesAtMost

variable {queries : Question -> List Query}
  {reply : (question : Question) -> Except Failure (Reply question)}

theorem pure {value : α} {bound : List Query} :
    TakesAtMost queries reply (Pure.pure value) bound :=
  List.nil_sublist bound

theorem fail {failure : Failure} {bound : List Query} :
    TakesAtMost queries reply (.fail failure : Inquiry Question Reply α) bound :=
  List.nil_sublist bound

theorem record {event : Event} {bound : List Query} :
    TakesAtMost queries reply (.record event : Inquiry Question Reply Unit) bound :=
  List.nil_sublist bound

theorem ofExcept {computed : Except Failure α} {bound : List Query} :
    TakesAtMost queries reply (.ofExcept computed) bound := by
  simp [TakesAtMost]

theorem question {asked : Question} :
    TakesAtMost queries reply (.question asked) (queries asked) := by
  simp [TakesAtMost]

variable {inquiry : Inquiry Question Reply α} {next : α -> Inquiry Question Reply β}
  {first second : List Query}

theorem orRefused (takes : inquiry.TakesAtMost queries reply first) :
    inquiry.orRefused.TakesAtMost queries reply first := by
  simpa only [TakesAtMost, asked_orRefused] using takes

/-- A question that is asked comes down to queries that are taken. -/
theorem mem_bound (takes : inquiry.TakesAtMost queries reply first) {question : Question}
    (asked : question ∈ (inquiry.answered reply).asked) {query : Query}
    (comesDown : query ∈ queries question) : query ∈ first :=
  takes.subset (List.mem_flatMap.mpr ⟨question, asked, comesDown⟩)

/-- One decision after another takes what the two take. -/
theorem bind (begins : inquiry.TakesAtMost queries reply first)
    (goesOn : ∀ value, inquiry.eval reply = .ok value ->
      (next value).TakesAtMost queries reply second) :
    (inquiry >>= next).TakesAtMost queries reply (first ++ second) := by
  rw [TakesAtMost, asked_bind, List.flatMap_append]
  refine begins.append ?_
  cases result : inquiry.eval reply with
  | ok value => exact goesOn value result
  | error failure => exact List.nil_sublist second

/-- One decision after another takes what the first one takes, and the second one on the result of
the first. -/
theorem bind_of_eval {value : α} (begins : inquiry.TakesAtMost queries reply first)
    (result : inquiry.eval reply = .ok value)
    (goesOn : (next value).TakesAtMost queries reply second) :
    (inquiry >>= next).TakesAtMost queries reply (first ++ second) := by
  refine begins.bind fun other found => ?_
  obtain rfl : value = other := by simpa [result] using found
  exact goesOn

/-- A decision that goes on without queries takes what it begins with. -/
theorem bind_left (begins : inquiry.TakesAtMost queries reply first)
    (goesOn : ∀ value, (next value).TakesAtMost queries reply []) :
    (inquiry >>= next).TakesAtMost queries reply first := by
  simpa using begins.bind fun value _ => goesOn value

/-- A decision that begins without queries takes what it goes on with. -/
theorem bind_right (begins : inquiry.TakesAtMost queries reply [])
    (goesOn : ∀ value, inquiry.eval reply = .ok value ->
      (next value).TakesAtMost queries reply second) :
    (inquiry >>= next).TakesAtMost queries reply second := by
  simpa using begins.bind goesOn

end TakesAtMost

end Inquiry

namespace Decision

variable {reply : (question : Lookup) -> Except Failure question.Reply}

/-- A decision over records takes no more than some queries. -/
abbrev TakesAtMost (reply : (question : Lookup) -> Except Failure question.Reply)
    (decision : Decision α) (bound : List Query) : Prop :=
  Inquiry.TakesAtMost (fun question => [question.query]) reply decision bound

/-- Looking for a delegated requester takes the access token that the credential may be. -/
theorem delegatedRequester_takes (credential : String) :
    TakesAtMost reply (delegatedRequester credential) [⟨.accessTokens, credential⟩] := by
  refine .bind_left .question fun found => ?_
  cases found with
  | none => exact .pure
  | some token => exact .bind_right .record fun _ _ => .pure

/-- Authentication takes the registration of the requester. -/
theorem authenticate_takes (scope : Json) (requester : Requester) :
    TakesAtMost reply (authenticate scope requester) [⟨.clients, requester.clientId⟩] := by
  cases requester with
  | delegated clientId granted =>
    refine .bind_right .ofExcept fun held _ => ?_
    cases held with
    | false => exact .bind_right .record fun _ _ => .fail
    | true =>
      refine .bind_left .question fun found => ?_
      cases found with
      | none => exact .bind_right .record fun _ _ => .fail
      | some profile => exact .pure
  | direct clientId authorities =>
    refine .bind_left .question fun found => ?_
    cases found with
    | none => exact .bind_right .record fun _ _ => .fail
    | some profile =>
      dsimp only
      split
      · exact .pure
      · exact .bind_right .record fun _ _ => .fail

/-- Finding a token takes one query of each kind of tokens. -/
theorem findToken_takes (value : String) (hint : Json) :
    TakesAtMost reply (findToken value hint)
      [⟨.accessTokens, value⟩, ⟨.refreshTokens, tokenHash value⟩] := by
  refine .bind .question fun found _ => ?_
  cases found with
  | some token => exact .pure
  | none =>
    refine .bind_right .record fun _ _ => .bind_left .question fun found => ?_
    cases found with
    | some token => exact .pure
    | none => exact .bind_right .record fun _ _ => .pure

/-- Finding a token with its user takes the user besides. -/
theorem resolve_takes (reply : (question : Lookup) -> Except Failure question.Reply)
    (value : String) (hint : Json) :
    ∃ username, TakesAtMost reply (resolve value hint)
      [⟨.accessTokens, value⟩, ⟨.refreshTokens, tokenHash value⟩, ⟨.users, username⟩] := by
  obtain ⟨username, isUser⟩ : ∃ username, ∀ token : SubjectToken,
      (findToken value hint).eval reply = .ok (some token) ->
        token.grant.principal.getD "" = username := by
    cases (findToken value hint).eval reply with
    | error failure => exact ⟨"", by simp⟩
    | ok found =>
      cases found with
      | none => exact ⟨"", by simp⟩
      | some token => exact ⟨token.grant.principal.getD "", by simp⟩
  refine ⟨username, .bind (findToken_takes value hint) fun found result => ?_⟩
  cases found with
  | none => exact .pure
  | some token =>
    have isUser := isUser token result
    refine .bind_left ?_ fun user => .pure
    rw [findUser]
    split
    · exact .pure
    · next principal named =>
      obtain rfl : principal = username := by simpa [named] using isUser
      split
      · exact .pure
      · exact .question

/-- Finding out which token a requester may see takes the profile of the requester and what finding
the token takes. -/
theorem visibleToken_takes (reply : (question : Lookup) -> Except Failure question.Reply)
    (policy : Policy) (value : String) (hint : Json) (requester : Requester) :
    ∃ username, TakesAtMost reply (visibleToken policy value hint requester)
      [⟨.clients, requester.clientId⟩, ⟨.accessTokens, value⟩, ⟨.refreshTokens, tokenHash value⟩,
        ⟨.users, username⟩] := by
  obtain ⟨username, resolving⟩ := resolve_takes reply value hint
  refine ⟨username, .bind (authenticate_takes policy.protectionScope requester) fun profile _ =>
    .bind_left resolving fun found => ?_⟩
  cases found with
  | none => exact .pure
  | some resolved =>
    refine .bind_right .ofExcept fun permitted _ => ?_
    cases permitted with
    | false => exact .fail
    | true => exact .pure

/-- Deciding about a token takes no more. -/
theorem introspect_takes (reply : (question : Lookup) -> Except Failure question.Reply)
    (policy : Policy) (token : Option String) (hint : Json) (requester : Requester) :
    ∃ value username, TakesAtMost reply (introspect policy token hint requester)
      [⟨.clients, requester.clientId⟩, ⟨.accessTokens, value⟩,
        ⟨.refreshTokens, tokenHash value⟩, ⟨.users, username⟩] := by
  obtain ⟨username, seeing⟩ := visibleToken_takes reply policy (token.getD "") hint requester
  refine ⟨token.getD "", username, ?_⟩
  simp only [introspect]
  split
  · exact .bind_right .record fun _ _ => .pure
  · refine .bind_left (.orRefused seeing) fun met => ?_
    rcases met with refusal | _ | resolved
    · exact .bind_right .record fun _ _ => .pure
    · exact .pure
    · exact .bind_right .ofExcept fun answer _ => .bind_right .record fun _ _ => .pure

end Decision

namespace Procedure

/-- A procedure takes no more than some queries. -/
abbrev TakesAtMost (surroundings : Surroundings) (procedure : Procedure α) (bound : List Query) :
    Prop :=
  Inquiry.TakesAtMost Question.queries surroundings.reply procedure bound

/-- A decision over records takes as part of a procedure what it takes over the tables. -/
theorem TakesAtMost.ofDecision {decision : Decision α} {bound : List Query}
    (takes : decision.TakesAtMost (surroundings.database.reply surroundings.now) bound) :
    TakesAtMost surroundings (ofDecision decision) bound := by
  unfold Decision.TakesAtMost Inquiry.TakesAtMost at takes
  unfold TakesAtMost Inquiry.TakesAtMost
  have same : ((Procedure.ofDecision decision).answered surroundings.reply).asked =
      (decision.answered (surroundings.database.reply surroundings.now)).asked.map
        Question.record := by
    unfold Procedure.ofDecision Inquiry.answered
    clear takes
    induction decision with
    | done value => rfl
    | fail failure => rfl
    | note event rest ih => exact ih
    | ask question rest ih =>
      have answer : (surroundings.reply (.record question)).map (fun reply => reply) =
          surroundings.database.reply surroundings.now question := congrFun Except.map_id _
      simp only [Inquiry.translate, Inquiry.run, answer]
      simpa using ih _
  rw [same]
  simpa [List.flatMap_map, Question.queries] using takes

/-- A procedure that takes some queries at most, and of these more than once only queries of
remembered stores, makes no query twice. -/
theorem TakesAtMost.nodup_queries {procedure : Procedure α} {bound : List Query}
    (meets : procedure.MeetsRefusals) (takes : TakesAtMost surroundings procedure bound)
    (once : (bound.filter fun query => !query.store.isRemembered).Nodup) :
    let queries := (Session.run surroundings procedure .empty).state.queries
    queries.Nodup ∧ queries.Sublist bound := by
  have made : (Session.run surroundings procedure .empty).state.queries =
      Query.issued [] ((procedure.answered surroundings.reply).asked.flatMap Question.queries) := by
    rw [Session.queries_run meets Session.empty_accounted Session.empty_coherent, Session.asked_run]
    rfl
  simp only [made]
  exact ⟨Query.nodup_issued (once.sublist (takes.filter _)), Query.issued_sublist.trans takes⟩

end Procedure

namespace Credential

open Procedure

variable {occasion : Occasion}

/-- Fetching a document takes no query. -/
theorem fetch_takes (depth : Nat) (address : Web.Address) :
    TakesAtMost surroundings (fetch depth address) [] := by
  unfold fetch
  split
  · exact .pure
  · refine .bind_left .question fun reply => ?_
    split
    · exact .ofExcept
    · exact .pure

/-- Finding a key set takes no query. -/
theorem keySet_takes (depth : Nat) (client : ClientRow) :
    TakesAtMost surroundings (keySet depth client) [] := by
  unfold keySet
  split
  · exact .pure
  · split
    · exact .pure
    · split
      · split
        · exact .fail
        · next address _ =>
          refine .bind_left (fetch_takes depth address) fun document => ?_
          cases document with
          | some value => exact .pure
          | none => exact .bind_right .record fun _ _ => .pure
      · exact .fail

/-- Checking a credential takes no query. -/
theorem check_takes (client : ClientRow) (isBearer : Bool) (value : String) :
    TakesAtMost surroundings (check occasion client isBearer value) [] := by
  unfold check
  split
  · exact .fail
  · exact .pure
  · next method _ =>
    split
    · exact .pure
    · cases method with
      | privateKey =>
        exact .bind_left (keySet_takes _ client) fun keySet => .bind_left .ofExcept fun _ => .pure
      | sharedBearer => exact .bind_left .ofExcept fun _ => .pure
      | secretBasic => exact .ofExcept

/-- Finding out a direct requester takes the registration of the client. -/
theorem direct_takes (clientId : String) (isBearer : Bool) (value : String) :
    TakesAtMost surroundings (direct occasion clientId isBearer value)
      [⟨.clients, clientId⟩] := by
  refine .bind_left .question fun registration => ?_
  cases registration with
  | none => exact .pure
  | some client =>
    refine .bind_left (check_takes client isBearer value) fun checked => ?_
    cases checked with
    | error denial => exact .pure
    | ok _ => exact .pure

/-- Authentication takes the access token that the credential may be, and the registration of the
client that the credential names. Who is authenticated is this client. -/
theorem authenticate_takes (surroundings : Surroundings) (occasion : Occasion)
    (credentials : Credentials) :
    ∃ bearer clientId,
      TakesAtMost surroundings (authenticate occasion credentials)
        [⟨.accessTokens, bearer⟩, ⟨.clients, clientId⟩] ∧
      ∀ requester, (authenticate occasion credentials).eval surroundings.reply =
        .ok (.ok requester) -> requester.clientId = clientId := by
  have direct (isBearer : Bool) (value clientId : String) (requester : Requester)
      (authenticated : (direct occasion clientId isBearer value).eval surroundings.reply =
        .ok (.ok requester)) : requester.clientId = clientId := by
    obtain ⟨_, _, _, rfl, _⟩ := isRight_of_direct authenticated
    rfl
  unfold authenticate
  split
  · next value _ =>
    have looking : TakesAtMost surroundings (ofDecision (Decision.delegatedRequester value)) _ :=
      .ofDecision (Decision.delegatedRequester_takes value)
    rw [Inquiry.eval_bind]
    cases found : (ofDecision (Decision.delegatedRequester value)).eval surroundings.reply with
    | error failure =>
      refine ⟨value, "", looking.bind fun other result => ?_, fun requester result => ?_⟩
      · rw [found] at result
        cases result
      · cases result
    | ok delegated =>
      cases delegated with
      | some requester =>
        refine ⟨value, requester.clientId, looking.bind_of_eval found .pure, ?_⟩
        rintro _ ⟨⟩
        rfl
      | none =>
        cases ofFault .invalidAssertion (Assertion.unverifiedClaims occasion.depth value) with
        | error failure =>
          exact ⟨value, "", looking.bind_of_eval found .fail, fun _ result => by cases result⟩
        | ok outcome =>
          simp only [Inquiry.ofExcept_ok_bind]
          cases outcome with
          | error denial =>
            exact ⟨value, "", looking.bind_of_eval found .pure, fun _ result => by cases result⟩
          | ok claims =>
            -- Which client the unchecked claims name makes no difference to what follows.
            generalize named : (if (claim claims "iss").isVoid = true then claim claims "sub"
              else claim claims "iss") = issuer
            simp only [named]
            split
            · exact ⟨value, "", looking.bind_of_eval found .pure, fun _ result => by cases result⟩
            · exact ⟨value, issuer.display,
                looking.bind_of_eval found (direct_takes issuer.display true value),
                direct true value issuer.display⟩
  · split
    · exact ⟨"", "", .pure, fun _ result => by cases result⟩
    · next clientId secret _ =>
      split
      · exact ⟨"", "", .pure, fun _ result => by cases result⟩
      · exact ⟨"", clientId, (direct_takes clientId false secret).trans (by simp),
          direct false secret clientId⟩

end Credential

namespace Http

open Procedure

/-- What a request for introspection takes: the bearer credential among the access tokens, the
client that the credential names, this client once more for its profile, the token that is asked
about, and its user. -/
theorem introspect_takes (surroundings : Surroundings) (configuration : Configuration)
    (now : Int) (depth : Nat) (request : Request) :
    ∃ bearer clientId value username,
      TakesAtMost surroundings (introspect configuration now depth request)
        [⟨.accessTokens, bearer⟩, ⟨.clients, clientId⟩, ⟨.clients, clientId⟩,
          ⟨.accessTokens, value⟩, ⟨.refreshTokens, tokenHash value⟩, ⟨.users, username⟩] := by
  simp only [introspect]
  split
  · exact ⟨"", "", "", "", .pure⟩
  · next credentials _ =>
    obtain ⟨bearer, clientId, takes, isClient⟩ := Credential.authenticate_takes surroundings
      ⟨request.address, now, configuration.leeway, depth⟩ credentials
    cases result : (Credential.authenticate ⟨request.address, now, configuration.leeway, depth⟩
      credentials).eval surroundings.reply with
    | error failure =>
      refine ⟨bearer, clientId, "", "", takes.bind fun outcome other => ?_⟩
      rw [result] at other
      cases other
    | ok outcome =>
      cases outcome with
      | error denial => exact ⟨bearer, clientId, "", "", takes.bind_of_eval result .pure⟩
      | ok requester =>
        obtain rfl : requester.clientId = clientId := isClient requester result
        cases laidDown : configuration.policy with
        | error failure =>
          exact ⟨bearer, requester.clientId, "", "", takes.bind_of_eval result .fail⟩
        | ok policy =>
          obtain ⟨value, username, deciding⟩ := Decision.introspect_takes
            (surroundings.database.reply surroundings.now) policy
            (Form.value? (Form.read request) "token")
            (.ofString? (Form.value? (Form.read request) "token_type_hint")) requester
          refine ⟨bearer, requester.clientId, value, username, takes.bind_of_eval result ?_⟩
          refine .bind_right .ofExcept fun other known => ?_
          obtain rfl : policy = other := by simpa [laidDown] using known
          exact .bind_left (TakesAtMost.ofDecision deciding) fun outcome => .pure

/-- Introspection queries what its procedure does. -/
theorem queries_serveIntrospection (surroundings : Surroundings) (configuration : Configuration)
    (identifier : String) (request : Request) :
    (serveIntrospection surroundings configuration identifier request).queries =
      (Session.run surroundings
        (introspect configuration surroundings.now.wholeSeconds surroundings.depth request)
          .empty).state.queries := by
  unfold serveIntrospection
  generalize Session.run surroundings _ .empty = transcript
  obtain ⟨result, asked, events, state⟩ := transcript
  cases result with
  | ok verdict => rfl
  | error failure =>
    cases failure with
    | _ => rfl

/-- A request queries what its introspection does, or nothing where it is not for introspection. -/
theorem queries_serve (surroundings : Surroundings) (configuration : Configuration)
    (fresh : String) (request : Request) :
    let transcript := Session.run surroundings
      (introspect configuration surroundings.now.wholeSeconds surroundings.depth request) .empty
    (serve surroundings configuration fresh request).queries = [] ∨
      (serve surroundings configuration fresh request).queries = transcript.state.queries := by
  unfold serve
  dsimp only
  split
  · exact .inl rfl
  · split
    · exact .inr (queries_serveIntrospection surroundings configuration _ request)
    · exact .inl rfl
    · exact .inl rfl

/-- No request queries a store twice for the same key, be the key there or not, and whatever
fails. So a request makes at most one query each of the clients, the refresh tokens and the users,
and at most two of the access tokens. -/
theorem serve_queries_once (surroundings : Surroundings) (configuration : Configuration)
    (fresh : String) (request : Request) :
    let queries := (serve surroundings configuration fresh request).queries
    queries.Nodup ∧
      queries.countP (·.store = .clients) ≤ 1 ∧
      queries.countP (·.store = .refreshTokens) ≤ 1 ∧
      queries.countP (·.store = .users) ≤ 1 ∧
      queries.countP (·.store = .accessTokens) ≤ 2 := by
  rcases queries_serve surroundings configuration fresh request with none | same
  · simp [none]
  · obtain ⟨bearer, clientId, value, username, takes⟩ := introspect_takes surroundings
      configuration surroundings.now.wholeSeconds surroundings.depth request
    obtain ⟨nodup, bounded⟩ := TakesAtMost.nodup_queries (meets_introspect _ _ _ _) takes
      (by simp [Store.isRemembered])
    simp only [same]
    generalize (Session.run surroundings (introspect configuration _ _ request)
      .empty).state.queries = queries at nodup bounded
    refine ⟨nodup, ?_, bounded.countP_le, bounded.countP_le, bounded.countP_le⟩
    -- The two queries of the clients have the same key, and so only one of them is made.
    have isClient (query : Query) (made : query ∈ queries) (ofClients : query.store = .clients) :
        query = ⟨.clients, clientId⟩ := by
      have among := bounded.subset made
      simp only [List.mem_cons, List.not_mem_nil, or_false] at among
      rcases among with rfl | rfl | rfl | rfl | rfl | rfl <;> first | rfl | cases ofClients
    calc queries.countP (·.store = .clients)
      _ ≤ queries.count ⟨.clients, clientId⟩ :=
        List.countP_mono_left fun query made ofClients => by
          simpa using isClient query made (by simpa using ofClients)
      _ ≤ 1 := List.nodup_iff_count.mp nodup _

end Http

end Introspection
