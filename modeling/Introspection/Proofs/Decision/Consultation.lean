import Introspection.Proofs.Decision.Indifference

/-!
# What a decision depends on

A decision about a token consults four records at most: the registration of the requester, the
access token and the refresh token of the value, and the user that the token found was issued for
(`asked_introspect`). Which user this is follows from the tokens, so the four are a matter of the
stores, and not of the request alone.

Stores that agree on these records, and fail alike, are therefore answered from alike, whatever else
they hold and whatever hint is given (`introspect_consults`).
-/

namespace Introspection

namespace Entries

variable {key value : Type} [DecidableEq key]

/-- What is under other keys than the one that is erased stays as it is. -/
theorem get?_erase_of_ne (entries : Entries key value) {name other : key}
    (different : other ≠ name) : (entries.erase name).get? other = entries.get? other := by
  rw [get?, erase, List.find?_filter, get?]
  congr 2
  funext entry
  by_cases isOther : entry.1 = other
  · simp [isOther, different]
  · simp [isOther]

/-- The entries with a record under a key, or with none there. -/
def change (entries : Entries key value) (name : key) : Option value -> Entries key value
  | some record => entries.put name record
  | none => entries.erase name

/-- What is under other keys is not changed. -/
theorem get?_change_of_ne (entries : Entries key value) {name other : key} (record : Option value)
    (different : other ≠ name) :
    (entries.change name record).get? other = entries.get? other := by
  cases record with
  | some record => exact entries.get?_put_of_ne record different
  | none => exact entries.get?_erase_of_ne different

end Entries

/-- A change of one record: it is added or replaced by the record that is given, or deleted when
none is. -/
structure Change where
  place : Lookup
  record : place.Reply

/-- The records that a decision about a value consults. -/
inductive Consulted (records : Records) (requester : Requester) (value : String) : Lookup -> Prop
  | client : Consulted records requester value (.client requester.clientId)
  | access : Consulted records requester value (.access value)
  | refresh : Consulted records requester value (.refresh value)
  | user {token : SubjectToken} {principal : String} (named : records.token? value = some token)
      (issuedFor : token.grant.principal = some principal) :
      Consulted records requester value (.user principal token.grant.clientId)

namespace Stores

/-- Stores in which one record is changed. -/
def change (stores : Stores) : Change -> Stores
  | ⟨.client clientId, profile⟩ =>
    { stores with clients := stores.clients.change clientId profile }
  | ⟨.access value, token⟩ =>
    { stores with accessTokens := stores.accessTokens.change value token }
  | ⟨.refresh value, token⟩ =>
    { stores with refreshTokens := stores.refreshTokens.change value token }
  | ⟨.user username clientId, user⟩ =>
    { stores with users := stores.users.change (username, clientId) user }

/-- Other records than the one that is changed are found as before. -/
theorem find_change_of_ne (stores : Stores) {changed : Change} {question : Lookup}
    (different : question ≠ changed.place) :
    (stores.change changed).find question = stores.find question := by
  obtain ⟨place, record⟩ := changed
  cases place with
  | client clientId =>
    cases question with
    | client other => exact stores.clients.get?_change_of_ne record (by simpa using different)
    | _ => rfl
  | access value =>
    cases question with
    | access other => exact stores.accessTokens.get?_change_of_ne record (by simpa using different)
    | _ => rfl
  | refresh value =>
    cases question with
    | refresh other =>
      exact stores.refreshTokens.get?_change_of_ne record (by simpa using different)
    | _ => rfl
  | user username clientId =>
    cases question with
    | user other otherClient =>
      exact stores.users.get?_change_of_ne record (by simpa using different)
    | _ => rfl

/-- A change of a record makes no store fail. -/
theorem failing_change (stores : Stores) (changed : Change) :
    (stores.change changed).failing = stores.failing := by
  obtain ⟨place, record⟩ := changed
  cases place <;> rfl

/-- Stores agree on some records when they hold the same there, and the same stores are failing. -/
structure AgreeOn (consulted : Lookup -> Prop) (stores others : Stores) : Prop where
  failing : ∀ store, store ∈ others.failing ↔ store ∈ stores.failing
  records : ∀ question, consulted question -> others.find question = stores.find question

/-- Stores agree with themselves after changes of other records. -/
theorem agreeOn_changes (stores : Stores) {consulted : Lookup -> Prop} {changes : List Change}
    (elsewhere : ∀ change ∈ changes, ¬ consulted change.place) :
    AgreeOn consulted stores (changes.foldl change stores) := by
  induction changes generalizing stores with
  | nil => exact ⟨fun _ => Iff.rfl, fun _ _ => rfl⟩
  | cons first rest ih =>
    obtain ⟨failing, records⟩ := ih (stores.change first) fun change member =>
      elsewhere change (List.mem_cons_of_mem _ member)
    refine ⟨fun store => ?_, fun question member => ?_⟩
    · exact (failing store).trans (by rw [failing_change])
    · have different : question ≠ first.place := by
        rintro rfl
        exact elsewhere first List.mem_cons_self member
      exact (records question member).trans (stores.find_change_of_ne different)

/-- Stores that fail alike answer two lookups alike when they go to the same store, and what they
find is alike. -/
theorem endAlike_reply {stores others : Stores}
    (failing : ∀ store, store ∈ others.failing ↔ store ∈ stores.failing)
    {question other : Lookup} (sameStore : other.store = question.store)
    {related : question.Reply -> other.Reply -> Prop}
    (alike : related (stores.find question) (others.find other)) :
    EndAlike related (stores.reply question) (others.reply other) := by
  by_cases down : question.store ∈ stores.failing
  · have failed : stores.reply question = .error (.unavailable question.store false) :=
      if_pos down
    have failedAlso : others.reply other = .error (.unavailable question.store false) := by
      simp [reply, sameStore, failing, down]
    rw [failed, failedAlso]
    exact .error _
  · have found : stores.reply question = .ok (stores.find question) := if_neg down
    have foundAlso : others.reply other = .ok (others.find other) := by
      simp [reply, sameStore, failing, down]
    rw [found, foundAlso]
    exact .ok alike

end Stores

namespace Decision

/-- Whatever a decision about a value asks for is among the records that it may consult. -/
theorem asked_introspect {stores : Stores} {policy : Policy} {value : String} (given : value ≠ "")
    {hint : Json} {requester : Requester} {question : Lookup}
    (asked : question ∈ (stores.run (introspect policy (some value) hint requester)).asked) :
    Consulted stores.find requester value question := by
  rw [introspect_eq given] at asked
  rcases Inquiry.mem_asked_bind.mp asked with first | ⟨admitted, _, rest⟩
  · rw [Inquiry.asked_orRefused] at first
    obtain rfl := asked_authenticate first
    exact .client
  · cases admitted with
    | error refusal => simp [afterAuthentication, asked_refuse] at rest
    | ok profile =>
      rcases Inquiry.mem_asked_bind.mp rest with search | ⟨resolved, _, rest⟩
      · rw [Inquiry.asked_orRefused] at search
        obtain rfl | rfl | ⟨token, principal, found, issuedFor, rfl⟩ := asked_resolve search
        · exact .access
        · exact .refresh
        · have named := Stores.eval_find_of_eq_ok (meets_findToken value hint) found
          rw [eval_findToken] at named
          exact .user (Except.ok.inj named) issuedFor
      · simp [asked_afterResolution] at rest

/-- Decisions about a value and about another one are made alike over stores that fail alike, and
whose records of what is consulted are alike: with the same result, with lookups of the other value
in the place of those of the value, and with the same events but for the hint. -/
theorem introspect_alike {stores others : Stores} {rename : String -> String}
    {hint otherHint : Json} {value : String} {requester : Requester} (given : value ≠ "")
    (renamed : rename value ≠ "")
    (failing : ∀ store, store ∈ others.failing ↔ store ∈ stores.failing)
    (alike : ∀ question, Consulted stores.find requester value question ->
      (indifference rename hint otherHint).alike question (stores.find question)
        (others.find (question.renamed rename))) (policy : Policy) :
    let run := stores.run (introspect policy (some value) hint requester)
    let other := others.run (introspect policy (some (rename value)) otherHint requester)
    other.result = run.result ∧ other.asked = run.asked.map (Lookup.renamed rename) ∧
      List.Forall₂ (Event.SameButHint hint otherHint) run.events other.events := by
  intro run other
  obtain ⟨ends, asked, events⟩ :=
    (introspect_corresponds given renamed policy requester).answered fun question asked =>
      Stores.endAlike_reply failing (Lookup.store_renamed rename question)
        (alike question (asked_introspect given asked))
  exact ⟨ends.eq.symm, asked, events⟩

/-- The same record counts as alike. -/
theorem alike_of_eq {hint otherHint : Json} {records others : Records} {question : Lookup}
    (same : others question = records question) :
    (indifference id hint otherHint).alike question (records question)
      (others (question.renamed id)) := by
  cases question with
  | client clientId => exact same.symm
  | access value =>
    change Option.Rel _ _ ((others (.access value)).map _)
    rw [same]
    cases records (.access value) with
    | none => exact .none
    | some token => exact .some (.access ..)
  | refresh value =>
    change Option.Rel _ _ ((others (.refresh value)).map _)
    rw [same]
    cases records (.refresh value) with
    | none => exact .none
    | some token => exact .some (.refresh ..)
  | user username clientId => exact same.symm

/-- A decision about a token depends on the records that it may consult, and on nothing else that
the stores hold: over stores that agree on these records and fail alike, it has the same result
with the same lookups in the same order, whatever the hints are. So it is not affected either by
any changes of other records. -/
theorem introspect_consults {stores : Stores} {requester : Requester} {value : String}
    (given : value ≠ "") (policy : Policy) (hint otherHint : Json) :
    let run := stores.run (introspect policy (some value) hint requester)
    (∀ others : Stores, stores.AgreeOn (Consulted stores.find requester value) others ->
      let other := others.run (introspect policy (some value) otherHint requester)
      other.result = run.result ∧ other.asked = run.asked) ∧
    ∀ changes : List Change,
      (∀ change ∈ changes, ¬ Consulted stores.find requester value change.place) ->
      let other := (changes.foldl Stores.change stores).run
        (introspect policy (some value) otherHint requester)
      other.result = run.result ∧ other.asked = run.asked := by
  intro run
  have agreeing : ∀ others : Stores,
      stores.AgreeOn (Consulted stores.find requester value) others ->
      let other := others.run (introspect policy (some value) otherHint requester)
      other.result = run.result ∧ other.asked = run.asked := by
    intro others agree other
    have same : other.result = run.result ∧ other.asked = run.asked.map (Lookup.renamed id) ∧ _ :=
      introspect_alike given given agree.failing
        (fun question consulted => alike_of_eq (agree.records question consulted)) policy
    refine ⟨same.1, same.2.1.trans ?_⟩
    rw [funext Lookup.renamed_id, List.map_id']
  exact ⟨agreeing, fun changes elsewhere => agreeing _ (stores.agreeOn_changes elsewhere)⟩

/-- Stores with a token of another client and its user, and with a refresh token that is not asked
about. -/
def consultedStores : Stores where
  clients := [("shop", ⟨"shop", true, .ofList ["read"], .ofList [clientRole]⟩),
    ("bank", ⟨"bank", false, .empty, .empty⟩)]
  accessTokens := [("a-1", ⟨"a-1", ⟨"bank", .ofList ["read"], some "alice", none⟩, "Bearer"⟩)]
  refreshTokens := [("r-2", ⟨"r-2", ⟨"bank", .empty, some "alice", none⟩⟩)]
  users := [(("alice", "bank"), ⟨"u-1", some "alice"⟩)]
  failing := [.refreshTokens]

/-- The client is told about the token as before when the owner of the token is deleted, the other
token is replaced, the user comes to be known to the client itself, and another hint is given. -/
theorem introspect_consults_unchanged :
    let requester : Requester := .direct "shop" .empty
    let policy : Policy := .ofTexts "uma_protection" .subset none
    let changes : List Change := [⟨.client "bank", none⟩,
      ⟨.refresh "r-2", some ⟨"r-2", ⟨"shop", .ofList ["read"], none, none⟩⟩⟩,
      ⟨.user "alice" "shop", some ⟨"u-2", some "alice"⟩⟩]
    let others := changes.foldl Stores.change consultedStores
    let run := consultedStores.run (introspect policy (some "a-1") .null requester)
    let other := others.run (introspect policy (some "a-1") (.string "refresh_token") requester)
    (∀ change ∈ changes,
      ¬ Consulted consultedStores.find requester "a-1" change.place) ∧
    consultedStores.AgreeOn (Consulted consultedStores.find requester "a-1") others ∧
    run.asked = [.client "shop", .access "a-1", .user "alice" "bank"] ∧
    other.result = run.result ∧ other.asked = run.asked := by
  intro requester policy changes others run other
  have only : ∀ question, Consulted consultedStores.find requester "a-1" question ->
      question ∈ [Lookup.client "shop", .access "a-1", .refresh "a-1", .user "alice" "bank"] := by
    intro question consulted
    cases consulted with
    | client => decide
    | access => decide
    | refresh => decide
    | user named issuedFor =>
      obtain rfl : SubjectToken.access _ = _ := Option.some.inj named
      obtain rfl : "alice" = _ := Option.some.inj issuedFor
      decide
  have elsewhere : ∀ change ∈ changes,
      ¬ Consulted consultedStores.find requester "a-1" change.place := by
    have apart : ∀ change ∈ changes, change.place ∉
        [Lookup.client "shop", .access "a-1", .refresh "a-1", .user "alice" "bank"] := by decide
    exact fun change member consulted => apart change member (only _ consulted)
  have agree := consultedStores.agreeOn_changes elsewhere
  have same := @introspect_consults consultedStores requester "a-1" (by decide) policy .null
    (.string "refresh_token")
  exact ⟨elsewhere, agree, rfl, same.1 others agree⟩

end Decision

end Introspection
