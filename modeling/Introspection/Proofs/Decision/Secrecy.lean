import Introspection.Proofs.Decision.Steps

/-!
# What a requester without an answer learns

Two runs are compared, over stores that differ in what is to be kept from the requester.
A requester that is not admitted learns nothing at all about tokens: the run is the same whatever
the token is, whatever is stored about it and whatever else is failing (`introspect_excluded`). A
requester that is admitted, but denied by the policy, learns no more than the kind, the owner and
the scopes of the token (`introspect_forbidden_alike`), although its user has been looked up by
then.

Of a requester that is told about a token nothing is claimed here.
-/

namespace Introspection

/-- A requester is not admitted: it may not ask, or it cannot be found out whether it may. -/
def Stores.Excludes (stores : Stores) (scope : Json) (requester : Requester) : Prop :=
  ∀ profile, (stores.run (Decision.authenticate scope requester)).result ≠ .ok profile

/-- Two tokens are of one kind, and were issued to the same client with the same scopes. -/
inductive SubjectToken.Alike : SubjectToken -> SubjectToken -> Prop
  | access {one other : AccessToken} (owner : one.grant.clientId = other.grant.clientId)
      (scopes : one.grant.scopes = other.grant.scopes) : Alike (.access one) (.access other)
  | refresh {one other : RefreshToken} (owner : one.grant.clientId = other.grant.clientId)
      (scopes : one.grant.scopes = other.grant.scopes) : Alike (.refresh one) (.refresh other)

namespace SubjectToken.Alike

variable {one other : SubjectToken}

theorem clientId (alike : one.Alike other) : one.grant.clientId = other.grant.clientId := by
  cases alike with
  | access owner scopes => exact owner
  | refresh owner scopes => exact owner

theorem scopes (alike : one.Alike other) : one.grant.scopes = other.grant.scopes := by
  cases alike with
  | access owner scopes => exact scopes
  | refresh owner scopes => exact scopes

end SubjectToken.Alike

namespace Decision

/-- A requester that is not admitted learns nothing about tokens. Two runs of its requests are the
same, with the same result, lookups and events, for any two tokens and hints, whatever the stores
of tokens and users hold and whether they fail; and nothing is looked up but its registration. -/
theorem introspect_excluded {first second : Stores} (clients : first.clients = second.clients)
    (failing : Store.clients ∈ first.failing ↔ Store.clients ∈ second.failing)
    {policy : Policy} {requester : Requester}
    (excluded : first.Excludes policy.protectionScope requester) {token other : String}
    (given : token ≠ "") (otherGiven : other ≠ "") (hint otherHint : Json) :
    first.run (introspect policy (some token) hint requester) =
        second.run (introspect policy (some other) otherHint requester) ∧
      ∀ lookup ∈ (first.run (introspect policy (some token) hint requester)).asked,
        lookup = .client requester.clientId := by
  have agree : first.reply (.client requester.clientId) =
      second.reply (.client requester.clientId) := by
    by_cases down : Store.clients ∈ second.failing
    · simp [Stores.reply, Lookup.store, failing, down]
    · simp [Stores.reply, Lookup.store, failing, down, Stores.find, clients]
  have same := answered_authenticate_congr agree policy.protectionScope
  -- What follows authentication depends neither on the token nor on the stores.
  rw [introspect_eq given, introspect_eq otherGiven]
  constructor
  · change Inquiry.answered _ _ = Inquiry.answered _ _
    rw [Inquiry.answered_bind, Inquiry.answered_bind, Inquiry.answered_orRefused,
      Inquiry.answered_orRefused, ← same]
    unfold Transcript.followedBy
    dsimp only
    split
    · next admitted result =>
      cases admitted with
      | error refusal => rfl
      | ok profile => exact absurd (refusable_eq_ok_ok.mp result) (excluded profile)
    · rfl
  · intro lookup asked
    rcases Inquiry.mem_asked_bind.mp asked with first | ⟨admitted, result, rest⟩
    · rw [Inquiry.asked_orRefused] at first
      exact asked_authenticate first
    · cases admitted with
      | error refusal => simp [afterAuthentication, asked_refuse] at rest
      | ok profile =>
        rw [Inquiry.eval_orRefused, refusable_eq_ok_ok] at result
        exact absurd ((Inquiry.answered_result _).trans result) (excluded profile)

/-- Stores with a token of another client and its user. The client that asks is not registered as
one that may. -/
def foreignStores : Stores where
  clients := [("shop", ⟨"shop", false, .ofList ["read"], .empty⟩)]
  accessTokens := [("a-1", ⟨"a-1", ⟨"bank", .ofList ["read"], some "alice", none⟩, "Bearer"⟩)]
  refreshTokens := []
  users := [(("alice", "bank"), ⟨"u-1", some "alice"⟩)]
  failing := []

/-- The same client finds no difference between the token of the other client and a value that was
never a token, not even where the stores of tokens and users are failing. -/
theorem introspect_excluded_foreign :
    let failingStores : Stores :=
      ⟨foreignStores.clients, [], [], [], [.accessTokens, .refreshTokens, .users]⟩
    let policy : Policy := .ofTexts "uma_protection" .subset none
    foreignStores.Excludes policy.protectionScope (.direct "shop" .empty) ∧
      foreignStores.run (introspect policy (some "a-1") .null (.direct "shop" .empty)) =
        failingStores.run
          (introspect policy (some "a-2") (.string "access_token") (.direct "shop" .empty)) := by
  intro failingStores policy
  have refused : (foreignStores.run (authenticate policy.protectionScope
      (.direct "shop" .empty))).result = .error (.refused .introspectionNotAllowed) := rfl
  have excluded : foreignStores.Excludes policy.protectionScope (.direct "shop" .empty) := by
    intro profile
    simp [refused]
  have clients : foreignStores.clients = failingStores.clients := rfl
  have failing : Store.clients ∈ foreignStores.failing ↔
      Store.clients ∈ failingStores.failing := by decide
  have given : "a-1" ≠ "" ∧ "a-2" ≠ "" := by decide
  exact ⟨excluded, (introspect_excluded clients failing excluded given.1 given.2 .null
    (.string "access_token")).1⟩

variable {records : Records}

/-- When it has been found out which token a value names, the answer is refused exactly when the
policy does not let the requester see it. -/
theorem eval_afterResolution_forbidden {policy : Policy} {requester : Requester}
    {profile : ClientProfile} {resolved : Option ResolvedToken} {reason : Refusal} :
    (afterResolution policy requester profile (.ok resolved)).eval records.reply =
        .ok (.forbidden reason) ↔
      reason = .notPermitted ∧ ∃ found, resolved = some found ∧
        isPermitted policy.protectionScope policy.rule requester profile
          found.token.grant.clientId found.token.grant.scopes = .ok false := by
  cases resolved with
  | none => simp [afterResolution]
  | some found =>
    cases permitted : isPermitted policy.protectionScope policy.rule requester profile
        found.token.grant.clientId found.token.grant.scopes with
    | error failure => simp [afterResolution, permitted]
    | ok allowed =>
      cases allowed with
      | false => simp [afterResolution, permitted, eval_refuse, eq_comm]
      | true =>
        cases assembled : assemble policy.issuer found.token found.user with
        | error failure => simp [afterResolution, tell, permitted, assembled]
        | ok answer => simp [afterResolution, tell, permitted, assembled]

/-- A refusal by the policy is all that is put on record when the token has been found. -/
theorem events_afterResolution_forbidden {policy : Policy} {requester : Requester}
    {profile : ClientProfile} {resolved : Option ResolvedToken} {reason : Refusal}
    (forbidden : (afterResolution policy requester profile (.ok resolved)).eval records.reply =
      .ok (.forbidden reason)) :
    ((afterResolution policy requester profile (.ok resolved)).answered records.reply).events =
      [.forbidden requester.clientId Refusal.notPermitted.name] := by
  obtain ⟨_, found, rfl, denied⟩ := eval_afterResolution_forbidden.mp forbidden
  simp only [afterResolution]
  rw [Inquiry.events_bind ((Inquiry.eval_ofExcept _).trans denied), Inquiry.events_ofExcept]
  rfl

/-- Tokens that are alike leave the same on record when they are searched for. -/
theorem events_resolve_alike {first second : Records} {value : String}
    (alike : Option.Rel SubjectToken.Alike (first.token? value) (second.token? value))
    (hint : Json) :
    ((resolve value hint).answered first.reply).events =
      ((resolve value hint).answered second.reply).events := by
  rw [events_resolve, events_resolve, events_findToken, events_findToken]
  generalize first.token? value = one at alike
  generalize second.token? value = other at alike
  cases alike with
  | none => rfl
  | some alike =>
    cases alike with
    | access owner scopes => rfl
    | refresh owner scopes => rfl

/-- A requester that is denied by the policy learns nothing of a token but its kind, its owner and
its scopes. Where one request is refused, the same request is refused for the same reason and with
the same events over other stores with the same clients, in which the value names a token that is
alike, whoever its user is, whenever it expires and whatever the stores know of users. -/
theorem introspect_forbidden_alike {first second : Stores}
    (clients : first.clients = second.clients) {value : String} (given : value ≠ "")
    (alike : Option.Rel SubjectToken.Alike (Records.token? first.find value)
      (Records.token? second.find value))
    {policy : Policy} {hint : Json} {requester : Requester} {reason : Refusal}
    (forbidden : (first.calm.run (introspect policy (some value) hint requester)).result =
      .ok (.forbidden reason)) :
    (second.calm.run (introspect policy (some value) hint requester)).result =
        .ok (.forbidden reason) ∧
      (second.calm.run (introspect policy (some value) hint requester)).events =
        (first.calm.run (introspect policy (some value) hint requester)).events := by
  have agree : Records.reply first.find (.client requester.clientId) =
      Records.reply second.find (.client requester.clientId) := by
    simp only [Records.reply, Stores.find, clients]
  have same : (authenticate policy.protectionScope requester).orRefused.answered
        (Records.reply first.find) =
      (authenticate policy.protectionScope requester).orRefused.answered
        (Records.reply second.find) := by
    rw [Inquiry.answered_orRefused, Inquiry.answered_orRefused, answered_authenticate_congr agree]
  simp only [Stores.run_calm, introspect_eq given, Records.run_result] at forbidden ⊢
  rw [Inquiry.eval_bind] at forbidden ⊢
  obtain ⟨admitted, authenticated, forbidden⟩ := bind_eq_ok.mp forbidden
  have authenticatedAlso : (authenticate policy.protectionScope requester).orRefused.eval
      (Records.reply second.find) = .ok admitted := by
    rw [← authenticated, ← Inquiry.answered_result, ← same, Inquiry.answered_result]
  simp only [Records.run]
  rw [Inquiry.events_bind authenticated, Inquiry.events_bind authenticatedAlso, ← same,
    authenticatedAlso, ok_bind]
  cases admitted with
  | error refusal => exact ⟨forbidden, rfl⟩
  | ok profile =>
    have resolution (records : Records) :
        (resolve value hint).orRefused.eval records.reply = .ok (.ok ((records.token? value).map
          fun token => ⟨token, records.user? token.grant⟩)) := by
      rw [Inquiry.eval_orRefused, eval_resolve, refusable_ok]
    simp only [afterAuthentication] at forbidden ⊢
    rw [Inquiry.eval_bind, resolution, ok_bind] at forbidden ⊢
    rw [Inquiry.events_bind (resolution _), Inquiry.events_bind (resolution _)]
    simp only [Inquiry.events_orRefused]
    rw [events_resolve_alike alike hint]
    have forbiddenAlso : (afterResolution policy requester profile
        (.ok ((Records.token? second.find value).map fun token =>
          ⟨token, Records.user? second.find token.grant⟩))).eval (Records.reply second.find) =
        .ok (.forbidden reason) := by
      rw [eval_afterResolution_forbidden] at forbidden ⊢
      obtain ⟨isReason, found, named, denied⟩ := forbidden
      generalize Records.token? first.find value = one at alike named
      generalize Records.token? second.find value = other at alike ⊢
      cases alike with
      | none => cases named
      | some alike =>
        obtain rfl := Option.some.inj named
        exact ⟨isReason, _, rfl, by simpa only [← alike.clientId, ← alike.scopes] using denied⟩
    rw [events_afterResolution_forbidden forbidden,
      events_afterResolution_forbidden forbiddenAlso]
    exact ⟨forbiddenAlso, rfl⟩

/-- Stores with a refresh token of another client. The client that asks is registered as one that
may, but not for the scope of the token. -/
def deniedStores (principal : Option String) (expiresAt : Option Moment) : Stores where
  clients := [("shop", ⟨"shop", true, .ofList ["read"], .ofList [clientRole]⟩)]
  accessTokens := []
  refreshTokens := [("r-1", ⟨"r-1", ⟨"bank", .ofList ["write"], principal, expiresAt⟩⟩)]
  users := [(("alice", "bank"), ⟨"u-1", some "alice"⟩)]
  failing := []

/-- The client does not learn whether the token is one of a user, nor when it expires. -/
theorem introspect_forbidden_alike_refresh :
    let policy : Policy := .ofTexts "uma_protection" .subset none
    let named := (deniedStores (some "alice") (some ⟨5000000, some 0⟩)).calm.run
      (introspect policy (some "r-1") .null (.direct "shop" .empty))
    let unnamed := (deniedStores none none).calm.run
      (introspect policy (some "r-1") .null (.direct "shop" .empty))
    named.result = .ok (.forbidden .notPermitted) ∧
      unnamed.result = .ok (.forbidden .notPermitted) ∧ unnamed.events = named.events := by
  intro policy named unnamed
  have clients : (deniedStores (some "alice") (some ⟨5000000, some 0⟩)).clients =
      (deniedStores none none).clients := rfl
  have forbidden : named.result = .ok (.forbidden .notPermitted) := rfl
  exact ⟨forbidden, introspect_forbidden_alike clients (by decide) (.some (.refresh rfl rfl))
    forbidden⟩

end Decision

end Introspection
