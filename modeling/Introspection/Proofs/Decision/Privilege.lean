import Introspection.Proofs.Decision.Law

/-!
# Granting more

A requester is granted more when its own token or authentication carries more, when more is
registered about it, when its registration comes to allow introspection, or when the scope rule is
widened. None of this takes an answer away: whoever is told about a token is told the same after it
(`introspect_active_of_grows`).

The two scope rules are not ordered by themselves. A token without scopes is within every set of
scopes and meets none, so `intersect` is the wider rule only for tokens that have a scope.
-/

namespace Introspection

instance : HasSubset ScopeSet := ⟨fun scopes others => ∀ name, name ∈ scopes -> name ∈ others⟩

/-- A requester is granted more: scopes when it is delegated, roles when it is direct. -/
inductive Requester.Grows : Requester -> Requester -> Prop
  | delegated {clientId : String} {granted more : ScopeSet} (grown : granted ⊆ more) :
      Grows (.delegated clientId granted) (.delegated clientId more)
  | direct {clientId : String} {authorities more : ScopeSet} (grown : authorities ⊆ more) :
      Grows (.direct clientId authorities) (.direct clientId more)

/-- More is registered about a client. -/
structure ClientProfile.Grows (profile more : ClientProfile) : Prop where
  clientId : more.clientId = profile.clientId
  allowed : profile.allowIntrospection = true -> more.allowIntrospection = true
  scopes : profile.scopes ⊆ more.scopes
  authorities : profile.authorities ⊆ more.authorities

/-- A rule is kept, or widened for a token that has some scope. -/
inductive ScopeRule.WidensFor (scopes : ScopeSet) : ScopeRule -> ScopeRule -> Prop
  | kept (rule : ScopeRule) : WidensFor scopes rule rule
  | widened {name : String} (member : name ∈ scopes) : WidensFor scopes .subset .intersect

/-- Of two stores the second has more registered about one client, and the same tokens and
users. -/
structure Stores.Grows (clientId : String) (stores more : Stores) : Prop where
  registration : ∀ profile, stores.clients.get? clientId = some profile ->
    ∃ grown, more.clients.get? clientId = some grown ∧ profile.Grows grown
  accessTokens : more.accessTokens = stores.accessTokens
  refreshTokens : more.refreshTokens = stores.refreshTokens
  users : more.users = stores.users

/-- A rule that holds goes on to hold for more scopes of the requester, and under a wider rule. -/
theorem ScopeRule.WidensFor.holds {tokenScopes : ScopeSet} {rule wider : ScopeRule}
    (widens : WidensFor tokenScopes rule wider) {scopes more : ScopeSet} (grown : scopes ⊆ more)
    (held : rule.holds scopes tokenScopes = true) : wider.holds more tokenScopes = true := by
  cases widens with
  | kept =>
    cases rule with
    | subset =>
      have within := ScopeSet.subset_iff.mp held
      exact ScopeSet.subset_iff.mpr fun name member => grown name (within name member)
    | intersect =>
      obtain ⟨name, member, inToken⟩ := ScopeSet.meets_iff.mp held
      exact ScopeSet.meets_iff.mpr ⟨name, grown name member, inToken⟩
  | widened inToken =>
    have within := ScopeSet.subset_iff.mp held
    exact ScopeSet.meets_iff.mpr ⟨_, grown _ (within _ inToken), inToken⟩

/-- What the policy lets a client see, it goes on to let it see. -/
theorem MaySee.grows {rule wider : ScopeRule} {profile more : ClientProfile} {token : SubjectToken}
    (seen : MaySee rule profile token) (grows : profile.Grows more)
    (widens : ScopeRule.WidensFor token.grant.scopes rule wider) : MaySee wider more token := by
  rcases seen with own | held
  · exact .inl (own.trans grows.clientId.symm)
  · exact .inr (widens.holds grows.scopes held)

variable {scope : String} {requester more : Requester}

/-- A requester that may ask goes on to be one that may. -/
theorem Entitled.grows {records others : Records} {profile : ClientProfile}
    (entitled : Entitled records scope requester profile) (granted : requester.Grows more)
    (registration : ∀ profile, records (.client requester.clientId) = some profile ->
      ∃ grown, others (.client requester.clientId) = some grown ∧ profile.Grows grown) :
    ∃ grown, Entitled others scope more grown ∧ profile.Grows grown := by
  cases entitled with
  | delegated held registered =>
    obtain ⟨grown, registered, grows⟩ := registration _ registered
    cases granted with
    | delegated within => exact ⟨grown, .delegated (within _ held) registered, grows⟩
  | direct registered allowed role =>
    obtain ⟨grown, registered, grows⟩ := registration _ registered
    cases granted with
    | direct within =>
      exact ⟨grown, .direct registered (grows.allowed allowed)
        (role.imp (within _) (grows.authorities _)), grows⟩

/-- The records other than those of clients are the same in stores that grow. -/
theorem Stores.Grows.token?_eq {clientId : String} {stores others : Stores}
    (grows : stores.Grows clientId others) (value : String) :
    Records.token? others.find value = Records.token? stores.find value := by
  simp only [Records.token?, Stores.find, grows.accessTokens, grows.refreshTokens]

theorem Stores.Grows.user?_eq {clientId : String} {stores others : Stores}
    (grows : stores.Grows clientId others) (grant : Grant) :
    Records.user? others.find grant = Records.user? stores.find grant := by
  simp only [Records.user?, Stores.find, grows.users]

namespace Decision

/-- Granting more never takes an answer away. A requester that is told about a token is told the
same when it is granted more itself, when more is registered about it, and when the scope rule is
widened, as long as the token has some scope. -/
theorem introspect_active_of_grows {stores others : Stores} {rule wider : ScopeRule}
    {issuer token : Option String} {hint : Json} {told : Answer} (granted : requester.Grows more)
    (registered : stores.Grows requester.clientId others)
    (widened : ∀ value found, token = some value ->
      Records.token? stores.find value = some found ->
        ScopeRule.WidensFor found.grant.scopes rule wider)
    (active : (stores.calm.run
      (introspect (.ofTexts scope rule issuer) token hint requester)).result = .ok (.active told)) :
    (others.calm.run (introspect (.ofTexts scope wider issuer) token hint more)).result =
      .ok (.active told) := by
  rw [result_eq_ok_iff] at active ⊢
  cases active with
  | shown given entitled named seen =>
    have kept : ∃ grown, Entitled others.find scope more grown ∧ _ :=
      entitled.grows granted registered.registration
    obtain ⟨grown, entitled, grows⟩ := kept
    have seen := seen.grows grows (widened _ _ given.1 named)
    rw [← registered.user?_eq]
    exact .shown given entitled ((registered.token?_eq _).trans named) seen

/-- Stores with a token of another client than the one that asks. -/
def registeredStores (profile : ClientProfile) : Stores where
  clients := [("shop", profile)]
  accessTokens := [("a-1", ⟨"a-1", ⟨"bank", .ofList ["read"], none, none⟩, "Bearer"⟩)]
  refreshTokens := []
  users := []
  failing := []

/-- A client is told about the token of another client as before when all of it grows at once: the
scopes of its own token, those of its registration, its roles, its permission and the rule. -/
theorem introspect_active_of_grows_delegated :
    let profile : ClientProfile := ⟨"shop", false, .ofList ["read"], .empty⟩
    let grown : ClientProfile := ⟨"shop", true, .ofList ["read", "write"], .ofList [clientRole]⟩
    let requester : Requester := .delegated "shop" (.ofList ["uma_protection"])
    let more : Requester := .delegated "shop" (.ofList ["profile", "uma_protection"])
    let told : Answer := ⟨true, some "read", some "bank", none, none, none, some "Bearer", none⟩
    requester.Grows more ∧
      (registeredStores profile).Grows requester.clientId (registeredStores grown) ∧
      ((registeredStores profile).calm.run (introspect (.ofTexts "uma_protection" .subset none)
        (some "a-1") .null requester)).result = .ok (.active told) ∧
      ((registeredStores grown).calm.run (introspect (.ofTexts "uma_protection" .intersect none)
        (some "a-1") .null more)).result = .ok (.active told) := by
  intro profile grown requester more told
  have granted : requester.Grows more := by
    refine .delegated fun name member => ?_
    simp only [ScopeSet.mem_ofList, List.mem_singleton] at member
    simp [ScopeSet.mem_ofList, member]
  have grows : profile.Grows grown := by
    refine ⟨rfl, fun _ => rfl, fun name member => ?_, fun name member => ?_⟩
    · simp only [profile, ScopeSet.mem_ofList, List.mem_singleton] at member
      simp [grown, ScopeSet.mem_ofList, member]
    · exact absurd member ScopeSet.not_mem_empty
  have registered : (registeredStores profile).Grows requester.clientId
      (registeredStores grown) := by
    refine ⟨fun held isHeld => ⟨grown, rfl, ?_⟩, rfl, rfl, rfl⟩
    obtain rfl : profile = held := Option.some.inj isHeld
    exact grows
  have active : ((registeredStores profile).calm.run
      (introspect (.ofTexts "uma_protection" .subset none) (some "a-1") .null requester)).result =
      .ok (.active told) := rfl
  refine ⟨granted, registered, active, introspect_active_of_grows granted registered ?_ active⟩
  intro value found isValue named
  obtain rfl := Option.some.inj isValue
  obtain rfl : SubjectToken.access _ = found := Option.some.inj named
  exact .widened (ScopeSet.mem_ofList.mpr (List.mem_singleton_self "read"))

end Decision

end Introspection
