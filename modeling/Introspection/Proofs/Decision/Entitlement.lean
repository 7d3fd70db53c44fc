import Introspection.Proofs.Records

/-!
# Who may ask

The requesters that may ask about tokens, and the reasons why others may not, as relations on the
records alone. One of the two holds of every requester, and `Entitled.eval_authenticate` and
`Unentitled.eval_authenticate` say that this is what the first step of a decision finds out; so no
requester has both, or two profiles, or two reasons. The second look at the entitlement, before a
token of another client is told about, then finds nothing new: `Entitled.mayCrossClients`.
-/

namespace Introspection

/-- A requester that may ask, with its profile. The scope is the one that delegated requesters
need. -/
inductive Entitled (records : Records) (scope : String) : Requester -> ClientProfile -> Prop
  | delegated {clientId : String} {granted : ScopeSet} {profile : ClientProfile}
      (held : scope ∈ granted) (registered : records (.client clientId) = some profile) :
      Entitled records scope (.delegated clientId granted) profile
  | direct {clientId : String} {authorities : ScopeSet} {profile : ClientProfile}
      (registered : records (.client clientId) = some profile)
      (allowed : profile.allowIntrospection = true)
      (role : clientRole ∈ authorities ∨ clientRole ∈ profile.authorities) :
      Entitled records scope (.direct clientId authorities) profile

/-- A requester that may not ask, with the reason. -/
inductive Unentitled (records : Records) (scope : String) : Requester -> Refusal -> Prop
  | withoutScope {clientId : String} {granted : ScopeSet} (lacking : scope ∉ granted) :
      Unentitled records scope (.delegated clientId granted) .insufficientScope
  | delegatedUnknown {clientId : String} {granted : ScopeSet} (held : scope ∈ granted)
      (unregistered : records (.client clientId) = none) :
      Unentitled records scope (.delegated clientId granted) .clientNotFound
  | directUnknown {clientId : String} {authorities : ScopeSet}
      (unregistered : records (.client clientId) = none) :
      Unentitled records scope (.direct clientId authorities) .clientNotFound
  | notAllowed {clientId : String} {authorities : ScopeSet} {profile : ClientProfile}
      (registered : records (.client clientId) = some profile)
      (lacking : ¬ (profile.allowIntrospection = true ∧
        (clientRole ∈ authorities ∨ clientRole ∈ profile.authorities))) :
      Unentitled records scope (.direct clientId authorities) .introspectionNotAllowed

variable {records : Records} {scope : String} {requester : Requester}

/-- A requester may ask, or there is a reason why not. -/
theorem entitled_or_unentitled (records : Records) (scope : String) (requester : Requester) :
    (∃ profile, Entitled records scope requester profile) ∨
      ∃ refusal, Unentitled records scope requester refusal := by
  cases requester with
  | delegated clientId granted =>
    by_cases held : scope ∈ granted
    · cases found : records (.client clientId) with
      | some profile => exact .inl ⟨profile, .delegated held found⟩
      | none => exact .inr ⟨_, .delegatedUnknown held found⟩
    · exact .inr ⟨_, .withoutScope held⟩
  | direct clientId authorities =>
    cases found : records (.client clientId) with
    | some profile =>
      by_cases may : profile.allowIntrospection = true ∧
          (clientRole ∈ authorities ∨ clientRole ∈ profile.authorities)
      · exact .inl ⟨profile, .direct found may.1 may.2⟩
      · exact .inr ⟨_, .notAllowed found may⟩
    | none => exact .inr ⟨_, .directUnknown found⟩

/-- The first step of a decision finds the profile of a requester that may ask. -/
theorem Entitled.eval_authenticate {profile : ClientProfile}
    (entitled : Entitled records scope requester profile) :
    (Decision.authenticate (.string scope) requester).eval records.reply =
      .ok profile := by
  cases entitled with
  | delegated held registered =>
    simp [Decision.authenticate, Decision.isHeld, held, registered]
  | direct registered allowed role =>
    simp [Decision.authenticate, registered, allowed, role]

/-- The first step of a decision finds the reason why a requester may not ask. -/
theorem Unentitled.eval_authenticate {refusal : Refusal}
    (unentitled : Unentitled records scope requester refusal) :
    (Decision.authenticate (.string scope) requester).eval records.reply =
      .error (.refused refusal) := by
  cases unentitled with
  | withoutScope lacking => simp [Decision.authenticate, Decision.isHeld, lacking]
  | delegatedUnknown held unregistered =>
    simp [Decision.authenticate, Decision.isHeld, held, unregistered]
  | directUnknown unregistered => simp [Decision.authenticate, unregistered]
  | notAllowed registered lacking =>
    rw [and_comm] at lacking
    simp only [Decision.authenticate, Inquiry.eval_bind, Records.eval_lookup, ok_bind, registered,
      if_neg lacking]
    rfl

/-- A requester that may ask may cross clients. -/
theorem Entitled.mayCrossClients {profile : ClientProfile}
    (entitled : Entitled records scope requester profile) :
    Decision.mayCrossClients (.string scope) requester profile = .ok true := by
  cases entitled with
  | delegated held registered => simp [Decision.mayCrossClients, Decision.isHeld, held]
  | direct registered allowed role => simp [Decision.mayCrossClients, allowed]

end Introspection
