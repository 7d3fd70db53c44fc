import Introspection.Proofs.Decision.Entitlement

/-!
# The law of decisions

How a request is decided, as a relation between the records and the outcome: `Decides` has one
case for each way in which a decision ends. Every request has exactly one outcome under it, and
that is what a decision over the records comes to (`Decides.eval_introspect`). `introspect_law`
reads the relation as the conditions under which each outcome arises.

The law is about a protection scope and an issuer that are texts, as settings have them, and about
records that can all be had. Stores that fail are in `Introspection.Proofs.Decision.Outage`.
-/

namespace Introspection

/-- The policy of settings that are texts. -/
def Policy.ofTexts (scope : String) (rule : ScopeRule) (issuer : Option String) : Policy :=
  ⟨.string scope, rule, .ofString? issuer⟩

/-- A value to ask about is given, and it is not empty. -/
def IsGiven (token : Option String) (value : String) : Prop := token = some value ∧ value ≠ ""

/-- Whether the policy lets a client see a token: its own, and that of another client when the
scope rule holds. Nothing else is asked of a requester that may ask at all. -/
def MaySee (rule : ScopeRule) (profile : ClientProfile) (token : SubjectToken) : Prop :=
  token.grant.clientId = profile.clientId ∨ rule.holds profile.scopes token.grant.scopes = true

instance (rule : ScopeRule) (profile : ClientProfile) (token : SubjectToken) :
    Decidable (MaySee rule profile token) := inferInstanceAs (Decidable (_ ∨ _))

/-- How a request is decided. -/
inductive Decides (records : Records) (scope : String) (rule : ScopeRule) (issuer : Option String)
    (token : Option String) (requester : Requester) : Outcome -> Prop
  | missing (absent : token = none ∨ token = some "") :
      Decides records scope rule issuer token requester (.inactive .missingInput)
  | refused {value : String} {refusal : Refusal} (given : IsGiven token value)
      (unentitled : Unentitled records scope requester refusal) :
      Decides records scope rule issuer token requester (.forbidden refusal)
  | unknown {value : String} {profile : ClientProfile} (given : IsGiven token value)
      (entitled : Entitled records scope requester profile)
      (unnamed : records.token? value = none) :
      Decides records scope rule issuer token requester (.inactive .tokenNotFound)
  | hidden {value : String} {profile : ClientProfile} {found : SubjectToken}
      (given : IsGiven token value) (entitled : Entitled records scope requester profile)
      (named : records.token? value = some found) (unseen : ¬ MaySee rule profile found) :
      Decides records scope rule issuer token requester (.forbidden .notPermitted)
  | shown {value : String} {profile : ClientProfile} {found : SubjectToken}
      (given : IsGiven token value) (entitled : Entitled records scope requester profile)
      (named : records.token? value = some found) (seen : MaySee rule profile found) :
      Decides records scope rule issuer token requester
        (.active (Decision.answer issuer found (records.user? found.grant)))

variable {records : Records} {scope : String} {rule : ScopeRule} {issuer : Option String}
  {token : Option String} {requester : Requester}

/-- A value is given, or none or an empty one. -/
theorem isGiven_or_absent (token : Option String) :
    (∃ value, IsGiven token value) ∨ token = none ∨ token = some "" := by
  cases token with
  | none => exact .inr (.inl rfl)
  | some value =>
    by_cases empty : value = ""
    · exact .inr (.inr (congrArg some empty))
    · exact .inl ⟨value, rfl, empty⟩

namespace Decision

/-- Looking for a token finds the one that the value names. -/
theorem eval_findToken (records : Records) (value : String) (hint : Json) :
    (findToken value hint).eval records.reply = .ok (records.token? value) := by
  cases access : records (.access value) with
  | some token => simp [findToken, Records.token?, access]
  | none =>
    cases refresh : records (.refresh value) with
    | some token => simp [findToken, Records.token?, access, refresh]
    | none => simp [findToken, Records.token?, access, refresh]

/-- Looking for a user finds the one that a token was issued for. -/
theorem eval_findUser (records : Records) (grant : Grant) :
    (findUser grant).eval records.reply = .ok (records.user? grant) := by
  cases named : grant.principal with
  | none => simp [findUser, Records.user?, named]
  | some principal =>
    by_cases empty : principal.isEmpty = true
    · simp [findUser, Records.user?, named, Option.filter_some, empty]
    · simp [findUser, Records.user?, named, Option.filter_some, empty]

/-- A token is found with its user. -/
theorem eval_resolve (records : Records) (value : String) (hint : Json) :
    (resolve value hint).eval records.reply =
      .ok ((records.token? value).map fun token => ⟨token, records.user? token.grant⟩) := by
  cases named : records.token? value with
  | none => simp [resolve, eval_findToken, named]
  | some token => simp [resolve, eval_findToken, eval_findUser, named]

/-- Refusing an answer ends a decision with that. -/
theorem eval_refuse (records : Records) (requester : Requester) (refusal : Refusal) :
    (refuse requester refusal).eval records.reply = .ok (.forbidden refusal) := by
  simp [refuse]

/-- An issuer that is a text, or none, is told as it is. -/
theorem assemble_ofString? (issuer : Option String) (token : SubjectToken)
    (user : Option UserContext) :
    assemble (.ofString? issuer) token user = .ok (answer issuer token user) := by
  cases issuer with
  | none => rfl
  | some name => rfl

/-- Of a requester that may ask, the policy asks what `MaySee` says. -/
theorem isPermitted_eq {profile : ClientProfile}
    (entitled : Entitled records scope requester profile) (rule : ScopeRule)
    (token : SubjectToken) :
    isPermitted (.string scope) rule requester profile token.grant.clientId token.grant.scopes =
      .ok (decide (MaySee rule profile token)) := by
  unfold isPermitted
  rw [entitled.mayCrossClients]
  by_cases own : profile.clientId = token.grant.clientId
  · simp [MaySee, own]
  · simp [MaySee, own, Ne.symm own, Except.map]

end Decision

/-- Every request is decided in some way. -/
theorem exists_decides (records : Records) (scope : String) (rule : ScopeRule)
    (issuer : Option String) (token : Option String) (requester : Requester) :
    ∃ outcome, Decides records scope rule issuer token requester outcome := by
  rcases isGiven_or_absent token with ⟨value, given⟩ | absent
  · rcases entitled_or_unentitled records scope requester with
      ⟨profile, entitled⟩ | ⟨refusal, unentitled⟩
    · cases named : records.token? value with
      | none => exact ⟨_, .unknown given entitled named⟩
      | some found =>
        by_cases seen : MaySee rule profile found
        · exact ⟨_, .shown given entitled named seen⟩
        · exact ⟨_, .hidden given entitled named seen⟩
    · exact ⟨_, .refused given unentitled⟩
  · exact ⟨_, .missing absent⟩

/-- A decision over records comes to the outcome that the law gives. -/
theorem Decides.eval_introspect {outcome : Outcome}
    (decided : Decides records scope rule issuer token requester outcome) (hint : Json) :
    (Decision.introspect (.ofTexts scope rule issuer) token hint requester).eval records.reply =
      .ok outcome := by
  cases decided with
  | missing absent =>
    have empty : token.getD "" = "" := by
      rcases absent with rfl | rfl
      · rfl
      · rfl
    simp [Decision.introspect, empty]
  | refused given unentitled =>
    obtain ⟨rfl, nonempty⟩ := given
    simp [Decision.introspect, Decision.visibleToken, Policy.ofTexts, nonempty,
      unentitled.eval_authenticate, Decision.eval_refuse]
  | unknown given entitled unnamed =>
    obtain ⟨rfl, nonempty⟩ := given
    simp [Decision.introspect, Decision.visibleToken, Policy.ofTexts, nonempty,
      entitled.eval_authenticate, Decision.eval_resolve, unnamed]
  | hidden given entitled named unseen =>
    obtain ⟨rfl, nonempty⟩ := given
    simp [Decision.introspect, Decision.visibleToken, Policy.ofTexts, nonempty,
      entitled.eval_authenticate, Decision.eval_resolve, named, Decision.isPermitted_eq entitled,
      unseen, Decision.eval_refuse]
  | shown given entitled named seen =>
    obtain ⟨rfl, nonempty⟩ := given
    simp [Decision.introspect, Decision.visibleToken, Decision.tell, Policy.ofTexts, nonempty,
      entitled.eval_authenticate, Decision.eval_resolve, named, Decision.isPermitted_eq entitled,
      seen, Decision.assemble_ofString?]

/-- A request is decided in one way. -/
theorem Decides.unique {first second : Outcome}
    (one : Decides records scope rule issuer token requester first)
    (other : Decides records scope rule issuer token requester second) : first = second :=
  Except.ok.inj ((one.eval_introspect .null).symm.trans (other.eval_introspect .null))

/-- A decision over stores of which none fails has the outcome that the law gives, and no other. -/
theorem result_eq_ok_iff (stores : Stores) (hint : Json) {outcome : Outcome} :
    (stores.calm.run
        (Decision.introspect (.ofTexts scope rule issuer) token hint requester)).result =
        .ok outcome ↔
      Decides stores.find scope rule issuer token requester outcome := by
  obtain ⟨other, decided⟩ := exists_decides stores.find scope rule issuer token requester
  rw [Stores.run_calm, Records.run_result, decided.eval_introspect, Except.ok.injEq]
  constructor
  · rintro rfl
    exact decided
  · intro also
    exact decided.unique also

/-- The complete law of a decision over stores of which none fails: it always has an outcome. The
token is missing exactly when there is none or an empty one. Of a requester that may ask, a value
in neither token store is not found, and a token is told about exactly when it is the requester's
own or the scope rule holds; the token told about is the access token if there are two. In every
other case the answer is refused, for the reason that there is. -/
theorem Decision.introspect_law (stores : Stores) (scope : String) (rule : ScopeRule)
    (issuer : Option String) (token : Option String) (hint : Json) (requester : Requester) :
    ∃ outcome,
      (stores.calm.run (introspect (.ofTexts scope rule issuer) token hint requester)).result =
        .ok outcome ∧
      (outcome = .inactive .missingInput ↔ token = none ∨ token = some "") ∧
      (outcome = .inactive .tokenNotFound ↔
        ∃ value profile, IsGiven token value ∧ Entitled stores.find scope requester profile ∧
          stores.accessTokens.get? value = none ∧ stores.refreshTokens.get? value = none) ∧
      (∀ told, outcome = .active told ↔
        ∃ value profile found, IsGiven token value ∧
          Entitled stores.find scope requester profile ∧
          Records.token? stores.find value = some found ∧ MaySee rule profile found ∧
          told = answer issuer found (Records.user? stores.find found.grant)) ∧
      (∀ reason, outcome = .forbidden reason ↔
        ∃ value, IsGiven token value ∧
          (Unentitled stores.find scope requester reason ∨
            reason = .notPermitted ∧ ∃ profile found,
              Entitled stores.find scope requester profile ∧
              Records.token? stores.find value = some found ∧ ¬ MaySee rule profile found)) := by
  obtain ⟨outcome, decided⟩ := exists_decides stores.find scope rule issuer token requester
  refine ⟨outcome, ?_, ⟨?_, ?_⟩, ⟨?_, ?_⟩, fun told => ⟨?_, ?_⟩, fun reason => ⟨?_, ?_⟩⟩
  · rw [Stores.run_calm, Records.run_result, decided.eval_introspect]
  · rintro rfl
    cases decided with
    | missing absent => exact absent
  · intro absent
    exact decided.unique (.missing absent)
  · rintro rfl
    cases decided with
    | unknown given entitled unnamed =>
      exact ⟨_, _, given, entitled, Records.token?_eq_none_iff.mp unnamed⟩
  · rintro ⟨value, profile, given, entitled, inNeither⟩
    exact decided.unique (.unknown given entitled (Records.token?_eq_none_iff.mpr inNeither))
  · rintro rfl
    cases decided with
    | shown given entitled named seen => exact ⟨_, _, _, given, entitled, named, seen, rfl⟩
  · rintro ⟨value, profile, found, given, entitled, named, seen, rfl⟩
    exact decided.unique (.shown given entitled named seen)
  · rintro rfl
    cases decided with
    | refused given unentitled => exact ⟨_, given, .inl unentitled⟩
    | hidden given entitled named unseen =>
      exact ⟨_, given, .inr ⟨rfl, _, _, entitled, named, unseen⟩⟩
  · rintro ⟨value, given, unentitled | ⟨rfl, profile, found, entitled, named, unseen⟩⟩
    · exact decided.unique (.refused given unentitled)
    · exact decided.unique (.hidden given entitled named unseen)

end Introspection
