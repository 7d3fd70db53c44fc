import Introspection.Proofs.Decision.Law

/-!
# The steps of a decision

A decision about a token that is given authenticates the requester, goes on to find the token when
the requester may ask, and then applies the policy to what was found (`introspect_eq`). Each step
is described by what it asks and what it puts on record: authentication asks for the registration
of the requester alone (`asked_authenticate`), a search for a token for the two that the value may
name and for the user of the one that is found (`asked_resolve`), and of such a search the record
tells only of which kind the token is (`events_resolve`).
-/

namespace Introspection

namespace Decision

section Lookups

variable {reply : (question : Lookup) -> Except Failure question.Reply}

-- As in `Records.eval_lookup`, the type of the answer is not indexed.
@[simp] theorem asked_lookup (question : Lookup) :
    @Transcript.asked _ _ (no_index question.Reply)
      (@Inquiry.answered _ _ (no_index question.Reply) reply (lookup question)) = [question] :=
  Inquiry.asked_question question

@[simp] theorem events_lookup (question : Lookup) :
    @Transcript.events _ _ (no_index question.Reply)
      (@Inquiry.answered _ _ (no_index question.Reply) reply (lookup question)) = [] :=
  Inquiry.events_question question

/-- Authentication asks for nothing but the registration of the requester. -/
theorem asked_authenticate {scope : Json} {requester : Requester} {question : Lookup}
    (asked : question ∈ ((authenticate scope requester).answered reply).asked) :
    question = .client requester.clientId := by
  cases requester with
  | delegated clientId granted =>
    simp only [authenticate, Inquiry.mem_asked_bind, Inquiry.asked_ofExcept, List.not_mem_nil,
      false_or, Inquiry.eval_ofExcept] at asked
    obtain ⟨held, _, asked⟩ := asked
    split at asked
    · rw [Inquiry.mem_asked_bind] at asked
      rcases asked with first | ⟨found, _, rest⟩
      · simpa [Requester.clientId] using first
      · cases found with
        | none => simp [Inquiry.mem_asked_bind] at rest
        | some profile => simp at rest
    · simp [Inquiry.mem_asked_bind] at asked
  | direct clientId authorities =>
    rw [authenticate, Inquiry.mem_asked_bind] at asked
    rcases asked with first | ⟨found, _, rest⟩
    · simpa [Requester.clientId] using first
    · cases found with
      | none => simp [Inquiry.mem_asked_bind] at rest
      | some profile =>
        dsimp only at rest
        split at rest
        · simp at rest
        · simp [Inquiry.mem_asked_bind] at rest

/-- Authentication runs alike where the registration of the requester is answered alike. -/
theorem answered_authenticate_congr {first second : (question : Lookup) ->
    Except Failure question.Reply} {requester : Requester}
    (agree : first (.client requester.clientId) = second (.client requester.clientId))
    (scope : Json) :
    (authenticate scope requester).answered first =
      (authenticate scope requester).answered second := by
  apply Inquiry.answered_congr
  intro question asked
  obtain rfl := asked_authenticate asked
  exact agree

/-- Authentication ends alike where the registration of the requester is answered alike. -/
theorem eval_authenticate_congr {first second : (question : Lookup) ->
    Except Failure question.Reply} {requester : Requester} {scope : Json}
    (agree : first (.client requester.clientId) = second (.client requester.clientId)) :
    (authenticate scope requester).eval first = (authenticate scope requester).eval second := by
  rw [← Inquiry.answered_result, answered_authenticate_congr agree, Inquiry.answered_result]

/-- A search for a user ends alike where the user that a token was issued for is answered alike, as
the owner of the token sees them. -/
theorem eval_findUser_congr {first second : (question : Lookup) -> Except Failure question.Reply}
    {grant : Grant} (agree : ∀ username, grant.principal = some username ->
      first (.user username grant.clientId) = second (.user username grant.clientId)) :
    (findUser grant).eval first = (findUser grant).eval second := by
  unfold findUser
  split
  · rfl
  · next username isName =>
    split
    · rfl
    · rw [lookup, Inquiry.eval_question, Inquiry.eval_question]
      exact agree username isName

/-- A search for a user puts nothing on record. -/
theorem events_findUser (grant : Grant) : ((findUser grant).answered reply).events = [] := by
  unfold findUser
  split
  · rfl
  · split
    · rfl
    · exact events_lookup _

/-- Refusing an answer asks for nothing. -/
theorem asked_refuse (requester : Requester) (refusal : Refusal) :
    ((refuse requester refusal).answered reply).asked = [] := rfl

/-- A search for a token asks for the two that the value may name. -/
theorem asked_findToken {value : String} {hint : Json} {question : Lookup}
    (asked : question ∈ ((findToken value hint).answered reply).asked) :
    question = .access value ∨ question = .refresh value := by
  rw [findToken, Inquiry.mem_asked_bind] at asked
  rcases asked with first | ⟨found, _, rest⟩
  · exact .inl (by simpa using first)
  · cases found with
    | some token => simp at rest
    | none =>
      simp only [Inquiry.mem_asked_bind, Inquiry.asked_record, List.not_mem_nil, false_or,
        asked_lookup, List.mem_singleton] at rest
      obtain ⟨_, _, second | ⟨found, _, rest⟩⟩ := rest
      · exact .inr second
      · cases found with
        | some token => simp at rest
        | none => simp [Inquiry.mem_asked_bind] at rest

/-- A search for a user asks for the one that the grant names. -/
theorem asked_findUser {grant : Grant} {question : Lookup}
    (asked : question ∈ ((findUser grant).answered reply).asked) :
    ∃ principal, grant.principal = some principal ∧
      question = .user principal grant.clientId := by
  unfold findUser at asked
  split at asked
  · simp at asked
  · next principal named =>
    split at asked
    · simp at asked
    · exact ⟨principal, named, by simpa using asked⟩

/-- A search for a token with its user asks for the token, and then for the user. -/
theorem asked_resolve {value : String} {hint : Json} {question : Lookup}
    (asked : question ∈ ((resolve value hint).answered reply).asked) :
    question = .access value ∨ question = .refresh value ∨
      ∃ token principal, (findToken value hint).eval reply = .ok (some token) ∧
        token.grant.principal = some principal ∧
          question = .user principal token.grant.clientId := by
  rw [resolve, Inquiry.mem_asked_bind] at asked
  rcases asked with first | ⟨found, result, rest⟩
  · exact (asked_findToken first).imp_right .inl
  · cases found with
    | none => simp at rest
    | some token =>
      rcases Inquiry.mem_asked_bind.mp rest with user | ⟨_, _, none⟩
      · obtain ⟨principal, named, is⟩ := asked_findUser user
        exact .inr (.inr ⟨token, principal, result, named, is⟩)
      · simp at none

end Lookups

/-- Scopes cannot be told to hold a scope only where it is of another type. -/
theorem isHeld_eq_error {scopes : ScopeSet} {required : Json} {failure : Failure}
    (failed : isHeld scopes required = .error failure) : failure = .wrongType := by
  cases required with
  | list items => exact (Except.error.inj failed).symm
  | object members => exact (Except.error.inj failed).symm
  | _ => cases failed

/-- The policy cannot be told only where the scope that it asks for is of another type. -/
theorem isPermitted_eq_error {scope : Json} {rule : ScopeRule} {requester : Requester}
    {profile : ClientProfile} {owner : String} {scopes : ScopeSet} {failure : Failure}
    (failed : isPermitted scope rule requester profile owner scopes = .error failure) :
    failure = .wrongType := by
  unfold isPermitted at failed
  split at failed
  · cases failed
  · cases requester with
    | delegated clientId granted =>
      cases held : isHeld granted scope with
      | ok answer => simp [mayCrossClients, held, Except.map] at failed
      | error other =>
        obtain rfl := isHeld_eq_error held
        simpa [mayCrossClients, held, Except.map] using failed.symm
    | direct clientId authorities => cases failed

/-- What is left to decide when it has been found out which token a value names: whether the
policy lets the requester see it, and what is told about it. -/
def afterResolution (policy : Policy) (requester : Requester) (profile : ClientProfile) :
    Except Refusal (Option ResolvedToken) -> Decision Outcome
  | .error refusal => refuse requester refusal
  | .ok none => return .inactive .tokenNotFound
  | .ok (some resolved) => do
    let grant := resolved.token.grant
    if <- Inquiry.ofExcept (isPermitted policy.protectionScope policy.rule requester profile
        grant.clientId grant.scopes) then tell policy requester resolved
    else refuse requester .notPermitted

/-- When the token has been found, nothing more is asked for. -/
theorem asked_afterResolution {reply : (question : Lookup) -> Except Failure question.Reply}
    (policy : Policy) (requester : Requester) (profile : ClientProfile)
    (resolved : Except Refusal (Option ResolvedToken)) :
    ((afterResolution policy requester profile resolved).answered reply).asked = [] := by
  cases resolved with
  | error refusal => rfl
  | ok found =>
    cases found with
    | none => rfl
    | some resolved =>
      refine List.eq_nil_iff_forall_not_mem.mpr fun question asked => ?_
      simp only [afterResolution, Inquiry.mem_asked_bind, Inquiry.asked_ofExcept, List.not_mem_nil,
        false_or] at asked
      obtain ⟨permitted, _, asked⟩ := asked
      cases permitted with
      | false => simp [asked_refuse] at asked
      | true => simp [tell, Inquiry.mem_asked_bind] at asked

/-- What is left to decide when it has been found out whether the requester may ask. -/
def afterAuthentication (policy : Policy) (value : String) (hint : Json) (requester : Requester) :
    Except Refusal ClientProfile -> Decision Outcome
  | .error refusal => refuse requester refusal
  | .ok profile => (resolve value hint).orRefused >>= afterResolution policy requester profile

/-- A decision about a token that is given is authentication, and then the rest. -/
theorem introspect_eq {value : String} (nonempty : value ≠ "") (policy : Policy) (hint : Json)
    (requester : Requester) :
    introspect policy (some value) hint requester =
      (authenticate policy.protectionScope requester).orRefused >>=
        afterAuthentication policy value hint requester := by
  have given : ¬ value.isEmpty = true := by simpa using nonempty
  simp only [introspect, Option.getD_some, if_neg given, visibleToken, Inquiry.bind_orRefused_bind]
  congr 1
  funext admitted
  cases admitted with
  | error refusal => rfl
  | ok profile =>
    refine congrArg (Inquiry.bind · _) (funext fun found => ?_)
    rcases found with refusal | _ | resolved
    · rfl
    · rfl
    · dsimp only [afterResolution]
      rw [Inquiry.bind_orRefused_bind, Inquiry.ofExcept_orRefused]
      cases permitted : isPermitted policy.protectionScope policy.rule requester profile
          resolved.token.grant.clientId resolved.token.grant.scopes with
      | ok may => cases may <;> rfl
      | error failure =>
        obtain rfl := isPermitted_eq_error permitted
        rfl

/-- What a search for a token puts on record follows from the kind of the token that is found. -/
theorem events_findToken (records : Records) (value : String) (hint : Json) :
    ((findToken value hint).answered records.reply).events =
      match records.token? value with
      | some (.access _) => []
      | some (.refresh _) => [.accessTokenNotFound hint]
      | none => [.accessTokenNotFound hint, .tokenNotFound hint] := by
  rw [findToken, Inquiry.events_bind (Records.eval_lookup records (.access value)), events_lookup]
  cases access : records (.access value) with
  | some token => simp [Records.token?, access]
  | none =>
    simp only
    rw [Inquiry.events_bind (Inquiry.eval_record _),
      Inquiry.events_bind (Records.eval_lookup records (.refresh value)), events_lookup]
    cases refresh : records (.refresh value) with
    | some token => simp [Records.token?, access, refresh]
    | none => simp [Records.token?, access, refresh, Inquiry.events_bind (Inquiry.eval_record _)]

/-- Finding a token with its user puts on record what finding the token does. -/
theorem events_resolve (records : Records) (value : String) (hint : Json) :
    ((resolve value hint).answered records.reply).events =
      ((findToken value hint).answered records.reply).events := by
  rw [resolve, Inquiry.events_bind (eval_findToken records value hint)]
  cases records.token? value with
  | none => simp
  | some token =>
    simp only
    rw [Inquiry.events_bind (eval_findUser records token.grant), events_findUser]
    simp

end Decision

end Introspection
