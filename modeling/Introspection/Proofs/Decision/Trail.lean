import Introspection.Proofs.Decision.Steps

/-!
# What the record tells of a decision

Four events tell how a request was decided: no token was given, the token was not found, the
answer was refused, or the token was told about. A decision that comes to an outcome puts one of
them on record, once, after everything else, and it is the one of that outcome; a decision that
fails puts none of them on record (`introspect_trail`).

A run that ends like this is `Concluded`. Steps that put no such event on record may come before
its end (`Inquiry.concluded_bind`), and the event itself is the end (`Inquiry.concluded_record`), so
that each way through a decision is followed to the step in which it is concluded.
-/

namespace Introspection

namespace Event

/-- The names of the events that tell how a request was decided. -/
def decisionNames : List String :=
  ["introspection_missing_token", "token_not_found", "introspection_forbidden",
    "introspection_active"]

/-- An event tells how a request was decided. -/
def IsDecision (event : Event) : Prop := event.name ∈ decisionNames

instance : DecidablePred IsDecision := fun event =>
  inferInstanceAs (Decidable (event.name ∈ decisionNames))

end Event

variable {Question State : Type} {Reply : Question -> Type} {α β : Type}

/-- The events of a run that tell how the request was decided. -/
def Transcript.decisions (transcript : Transcript Question State α) : List Event :=
  transcript.events.filter fun event => event.IsDecision

/-- A run that comes to a result has one event that tells of a decision; this is its last event,
and it tells of the result. A run that fails has none. -/
structure Transcript.Concluded (tells : α -> Event -> Prop)
    (transcript : Transcript Question State α) : Prop where
  ended : ∀ value, transcript.result = .ok value ->
    ∃ last, transcript.events.getLast? = some last ∧ transcript.decisions = [last] ∧
      tells value last
  failed : ∀ failure, transcript.result = .error failure -> transcript.decisions = []

namespace Inquiry

variable {reply : (question : Question) -> Except Failure (Reply question)}
  {inquiry : Inquiry Question Reply α} {next : α -> Inquiry Question Reply β}
  {tells : β -> Event -> Prop}

/-- Steps of which none tells of a decision do not tell of it together. -/
theorem decisions_bind (first : (inquiry.answered reply).decisions = [])
    (rest : ∀ value, inquiry.eval reply = .ok value ->
      ((next value).answered reply).decisions = []) :
    ((inquiry >>= next).answered reply).decisions = [] := by
  simp only [Transcript.decisions, List.filter_eq_nil_iff] at first rest ⊢
  intro event recorded
  rcases mem_events_bind.mp recorded with earlier | ⟨value, result, later⟩
  · exact first event earlier
  · exact rest value result event later

/-- Meeting refusals tells of no decision. -/
theorem decisions_orRefused (inquiry : Inquiry Question Reply α) :
    (inquiry.orRefused.answered reply).decisions = (inquiry.answered reply).decisions := by
  rw [Transcript.decisions, events_orRefused, Transcript.decisions]

/-- A run is concluded by what is done after steps that do not tell of a decision. -/
theorem concluded_bind (first : (inquiry.answered reply).decisions = [])
    (rest : ∀ value, inquiry.eval reply = .ok value ->
      ((next value).answered reply).Concluded tells) :
    ((inquiry >>= next).answered reply).Concluded tells := by
  cases result : inquiry.eval reply with
  | error failure =>
    refine ⟨fun value ended => ?_, fun _ _ => decisions_bind first fun value ended => ?_⟩
    · simp [result] at ended
    · cases result.symm.trans ended
  | ok value =>
    have events : ((inquiry >>= next).answered reply).events =
        (inquiry.answered reply).events ++ ((next value).answered reply).events :=
      events_bind result
    have same : ((inquiry >>= next).answered reply).result =
        ((next value).answered reply).result := by simp [result]
    have decisions : ((inquiry >>= next).answered reply).decisions =
        ((next value).answered reply).decisions := by
      rw [Transcript.decisions, events, List.filter_append]
      exact congrArg (· ++ _) first
    obtain ⟨ended, failed⟩ := rest value result
    rw [← same, ← decisions] at ended failed
    refine ⟨fun told final => ?_, failed⟩
    obtain ⟨last, isLast, only, tells⟩ := ended told final
    exact ⟨last, by simp [events, isLast], only, tells⟩

/-- A run is concluded by what is done with the result of steps that do not tell of a decision, and
by what is done about a refusal that is met in them. -/
theorem concluded_orRefused {met : Except Refusal α -> Inquiry Question Reply β}
    (first : (inquiry.answered reply).decisions = [])
    (refused : ∀ refusal, ((met (.error refusal)).answered reply).Concluded tells)
    (rest : ∀ value, inquiry.eval reply = .ok value ->
      ((met (.ok value)).answered reply).Concluded tells) :
    ((inquiry.orRefused >>= met).answered reply).Concluded tells := by
  refine concluded_bind ((decisions_orRefused inquiry).trans first) fun ended result => ?_
  cases ended with
  | error refusal => exact refused refusal
  | ok value => exact rest value (by simpa using result)

/-- A run is concluded by an event that tells of its result. -/
theorem concluded_record {event : Event} {value : β} (decision : event.IsDecision)
    (told : tells value event) :
    ((record event >>= fun _ => pure value : Inquiry Question Reply β).answered reply).Concluded
      tells := by
  refine ⟨fun other ended => ?_, fun failure failed => by cases failed⟩
  obtain rfl : value = other := Except.ok.inj ended
  exact ⟨event, rfl, List.filter_cons_of_pos (decide_eq_true decision), told⟩

end Inquiry

/-- The event that an outcome is put on record as: that no token was given, that it was not found,
why the answer was refused, or of which client the token is that was told about. -/
inductive Outcome.RecordedAs (records : Records) (policy : Policy) (token : Option String)
    (hint : Json) (requester : Requester) : Outcome -> Event -> Prop
  | missing : RecordedAs records policy token hint requester (.inactive .missingInput)
      (.missingToken requester.clientId)
  | unknown : RecordedAs records policy token hint requester (.inactive .tokenNotFound)
      (.tokenNotFound hint)
  | refused (refusal : Refusal) :
      RecordedAs records policy token hint requester (.forbidden refusal)
        (.forbidden requester.clientId refusal.name)
  | shown {value : String} {found : SubjectToken} {told : Answer} (given : IsGiven token value)
      (named : records.token? value = some found)
      (assembled : Decision.assemble policy.issuer found (records.user? found.grant) = .ok told) :
      RecordedAs records policy token hint requester (.active told)
        (.active requester.clientId found.grant.clientId)

/-- Each of the events that outcomes are put on record as tells how a request was decided. -/
theorem Outcome.RecordedAs.isDecision {records : Records} {policy : Policy}
    {token : Option String} {hint : Json} {requester : Requester} {outcome : Outcome}
    {event : Event} (recorded : outcome.RecordedAs records policy token hint requester event) :
    event.IsDecision := by
  cases recorded <;> simp [Event.IsDecision, Event.name, Event.decisionNames]

namespace Decision

section Lookups

variable {reply : (question : Lookup) -> Except Failure question.Reply}

theorem decisions_lookup (question : Lookup) :
    ((lookup question).answered reply).decisions = [] := by
  rw [Transcript.decisions, events_lookup]
  rfl

theorem decisions_ofExcept {α : Type} (computed : Except Failure α) :
    ((Inquiry.ofExcept computed : Decision α).answered reply).decisions = [] := by
  rw [Transcript.decisions, Inquiry.events_ofExcept]
  rfl

/-- Why a requester may not ask is put on record, but that is not yet the answer to it. -/
theorem decisions_authenticate (scope : Json) (requester : Requester) :
    ((authenticate scope requester).answered reply).decisions = [] := by
  cases requester with
  | delegated clientId granted =>
    refine Inquiry.decisions_bind (decisions_ofExcept _) fun held _ => ?_
    cases held with
    | false => rfl
    | true =>
      refine Inquiry.decisions_bind (decisions_lookup _) fun profile _ => ?_
      cases profile with
      | some profile => rfl
      | none => rfl
  | direct clientId authorities =>
    refine Inquiry.decisions_bind (decisions_lookup _) fun profile _ => ?_
    cases profile with
    | none => rfl
    | some profile =>
      dsimp only
      split
      · rfl
      · rfl

/-- A search for a user tells of no decision. -/
theorem decisions_findUser (grant : Grant) :
    ((findUser grant).answered reply).decisions = [] := by
  rw [Transcript.decisions, events_findUser]
  rfl

end Lookups

/-- A search for a token in which refusals are met, and what is done then, step by step. -/
theorem findToken_bind {α : Type} (value : String) (hint : Json)
    (next : Except Refusal (Option SubjectToken) -> Decision α) :
    (findToken value hint).orRefused >>= next = (do
      match <- (lookup (.access value)).orRefused with
      | .error refusal => next (.error refusal)
      | .ok (some token) => next (.ok (some (.access token)))
      | .ok none =>
        Inquiry.record (.accessTokenNotFound hint)
        match <- (lookup (.refresh value)).orRefused with
        | .error refusal => next (.error refusal)
        | .ok (some token) => next (.ok (some (.refresh token)))
        | .ok none =>
          Inquiry.record (.tokenNotFound hint)
          next (.ok none)) := by
  rw [findToken, Inquiry.bind_orRefused_bind]
  refine congrArg (Inquiry.bind · _) (funext fun met => ?_)
  rcases met with refusal | _ | token
  · rfl
  · refine congrArg (Inquiry.note (.accessTokenNotFound hint)) ?_
    refine (Inquiry.bind_orRefused_bind (lookup (.refresh value)) _ next).trans ?_
    refine congrArg (Inquiry.bind · _) (funext fun met => ?_)
    rcases met with refusal | _ | token
    · rfl
    · rfl
    · rfl
  · rfl

/-- A search for a token with its user in which refusals are met, and what is done then, step by
step. -/
theorem resolve_bind {α : Type} (value : String) (hint : Json)
    (next : Except Refusal (Option ResolvedToken) -> Decision α) :
    (resolve value hint).orRefused >>= next = (do
      match <- (findToken value hint).orRefused with
      | .error refusal => next (.error refusal)
      | .ok none => next (.ok none)
      | .ok (some token) =>
        match <- (findUser token.grant).orRefused with
        | .error refusal => next (.error refusal)
        | .ok user => next (.ok (some ⟨token, user⟩))) := by
  rw [resolve, Inquiry.bind_orRefused_bind]
  refine congrArg (Inquiry.bind · _) (funext fun met => ?_)
  rcases met with refusal | _ | token
  · rfl
  · rfl
  · refine (Inquiry.bind_orRefused_bind (findUser token.grant) _ next).trans ?_
    refine congrArg (Inquiry.bind · _) (funext fun met => ?_)
    cases met with
    | error refusal => rfl
    | ok user => rfl

section Conclusion

variable {reply : (question : Lookup) -> Except Failure question.Reply} {records : Records}
  {policy : Policy} {token : Option String} {hint : Json} {requester : Requester}

/-- A decision is concluded by the event that its outcome is put on record as. -/
theorem concluded_recordedAs {outcome : Outcome} {event : Event}
    (recorded : outcome.RecordedAs records policy token hint requester event) :
    ((Inquiry.record event >>= fun _ => pure outcome : Decision Outcome).answered reply).Concluded
      (Outcome.RecordedAs records policy token hint requester) :=
  Inquiry.concluded_record recorded.isDecision recorded

/-- A decision that looks for a token is concluded where there is none, and otherwise by what is
done with the token, or about a refusal that is met. -/
theorem concluded_findToken {value : String}
    {next : Except Refusal (Option SubjectToken) -> Decision Outcome}
    (refused : ∀ refusal, next (.error refusal) = refuse requester refusal)
    (unknown : next (.ok none) = pure (.inactive .tokenNotFound))
    (known : ∀ found, (findToken value hint).eval reply = .ok (some found) ->
      ((next (.ok (some found))).answered reply).Concluded
        (Outcome.RecordedAs records policy token hint requester)) :
    (((findToken value hint).orRefused >>= next).answered reply).Concluded
      (Outcome.RecordedAs records policy token hint requester) := by
  have isRefused (refusal : Refusal) : ((next (.error refusal)).answered reply).Concluded
      (Outcome.RecordedAs records policy token hint requester) := by
    rw [refused]
    exact concluded_recordedAs (.refused refusal)
  rw [findToken_bind, unknown]
  refine Inquiry.concluded_orRefused (decisions_lookup _) isRefused fun access first => ?_
  cases access with
  | some found => exact known (.access found) (by simp [findToken, first])
  | none =>
    refine Inquiry.concluded_bind rfl fun _ _ => ?_
    refine Inquiry.concluded_orRefused (decisions_lookup _) isRefused fun refresh second => ?_
    cases refresh with
    | some found => exact known (.refresh found) (by simp [findToken, first, second])
    | none => exact concluded_recordedAs .unknown

/-- A decision about a token that was found is concluded by telling about it, or by refusing to. -/
theorem concluded_afterResolution {value : String} {found : SubjectToken}
    (given : IsGiven token value) (named : records.token? value = some found)
    (profile : ClientProfile) :
    ((afterResolution policy requester profile
        (.ok (some ⟨found, records.user? found.grant⟩))).answered reply).Concluded
      (Outcome.RecordedAs records policy token hint requester) := by
  refine Inquiry.concluded_bind (decisions_ofExcept _) fun permitted _ => ?_
  cases permitted with
  | false => exact concluded_recordedAs (.refused .notPermitted)
  | true =>
    refine Inquiry.concluded_bind (decisions_ofExcept _) fun told assembled => ?_
    rw [Inquiry.eval_ofExcept] at assembled
    exact concluded_recordedAs (.shown given named assembled)

end Conclusion

/-- The record agrees with the answer. Of the events that tell how a request was decided, a
decision that comes to an outcome puts exactly one on record, as its last event, and it is the one
of that outcome; a decision that fails puts none on record. -/
theorem introspect_trail (stores : Stores) (policy : Policy) (token : Option String) (hint : Json)
    (requester : Requester) :
    (stores.run (introspect policy token hint requester)).Concluded
      (Outcome.RecordedAs stores.find policy token hint requester) := by
  change ((introspect policy token hint requester).answered stores.reply).Concluded _
  rcases isGiven_or_absent token with ⟨value, given⟩ | absent
  · obtain ⟨rfl, nonempty⟩ := given
    rw [introspect_eq nonempty]
    refine Inquiry.concluded_orRefused (decisions_authenticate _ _)
      (fun refusal => concluded_recordedAs (.refused refusal)) fun profile _ => ?_
    rw [afterAuthentication, resolve_bind]
    refine concluded_findToken (fun _ => rfl) rfl fun found ended => ?_
    have named : Records.token? stores.find value = some found := Except.ok.inj
      ((eval_findToken _ _ _).symm.trans (Stores.eval_find_of_eq_ok (meets_findToken _ _) ended))
    refine Inquiry.concluded_orRefused (decisions_findUser _)
      (fun refusal => concluded_recordedAs (.refused refusal)) fun user ended => ?_
    obtain rfl : Records.user? stores.find found.grant = user := Except.ok.inj
      ((eval_findUser _ _).symm.trans (Stores.eval_find_of_eq_ok (meets_findUser _) ended))
    exact concluded_afterResolution ⟨rfl, nonempty⟩ named profile
  · rcases absent with rfl | rfl
    · exact concluded_recordedAs .missing
    · exact concluded_recordedAs .missing

end Decision

end Introspection
