import Introspection.Decision
import Introspection.Proofs.Evaluation

/-!
# Failures that are passed on

What becomes of a question that cannot be answered is up to the decision that asks it. A decision
meets no failures but those of a kind when any other failure that a question is answered with ends
it, as it is: nothing is asked or recorded after that, and no other failure takes its place
(`MeetsOnly`). This is shown of a decision construct by construct, a handler for the failures of
the kind among them (`MeetsOnly.except`).

Such a decision never mistakes a question that cannot be answered for one with some answer: where
it comes to one, it fails with what the question failed with (`eval_eq_error_of_asked`).
-/

namespace Introspection

namespace Inquiry

variable {Question : Type} {Reply : Question -> Type} {α β : Type} {kind : ProblemKind}

/-- A decision that meets no failures but those of a kind. -/
inductive MeetsOnly (kind : ProblemKind) : Inquiry Question Reply α -> Prop
  | done (value : α) : MeetsOnly kind (.done value)
  | fail (failure : Failure) : MeetsOnly kind (.fail failure)
  | note {rest : Inquiry Question Reply α} (event : Event) (after : MeetsOnly kind rest) :
      MeetsOnly kind (.note event rest)
  | ask {question : Question}
      {next : Except Failure (Reply question) -> Inquiry Question Reply α}
      (passedOn : ∀ failure, failure.isA kind = false -> next (.error failure) = .fail failure)
      (after : ∀ answer, MeetsOnly kind (next answer)) : MeetsOnly kind (.ask question next)

namespace MeetsOnly

variable {inquiry : Inquiry Question Reply α}

theorem record (event : Event) :
    MeetsOnly kind (.record event : Inquiry Question Reply Unit) :=
  .note event (.done ())

theorem ofExcept (computed : Except Failure α) :
    MeetsOnly kind (.ofExcept computed : Inquiry Question Reply α) := by
  cases computed with
  | ok value => exact .done value
  | error failure => exact .fail failure

/-- Where nothing is said about it, a question that cannot be answered ends the decision. -/
theorem question (asked : Question) :
    MeetsOnly kind (.question asked : Inquiry Question Reply (Reply asked)) :=
  .ask (fun _ _ => rfl) .ofExcept

theorem bind {next : α -> Inquiry Question Reply β} (first : MeetsOnly kind inquiry)
    (second : ∀ value, MeetsOnly kind (next value)) : MeetsOnly kind (inquiry >>= next) := by
  change MeetsOnly kind (inquiry.bind next)
  induction first with
  | done value => exact second value
  | fail failure => exact .fail failure
  | note event _ ih => exact .note event ih
  | ask passedOn _ ih =>
    refine .ask (fun failure other => ?_) ih
    rw [passedOn failure other]
    rfl

/-- A handler for the failures of a kind leaves all others to be passed on. -/
theorem except
    {handler : (failure : Failure) -> failure.isA kind = true -> Inquiry Question Reply α}
    (body : MeetsOnly kind inquiry)
    (handled : ∀ failure caught, MeetsOnly kind (handler failure caught)) :
    MeetsOnly kind (inquiry.except kind handler) := by
  unfold Inquiry.except
  induction body with
  | done value => exact .done value
  | fail failure =>
    rw [handle]
    split
    · exact handled failure _
    · exact .fail failure
  | note event _ ih => exact .note event ih
  | ask passedOn _ ih =>
    refine .ask (fun failure other => ?_) ih
    rw [passedOn failure other, handle, dif_neg (by simp [other])]

theorem orRefused (body : MeetsOnly .forbidden inquiry) :
    MeetsOnly .forbidden inquiry.orRefused := by
  have valued : MeetsOnly .forbidden
      (inquiry >>= fun value => .done (.ok value : Except Refusal α)) :=
    body.bind fun _ => .done _
  exact valued.except fun _ _ => .done _

theorem translate {Other : Type} {OtherReply : Other -> Type} {map : Question -> Other}
    {back : (question : Question) -> OtherReply (map question) -> Reply question}
    (body : MeetsOnly kind inquiry) : MeetsOnly kind (inquiry.translate map back) := by
  induction body with
  | done value => exact .done value
  | fail failure => exact .fail failure
  | note event _ ih => exact .note event ih
  | ask passedOn _ ih =>
    refine .ask (fun failure other => ?_) fun answer => ih _
    rw [Except.map, passedOn failure other]
    rfl

end MeetsOnly

/-- A question that cannot be answered ends a decision that does not meet the failure. -/
theorem eval_eq_error_of_asked
    {reply : (question : Question) -> Except Failure (Reply question)}
    {inquiry : Inquiry Question Reply α} (meets : MeetsOnly kind inquiry) {question : Question}
    {failure : Failure} (asked : question ∈ (inquiry.answered reply).asked)
    (failed : reply question = .error failure) (other : failure.isA kind = false) :
    inquiry.eval reply = .error failure := by
  induction meets with
  | done value => cases asked
  | fail failure => cases asked
  | note event _ ih => exact ih asked
  | @ask first next passedOn _ ih =>
    rcases List.mem_cons.mp asked with rfl | later
    · rw [eval, failed, passedOn failure other, eval]
    · exact ih (reply first) later

end Inquiry

namespace Decision

open Inquiry

/-- A decision that meets no failures but refusals. -/
abbrev MeetsRefusals {α : Type} (decision : Decision α) : Prop := decision.MeetsOnly .forbidden

theorem meets_lookup (question : Lookup) : (lookup question).MeetsRefusals :=
  .question question

theorem meets_authenticate (scope : Json) (requester : Requester) :
    (authenticate scope requester).MeetsRefusals := by
  cases requester with
  | delegated clientId granted =>
    refine (MeetsOnly.ofExcept _).bind fun held => ?_
    cases held with
    | false => exact .note _ (.fail _)
    | true =>
      refine (meets_lookup _).bind fun found => ?_
      cases found with
      | some profile => exact .done profile
      | none => exact .note _ (.fail _)
  | direct clientId authorities =>
    refine (meets_lookup _).bind fun found => ?_
    cases found with
    | none => exact .note _ (.fail _)
    | some profile =>
      dsimp only
      split
      · exact .done profile
      · exact .note _ (.fail _)

theorem meets_findToken (value : String) (hint : Json) : (findToken value hint).MeetsRefusals := by
  refine (meets_lookup _).bind fun found => ?_
  cases found with
  | some token => exact .done _
  | none =>
    refine .note _ ((meets_lookup _).bind fun found => ?_)
    cases found with
    | some token => exact .done _
    | none => exact .note _ (.done _)

theorem meets_findUser (grant : Grant) : (findUser grant).MeetsRefusals := by
  unfold findUser
  split
  · exact .done _
  · split
    · exact .done _
    · exact meets_lookup _

theorem meets_resolve (value : String) (hint : Json) : (resolve value hint).MeetsRefusals := by
  refine (meets_findToken value hint).bind fun found => ?_
  cases found with
  | none => exact .done _
  | some token => exact (meets_findUser token.grant).bind fun _ => .done _

theorem meets_delegatedRequester (credential : String) :
    (delegatedRequester credential).MeetsRefusals := by
  refine (meets_lookup _).bind fun found => ?_
  cases found with
  | none => exact .done _
  | some token => exact .note _ (.done _)

theorem meets_visibleToken (policy : Policy) (value : String) (hint : Json)
    (requester : Requester) : (visibleToken policy value hint requester).MeetsRefusals := by
  refine (meets_authenticate _ requester).bind fun profile =>
    (meets_resolve value hint).bind fun found => ?_
  cases found with
  | none => exact .done _
  | some resolved =>
    refine (MeetsOnly.ofExcept _).bind fun permitted => ?_
    cases permitted with
    | false => exact .fail _
    | true => exact .done _

/-- Of the failures that can come up in a decision, it meets the refusals and passes the others
on. -/
theorem meets_introspect (policy : Policy) (token : Option String) (hint : Json)
    (requester : Requester) : (introspect policy token hint requester).MeetsRefusals := by
  unfold introspect
  dsimp only
  split
  · exact .note _ (.done _)
  · refine (meets_visibleToken policy _ hint requester).orRefused.bind fun met => ?_
    cases met with
    | error refusal => exact .note _ (.done _)
    | ok found =>
      cases found with
      | none => exact .done _
      | some resolved => exact (MeetsOnly.ofExcept _).bind fun _ => .note _ (.done _)

end Decision

end Introspection
