import Introspection.Inquiry

/-!
# Inquiries with fixed answers

Where every question has one answer, whatever was asked before, a run leaves no state worth
speaking of. `Inquiry.answered` is such a run, `Inquiry.eval` its result alone, which is a
computation with failures: by `eval_bind`, one decision after another is one evaluation after the
other, and by `eval_orRefused`, the refusals that a decision meets are values of it. `visible_run`
is how a run with memory becomes one without: it is enough that the memory keeps an invariant under
which it answers as if it were not there.
-/

namespace Introspection

section Computation

variable {ε α β : Type}

@[simp] theorem ok_bind (value : α) (next : α -> Except ε β) :
    (Except.ok value >>= next) = next value := rfl

@[simp] theorem error_bind (error : ε) (next : α -> Except ε β) :
    (Except.error error >>= next) = Except.error error := rfl

@[simp] theorem pure_eq_ok (value : α) : (pure value : Except ε α) = .ok value := rfl

@[simp] theorem throw_eq_error (error : ε) : (throw error : Except ε α) = .error error := rfl

/-- A computation in two steps has a value when the first one has a value, from which the second
one has it. -/
theorem bind_eq_ok {first : Except ε α} {next : α -> Except ε β} {value : β} :
    first >>= next = .ok value ↔ ∃ middle, first = .ok middle ∧ next middle = .ok value := by
  cases first with
  | ok middle => simp
  | error error => simp

/-- A computation in two steps has an error when the first one has it, or when the first one has a
value from which the second one has it. -/
theorem bind_eq_error {first : Except ε α} {next : α -> Except ε β} {error : ε} :
    first >>= next = .error error ↔
      first = .error error ∨ ∃ middle, first = .ok middle ∧ next middle = .error error := by
  cases first with
  | ok middle => simp
  | error other => simp

/-- What is left of a computation without its error is its value. -/
theorem eq_ok_of_toOption {computed : Except ε α} {value : α}
    (left : computed.toOption = some value) : computed = .ok value := by
  cases computed with
  | ok other => exact congrArg Except.ok (Option.some.inj left)
  | error error => cases left

end Computation

section Refusals

variable {α : Type} {computed : Except Failure α} {value : α}

/-- What becomes of a computation whose refusals are met: they are values of it. -/
def refusable : Except Failure α -> Except Failure (Except Refusal α)
  | .ok value => .ok (.ok value)
  | .error (.refused refusal) => .ok (.error refusal)
  | .error failure => .error failure

@[simp] theorem refusable_ok (value : α) : refusable (.ok value) = .ok (.ok value) := rfl

@[simp] theorem refusable_refused (refusal : Refusal) :
    refusable (.error (.refused refusal) : Except Failure α) = .ok (.error refusal) := rfl

@[simp] theorem refusable_eq_ok_ok :
    refusable computed = .ok (.ok value) ↔ computed = .ok value := by
  unfold refusable
  split <;> simp

end Refusals

variable {Question State : Type} {Reply : Question -> Type} {α β : Type}

/-- A transcript as it is seen from outside, without the state in which the run ended. -/
def Transcript.visible (transcript : Transcript Question State α) : Transcript Question Unit α :=
  { transcript with state := () }

@[simp] theorem Transcript.visible_result (transcript : Transcript Question State α) :
    transcript.visible.result = transcript.result := rfl

@[simp] theorem Transcript.visible_asked (transcript : Transcript Question State α) :
    transcript.visible.asked = transcript.asked := rfl

@[simp] theorem Transcript.visible_events (transcript : Transcript Question State α) :
    transcript.visible.events = transcript.events := rfl

namespace Inquiry

/-- The result of a decision whose questions have fixed answers. -/
def eval (reply : (question : Question) -> Except Failure (Reply question)) :
    Inquiry Question Reply α -> Except Failure α
  | .done value => .ok value
  | .fail failure => .error failure
  | .note _ rest => rest.eval reply
  | .ask question rest => (rest (reply question)).eval reply

/-- The run of a decision whose questions have fixed answers. -/
def answered (reply : (question : Question) -> Except Failure (Reply question))
    (inquiry : Inquiry Question Reply α) : Transcript Question Unit α :=
  inquiry.run (fun question _ => (reply question, ())) ()

section Evaluation

variable {reply : (question : Question) -> Except Failure (Reply question)}

@[simp] theorem eval_pure (value : α) :
    (pure value : Inquiry Question Reply α).eval reply = .ok value := rfl

@[simp] theorem eval_fail (failure : Failure) :
    (.fail failure : Inquiry Question Reply α).eval reply = .error failure := rfl

@[simp] theorem eval_record (event : Event) :
    (record event : Inquiry Question Reply Unit).eval reply = .ok () := rfl

@[simp] theorem eval_ofExcept (computed : Except Failure α) :
    (ofExcept computed : Inquiry Question Reply α).eval reply = computed := by
  cases computed with
  | ok value => rfl
  | error failure => rfl

/-- What has a value is gone on with. -/
theorem ofExcept_ok_bind (value : α) (next : α -> Inquiry Question Reply β) :
    (ofExcept (.ok value) >>= next) = next value := rfl

@[simp] theorem eval_question (asked : Question) :
    (question asked : Inquiry Question Reply (Reply asked)).eval reply = reply asked :=
  eval_ofExcept (reply asked)

/-- What is done after a decision is evaluated after it, unless the decision failed. -/
@[simp] theorem eval_bind (inquiry : Inquiry Question Reply α)
    (next : α -> Inquiry Question Reply β) :
    (inquiry >>= next).eval reply =
      inquiry.eval reply >>= fun value => (next value).eval reply := by
  change (inquiry.bind next).eval reply = (inquiry.eval reply).bind _
  induction inquiry with
  | done value => rfl
  | fail failure => rfl
  | note event rest ih => exact ih
  | ask question rest ih => exact ih (reply question)

/-- Questions asked in place of others are evaluated by the answers that are read back. -/
theorem eval_translate {Other : Type} {OtherReply : Other -> Type} (map : Question -> Other)
    (back : (question : Question) -> OtherReply (map question) -> Reply question)
    (other : (question : Other) -> Except Failure (OtherReply question))
    (inquiry : Inquiry Question Reply α) :
    (inquiry.translate map back).eval other =
      inquiry.eval fun question => (other (map question)).map (back question) := by
  induction inquiry with
  | done value => rfl
  | fail failure => rfl
  | note event rest ih => exact ih
  | ask question rest ih => exact ih ((other (map question)).map (back question))

/-- A run with fixed answers ends as the evaluation says. -/
@[simp] theorem answered_result (inquiry : Inquiry Question Reply α) :
    (inquiry.answered reply).result = inquiry.eval reply := by
  induction inquiry with
  | done value => rfl
  | fail failure => rfl
  | note event rest ih => exact ih
  | ask question rest ih => exact ih (reply question)

/-- The run of two decisions, one after the other. -/
theorem answered_bind (inquiry : Inquiry Question Reply α) (next : α -> Inquiry Question Reply β) :
    (inquiry >>= next).answered reply =
      (inquiry.answered reply).followedBy fun value _ => (next value).answered reply :=
  run_bind inquiry next ()

@[simp] theorem asked_pure (value : α) :
    ((pure value : Inquiry Question Reply α).answered reply).asked = [] := rfl

@[simp] theorem asked_fail (failure : Failure) :
    ((.fail failure : Inquiry Question Reply α).answered reply).asked = [] := rfl

@[simp] theorem asked_record (event : Event) :
    ((record event : Inquiry Question Reply Unit).answered reply).asked = [] := rfl

@[simp] theorem asked_question (asked : Question) :
    ((question asked : Inquiry Question Reply (Reply asked)).answered reply).asked = [asked] := by
  simp only [question, answered, run]
  cases reply asked with
  | ok value => rfl
  | error failure => rfl

@[simp] theorem asked_ofExcept (computed : Except Failure α) :
    ((ofExcept computed : Inquiry Question Reply α).answered reply).asked = [] := by
  cases computed with
  | ok value => rfl
  | error failure => rfl

/-- One decision after another asks what the first one does, and then what the second one does
where the first one has a result. -/
theorem asked_bind (inquiry : Inquiry Question Reply α) (next : α -> Inquiry Question Reply β) :
    ((inquiry >>= next).answered reply).asked =
      (inquiry.answered reply).asked ++ match inquiry.eval reply with
        | .ok value => ((next value).answered reply).asked
        | .error _ => [] := by
  rw [answered_bind, ← answered_result]
  unfold Transcript.followedBy
  cases (inquiry.answered reply).result with
  | ok value => rfl
  | error failure => simp

/-- A question is asked by one decision after another when the first one asks it, or the second one
does on a result of the first. -/
theorem mem_asked_bind {inquiry : Inquiry Question Reply α}
    {next : α -> Inquiry Question Reply β} {question : Question} :
    question ∈ ((inquiry >>= next).answered reply).asked ↔
      question ∈ (inquiry.answered reply).asked ∨
        ∃ value, inquiry.eval reply = .ok value ∧
          question ∈ ((next value).answered reply).asked := by
  rw [asked_bind, List.mem_append]
  cases inquiry.eval reply with
  | ok value => simp
  | error failure => simp

@[simp] theorem events_pure (value : α) :
    ((pure value : Inquiry Question Reply α).answered reply).events = [] := rfl

@[simp] theorem events_fail (failure : Failure) :
    ((.fail failure : Inquiry Question Reply α).answered reply).events = [] := rfl

@[simp] theorem events_record (event : Event) :
    ((record event : Inquiry Question Reply Unit).answered reply).events = [event] := rfl

@[simp] theorem events_question (asked : Question) :
    ((question asked : Inquiry Question Reply (Reply asked)).answered reply).events = [] := by
  simp only [question, answered, run]
  cases reply asked with
  | ok value => rfl
  | error failure => rfl

@[simp] theorem events_ofExcept (computed : Except Failure α) :
    ((ofExcept computed : Inquiry Question Reply α).answered reply).events = [] := by
  cases computed with
  | ok value => rfl
  | error failure => rfl

/-- What two decisions put on record, one after the other, where the first one has a result. -/
theorem events_bind {inquiry : Inquiry Question Reply α} {next : α -> Inquiry Question Reply β}
    {value : α} (first : inquiry.eval reply = .ok value) :
    ((inquiry >>= next).answered reply).events =
      (inquiry.answered reply).events ++ ((next value).answered reply).events := by
  rw [answered_bind]
  simp [Transcript.followedBy, first]

/-- An event is put on record by one decision after another when the first one does it, or the
second one does on a result of the first. -/
theorem mem_events_bind {inquiry : Inquiry Question Reply α}
    {next : α -> Inquiry Question Reply β} {event : Event} :
    event ∈ ((inquiry >>= next).answered reply).events ↔
      event ∈ (inquiry.answered reply).events ∨
        ∃ value, inquiry.eval reply = .ok value ∧
          event ∈ ((next value).answered reply).events := by
  rw [answered_bind, ← answered_result]
  unfold Transcript.followedBy
  cases (inquiry.answered reply).result with
  | ok value => simp
  | error failure => simp

/-- A run depends on the answers to what it asks, and on nothing else. -/
theorem answered_congr {first second : (question : Question) -> Except Failure (Reply question)}
    {inquiry : Inquiry Question Reply α}
    (agree : ∀ question ∈ (inquiry.answered first).asked, first question = second question) :
    inquiry.answered first = inquiry.answered second := by
  induction inquiry with
  | done value => rfl
  | fail failure => rfl
  | note event rest ih =>
    simp only [answered, run] at ih agree ⊢
    rw [ih agree]
  | ask question rest ih =>
    have same : first question = second question := agree question List.mem_cons_self
    have after := ih (first question) fun other asked =>
      agree other (List.mem_cons_of_mem _ asked)
    simp only [answered, run, ← same] at after ⊢
    rw [after]

end Evaluation

section Refusals

variable {reply : (question : Question) -> State -> Except Failure (Reply question) × State}

/-- A decision whose refusals are met runs as it would otherwise, and may end with a refusal. -/
theorem run_orRefused (inquiry : Inquiry Question Reply α) (state : State) :
    inquiry.orRefused.run reply state =
      let transcript := inquiry.run reply state
      ⟨refusable transcript.result, transcript.asked, transcript.events, transcript.state⟩ := by
  induction inquiry generalizing state with
  | done value => rfl
  | fail failure =>
    cases failure with
    | refused refusal => cases refusal <;> rfl
    | _ => rfl
  | note event rest ih =>
    change (Inquiry.note event rest.orRefused).run reply state = _
    simp only [run, ih]
  | ask question rest ih =>
    change (Inquiry.ask question fun answer => (rest answer).orRefused).run reply state = _
    simp only [run, ih]

/-- What is done after a decision is done with what it comes to, and not where a refusal is met. -/
theorem bind_orRefused (inquiry : Inquiry Question Reply α)
    (next : α -> Inquiry Question Reply β) :
    (inquiry >>= next).orRefused = inquiry.orRefused >>= fun met =>
      match met with
      | .error refusal => .done (.error refusal)
      | .ok value => (next value).orRefused := by
  induction inquiry with
  | done value => rfl
  | fail failure =>
    cases failure with
    | refused refusal => cases refusal <;> rfl
    | _ => rfl
  | note event rest ih => exact congrArg (Inquiry.note event) ih
  | ask question rest ih => exact congrArg (Inquiry.ask question) (funext ih)

/-- What is done when the refusals of two steps are met is done after the first one where a refusal
is met there, and otherwise after the second one. -/
theorem bind_orRefused_bind {γ : Type} (inquiry : Inquiry Question Reply α)
    (next : α -> Inquiry Question Reply β)
    (last : Except Refusal β -> Inquiry Question Reply γ) :
    (inquiry >>= next).orRefused >>= last = inquiry.orRefused >>= fun met =>
      match met with
      | .error refusal => last (.error refusal)
      | .ok value => (next value).orRefused >>= last := by
  rw [bind_orRefused]
  refine (bind_assoc inquiry.orRefused _ last).trans ?_
  refine congrArg (Inquiry.bind · inquiry.orRefused) (funext fun met => ?_)
  cases met with
  | error refusal => rfl
  | ok value => rfl

/-- A computation whose refusals are met. -/
theorem ofExcept_orRefused (computed : Except Failure α) :
    (ofExcept computed : Inquiry Question Reply α).orRefused = ofExcept (refusable computed) := by
  cases computed with
  | ok value => rfl
  | error failure =>
    cases failure with
    | refused refusal => cases refusal <;> rfl
    | _ => rfl

variable {plain : (question : Question) -> Except Failure (Reply question)}

theorem answered_orRefused (inquiry : Inquiry Question Reply α) :
    inquiry.orRefused.answered plain =
      let transcript := inquiry.answered plain
      ⟨refusable transcript.result, transcript.asked, transcript.events, transcript.state⟩ :=
  run_orRefused inquiry ()

@[simp] theorem eval_orRefused (inquiry : Inquiry Question Reply α) :
    inquiry.orRefused.eval plain = refusable (inquiry.eval plain) := by
  rw [← answered_result, answered_orRefused, ← answered_result]

@[simp] theorem asked_orRefused (inquiry : Inquiry Question Reply α) :
    (inquiry.orRefused.answered plain).asked = (inquiry.answered plain).asked := by
  rw [answered_orRefused]

@[simp] theorem events_orRefused (inquiry : Inquiry Question Reply α) :
    (inquiry.orRefused.answered plain).events = (inquiry.answered plain).events := by
  rw [answered_orRefused]

end Refusals

section Memory

variable {reply : (question : Question) -> State -> Except Failure (Reply question) × State}
  {plain : (question : Question) -> Except Failure (Reply question)}

/-- A memory that keeps an invariant, and answers under it as if nothing was remembered, does not
show in a run. -/
theorem visible_run (invariant : State -> Prop)
    (answers : ∀ question state, invariant state ->
      (reply question state).1 = plain question ∧ invariant (reply question state).2)
    (inquiry : Inquiry Question Reply α) {state : State} (holds : invariant state) :
    (inquiry.run reply state).visible = inquiry.answered plain ∧
      invariant (inquiry.run reply state).state := by
  induction inquiry generalizing state with
  | done value => exact ⟨rfl, holds⟩
  | fail failure => exact ⟨rfl, holds⟩
  | note event rest ih =>
    obtain ⟨same, kept⟩ := ih holds
    refine ⟨?_, kept⟩
    simp only [answered, run] at same ⊢
    rw [← same]
    rfl
  | ask question rest ih =>
    obtain ⟨answer, kept⟩ := answers question state holds
    obtain ⟨same, invariantAfter⟩ := ih (reply question state).1 kept
    refine ⟨?_, invariantAfter⟩
    simp only [answered, run] at same ⊢
    rw [← answer, ← same]
    rfl

end Memory

end Inquiry

end Introspection
