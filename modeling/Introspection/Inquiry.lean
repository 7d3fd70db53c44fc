import Introspection.Event
import Introspection.Failure

/-!
# Inquiries

A decision that needs answers from elsewhere, as data: it ends with a result or a failure, puts an
event on record, or asks a question and goes on with the answer. What the questions are, and who
answers them, is left open, so that one decision can be run over stores in memory and over a
database, and two such runs can be compared.

A run leaves a transcript: the result, the questions asked and the events recorded, in order. By
`run_bind`, the transcript of two decisions one after the other is put together from those of the
two.

A question that cannot be answered is answered with a failure. It is up to the decision what becomes
of it: where nothing else is said the decision fails in the same way, but a failure may also be met,
all of them by `handle` and those of a kind by `except`.
-/

namespace Introspection

/-- A decision with a result of type `result`, over questions that have answers of the type that
`Reply` gives for each. -/
inductive Inquiry (Question : Type) (Reply : Question -> Type) (result : Type)
  | done (value : result)
  | fail (failure : Failure)
  | note (event : Event) (next : Inquiry Question Reply result)
  | ask (question : Question)
      (next : Except Failure (Reply question) -> Inquiry Question Reply result)

/-- What a run leaves behind. -/
structure Transcript (Question State result : Type) where
  result : Except Failure result
  asked : List Question
  events : List Event
  state : State

/-- A transcript and that of what is done with its result, if it has one. -/
def Transcript.followedBy {Question State α β : Type} (first : Transcript Question State α)
    (second : α -> State -> Transcript Question State β) : Transcript Question State β :=
  match first.result with
  | .ok value =>
    let rest := second value first.state
    { rest with asked := first.asked ++ rest.asked, events := first.events ++ rest.events }
  | .error failure => ⟨.error failure, first.asked, first.events, first.state⟩

namespace Inquiry

variable {Question : Type} {Reply : Question -> Type} {α β State : Type}

/-- Go on with a second decision where the first one ends with a result. -/
def bind (next : α -> Inquiry Question Reply β) :
    Inquiry Question Reply α -> Inquiry Question Reply β
  | .done value => next value
  | .fail failure => .fail failure
  | .note event rest => .note event (rest.bind next)
  | .ask question rest => .ask question (fun answer => (rest answer).bind next)

instance : Monad (Inquiry Question Reply) where
  pure := .done
  bind inquiry next := inquiry.bind next

/-- Put an event on record. -/
def record (event : Event) : Inquiry Question Reply Unit := .note event (.done ())

/-- Go on with a value, or fail as its computation did. -/
def ofExcept : Except Failure α -> Inquiry Question Reply α
  | .ok value => .done value
  | .error failure => .fail failure

/-- Ask a question, and fail where it cannot be answered. -/
def question (question : Question) : Inquiry Question Reply (Reply question) :=
  .ask question ofExcept

/-- Go on with a handler where the decision fails. -/
def handle (handler : Failure -> Inquiry Question Reply α) :
    Inquiry Question Reply α -> Inquiry Question Reply α
  | .done value => .done value
  | .fail failure => handler failure
  | .note event rest => .note event (rest.handle handler)
  | .ask question rest => .ask question (fun answer => (rest answer).handle handler)

/-- Go on with a handler where the decision fails with a problem of a kind, and with no other
failure. -/
def except (kind : ProblemKind)
    (handler : (failure : Failure) -> failure.isA kind = true -> Inquiry Question Reply α) :
    Inquiry Question Reply α -> Inquiry Question Reply α :=
  handle fun failure =>
    if caught : failure.isA kind = true then handler failure caught else .fail failure

/-- The result of a decision, or the refusal that it was met with. -/
def orRefused (inquiry : Inquiry Question Reply α) : Inquiry Question Reply (Except Refusal α) :=
  (inquiry.bind fun value => .done (.ok value)).except .forbidden fun failure forbidden =>
    .done (.error (failure.refusal forbidden))

/-- Ask other questions in place of those of a decision. -/
def translate {Other : Type} {OtherReply : Other -> Type} (map : Question -> Other)
    (back : (question : Question) -> OtherReply (map question) -> Reply question) :
    Inquiry Question Reply α -> Inquiry Other OtherReply α
  | .done value => .done value
  | .fail failure => .fail failure
  | .note event rest => .note event (rest.translate map back)
  | .ask question rest =>
    .ask (map question) (fun answer => (rest (answer.map (back question))).translate map back)

/-- Run a decision, each question being answered in the state that the ones before it left. -/
def run (reply : (question : Question) -> State -> Except Failure (Reply question) × State) :
    Inquiry Question Reply α -> State -> Transcript Question State α
  | .done value, state => ⟨.ok value, [], [], state⟩
  | .fail failure, state => ⟨.error failure, [], [], state⟩
  | .note event rest, state =>
    let transcript := run reply rest state
    { transcript with events := event :: transcript.events }
  | .ask question rest, state =>
    let (answer, state) := reply question state
    let transcript := run reply (rest answer) state
    { transcript with asked := question :: transcript.asked }

variable {reply : (question : Question) -> State -> Except Failure (Reply question) × State}

/-- A decision that has no more to find out goes on with its value. -/
theorem pure_bind (value : α) (next : α -> Inquiry Question Reply β) :
    (pure value : Inquiry Question Reply α) >>= next = next value := rfl

/-- Going on twice is going on once with both. -/
theorem bind_assoc {γ : Type} (inquiry : Inquiry Question Reply α)
    (next : α -> Inquiry Question Reply β) (last : β -> Inquiry Question Reply γ) :
    (inquiry.bind next).bind last = inquiry.bind (fun value => (next value).bind last) := by
  induction inquiry with
  | done value => rfl
  | fail failure => rfl
  | note event rest ih => exact congrArg (Inquiry.note event) ih
  | ask question rest ih => exact congrArg (Inquiry.ask question) (funext ih)

/-- The run of two decisions, one after the other, is the run of the first followed by that of the
second. -/
theorem run_bind (inquiry : Inquiry Question Reply α) (next : α -> Inquiry Question Reply β)
    (state : State) :
    run reply (inquiry.bind next) state =
      (run reply inquiry state).followedBy (fun value state => run reply (next value) state) := by
  induction inquiry generalizing state with
  | done value => rfl
  | fail failure => rfl
  | note event rest ih =>
    simp only [bind, run, ih, Transcript.followedBy]
    split <;> rfl
  | ask question rest ih =>
    simp only [bind, run, ih, Transcript.followedBy]
    split <;> rfl

end Inquiry

end Introspection
