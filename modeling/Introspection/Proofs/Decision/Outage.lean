import Introspection.Proofs.Records

/-!
# Outages

What it changes when some questions cannot be answered. A decision may meet a failure, and then go
on in any way. One that does not meet it goes on as it would otherwise until it comes to such a
question, and there it ends: with the failure of that question, and with nothing asked or recorded
beyond it (`answered_interrupted`). What is never asked for cannot fail a run.

A decision about a token meets refusals, and a failing store is none. So its runs over the same
records, with some of the stores failing and with none, compare in that way: a failing store is
never mistaken for one without the record, nor its failure for a refusal, and no other store is
asked in its place.
-/

namespace Introspection

/-- How a run that some questions interrupt follows from the run that nothing interrupts: it is
the same when no such question comes up, and stops at the first one otherwise. -/
def Transcript.InterruptedBy {Question α : Type} (fails : Question -> Bool)
    (failure : Question -> Failure) (interrupted calm : Transcript Question Unit α) : Prop :=
  match calm.asked.find? fails with
  | none => interrupted = calm
  | some question =>
    interrupted.result = .error (failure question) ∧
      interrupted.asked = calm.asked.takeWhile (!fails ·) ++ [question] ∧
      interrupted.events <+: calm.events

namespace Inquiry

variable {Question : Type} {Reply : Question -> Type} {α : Type}

/-- Answers with failures in the place of some of them. -/
def interrupt (fails : Question -> Bool) (failure : Question -> Failure)
    (reply : (question : Question) -> Except Failure (Reply question)) (question : Question) :
    Except Failure (Reply question) :=
  if fails question then .error (failure question) else reply question

/-- A run is interrupted at the first question that fails, and unchanged when there is none, where
the decision does not meet such failures. -/
theorem answered_interrupted {kind : ProblemKind} {inquiry : Inquiry Question Reply α}
    (meets : MeetsOnly kind inquiry) {fails : Question -> Bool} {failure : Question -> Failure}
    (other : ∀ question, (failure question).isA kind = false)
    (reply : (question : Question) -> Except Failure (Reply question)) :
    (inquiry.answered (interrupt fails failure reply)).InterruptedBy fails failure
      (inquiry.answered reply) := by
  induction meets with
  | done value => rfl
  | fail failure => rfl
  | note event _ ih =>
    simp only [answered, run, Transcript.InterruptedBy] at ih ⊢
    split at ih
    · rw [ih]
    · obtain ⟨result, asked, events⟩ := ih
      exact ⟨result, asked, List.prefix_cons_inj event |>.mpr events⟩
  | @ask question next passedOn _ ih =>
    by_cases failing : fails question = true
    · -- The question is asked, and nothing after it.
      have stopped : (Inquiry.ask question next).answered (interrupt fails failure reply) =
          ⟨.error (failure question), [question], [], ()⟩ := by
        simp [answered, run, interrupt, failing, passedOn _ (other question)]
      rw [stopped]
      simp [answered, run, Transcript.InterruptedBy, failing]
    · have after := ih (reply question)
      simp only [answered, run, interrupt, failing, Transcript.InterruptedBy, Bool.false_eq_true,
        if_false, List.find?_cons_of_neg, not_false_eq_true] at after ⊢
      split at after
      · simp only [after]
      · obtain ⟨result, asked, events⟩ := after
        refine ⟨result, ?_, events⟩
        simp [failing, asked]

end Inquiry

namespace Stores

variable {α : Type}

/-- Whether a lookup goes to a failing store. -/
def fails (stores : Stores) (question : Lookup) : Bool := question.store ∈ stores.failing

/-- Stores answer as their records do, but for the lookups that go to a failing one. -/
theorem reply_eq_interrupt (stores : Stores) :
    stores.reply = Inquiry.interrupt stores.fails
      (fun question => .unavailable question.store false) (Records.reply stores.find) := by
  funext question
  simp only [reply, Inquiry.interrupt, fails, decide_eq_true_eq, Records.reply]

/-- A run over stores follows from the run over the same stores with none of them failing, where
the decision meets no failures but refusals. -/
theorem run_interruptedBy (stores : Stores) {decision : Decision α}
    (meets : decision.MeetsRefusals) :
    (stores.run decision).InterruptedBy stores.fails
      (fun question => .unavailable question.store false) (stores.calm.run decision) := by
  rw [run_calm, Records.run, run, reply_eq_interrupt]
  exact Inquiry.answered_interrupted meets (fun _ => rfl) _

end Stores

/-- A decision over stores, compared with the same decision while none of them fails. Either the
latter consults no store that is failing, and nothing is different; or the request fails, naming
the store of the first lookup that goes to a failing one. Then it has consulted what the other run
does, up to and with that lookup, and put on record a first part of what the other run does. -/
theorem Decision.introspect_outage (stores : Stores) (policy : Policy) (token : Option String)
    (hint : Json) (requester : Requester) :
    let run := stores.run (introspect policy token hint requester)
    let calm := stores.calm.run (introspect policy token hint requester)
    (∀ lookup ∈ calm.asked, lookup.store ∉ stores.failing) ∧ run = calm ∨
      ∃ before lookup after, calm.asked = before ++ lookup :: after ∧
        (∀ earlier ∈ before, earlier.store ∉ stores.failing) ∧ lookup.store ∈ stores.failing ∧
        run.result = .error (.unavailable lookup.store false) ∧
        run.asked = before ++ [lookup] ∧ run.events <+: calm.events := by
  intro run calm
  have interrupted := stores.run_interruptedBy (meets_introspect policy token hint requester)
  cases first : calm.asked.find? stores.fails with
  | none =>
    left
    constructor
    · intro lookup asked
      simpa [Stores.fails] using List.find?_eq_none.mp first lookup asked
    · simpa only [Transcript.InterruptedBy, calm, first] using interrupted
  | some lookup =>
    right
    obtain ⟨fails, before, after, asked, earlier⟩ := List.find?_eq_some_iff_append.mp first
    have upTo : calm.asked.takeWhile (!stores.fails ·) = before := by
      rw [asked, List.takeWhile_append_of_pos earlier]
      simp [fails]
    refine ⟨before, lookup, after, asked, ?_, ?_, ?_⟩
    · intro question member
      simpa [Stores.fails] using earlier question member
    · simpa [Stores.fails] using fails
    · simpa only [Transcript.InterruptedBy, calm, first, upTo] using interrupted

end Introspection
