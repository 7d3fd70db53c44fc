import Introspection.Proofs.Propagation
import Introspection.Stores

/-!
# Decisions over plain maps

The records that lookups find, as a function. Nothing fails here and nothing is remembered: this is
what stores in memory are while none of them fails, and what a database is to be shown to be.

Which token a value names, and for which user it was issued, is said here of the records alone,
without reference to the order in which a decision looks for them.
-/

namespace Introspection

/-- The record that answers each lookup. -/
abbrev Records : Type := (question : Lookup) -> question.Reply

namespace Records

variable {α : Type}

/-- The answer to a lookup, which never fails. -/
def reply (records : Records) (question : Lookup) : Except Failure question.Reply :=
  .ok (records question)

/-- Run a decision over records. -/
def run (records : Records) (decision : Decision α) : Transcript Lookup Unit α :=
  decision.answered records.reply

@[simp] theorem run_result (records : Records) (decision : Decision α) :
    (records.run decision).result = decision.eval records.reply :=
  Inquiry.answered_result decision

-- The type of the answer is not indexed: where a lookup stands, it is the type of its records.
@[simp] theorem eval_lookup (records : Records) (question : Lookup) :
    @Inquiry.eval _ _ (no_index question.Reply) records.reply (Decision.lookup question) =
      .ok (records question) :=
  Inquiry.eval_question question

/-- The token that a value names, an access token if there are both. -/
def token? (records : Records) (value : String) : Option SubjectToken :=
  ((records (.access value)).map SubjectToken.access).or
    ((records (.refresh value)).map SubjectToken.refresh)

/-- The user that a token was issued for, as the owner of the token sees them. -/
def user? (records : Records) (grant : Grant) : Option UserContext :=
  (grant.principal.filter (!·.isEmpty)).bind fun principal =>
    records (.user principal grant.clientId)

/-- A value that is in neither store names no token. -/
theorem token?_eq_none_iff {records : Records} {value : String} :
    records.token? value = none ↔
      records (.access value) = none ∧ records (.refresh value) = none := by
  simp [token?]

end Records

namespace Stores

variable {α : Type}

/-- The same stores, none of them failing. -/
def calm (stores : Stores) : Stores := { stores with failing := [] }

/-- Stores that do not fail are plain maps. -/
theorem run_calm (stores : Stores) (decision : Decision α) :
    stores.calm.run decision = Records.run stores.find decision := by
  have plain : stores.calm.reply = Records.reply stores.find := by
    funext question
    simp only [reply, calm, List.not_mem_nil, if_false, Records.reply]
    cases question <;> rfl
  rw [Stores.run, Records.run, Inquiry.answered, plain]

/-- A decision that has a value over stores, and meets no failures but refusals, has it over their
records, be some of them failing. -/
theorem eval_find_of_eq_ok {stores : Stores} {decision : Decision α} {value : α}
    (meets : decision.MeetsRefusals) (ended : decision.eval stores.reply = .ok value) :
    decision.eval (Records.reply stores.find) = .ok value := by
  have same : decision.answered stores.reply = decision.answered (Records.reply stores.find) := by
    refine Inquiry.answered_congr fun question asked => ?_
    by_cases failing : question.store ∈ stores.failing
    · have failed : stores.reply question = .error (.unavailable question.store false) :=
        if_pos failing
      cases (Inquiry.eval_eq_error_of_asked meets asked failed rfl).symm.trans ended
    · exact if_neg failing
  rw [← Inquiry.answered_result, ← same, Inquiry.answered_result, ended]

end Stores

end Introspection
