import Introspection.Proofs.Evaluation
import Mathlib.Data.List.Forall2

/-!
# Decisions that go the same way

Two decisions correspond when they take the same steps: where one asks a question, the other asks
the question that stands for it, and after answers that count as alike, or the same failure to
answer, they go on corresponding; where one puts an event on record, the other puts an event that
counts as alike. What counts as alike, and which question stands for which, is laid down by a
`Correspondence`.

Corresponding decisions run alike (`Corresponds.answered`), as far as the questions that come up
are answered alike. Of the others nothing is asked, since no run gets to see their answers.
-/

namespace Introspection

/-- Two computations have values that are related, or the same error. -/
inductive EndAlike {ε α β : Type} (related : α -> β -> Prop) : Except ε α -> Except ε β -> Prop
  | ok {value : α} {other : β} (alike : related value other) :
      EndAlike related (.ok value) (.ok other)
  | error (error : ε) : EndAlike related (.error error) (.error error)

/-- A computation ends like itself. -/
theorem EndAlike.refl {ε α : Type} (computed : Except ε α) : EndAlike Eq computed computed := by
  cases computed with
  | ok value => exact .ok rfl
  | error error => exact .error error

/-- Computations that end alike, with values that are equal, are equal. -/
theorem EndAlike.eq {ε α : Type} {one other : Except ε α} (alike : EndAlike Eq one other) :
    one = other := by
  cases alike with
  | ok same => rw [same]
  | error error => rfl

/-- What may be different in decisions that go the same way: each question of the first has another
one that stands for it, with answers of its own, and events may stand for each other. -/
structure Correspondence (Question : Type) (Reply : Question -> Type) where
  rename : Question -> Question
  alike : (question : Question) -> Reply question -> Reply (rename question) -> Prop
  event : Event -> Event -> Prop

namespace Inquiry

variable {Question : Type} {Reply : Question -> Type} {α β γ δ : Type}

/-- Two decisions take the same steps, up to a correspondence, and come to related results. -/
inductive Corresponds (map : Correspondence Question Reply) {α β : Type}
    (related : α -> β -> Prop) : Inquiry Question Reply α -> Inquiry Question Reply β -> Prop
  | done {value : α} {other : β} (alike : related value other) :
      Corresponds map related (.done value) (.done other)
  | fail (failure : Failure) : Corresponds map related (.fail failure) (.fail failure)
  | note {event other : Event} {rest : Inquiry Question Reply α}
      {otherRest : Inquiry Question Reply β} (alike : map.event event other)
      (after : Corresponds map related rest otherRest) :
      Corresponds map related (.note event rest) (.note other otherRest)
  | ask (question : Question) {rest : Except Failure (Reply question) -> Inquiry Question Reply α}
      {otherRest : Except Failure (Reply (map.rename question)) -> Inquiry Question Reply β}
      (after : ∀ reply other, EndAlike (map.alike question) reply other ->
        Corresponds map related (rest reply) (otherRest other)) :
      Corresponds map related (.ask question rest) (.ask (map.rename question) otherRest)

namespace Corresponds

variable {map : Correspondence Question Reply} {related : α -> β -> Prop}

/-- What is done after corresponding decisions corresponds where it does after related results. -/
theorem bind {relatedNext : γ -> δ -> Prop} {first : Inquiry Question Reply α}
    {second : Inquiry Question Reply β} {next : α -> Inquiry Question Reply γ}
    {otherNext : β -> Inquiry Question Reply δ} (same : Corresponds map related first second)
    (after : ∀ value other, related value other ->
      Corresponds map relatedNext (next value) (otherNext other)) :
    Corresponds map relatedNext (first >>= next) (second >>= otherNext) := by
  change Corresponds map relatedNext (first.bind next) (second.bind otherNext)
  induction same with
  | done alike => exact after _ _ alike
  | fail failure => exact .fail failure
  | note alike _ ih => exact .note alike ih
  | ask question _ ih => exact .ask question ih

/-- A question corresponds to the one that stands for it. -/
theorem question (asked : Question) :
    Corresponds map (map.alike asked) (Inquiry.question asked)
      (Inquiry.question (map.rename asked)) := by
  refine .ask asked fun _ _ answers => ?_
  cases answers with
  | ok alike => exact .done alike
  | error failure => exact .fail failure

/-- Where refusals are met, corresponding decisions come to related results or to one refusal. -/
theorem orRefused {first : Inquiry Question Reply α} {second : Inquiry Question Reply β}
    (same : Corresponds map related first second) :
    Corresponds map (EndAlike related) first.orRefused second.orRefused := by
  induction same with
  | done alike => exact .done (.ok alike)
  | fail failure =>
    cases failure with
    | refused refusal => cases refusal <;> exact .done (.error _)
    | _ => exact .fail _
  | note alike _ ih => exact .note alike ih
  | ask question _ ih => exact .ask question ih

/-- Events that are alike are put on record alike. -/
theorem record {event other : Event} (alike : map.event event other) :
    Corresponds map Eq (Inquiry.record event) (Inquiry.record other) :=
  .note alike (.done rfl)

/-- A computation that both decisions make has the same value in both. -/
theorem ofExcept (computed : Except Failure α) :
    Corresponds map Eq (Inquiry.ofExcept computed) (Inquiry.ofExcept computed) := by
  cases computed with
  | ok value => exact .done rfl
  | error failure => exact .fail failure

/-- Corresponding decisions run alike where what the first one asks is answered alike: they end
alike, the second one asks what stands for the questions of the first, and their events are
alike. -/
theorem answered {first : Inquiry Question Reply α} {second : Inquiry Question Reply β}
    {reply other : (question : Question) -> Except Failure (Reply question)}
    (same : Corresponds map related first second)
    (agree : ∀ question ∈ (first.answered reply).asked,
      EndAlike (map.alike question) (reply question) (other (map.rename question))) :
    EndAlike related (first.answered reply).result (second.answered other).result ∧
      (second.answered other).asked = (first.answered reply).asked.map map.rename ∧
      List.Forall₂ map.event (first.answered reply).events (second.answered other).events := by
  induction same with
  | done alike => exact ⟨.ok alike, rfl, .nil⟩
  | fail failure => exact ⟨.error failure, rfl, .nil⟩
  | note alike _ ih =>
    obtain ⟨ends, asked, events⟩ := ih agree
    exact ⟨ends, asked, .cons alike events⟩
  | ask question _ ih =>
    have first : EndAlike (map.alike question) (reply question) (other (map.rename question)) :=
      agree question List.mem_cons_self
    obtain ⟨ends, asked, events⟩ := ih _ _ first fun later member =>
      agree later (List.mem_cons_of_mem _ member)
    exact ⟨ends, congrArg (List.cons _) asked, events⟩

end Corresponds

end Inquiry

end Introspection
