import Introspection.Proofs.Correspondence
import Introspection.Proofs.Decision.Steps

/-!
# What makes no difference to a decision

Of the value of a token a decision makes one use: it is looked up. Of the hint it makes one use: it
is put on record. A decision about another value and with another hint therefore takes the same
steps (`introspect_corresponds`), if the records that are found differ in no more than the value
that they carry themselves. No premise about stores is needed for this, it is a property of the
decision alone.
-/

namespace Introspection

/-- The lookup of a value as that of another value. Clients and users are looked up as before. -/
def Lookup.renamed (rename : String -> String) : Lookup -> Lookup
  | .client clientId => .client clientId
  | .access value => .access (rename value)
  | .refresh value => .refresh (rename value)
  | .user username clientId => .user username clientId

/-- A lookup of another value goes to the same store. -/
@[simp] theorem Lookup.store_renamed (rename : String -> String) (question : Lookup) :
    (question.renamed rename).store = question.store := by
  cases question <;> rfl

/-- Lookups of the same values are the same lookups. -/
@[simp] theorem Lookup.renamed_id (question : Lookup) : question.renamed id = question := by
  cases question <;> rfl

/-- Two tokens of one kind, with the same grant and type, whatever their values are. -/
inductive SubjectToken.SameButValue : SubjectToken -> SubjectToken -> Prop
  | access (value other : String) (grant : Grant) (tokenType : String) :
      SameButValue (.access ⟨value, grant, tokenType⟩) (.access ⟨other, grant, tokenType⟩)
  | refresh (value other : String) (grant : Grant) :
      SameButValue (.refresh ⟨value, grant⟩) (.refresh ⟨other, grant⟩)

theorem SubjectToken.SameButValue.grant_eq {token other : SubjectToken}
    (same : token.SameButValue other) : token.grant = other.grant := by
  cases same <;> rfl

/-- Two tokens with their users are the same, whatever the values of the tokens are. -/
structure ResolvedToken.SameButValue (resolved other : ResolvedToken) : Prop where
  token : resolved.token.SameButValue other.token
  user : resolved.user = other.user

/-- Two events are the same, but for the hint that is put on record. -/
inductive Event.SameButHint (hint other : Json) : Event -> Event -> Prop
  | same (event : Event) : SameButHint hint other event event
  | accessTokenNotFound : SameButHint hint other (.accessTokenNotFound hint)
      (.accessTokenNotFound other)
  | tokenNotFound : SameButHint hint other (.tokenNotFound hint) (.tokenNotFound other)

/-- Events that differ in the hint alone are equal where the hint is the same. -/
theorem Event.SameButHint.eq {hint : Json} {event other : Event}
    (same : event.SameButHint hint hint other) : event = other := by
  cases same <;> rfl

namespace Decision

/-- The correspondence of decisions about values that are renamed: tokens are looked up by the
other value and are alike but for it, and another hint is put on record. -/
def indifference (rename : String -> String) (hint otherHint : Json) :
    Correspondence Lookup Lookup.Reply where
  rename := Lookup.renamed rename
  alike
    | .client _, profile, other => profile = other
    | .access _, token, other => Option.Rel SubjectToken.SameButValue (token.map .access)
        (other.map .access)
    | .refresh _, token, other => Option.Rel SubjectToken.SameButValue (token.map .refresh)
        (other.map .refresh)
    | .user _ _, user, other => user = other
  event := Event.SameButHint hint otherHint

variable {rename : String -> String} {hint otherHint : Json}

/-- A lookup is made under the other value, and answered alike. -/
theorem lookup_corresponds (question : Lookup) :
    (lookup question).Corresponds (indifference rename hint otherHint)
      ((indifference rename hint otherHint).alike question)
      (lookup (question.renamed rename)) :=
  .question question

/-- Authentication knows of neither the value nor the hint. -/
theorem authenticate_corresponds (scope : Json) (requester : Requester) :
    (authenticate scope requester).Corresponds (indifference rename hint otherHint) Eq
      (authenticate scope requester) := by
  cases requester with
  | delegated clientId granted =>
    refine .bind (.ofExcept _) ?_
    rintro held _ rfl
    cases held with
    | false => exact .bind (.record (.same _)) fun _ _ _ => .fail _
    | true =>
      refine .bind (lookup_corresponds (.client clientId)) ?_
      rintro profile _ rfl
      cases profile with
      | some profile => exact .done rfl
      | none => exact .bind (.record (.same _)) fun _ _ _ => .fail _
  | direct clientId authorities =>
    refine .bind (lookup_corresponds (.client clientId)) ?_
    rintro profile _ rfl
    cases profile with
    | none => exact .bind (.record (.same _)) fun _ _ _ => .fail _
    | some profile =>
      dsimp only
      split
      · exact .done rfl
      · exact .bind (.record (.same _)) fun _ _ _ => .fail _

/-- A search for a value is like that for another one, and finds tokens that are alike. -/
theorem findToken_corresponds (value : String) :
    (findToken value hint).Corresponds (indifference rename hint otherHint)
      (Option.Rel SubjectToken.SameButValue) (findToken (rename value) otherHint) := by
  refine .bind (lookup_corresponds (.access value)) fun token other alike => ?_
  cases token with
  | some token =>
    cases other with
    | some other => exact .done alike
    | none => cases alike
  | none =>
    cases other with
    | some other => cases alike
    | none =>
      refine .bind (.record .accessTokenNotFound) fun _ _ _ => ?_
      refine .bind (lookup_corresponds (.refresh value)) fun token other alike => ?_
      cases token with
      | some token =>
        cases other with
        | some other => exact .done alike
        | none => cases alike
      | none =>
        cases other with
        | some other => cases alike
        | none => exact .bind (.record .tokenNotFound) fun _ _ _ => .done .none

/-- The user of a grant is looked up without regard to the value or the hint. -/
theorem findUser_corresponds (grant : Grant) :
    (findUser grant).Corresponds (indifference rename hint otherHint) Eq (findUser grant) := by
  unfold findUser
  split
  · exact .done rfl
  · split
    · exact .done rfl
    · next principal _ _ => exact lookup_corresponds (.user principal grant.clientId)

/-- A token is found with its user, both alike. -/
theorem resolve_corresponds (value : String) :
    (resolve value hint).Corresponds (indifference rename hint otherHint)
      (Option.Rel ResolvedToken.SameButValue) (resolve (rename value) otherHint) := by
  refine .bind (findToken_corresponds value) fun token other alike => ?_
  cases alike with
  | none => exact .done .none
  | some alike =>
    simp only [alike.grant_eq]
    refine .bind (findUser_corresponds _) ?_
    rintro user _ rfl
    exact .done (.some ⟨alike, rfl⟩)

/-- What is decided about a token that has been found depends on its grant, its type and its
user. -/
theorem afterResolution_corresponds (policy : Policy) (requester : Requester)
    (profile : ClientProfile) {resolved other : ResolvedToken}
    (alike : resolved.SameButValue other) :
    (afterResolution policy requester profile (.ok (some resolved))).Corresponds
      (indifference rename hint otherHint) Eq
      (afterResolution policy requester profile (.ok (some other))) := by
  obtain ⟨token, user⟩ := resolved
  obtain ⟨otherToken, _⟩ := other
  obtain ⟨alike, rfl⟩ := alike
  have assembled : assemble policy.issuer token user = assemble policy.issuer otherToken user := by
    cases alike <;> rfl
  simp only [afterResolution, tell, alike.grant_eq, assembled]
  refine .bind (.ofExcept _) ?_
  rintro permitted _ rfl
  cases permitted with
  | false => exact .bind (.record (.same _)) fun _ _ _ => .done rfl
  | true =>
    refine .bind (.ofExcept _) ?_
    rintro told _ rfl
    exact .bind (.record (.same _)) fun _ _ _ => .done rfl

/-- A decision about a token takes the same steps as one about another value with another hint:
only the value that is looked up and the hint that is put on record are different. -/
theorem introspect_corresponds {value : String} (given : value ≠ "") (renamed : rename value ≠ "")
    (policy : Policy) (requester : Requester) :
    (introspect policy (some value) hint requester).Corresponds
      (indifference rename hint otherHint) Eq
      (introspect policy (some (rename value)) otherHint requester) := by
  rw [introspect_eq given, introspect_eq renamed]
  refine .bind (authenticate_corresponds policy.protectionScope requester).orRefused ?_
  intro admitted other ends
  cases ends with
  | error refusal => exact .bind (.record (.same _)) fun _ _ _ => .done rfl
  | ok same =>
    cases same
    refine .bind (resolve_corresponds value).orRefused fun resolved other ends => ?_
    cases ends with
    | error refusal => exact .bind (.record (.same _)) fun _ _ _ => .done rfl
    | ok alike =>
      cases alike with
      | none => exact .done rfl
      | some alike => exact afterResolution_corresponds policy requester _ alike

end Decision

end Introspection
