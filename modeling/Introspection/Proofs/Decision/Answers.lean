import Introspection.Proofs.Decision.Steps

/-!
# Answers about tokens

When a request is answered with what is known of a token: the requester may ask, a lookup of the
value finds the token, and the policy lets the requester see it. The answer is then made of the
token, its user and the issuer (`eval_introspect_eq_active`). Nothing is said here about how
lookups are answered, so that the law holds over stores, over plain maps and over a database.
-/

namespace Introspection

namespace Decision

variable {reply : (question : Lookup) -> Except Failure question.Reply}

/-- A token is found by a lookup of its value: as an access token, or as a refresh token where
there is no access token of the value. -/
inductive Finds (reply : (question : Lookup) -> Except Failure question.Reply) (value : String) :
    SubjectToken -> Prop
  | access {token : AccessToken} (found : reply (.access value) = .ok (some token)) :
      Finds reply value (.access token)
  | refresh {token : RefreshToken} (missing : reply (.access value) = .ok none)
      (found : reply (.refresh value) = .ok (some token)) : Finds reply value (.refresh token)

/-- A search for a token comes to the one that a lookup finds. -/
theorem eval_findToken_eq_some {value : String} {hint : Json} {token : SubjectToken} :
    (findToken value hint).eval reply = .ok (some token) ↔ Finds reply value token := by
  unfold findToken lookup
  rw [Inquiry.eval_bind, Inquiry.eval_question, bind_eq_ok]
  constructor
  · rintro ⟨access, answered, ended⟩
    cases access with
    | some found =>
      cases ended
      exact .access answered
    | none =>
      rw [Inquiry.eval_bind, Inquiry.eval_record, ok_bind, Inquiry.eval_bind,
        Inquiry.eval_question, bind_eq_ok] at ended
      obtain ⟨refresh, second, ended⟩ := ended
      cases refresh with
      | some found =>
        cases ended
        exact .refresh answered second
      | none => cases ended
  · intro finds
    cases finds with
    | access found => exact ⟨_, found, rfl⟩
    | refresh missing found =>
      refine ⟨_, missing, ?_⟩
      rw [Inquiry.eval_bind, Inquiry.eval_record, ok_bind, Inquiry.eval_bind,
        Inquiry.eval_question, found]
      rfl

/-- What is assembled is an answer, by an issuer that is a text or by none. -/
theorem exists_answer_of_assemble {issuer : Json} {token : SubjectToken}
    {user : Option UserContext} {told : Answer}
    (assembled : assemble issuer token user = .ok told) :
    ∃ name, told = answer name token user := by
  unfold assemble at assembled
  split at assembled
  · exact ⟨none, (Except.ok.inj assembled).symm⟩
  · exact ⟨some _, (Except.ok.inj assembled).symm⟩
  · cases assembled

/-- What is needed for an answer about a token. -/
structure Answers (reply : (question : Lookup) -> Except Failure question.Reply) (policy : Policy)
    (requester : Requester) (value : String) (profile : ClientProfile) (token : SubjectToken)
    (user : Option UserContext) (told : Answer) : Prop where
  admitted : (authenticate policy.protectionScope requester).eval reply = .ok profile
  found : Finds reply value token
  userFound : (findUser token.grant).eval reply = .ok user
  permitted : isPermitted policy.protectionScope policy.rule requester profile
    token.grant.clientId token.grant.scopes = .ok true
  assembled : assemble policy.issuer token user = .ok told

/-- A request is answered with what is known of a token where all is there that is needed for it,
and not otherwise. -/
theorem eval_introspect_eq_active {policy : Policy} {token : Option String} {hint : Json}
    {requester : Requester} {told : Answer} :
    (introspect policy token hint requester).eval reply = .ok (.active told) ↔
      ∃ value profile found user, IsGiven token value ∧
        Answers reply policy requester value profile found user told := by
  constructor
  · intro decided
    rcases isGiven_or_absent token with ⟨value, given⟩ | absent
    · obtain ⟨rfl, nonempty⟩ := given
      rw [introspect_eq nonempty, Inquiry.eval_bind, bind_eq_ok] at decided
      obtain ⟨admitted, authenticated, decided⟩ := decided
      cases admitted with
      | error refusal => cases decided
      | ok profile =>
        rw [Inquiry.eval_orRefused, refusable_eq_ok_ok] at authenticated
        rw [afterAuthentication, Inquiry.eval_bind, bind_eq_ok] at decided
        obtain ⟨resolved, resolution, decided⟩ := decided
        rcases resolved with refusal | _ | resolved
        · cases decided
        · cases decided
        · rw [Inquiry.eval_orRefused, refusable_eq_ok_ok, resolve, Inquiry.eval_bind,
            bind_eq_ok] at resolution
          obtain ⟨named, search, resolution⟩ := resolution
          cases named with
          | none => cases resolution
          | some named =>
            rw [Inquiry.eval_bind, bind_eq_ok] at resolution
            obtain ⟨user, searchUser, resolution⟩ := resolution
            cases resolution
            rw [afterResolution, Inquiry.eval_bind, Inquiry.eval_ofExcept, bind_eq_ok] at decided
            obtain ⟨permitted, isPermitted, decided⟩ := decided
            cases permitted with
            | false => cases decided
            | true =>
              rw [if_pos rfl, tell, Inquiry.eval_bind, Inquiry.eval_ofExcept, bind_eq_ok] at decided
              obtain ⟨assembled, isAnswer, decided⟩ := decided
              cases decided
              exact ⟨value, profile, named, user, ⟨rfl, nonempty⟩, authenticated,
                eval_findToken_eq_some.mp search, searchUser, isPermitted, isAnswer⟩
    · rcases absent with rfl | rfl
      · cases decided
      · cases decided
  · rintro ⟨value, profile, found, user, ⟨rfl, nonempty⟩, answers⟩
    have resolution : (resolve value hint).eval reply = .ok (some ⟨found, user⟩) := by
      rw [resolve, Inquiry.eval_bind, eval_findToken_eq_some.mpr answers.found, ok_bind,
        Inquiry.eval_bind, answers.userFound]
      rfl
    rw [introspect_eq nonempty, Inquiry.eval_bind, Inquiry.eval_orRefused, answers.admitted,
      refusable_ok, ok_bind, afterAuthentication, Inquiry.eval_bind, Inquiry.eval_orRefused,
      resolution, refusable_ok, ok_bind, afterResolution, Inquiry.eval_bind, Inquiry.eval_ofExcept,
      answers.permitted, ok_bind, if_pos rfl, tell, Inquiry.eval_bind, Inquiry.eval_ofExcept,
      answers.assembled]
    rfl

end Decision

end Introspection
