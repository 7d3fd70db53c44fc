import Introspection.Proofs.Decision.Steps
import Introspection.Proofs.Session.Coherence
import Introspection.Proofs.Session.Expiry

/-!
# Tokens that are not found

A token is not found when the requester may ask and both lookups of the value find nothing
(`eval_introspect_eq_tokenNotFound`). Over a database the first part has nothing to do with the
time, and what the second one is about only passes away: a token that has expired stays expired.
A token that was not found is therefore not found at any later time either, as long as nothing is
written (`tokenNotFound_permanent`). Only the fallback from access tokens to refresh tokens could
make a difference, were it not that both have to be missing at the same time.
-/

namespace Introspection

namespace Decision

variable {reply : (question : Lookup) -> Except Failure question.Reply}

/-- No token is found where both lookups of the value find none. -/
theorem eval_findToken_eq_none {value : String} {hint : Json} :
    (findToken value hint).eval reply = .ok none ↔
      reply (.access value) = .ok none ∧ reply (.refresh value) = .ok none := by
  unfold findToken lookup
  rw [Inquiry.eval_bind, Inquiry.eval_question]
  cases access : reply (.access value) with
  | error failure => simp
  | ok found =>
    cases found with
    | some token => simp
    | none =>
      simp only [ok_bind, Inquiry.eval_bind, Inquiry.eval_record, Inquiry.eval_question]
      cases refresh : reply (.refresh value) with
      | error failure => simp
      | ok found =>
        cases found with
        | some token => simp
        | none => simp

/-- A token is found with its user if it is found at all. -/
theorem eval_resolve_eq_none {value : String} {hint : Json} :
    (resolve value hint).eval reply = .ok none ↔
      reply (.access value) = .ok none ∧ reply (.refresh value) = .ok none := by
  rw [← eval_findToken_eq_none, resolve, Inquiry.eval_bind, bind_eq_ok]
  constructor
  · rintro ⟨found, result, ended⟩
    cases found with
    | none => exact result
    | some token =>
      rw [Inquiry.eval_bind, bind_eq_ok] at ended
      obtain ⟨user, _, ended⟩ := ended
      cases ended
  · intro absent
    exact ⟨none, absent, rfl⟩

/-- Of a token that has been found it is not said that it was not. -/
theorem eval_afterResolution_ne {policy : Policy} {requester : Requester} {profile : ClientProfile}
    {resolved : ResolvedToken} :
    (afterResolution policy requester profile (.ok (some resolved))).eval reply ≠
      .ok (.inactive .tokenNotFound) := by
  intro ended
  rw [afterResolution, Inquiry.eval_bind, bind_eq_ok] at ended
  obtain ⟨permitted, _, ended⟩ := ended
  cases permitted with
  | false => cases ended
  | true =>
    simp only [if_true, tell, Inquiry.eval_bind, bind_eq_ok] at ended
    obtain ⟨told, _, _, _, ended⟩ := ended
    cases ended

/-- A token is not found when there is one to look for, the requester may ask, and both lookups of
the value find none. -/
theorem eval_introspect_eq_tokenNotFound {policy : Policy} {token : Option String} {hint : Json}
    {requester : Requester} :
    (introspect policy token hint requester).eval reply = .ok (.inactive .tokenNotFound) ↔
      ∃ value profile, IsGiven token value ∧
        (authenticate policy.protectionScope requester).eval reply = .ok profile ∧
          reply (.access value) = .ok none ∧ reply (.refresh value) = .ok none := by
  constructor
  · intro ended
    rcases isGiven_or_absent token with ⟨value, given⟩ | absent
    · obtain ⟨rfl, nonempty⟩ := given
      rw [introspect_eq nonempty, Inquiry.eval_bind, bind_eq_ok] at ended
      obtain ⟨admitted, authenticated, ended⟩ := ended
      cases admitted with
      | error refusal => cases ended
      | ok profile =>
        rw [Inquiry.eval_orRefused, refusable_eq_ok_ok] at authenticated
        rw [afterAuthentication, Inquiry.eval_bind, bind_eq_ok] at ended
        obtain ⟨resolved, found, ended⟩ := ended
        rcases resolved with refusal | _ | resolved
        · cases ended
        · rw [Inquiry.eval_orRefused, refusable_eq_ok_ok] at found
          exact ⟨value, profile, ⟨rfl, nonempty⟩, authenticated, eval_resolve_eq_none.mp found⟩
        · cases eval_afterResolution_ne ended
    · rcases absent with rfl | rfl
      · cases ended
      · cases ended
  · rintro ⟨value, profile, ⟨rfl, nonempty⟩, authenticated, missing⟩
    rw [introspect_eq nonempty, Inquiry.eval_bind, Inquiry.eval_orRefused, authenticated,
      refusable_ok, ok_bind, afterAuthentication, Inquiry.eval_bind, Inquiry.eval_orRefused,
      eval_resolve_eq_none.mpr missing, refusable_ok, ok_bind]
    rfl

end Decision

/-- A time of expiry that has come stays in the past. -/
theorem Moment.HasCome.later {expiry : Option Moment} {now later : Moment}
    (come : HasCome expiry now) (passed : now.instant ≤ later.instant) : HasCome expiry later := by
  obtain ⟨moment, expires, come⟩ := come
  exact ⟨moment, expires, Int.le_trans come passed⟩

namespace Database

/-- Among rows of which none is live under a key, none comes to be live. -/
theorem find?_live_eq_none {row : Type} {rows : List row} {expiry : row -> Option Moment}
    {isWanted : row -> Bool} {now later : Moment} (passed : now.instant ≤ later.instant)
    (absent : (rows.find? fun row => isWanted row && Moment.isAfter (expiry row) now) = none) :
    (rows.find? fun row => isWanted row && Moment.isAfter (expiry row) later) = none := by
  rw [List.find?_eq_none] at absent ⊢
  intro row member live
  rw [Bool.and_eq_true, Moment.isAfter_iff] at live
  refine absent row member (Bool.and_eq_true_iff.mpr ⟨live.1, Moment.isAfter_iff.mpr ?_⟩)
  exact fun come => live.2 (come.later passed)

variable {database : Database} {now later : Moment} {value : String}

/-- Clients do not expire: a requester is authenticated at one time as at another. -/
theorem eval_authenticate_later (database : Database) (now later : Moment) (scope : Json)
    (requester : Requester) :
    (Decision.authenticate scope requester).eval (database.reply later) =
      (Decision.authenticate scope requester).eval (database.reply now) :=
  Decision.eval_authenticate_congr rfl

theorem reply_access_later (passed : now.instant ≤ later.instant)
    (absent : database.reply now (.access value) = .ok none) :
    database.reply later (.access value) = .ok none := by
  rw [reply_access_eq_none] at absent ⊢
  exact ⟨absent.1, find?_live_eq_none passed absent.2⟩

theorem reply_refresh_later (passed : now.instant ≤ later.instant)
    (absent : database.reply now (.refresh value) = .ok none) :
    database.reply later (.refresh value) = .ok none := by
  rw [reply_refresh_eq_none] at absent ⊢
  exact ⟨absent.1, find?_live_eq_none passed absent.2⟩

end Database

namespace Session

/-- A token that is not found is not found later either. While a database is left as it is, a
request that is answered at one time by that the token is not found is answered so at any later
time, whatever was asked before in either session: by the passing of time alone, a token that is
unknown or has expired becomes neither active nor forbidden. -/
theorem tokenNotFound_permanent {α β : Type} {earlier later : Surroundings}
    (unchanged : later.database = earlier.database)
    (passed : earlier.now.instant ≤ later.now.instant) {policy : Policy} {token : Option String}
    {hint : Json} {requester : Requester} (before : Procedure α) (beforeLater : Procedure β)
    (notFound : ((Session.run earlier before .empty).state.runDecision earlier.database earlier.now
      (Decision.introspect policy token hint requester)).result =
        .ok (.inactive .tokenNotFound)) :
    ((Session.run later beforeLater .empty).state.runDecision later.database later.now
      (Decision.introspect policy token hint requester)).result =
        .ok (.inactive .tokenNotFound) := by
  rw [result_runDecision, Decision.eval_introspect_eq_tokenNotFound] at notFound ⊢
  obtain ⟨value, profile, given, authenticated, access, refresh⟩ := notFound
  rw [unchanged]
  exact ⟨value, profile, given, (Database.eval_authenticate_later ..).trans authenticated,
    Database.reply_access_later passed access, Database.reply_refresh_later passed refresh⟩

/-- A database with an access token and a refresh token of one value, which expire after one second
and after five. -/
def lapsingDatabase : Database where
  clients := [⟨"shop", .string "client_secret_basic", .null, .null, .null, .null, .bool true,
    .list [.string "read"], .string "ROLE_CLIENT"⟩]
  accessTokens := [⟨"t-1", .string "shop", .null, .null, .null, some ⟨1000000, some 0⟩⟩]
  refreshTokens := [⟨tokenHash "t-1", .string "shop", .null, .null, some ⟨5000000, some 0⟩⟩]
  users := []
  outages := []

/-- The client does not find the token at the moment when the second of them expires, nor half an
hour later, in a session in which the token was looked for before. -/
theorem tokenNotFound_permanent_lapsed :
    let decision : Decision Outcome := Decision.introspect
      (.ofTexts "uma_protection" .subset none) (some "t-1") .null (.direct "shop" .empty)
    let earlier : Surroundings := ⟨lapsingDatabase, ⟨5000000, some 0⟩, fun _ => .unreachable, 900⟩
    let later : Surroundings := ⟨lapsingDatabase, ⟨1805000000, some 0⟩, fun _ => .unreachable, 900⟩
    later.database = earlier.database ∧ earlier.now.instant ≤ later.now.instant ∧
      ((Session.run earlier (pure ()) .empty).state.runDecision earlier.database earlier.now
        decision).result = .ok (.inactive .tokenNotFound) ∧
      ((Session.run later (Procedure.ofDecision decision) .empty).state.runDecision later.database
        later.now decision).result = .ok (.inactive .tokenNotFound) := by
  intro decision earlier later
  have notFound : ((Session.run earlier (pure ()) .empty).state.runDecision earlier.database
      earlier.now decision).result = .ok (.inactive .tokenNotFound) := by
    rw [result_runDecision, Decision.eval_introspect_eq_tokenNotFound]
    refine ⟨"t-1", _, ⟨rfl, by decide⟩, rfl, rfl, ?_⟩
    rw [Database.reply_refresh_eq_none]
    exact ⟨rfl, by simp [earlier, lapsingDatabase, Database.refreshToken?, Moment.isAfter,
      Moment.instant]⟩
  have passed : earlier.now.instant ≤ later.now.instant := by decide
  exact ⟨rfl, passed, notFound, @tokenNotFound_permanent _ _ earlier later rfl passed _ _ _ _
    (pure ()) (Procedure.ofDecision decision) notFound⟩

end Session

end Introspection
