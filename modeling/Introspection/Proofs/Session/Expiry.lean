import Introspection.Http.Endpoint

/-!
# Expired tokens

A token that has expired is as good as none. Taking every expired token out of a database changes
no answer to a query (`accessToken?_withoutExpired`, `refreshToken?_withoutExpired`), so that a
session answers every question as before and remembers the same rows (`reply_withoutExpired`). A
request is then served in the same way to the last header field, event and query
(`serve_withoutExpired`), be the expired token the one that is asked about, the credential that the
request came with, or both.
-/

namespace Introspection

/-- A time of expiry has come: there is one, and it is not after the present. -/
def Moment.HasCome (expiry : Option Moment) (now : Moment) : Prop :=
  ∃ moment, expiry = some moment ∧ moment.instant ≤ now.instant

/-- What has not expired are the tokens without a time of expiry and those whose time is after the
present. -/
theorem Moment.isAfter_iff {expiry : Option Moment} {now : Moment} :
    isAfter expiry now = true ↔ ¬ HasCome expiry now := by
  unfold isAfter HasCome
  cases expiry with
  | none => simp
  | some moment => simp

instance (expiry : Option Moment) (now : Moment) : Decidable (Moment.HasCome expiry now) :=
  decidable_of_iff (Moment.isAfter expiry now = false) (by
    rw [← Bool.not_eq_true, Moment.isAfter_iff, Classical.not_not])

namespace Database

/-- A database without the tokens that have expired. -/
def withoutExpired (database : Database) (now : Moment) : Database :=
  { database with
    accessTokens := database.accessTokens.filter fun row => ¬ Moment.HasCome row.expiresAt now
    refreshTokens := database.refreshTokens.filter fun row => ¬ Moment.HasCome row.expiresAt now }

/-- Among rows of which those that have come to their expiry are left out, a search for a live row
of a key finds what it does among all of them. -/
theorem find?_filter_live {row : Type} (rows : List row) (expiry : row -> Option Moment)
    (isWanted : row -> Bool) (now : Moment) :
    (rows.filter fun row => ¬ Moment.HasCome (expiry row) now).find?
        (fun row => isWanted row && Moment.isAfter (expiry row) now) =
      rows.find? fun row => isWanted row && Moment.isAfter (expiry row) now := by
  rw [List.find?_filter]
  congr 1
  funext row
  by_cases live : Moment.isAfter (expiry row) now = true
  · simp [live, Moment.isAfter_iff.mp live]
  · simp [live]

variable {database : Database} {now : Moment}

theorem accessToken?_withoutExpired (value : String) :
    (database.withoutExpired now).accessToken? now value = database.accessToken? now value :=
  find?_filter_live database.accessTokens (·.expiresAt) (·.token = value) now

theorem refreshToken?_withoutExpired (hash : String) :
    (database.withoutExpired now).refreshToken? now hash = database.refreshToken? now hash :=
  find?_filter_live database.refreshTokens (·.expiresAt) (·.tokenHash = hash) now

end Database

/-- Surroundings whose database is without the tokens that have expired. -/
def Surroundings.withoutExpired (surroundings : Surroundings) : Surroundings :=
  { surroundings with database := surroundings.database.withoutExpired surroundings.now }

@[simp] theorem Surroundings.withoutExpired_now (surroundings : Surroundings) :
    surroundings.withoutExpired.now = surroundings.now := rfl

@[simp] theorem Surroundings.withoutExpired_depth (surroundings : Surroundings) :
    surroundings.withoutExpired.depth = surroundings.depth := rfl

namespace Session

variable {surroundings : Surroundings}

/-- A session answers every question as it does while the expired tokens are there, and comes to
remember and to have queried the same. -/
theorem reply_withoutExpired (question : Question) (session : Session) :
    session.reply surroundings.withoutExpired question = session.reply surroundings question := by
  cases question with
  | registration clientId => rfl
  | document address => rfl
  | record question =>
    cases question with
    | client clientId => rfl
    | user username clientId => rfl
    | access value =>
      simp only [reply, lookup, Session.accessToken, Surroundings.withoutExpired,
        Database.accessToken?_withoutExpired]
      rfl
    | refresh value =>
      simp only [reply, lookup, Session.refreshToken, Surroundings.withoutExpired,
        Database.refreshToken?_withoutExpired]
      rfl

/-- Every procedure runs as it does while the expired tokens are there. -/
theorem run_withoutExpired {α : Type} (procedure : Procedure α) (session : Session) :
    Session.run surroundings.withoutExpired procedure session =
      Session.run surroundings procedure session := by
  have same : (fun question session => Session.reply surroundings.withoutExpired question session) =
      fun question session => Session.reply surroundings question session := by
    funext question session
    exact reply_withoutExpired question session
  rw [Session.run, Session.run, same]

end Session

namespace Http

/-- Expired tokens are indistinguishable from tokens that never existed. -/
theorem serve_withoutExpired (surroundings : Surroundings) (configuration : Configuration)
    (fresh : String) (request : Request) :
    serve surroundings.withoutExpired configuration fresh request =
      serve surroundings configuration fresh request := by
  have served (identifier : String) :
      serveIntrospection surroundings.withoutExpired configuration identifier request =
        serveIntrospection surroundings configuration identifier request := by
    simp only [serveIntrospection, Session.run_withoutExpired, Surroundings.withoutExpired_now,
      Surroundings.withoutExpired_depth]
  simp only [serve, served]

end Http

end Introspection
