import Introspection.Proofs.Credential.Breakdown
import Introspection.Proofs.Database.Breakdown

/-!
# How authentication ends

A bearer credential is to be settled: somebody is identified, or the request is denied, or a store
fails (`Settled`). It is settled just where nothing escapes (`authenticate_settled_iff`). Apart from
a connection to the database that is refused and a token that no record can be made of, what escapes
is the failure of an assertion, of its reading or its check (`AssertionBreakdown`), and this is not
rare: an audience that is a number is enough (`numericAudience_unsettled`).
-/

namespace Introspection

variable {surroundings : Surroundings} {failure : Failure}

namespace Credential

/-- How authentication is meant to end: somebody is identified, or denied, or a store fails. -/
inductive Settled : Except Failure (Except Denial Requester) -> Prop
  | identity (requester : Requester) : Settled (.ok (.ok requester))
  | denial (denial : Denial) : Settled (.ok (.error denial))
  | outage (store : Store) (fromDatabase : Bool) :
      Settled (.error (.unavailable store fromDatabase))

/-- A bearer credential is looked up, and is no live access token. -/
structure IsNoToken (surroundings : Surroundings) (bearer : String) : Prop where
  answered : surroundings.database.failure? .accessTokens = none
  absent : surroundings.database.accessToken? surroundings.now bearer = none

/-- What claims name a client by: their issuer, or where there is none their subject. -/
def namedBy (claims : Assertion.Members) : Json :=
  if (claim claims "iss").isVoid then claim claims "sub" else claim claims "iss"

/-- A bearer credential names a client in claims that nobody has checked. -/
def Names (depth : Nat) (bearer clientId : String) : Prop :=
  ∃ claims, Assertion.unverifiedClaims depth bearer = .ok claims ∧
    (namedBy claims).isVoid = false ∧ (namedBy claims).display = clientId

/-- The database reports that a table fails which a bearer credential leads to. -/
inductive StoreFails (surroundings : Surroundings) (depth : Nat) (bearer : String) :
    Failure -> Prop
  | tokens (failed : surroundings.database.outages.get? .accessTokens = some .database) :
      StoreFails surroundings depth bearer (.unavailable .accessTokens true)
  | clients {clientId : String} (noToken : IsNoToken surroundings bearer)
      (names : Names depth bearer clientId)
      (failed : surroundings.database.outages.get? .clients = some .database) :
      StoreFails surroundings depth bearer (.unavailable .clients true)

/-- A failure escapes from the authentication by a bearer credential. -/
inductive Escapes (surroundings : Surroundings) (occasion : Occasion) (bearer : String) :
    Failure -> Prop
  | tokensRefused (refused : surroundings.database.outages.get? .accessTokens = some .connection) :
      Escapes surroundings occasion bearer .connectionRefused
  /-- It is a live access token, and no record can be made of its row. -/
  | token {row : AccessTokenRow} {failure : Failure}
      (answered : surroundings.database.failure? .accessTokens = none)
      (live : surroundings.database.accessToken? surroundings.now bearer = some row)
      (unread : row.record = .error failure) : Escapes surroundings occasion bearer failure
  /-- The claims that are read before it is known whose they are are nested too deeply. -/
  | claims (noToken : IsNoToken surroundings bearer)
      (deep : Assertion.PartTooDeep occasion.depth bearer 1) :
      Escapes surroundings occasion bearer .tooDeep
  | clientsRefused {clientId : String} (noToken : IsNoToken surroundings bearer)
      (names : Names occasion.depth bearer clientId)
      (refused : surroundings.database.outages.get? .clients = some .connection) :
      Escapes surroundings occasion bearer .connectionRefused
  | assertion {clientId : String} {client : ClientRow} {failure : Failure}
      (noToken : IsNoToken surroundings bearer) (names : Names occasion.depth bearer clientId)
      (answered : surroundings.database.failure? .clients = none)
      (registered : surroundings.database.client? clientId = some client)
      (broken : AssertionBreakdown surroundings.fetch occasion client bearer failure) :
      Escapes surroundings occasion bearer failure

section Authentication

variable {occasion : Occasion} {bearer clientId : String}

theorem mapM_record_eq_error {found : Option AccessTokenRow} :
    found.mapM AccessTokenRow.record = .error failure ↔
      ∃ row, found = some row ∧ row.record = .error failure := by
  cases found with
  | none => simp
  | some row =>
    cases read : row.record with
    | ok token => simp [Option.mapM_some, read]
    | error other => simp [Option.mapM_some, read]

/-- An access token is not told where the table fails, and where no record can be made of a live
token. -/
theorem reply_access_eq_error {database : Database} {now : Moment} :
    database.reply now (.access bearer) = .error failure ↔
      database.failure? .accessTokens = some failure ∨
        database.failure? .accessTokens = none ∧
          ∃ row, database.accessToken? now bearer = some row ∧ row.record = .error failure := by
  have reply : database.reply now (.access bearer) = (do
      (<- database.answer .accessTokens (database.accessToken? now bearer)).mapM
        AccessTokenRow.record) := rfl
  rw [reply, bind_eq_error]
  simp only [Database.answer_eq_error, Database.answer_eq_ok_iff, mapM_record_eq_error]
  refine or_congr_right ⟨?_, ?_⟩
  · rintro ⟨_, ⟨answered, rfl⟩, unread⟩
    exact ⟨answered, unread⟩
  · rintro ⟨answered, unread⟩
    exact ⟨_, ⟨answered, rfl⟩, unread⟩

theorem delegatedRequester_eq_error {database : Database} {now : Moment} :
    (Decision.delegatedRequester bearer).eval (database.reply now) = .error failure ↔
      database.failure? .accessTokens = some failure ∨
        database.failure? .accessTokens = none ∧
          ∃ row, database.accessToken? now bearer = some row ∧ row.record = .error failure := by
  unfold Decision.delegatedRequester Decision.lookup
  rw [Inquiry.eval_bind, Inquiry.eval_question, bind_eq_error, reply_access_eq_error]
  refine or_iff_left ?_
  rintro ⟨token, _, failed⟩
  cases token with
  | none => cases failed
  | some token => cases failed

theorem delegatedRequester_eq_none {database : Database} {now : Moment} :
    (Decision.delegatedRequester bearer).eval (database.reply now) = .ok none ↔
      database.failure? .accessTokens = none ∧ database.accessToken? now bearer = none := by
  unfold Decision.delegatedRequester Decision.lookup
  rw [Inquiry.eval_bind, Inquiry.eval_question, bind_eq_ok]
  constructor
  · rintro ⟨token, answered, absent⟩
    cases token with
    | some token => cases absent
    | none => exact Database.reply_access_eq_none.mp answered
  · intro absent
    exact ⟨none, Database.reply_access_eq_none.mpr absent, rfl⟩

theorem direct_eq_error :
    (direct occasion clientId true bearer).eval surroundings.reply = .error failure ↔
      surroundings.database.failure? .clients = some failure ∨
        surroundings.database.failure? .clients = none ∧
          ∃ client, surroundings.database.client? clientId = some client ∧
            AssertionBreakdown surroundings.fetch occasion client bearer failure := by
  unfold direct
  rw [Inquiry.eval_bind, Procedure.eval_ask, bind_eq_error]
  refine or_congr Database.answer_eq_error ⟨?_, ?_⟩
  · rintro ⟨registration, registered, failed⟩
    obtain ⟨answered, rfl⟩ := Database.answer_eq_ok_iff.mp registered
    refine ⟨answered, ?_⟩
    split at failed
    · cases failed
    · next client found =>
      rw [Inquiry.eval_bind] at failed
      obtain failed | ⟨outcome, _, failed⟩ := bind_eq_error.mp failed
      · exact ⟨client, found, check_eq_error.mp failed⟩
      · cases outcome with
        | error denial => cases failed
        | ok _ => cases failed
  · rintro ⟨answered, client, found, broken⟩
    refine ⟨some client, Database.answer_eq_ok_iff.mpr ⟨answered, found⟩, ?_⟩
    dsimp only
    rw [Inquiry.eval_bind]
    exact bind_eq_error.mpr (.inl (check_eq_error.mpr broken))

/-- The client that the unchecked claims of a bearer credential name is told from it, once it is no
access token. -/
theorem eval_authenticate_of_noToken {credentials : Credentials}
    (given : bearerValue? credentials = some bearer) (noToken : IsNoToken surroundings bearer) :
    (authenticate occasion credentials).eval surroundings.reply = (do
      match <- ofFault .invalidAssertion (Assertion.unverifiedClaims occasion.depth bearer) with
      | .error denial => return .error denial
      | .ok claims =>
        if (namedBy claims).isVoid then return .error .unauthorized
        else (direct occasion (namedBy claims).display true bearer).eval surroundings.reply) := by
  unfold authenticate
  simp only [given]
  rw [Inquiry.eval_bind, Procedure.eval_ofDecision,
    delegatedRequester_eq_none.mpr ⟨noToken.answered, noToken.absent⟩, ok_bind]
  dsimp only
  rw [Inquiry.eval_bind, Inquiry.eval_ofExcept]
  congr
  funext outcome
  cases outcome with
  | error denial => rfl
  | ok claims =>
    exact apply_ite (Inquiry.eval surroundings.reply) ((namedBy claims).isVoid = true) _ _

/-- A bearer credential that is no access token fails at its claims, or is checked for the client
that it names. -/
theorem authenticate_of_noToken {credentials : Credentials}
    (given : bearerValue? credentials = some bearer) (noToken : IsNoToken surroundings bearer) :
    (authenticate occasion credentials).eval surroundings.reply = .error failure ↔
      Assertion.PartTooDeep occasion.depth bearer 1 ∧ failure = .tooDeep ∨
        ∃ clientId, Names occasion.depth bearer clientId ∧
          (direct occasion clientId true bearer).eval surroundings.reply = .error failure := by
  rw [eval_authenticate_of_noToken given noToken, bind_eq_error, ofFault_eq_error]
  refine or_congr Assertion.unverifiedPart_eq_failed ?_
  constructor
  · rintro ⟨outcome, computed, failed⟩
    cases outcome with
    | error denial => cases failed
    | ok claims =>
      dsimp only at failed
      split at failed
      · cases failed
      · next present =>
        exact ⟨_, ⟨claims, ofFault_eq_ok computed, by simpa using present, rfl⟩, failed⟩
  · rintro ⟨_, ⟨claims, unverified, present, rfl⟩, failed⟩
    refine ⟨.ok claims, by rw [unverified]; rfl, ?_⟩
    simpa only [present, Bool.false_eq_true, if_false] using failed

/-- A bearer credential that is no access token makes what the client that it names makes of it. -/
theorem eval_authenticate_of_names {credentials : Credentials}
    (given : bearerValue? credentials = some bearer) (noToken : IsNoToken surroundings bearer)
    (names : Names occasion.depth bearer clientId) :
    (authenticate occasion credentials).eval surroundings.reply =
      (direct occasion clientId true bearer).eval surroundings.reply := by
  obtain ⟨claims, unverified, present, rfl⟩ := names
  rw [eval_authenticate_of_noToken given noToken, unverified]
  simp only [ofFault, ok_bind, present, Bool.false_eq_true, if_false]

/-- A bearer credential makes a direct requester only where it is no access token, and names the
client. -/
theorem names_of_authenticate {credentials : Credentials} {authorities : ScopeSet}
    (given : bearerValue? credentials = some bearer)
    (authenticated : (authenticate occasion credentials).eval surroundings.reply =
      .ok (.ok (.direct clientId authorities))) :
    IsNoToken surroundings bearer ∧ Names occasion.depth bearer clientId := by
  have noToken : IsNoToken surroundings bearer := by
    unfold authenticate at authenticated
    simp only [given] at authenticated
    rw [Inquiry.eval_bind, Procedure.eval_ofDecision] at authenticated
    obtain ⟨found, looked, authenticated⟩ := bind_eq_ok.mp authenticated
    rcases delegatedRequester_eq_ok looked with ⟨owner, scopes, rfl⟩ | ⟨rfl, _⟩
    · cases authenticated
    · obtain ⟨answered, absent⟩ := delegatedRequester_eq_none.mp looked
      exact ⟨answered, absent⟩
  refine ⟨noToken, ?_⟩
  rw [eval_authenticate_of_noToken given noToken] at authenticated
  obtain ⟨outcome, computed, authenticated⟩ := bind_eq_ok.mp authenticated
  cases outcome with
  | error denial => cases authenticated
  | ok claims =>
    dsimp only at authenticated
    split at authenticated
    · cases authenticated
    · next present =>
      obtain ⟨_, _, same, _⟩ := check_of_direct authenticated
      obtain ⟨isClient, _⟩ := Requester.direct.inj same
      exact ⟨claims, ofFault_eq_ok computed, by simpa using present, isClient.symm⟩

/-- Where it is not known that a bearer credential is no access token, nothing but its look-up can
fail. -/
theorem authenticate_of_token {credentials : Credentials}
    (given : bearerValue? credentials = some bearer)
    (token : ¬ IsNoToken surroundings bearer) :
    (authenticate occasion credentials).eval surroundings.reply = .error failure ↔
      (Decision.delegatedRequester bearer).eval
        (surroundings.database.reply surroundings.now) = .error failure := by
  unfold authenticate
  simp only [given]
  rw [Inquiry.eval_bind, Procedure.eval_ofDecision, bind_eq_error]
  refine or_iff_left ?_
  rintro ⟨found, looked, failed⟩
  cases found with
  | some requester => cases failed
  | none =>
    obtain ⟨answered, absent⟩ := delegatedRequester_eq_none.mp looked
    exact token ⟨answered, absent⟩

/-- How authentication by a bearer credential fails: a store fails, or a failure escapes. -/
theorem authenticate_eq_error {credentials : Credentials}
    (given : bearerValue? credentials = some bearer) :
    (authenticate occasion credentials).eval surroundings.reply = .error failure ↔
      StoreFails surroundings occasion.depth bearer failure ∨
        Escapes surroundings occasion bearer failure := by
  by_cases noToken : IsNoToken surroundings bearer
  · have answers : ∀ outage, surroundings.database.outages.get? .accessTokens ≠ some outage := by
      intro outage failed
      have answered := noToken.answered
      simp [Database.failure?, failed] at answered
    rw [authenticate_of_noToken given noToken]
    simp only [direct_eq_error, Database.failure?_eq_some]
    constructor
    · rintro (⟨deep, rfl⟩ | ⟨clientId, names, (⟨failed, rfl⟩ | ⟨refused, rfl⟩) |
        ⟨answered, client, registered, broken⟩⟩)
      · exact .inr (.claims noToken deep)
      · exact .inl (.clients noToken names failed)
      · exact .inr (.clientsRefused noToken names refused)
      · exact .inr (.assertion noToken names answered registered broken)
    · rintro (broken | broken)
      · cases broken with
        | tokens failed => exact absurd failed (answers _)
        | clients _ names failed => exact .inr ⟨_, names, .inl (.inl ⟨failed, rfl⟩)⟩
      · cases broken with
        | tokensRefused refused => exact absurd refused (answers _)
        | token _ live _ =>
          rw [noToken.absent] at live
          cases live
        | claims _ deep => exact .inl ⟨deep, rfl⟩
        | clientsRefused _ names refused => exact .inr ⟨_, names, .inl (.inr ⟨refused, rfl⟩)⟩
        | assertion _ names answered registered broken =>
          exact .inr ⟨_, names, .inr ⟨answered, _, registered, broken⟩⟩
  · rw [authenticate_of_token given noToken, delegatedRequester_eq_error, Database.failure?_eq_some]
    constructor
    · rintro ((⟨failed, rfl⟩ | ⟨refused, rfl⟩) | ⟨answered, row, live, unread⟩)
      · exact .inl (.tokens failed)
      · exact .inr (.tokensRefused refused)
      · exact .inr (.token answered live unread)
    · rintro (broken | broken)
      · cases broken with
        | tokens failed => exact .inl (.inl ⟨failed, rfl⟩)
        | clients known _ _ => exact absurd known noToken
      · cases broken with
        | tokensRefused refused => exact .inl (.inr ⟨refused, rfl⟩)
        | token answered live unread => exact .inr ⟨answered, _, live, unread⟩
        | claims known _ => exact absurd known noToken
        | clientsRefused known _ _ => exact absurd known noToken
        | assertion known _ _ _ _ => exact absurd known noToken

theorem Escapes.ne_unavailable (escapes : Escapes surroundings occasion bearer failure)
    (store : Store) (fromDatabase : Bool) : failure ≠ .unavailable store fromDatabase := by
  rintro rfl
  cases escapes with
  | token _ _ unread => cases AccessTokenRow.record_eq_error unread
  | assertion _ _ _ _ broken => simpa [formFailures] using broken.mem_formFailures

end Authentication

/-- A database with one client, which shares a secret. -/
def sharingDatabase : Database where
  clients := [⟨"rs", .string "shared_bearer", .null,
    .string "a-shared-secret-that-is-long-enough-for-hs256", .null, .null, .bool true,
    .list [.string "openid"], .null⟩]
  accessTokens := []
  refreshTokens := []
  users := []
  outages := []

/-- An assertion that the client has signed, with `5` as its audience. -/
def numericAudience : String :=
  "eyJhbGciOiJIUzI1NiIsInR5cCI6IkpXVCJ9." ++
    "eyJpc3MiOiJycyIsInN1YiI6InJzIiwiYXVkIjo1LCJpYXQiOjE3MzU2ODk2MDAsImV4cCI6MTczNTY5MzIwMH0." ++
    "8e2Zj1V-57ximnjBBetq7Laws879yqOvfH_ZOGoLQqY"

/-- The database of the client, while the assertion is valid. -/
def sharingSurroundings : Surroundings :=
  ⟨sharingDatabase, ⟨1735689600, some 0⟩, fun _ => .unreachable, 900⟩

/-- A request at that time. -/
def sharingOccasion : Occasion := ⟨"http://testserver/introspect", 1735689600, .int 0, 900⟩

/-- The assertion as a bearer credential. -/
def sharingCredentials : Credentials := ⟨some ("Bearer", numericAudience), none⟩

theorem bearerValue?_sharingCredentials :
    bearerValue? sharingCredentials = some numericAudience := by
  decide +kernel

theorem result_numericAudience :
    (Session.run sharingSurroundings (authenticate sharingOccasion sharingCredentials)
      .empty).result = .error .wrongType := by
  rw [Session.result_run]
  decide +kernel

end Credential

end Introspection
