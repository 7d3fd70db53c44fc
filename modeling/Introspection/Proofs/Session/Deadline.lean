import Introspection.Proofs.Decision.Answers
import Introspection.Proofs.Decision.Kinds
import Introspection.Proofs.Moment
import Introspection.Proofs.Session.Coherence

/-!
# The time of expiry that is told

A token that a session tells about was live when it was looked up, and the time of expiry that is
told is that of its row (`live_of_finds`). The look-up compares instants to the microsecond, whereas
what is told are whole seconds; since these keep the order of instants, they are not before the
present either (`active_unexpired`).

What is told depends on instants alone. A database in which all times of expiry are written in
universal time gives the same answers (`active_inUniversalTime_iff`).
-/

namespace Introspection

/-- The time of expiry that is published of an active token is its whole seconds. -/
theorem Answer.get?_exp {answer : Answer} (active : answer.active = true) :
    answer.payload.get? "exp" = answer.expiry.map Json.int := by
  have isField : ("exp", (answer.expiry.map Json.int).getD .null) ∈ answer.fields := by
    simp [fields]
  rw [get?_payload active isField]
  cases answer.expiry with
  | none => rfl
  | some seconds => rfl

/-- The same grant with another time of expiry. -/
def Grant.expiring (expiry : Option Moment) (grant : Grant) : Grant :=
  { grant with expiresAt := expiry }

/-- The same grant with its time of expiry in universal time. -/
def Grant.inUniversalTime (grant : Grant) : Grant :=
  grant.expiring (grant.expiresAt.map Moment.inUniversalTime)

/-- The same token with its time of expiry in universal time. -/
def SubjectToken.inUniversalTime : SubjectToken -> SubjectToken
  | .access token => .access { token with grant := token.grant.inUniversalTime }
  | .refresh token => .refresh { token with grant := token.grant.inUniversalTime }

theorem SubjectToken.grant_inUniversalTime (token : SubjectToken) :
    token.inUniversalTime.grant = token.grant.inUniversalTime := by
  cases token with
  | access token => rfl
  | refresh token => rfl

/-- A token has one user, whichever offset its time of expiry is written with. -/
theorem SubjectToken.findUser_inUniversalTime (token : SubjectToken) :
    Decision.findUser token.inUniversalTime.grant = Decision.findUser token.grant := by
  rw [grant_inUniversalTime]
  rfl

/-- What is told of a token depends on the instant of its expiry, and not on the offset that it is
written with. -/
theorem SubjectToken.assemble_inUniversalTime (issuer : Json) (token : SubjectToken)
    (user : Option UserContext) :
    Decision.assemble issuer token.inUniversalTime user =
      Decision.assemble issuer token user := by
  have answer (name : Option String) :
      Decision.answer name token.inUniversalTime user = Decision.answer name token user := by
    have expiry : (token.grant.expiresAt.map Moment.inUniversalTime).map Moment.wholeSeconds =
        token.grant.expiresAt.map Moment.wholeSeconds := by
      rw [Option.map_map]
      congr 1
      funext moment
      exact moment.wholeSeconds_inUniversalTime
    have tokenType : token.inUniversalTime.tokenType? = token.tokenType? := by
      cases token with
      | access token => rfl
      | refresh token => rfl
    simp only [Decision.answer, grant_inUniversalTime, tokenType, Grant.inUniversalTime,
      Grant.expiring, expiry]
  simp only [Decision.assemble, answer]

/-- The same row with its time of expiry in universal time. -/
def AccessTokenRow.inUniversalTime (row : AccessTokenRow) : AccessTokenRow :=
  { row with expiresAt := row.expiresAt.map Moment.inUniversalTime }

/-- The same row with its time of expiry in universal time. -/
def RefreshTokenRow.inUniversalTime (row : RefreshTokenRow) : RefreshTokenRow :=
  { row with expiresAt := row.expiresAt.map Moment.inUniversalTime }

/-- A time of expiry is taken into a grant as it is stored. -/
theorem Grant.ofColumns_expiry (owner scope principal : Json) (expiry : Option Moment) :
    ofColumns owner scope principal expiry =
      (ofColumns owner scope principal none).map
        (Checked.map (Grant.expiring expiry)) := by
  unfold ofColumns
  cases Scope.column "scopes" scope with
  | error failure => rfl
  | ok scopes =>
    simp only [ok_bind, pure_eq_ok, Except.map]
    generalize (Checked.text owner).under (.field "client_id") = owner
    generalize (Checked.optional Checked.text principal).under (.field "principal_name") = principal
    cases owner <;> cases scopes <;> cases principal <;> rfl

section Rows

/-- The record of an access token has the time of expiry that is stored, and nothing else of the
record depends on it. -/
theorem AccessTokenRow.record_expiry (row : AccessTokenRow) (expiry : Option Moment) :
    { row with expiresAt := expiry }.record =
      row.record.map fun token => { token with grant := token.grant.expiring expiry } := by
  have typeName : { row with expiresAt := expiry }.typeName = row.typeName := rfl
  simp only [record, typeName]
  rw [Grant.ofColumns_expiry _ _ _ expiry, Grant.ofColumns_expiry _ _ _ row.expiresAt]
  cases Grant.ofColumns row.owner row.scope row.principal none with
  | error failure => rfl
  | ok grant =>
    generalize row.typeName = typeName
    cases grant <;> cases typeName <;> rfl

/-- The record of a refresh token has the time of expiry that is stored, and nothing else of the
record depends on it. -/
theorem RefreshTokenRow.record_expiry (row : RefreshTokenRow) (value : String)
    (expiry : Option Moment) :
    { row with expiresAt := expiry }.record value =
      (row.record value).map fun token => { token with grant := token.grant.expiring expiry } := by
  simp only [record]
  rw [Grant.ofColumns_expiry _ _ _ expiry, Grant.ofColumns_expiry _ _ _ row.expiresAt]
  cases Grant.ofColumns row.owner row.scope row.principal none with
  | error failure => rfl
  | ok grant => cases grant <;> rfl

theorem AccessTokenRow.expiresAt_of_record {row : AccessTokenRow} {token : AccessToken}
    (made : row.record = .ok token) : token.grant.expiresAt = row.expiresAt := by
  have same := row.record_expiry row.expiresAt
  change row.record = _ at same
  rw [made] at same
  rw [Except.ok.inj same]
  rfl

theorem RefreshTokenRow.expiresAt_of_record {row : RefreshTokenRow} {value : String}
    {token : RefreshToken} (made : row.record value = .ok token) :
    token.grant.expiresAt = row.expiresAt := by
  have same := row.record_expiry value row.expiresAt
  change row.record value = _ at same
  rw [made] at same
  rw [Except.ok.inj same]
  rfl

/-- The record of an access token in universal time is that of the token, in universal time. -/
theorem AccessTokenRow.record_inUniversalTime {row : AccessTokenRow} {restated : AccessToken} :
    row.inUniversalTime.record = .ok restated ↔
      ∃ token, row.record = .ok token ∧
        restated = { token with grant := token.grant.inUniversalTime } := by
  rw [inUniversalTime, record_expiry]
  cases made : row.record with
  | error failure => simp [Except.map]
  | ok token =>
    simp only [Except.map, Except.ok.injEq, exists_eq_left', Grant.inUniversalTime,
      expiresAt_of_record made]
    exact eq_comm

/-- The record of a refresh token in universal time is that of the token, in universal time. -/
theorem RefreshTokenRow.record_inUniversalTime {row : RefreshTokenRow} {value : String}
    {restated : RefreshToken} :
    row.inUniversalTime.record value = .ok restated ↔
      ∃ token, row.record value = .ok token ∧
        restated = { token with grant := token.grant.inUniversalTime } := by
  rw [inUniversalTime, record_expiry]
  cases made : row.record value with
  | error failure => simp [Except.map]
  | ok token =>
    simp only [Except.map, Except.ok.injEq, exists_eq_left', Grant.inUniversalTime,
      expiresAt_of_record made]
    exact eq_comm

end Rows

namespace Database

/-- The times of expiry that are stored. -/
def expiries (database : Database) : List (Option Moment) :=
  database.accessTokens.map (·.expiresAt) ++ database.refreshTokens.map (·.expiresAt)

/-- Times of expiry are moments of the calendar, where there are any. -/
def Dated (database : Database) : Prop :=
  ∀ expiry, some expiry ∈ database.expiries -> expiry.IsDate

variable {database : Database} {now : Moment} {value : String}

theorem reply_access_eq_some {token : AccessToken} :
    database.reply now (.access value) = .ok (some token) ↔
      database.failure? .accessTokens = none ∧
        ∃ row, database.accessToken? now value = some row ∧ row.record = .ok token :=
  answer_mapM_eq_some

theorem reply_refresh_eq_some {token : RefreshToken} :
    database.reply now (.refresh value) = .ok (some token) ↔
      database.failure? .refreshTokens = none ∧
        ∃ row, database.refreshToken? now (tokenHash value) = some row ∧
          row.record value = .ok token :=
  answer_mapM_eq_some

/-- A token that is found in a database is live there, with the time of expiry that is stored. -/
theorem live_of_finds {token : SubjectToken}
    (found : Decision.Finds (database.reply now) value token) :
    token.grant.expiresAt ∈ database.expiries ∧
      Moment.isAfter token.grant.expiresAt now = true := by
  cases found with
  | access found =>
    obtain ⟨_, row, queried, made⟩ := reply_access_eq_some.mp found
    have live := List.find?_some queried
    rw [Bool.and_eq_true] at live
    rw [SubjectToken.grant, AccessTokenRow.expiresAt_of_record made]
    refine ⟨List.mem_append_left _ ?_, live.2⟩
    exact List.mem_map_of_mem (List.mem_of_find?_eq_some queried)
  | refresh missing found =>
    obtain ⟨_, row, queried, made⟩ := reply_refresh_eq_some.mp found
    have live := List.find?_some queried
    rw [Bool.and_eq_true] at live
    rw [SubjectToken.grant, RefreshTokenRow.expiresAt_of_record made]
    refine ⟨List.mem_append_right _ ?_, live.2⟩
    exact List.mem_map_of_mem (List.mem_of_find?_eq_some queried)

/-- The same database with all times of expiry in universal time. -/
def inUniversalTime (database : Database) : Database :=
  { database with
    accessTokens := database.accessTokens.map AccessTokenRow.inUniversalTime
    refreshTokens := database.refreshTokens.map RefreshTokenRow.inUniversalTime }

theorem accessToken?_inUniversalTime (value : String) :
    database.inUniversalTime.accessToken? now value =
      (database.accessToken? now value).map AccessTokenRow.inUniversalTime := by
  simp only [accessToken?, inUniversalTime, List.find?_map, Function.comp_def,
    AccessTokenRow.inUniversalTime, Moment.isAfter_inUniversalTime]
  rfl

theorem refreshToken?_inUniversalTime (hash : String) :
    database.inUniversalTime.refreshToken? now hash =
      (database.refreshToken? now hash).map RefreshTokenRow.inUniversalTime := by
  simp only [refreshToken?, inUniversalTime, List.find?_map, Function.comp_def,
    RefreshTokenRow.inUniversalTime, Moment.isAfter_inUniversalTime]
  rfl

/-- The tokens that are found in universal time are those that are found, in universal time. -/
theorem finds_inUniversalTime_iff {restated : SubjectToken} :
    Decision.Finds (database.inUniversalTime.reply now) value restated ↔
      ∃ token, Decision.Finds (database.reply now) value token ∧
        restated = token.inUniversalTime := by
  constructor
  · intro found
    cases found with
    | access found =>
      rw [reply_access_eq_some, accessToken?_inUniversalTime] at found
      obtain ⟨answered, _, restatedRow, restatedRecord⟩ := found
      obtain ⟨row, queried, rfl⟩ := Option.map_eq_some_iff.mp restatedRow
      obtain ⟨token, made, rfl⟩ := AccessTokenRow.record_inUniversalTime.mp restatedRecord
      exact ⟨_, .access (reply_access_eq_some.mpr ⟨answered, row, queried, made⟩), rfl⟩
    | refresh missing found =>
      rw [reply_access_eq_none, accessToken?_inUniversalTime, Option.map_eq_none_iff] at missing
      rw [reply_refresh_eq_some, refreshToken?_inUniversalTime] at found
      obtain ⟨answered, _, restatedRow, restatedRecord⟩ := found
      obtain ⟨row, queried, rfl⟩ := Option.map_eq_some_iff.mp restatedRow
      obtain ⟨token, made, rfl⟩ := RefreshTokenRow.record_inUniversalTime.mp restatedRecord
      exact ⟨_, .refresh (reply_access_eq_none.mpr missing)
        (reply_refresh_eq_some.mpr ⟨answered, row, queried, made⟩), rfl⟩
  · rintro ⟨token, found, rfl⟩
    cases found with
    | access found =>
      obtain ⟨answered, row, queried, made⟩ := reply_access_eq_some.mp found
      refine .access (reply_access_eq_some.mpr ⟨answered, row.inUniversalTime, ?_, ?_⟩)
      · rw [accessToken?_inUniversalTime, queried, Option.map_some]
      · exact AccessTokenRow.record_inUniversalTime.mpr ⟨_, made, rfl⟩
    | refresh missing found =>
      obtain ⟨running, absent⟩ := reply_access_eq_none.mp missing
      obtain ⟨answered, row, queried, made⟩ := reply_refresh_eq_some.mp found
      refine .refresh (reply_access_eq_none.mpr ⟨running, ?_⟩)
        (reply_refresh_eq_some.mpr ⟨answered, row.inUniversalTime, ?_, ?_⟩)
      · rw [accessToken?_inUniversalTime, absent, Option.map_none]
      · rw [refreshToken?_inUniversalTime, queried, Option.map_some]
      · exact RefreshTokenRow.record_inUniversalTime.mpr ⟨_, made, rfl⟩

/-- An answer that is given in universal time is that about the token in universal time. -/
theorem answers_inUniversalTime_iff {policy : Policy} {requester : Requester}
    {profile : ClientProfile} {restated : SubjectToken} {user : Option UserContext}
    {told : Answer} :
    Decision.Answers (database.inUniversalTime.reply now) policy requester value profile restated
        user told ↔
      ∃ token, restated = token.inUniversalTime ∧
        Decision.Answers (database.reply now) policy requester value profile token user told := by
  have clients : database.inUniversalTime.reply now (.client requester.clientId) =
      database.reply now (.client requester.clientId) := rfl
  have users (username clientId : String) :
      database.inUniversalTime.reply now (.user username clientId) =
        database.reply now (.user username clientId) := rfl
  constructor
  · rintro ⟨admitted, restatedFound, userFound, permitted, assembled⟩
    obtain ⟨token, found, rfl⟩ := finds_inUniversalTime_iff.mp restatedFound
    rw [Decision.eval_authenticate_congr clients] at admitted
    rw [Decision.eval_findUser_congr fun _ _ => users _ _,
      token.findUser_inUniversalTime] at userFound
    rw [token.grant_inUniversalTime] at permitted
    rw [token.assemble_inUniversalTime] at assembled
    exact ⟨token, rfl, admitted, found, userFound, permitted, assembled⟩
  · rintro ⟨token, rfl, admitted, found, userFound, permitted, assembled⟩
    refine ⟨?_, finds_inUniversalTime_iff.mpr ⟨token, found, rfl⟩, ?_, ?_, ?_⟩
    · rwa [Decision.eval_authenticate_congr clients]
    · rwa [Decision.eval_findUser_congr fun _ _ => users _ _, token.findUser_inUniversalTime]
    · rwa [token.grant_inUniversalTime]
    · rwa [token.assemble_inUniversalTime]

/-- A request is answered alike in universal time. -/
theorem active_inUniversalTime_iff {policy : Policy} {token : Option String} {hint : Json}
    {requester : Requester} {told : Answer} :
    (Decision.introspect policy token hint requester).eval (database.inUniversalTime.reply now) =
        .ok (.active told) ↔
      (Decision.introspect policy token hint requester).eval (database.reply now) =
        .ok (.active told) := by
  rw [Decision.eval_introspect_eq_active, Decision.eval_introspect_eq_active]
  constructor
  · rintro ⟨value, profile, restated, user, given, answers⟩
    obtain ⟨found, -, answers⟩ := answers_inUniversalTime_iff.mp answers
    exact ⟨value, profile, found, user, given, answers⟩
  · rintro ⟨value, profile, found, user, given, answers⟩
    exact ⟨value, profile, found.inUniversalTime, user, given,
      answers_inUniversalTime_iff.mpr ⟨found, rfl, answers⟩⟩

end Database

namespace Session

/-- An answer about a token never tells of a time of expiry in the past. Where a database is asked
at a moment of the calendar and the times of expiry that it holds are such moments, the time that
is told, if any is, is an integer that is not below the whole seconds of the present. It does not
depend on the offsets that times are written with: any other database that holds the same instants
gives the same answer, whatever was asked before in either session. -/
theorem active_unexpired {α : Type} {surroundings : Surroundings}
    (dated : surroundings.database.Dated) (present : surroundings.now.IsDate) {policy : Policy}
    {token : Option String} {hint : Json} {requester : Requester} {told : Answer}
    (before : Procedure α)
    (active : ((Session.run surroundings before .empty).state.runDecision surroundings.database
      surroundings.now (Decision.introspect policy token hint requester)).result =
        .ok (.active told)) :
    (∀ expiry, told.payload.get? "exp" = some expiry ->
      ∃ seconds : Int, expiry = .int seconds ∧ surroundings.now.wholeSeconds ≤ seconds) ∧
    ∀ restated : Surroundings, restated.now = surroundings.now ->
      restated.database.inUniversalTime = surroundings.database.inUniversalTime ->
      ∀ {β : Type} (beforeRestated : Procedure β),
        ((Session.run restated beforeRestated .empty).state.runDecision restated.database
          restated.now (Decision.introspect policy token hint requester)).result =
            .ok (.active told) := by
  rw [result_runDecision] at active
  constructor
  · intro expiry isTold
    obtain ⟨value, profile, found, user, _, answers⟩ :=
      Decision.eval_introspect_eq_active.mp active
    obtain ⟨stored, live⟩ := Database.live_of_finds answers.found
    obtain ⟨name, rfl⟩ := Decision.exists_answer_of_assemble answers.assembled
    rw [Answer.get?_exp rfl, Decision.answer] at isTold
    cases expires : found.grant.expiresAt with
    | none =>
      rw [expires] at isTold
      cases isTold
    | some moment =>
      rw [expires] at isTold stored live
      refine ⟨moment.wholeSeconds, (Option.some.inj isTold).symm, ?_⟩
      -- The lookup compares strictly. Of that, whole seconds keep no more than the order.
      refine Moment.wholeSeconds_mono present (dated moment stored) ?_
      exact Int.le_of_lt (by simpa [Moment.isAfter] using live)
  · intro restated sameTime sameInstants β beforeRestated
    -- Both databases give the answers of the one that has all times in universal time.
    rw [result_runDecision, sameTime, ← Database.active_inUniversalTime_iff, sameInstants,
      Database.active_inUniversalTime_iff]
    exact active

/-- A database with a token that expires a microsecond after half a second past midnight in
universal time, as it reads so many seconds to the east. -/
def closingDatabase (offset : Int) : Database where
  clients := [⟨"shop", .string "client_secret_basic", .null, .null, .null, .null, .bool true,
    .list [.string "read"], .string "ROLE_CLIENT"⟩]
  accessTokens := [⟨"t-1", .string "shop", .null, .null, .null,
    some ⟨1735689600500001 + offset * Moment.second, some offset⟩⟩]
  refreshTokens := []
  users := []
  outages := []

/-- A token is told about at half a second past midnight, a microsecond before it expires: it
expires in the second of midnight, which is the present one, and reads alike two hours to the east
and an hour to the west. -/
theorem active_unexpired_closing :
    let decision : Decision Outcome := Decision.introspect
      (.ofTexts "uma_protection" .subset none) (some "t-1") .null (.direct "shop" .empty)
    let east : Surroundings :=
      ⟨closingDatabase 7200, ⟨1735689600500000, some 0⟩, fun _ => .unreachable, 900⟩
    let west : Surroundings :=
      ⟨closingDatabase (-3600), ⟨1735689600500000, some 0⟩, fun _ => .unreachable, 900⟩
    east.database.Dated ∧ east.now.IsDate ∧
      ∃ told : Answer, told.payload.get? "exp" = some (.int 1735689600) ∧
        east.now.wholeSeconds ≤ 1735689600 ∧
        ((Session.run east (pure ()) .empty).state.runDecision east.database east.now
          decision).result = .ok (.active told) ∧
        ((Session.run west (pure ()) .empty).state.runDecision west.database west.now
          decision).result = .ok (.active told) := by
  intro decision east west
  have dated : east.database.Dated := by
    intro expiry stored
    obtain rfl : expiry = ⟨1735696800500001, some 7200⟩ := by
      simpa [east, closingDatabase, Database.expiries, Moment.second] using stored
    exact ⟨by decide, by decide, by decide⟩
  have present : east.now.IsDate := ⟨by decide, by decide, by decide⟩
  let told : Answer :=
    ⟨true, some "", some "shop", some 1735689600, none, none, some "Bearer", none⟩
  have active : ((Session.run east (pure ()) .empty).state.runDecision east.database east.now
      decision).result = .ok (.active told) := by
    rw [result_runDecision]
    rfl
  have sameInstants : west.database.inUniversalTime = east.database.inUniversalTime := rfl
  obtain ⟨unexpired, alike⟩ := active_unexpired dated present (pure ()) active
  have isTold : told.payload.get? "exp" = some (.int 1735689600) := rfl
  obtain ⟨seconds, same, notBefore⟩ := unexpired _ isTold
  cases same
  exact ⟨dated, present, told, isTold, notBefore, active, alike west rfl sameInstants (pure ())⟩

end Session

end Introspection
