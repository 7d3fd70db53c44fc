import Introspection.Proofs.Database.Maps
import Introspection.Proofs.Session.Deadline

/-!
# The subject that is told

An answer about a token names its user as the owner of the token knows them, whoever asks: by the
identifier for the owner if there is one, and by the user's own subject otherwise. The identifiers
for other clients do not come into it, those for the client that asks included, and neither does
the order in which identifiers are loaded (`active_subject`).
-/

namespace Introspection

/-- A live token of a value was issued to a client, for the user of a name. Of two tokens of one
value the access token counts. -/
inductive Database.IssuedFor (database : Database) (now : Moment)
    (value owner username : String) : Prop
  | access {row : AccessTokenRow} (found : database.accessToken? now value = some row)
      (owned : row.owner = .string owner) (isName : row.principal = .string username)
  | refresh {row : RefreshTokenRow} (missing : database.accessToken? now value = none)
      (found : database.refreshToken? now (tokenHash value) = some row)
      (owned : row.owner = .string owner) (isName : row.principal = .string username)

/-- There is at most one identifier of a user for each client. -/
def UserRow.IsDistinct (row : UserRow) : Prop := (row.pairwise.map (·.clientId)).Nodup

/-- Two rows of users are the same to a client: they have the same subject and the same identifier
for the client. Their order and the identifiers for other clients may differ. -/
structure UserRow.AlikeFor (clientId : String) (row other : UserRow) : Prop where
  subject : other.subject = row.subject
  identifiers : ∀ identifier,
    ⟨.string clientId, identifier⟩ ∈ other.pairwise ↔
      ⟨.string clientId, identifier⟩ ∈ row.pairwise

namespace UserRow

variable {row other : UserRow} {clientId : String}

/-- A client sees the users of rows that are the same to it under one subject. -/
theorem AlikeFor.subjectFor_eq (alike : row.AlikeFor clientId other) (distinct : row.IsDistinct)
    (alsoDistinct : other.IsDistinct) : other.subjectFor clientId = row.subjectFor clientId := by
  have search : other.pairwise.find? (·.clientId.string? == some clientId) =
      row.pairwise.find? (·.clientId.string? == some clientId) := by
    refine Option.ext fun pairwise => ?_
    rw [find?_pairwise_iff distinct, find?_pairwise_iff alsoDistinct]
    obtain ⟨holder, identifier⟩ := pairwise
    refine and_congr_left fun isFor => ?_
    obtain rfl : holder = .string clientId := isFor
    exact alike.identifiers identifier
  rw [subjectFor, subjectFor, search, alike.subject]

/-- A client sees the users of one name alike in rows that are the same to it. -/
theorem AlikeFor.seenBy_eq (alike : row.AlikeFor clientId other) (distinct : row.IsDistinct)
    (alsoDistinct : other.IsDistinct) (sameName : other.preferredUsername = row.preferredUsername) :
    other.seenBy clientId = row.seenBy clientId := by
  rw [seenBy, seenBy, alike.subjectFor_eq distinct alsoDistinct, sameName]

/-- A user is seen under the text that is stored as their subject for the client. -/
theorem seenBy_eq_ok {user : UserContext} :
    row.seenBy clientId = .ok user ↔
      row.subjectFor clientId = .string user.subject ∧
        user.preferredUsername = some row.preferredUsername := by
  rw [seenBy, Checked.toExcept_eq_ok]
  constructor
  · intro read
    obtain ⟨subject, isSubject, rfl⟩ := Checked.map_eq_valid.mp read
    exact ⟨Checked.text_eq_valid.mp (Checked.under_eq_valid.mp isSubject), rfl⟩
  · rintro ⟨isSubject, isName⟩
    refine Checked.map_eq_valid.mpr ⟨user.subject, ?_, by rw [← isName]⟩
    exact Checked.under_eq_valid.mpr (Checked.text_eq_valid.mpr isSubject)

end UserRow

namespace Database

variable {database : Database} {now : Moment} {value owner username : String}

/-- A token that is found by its value has the owner and the user that it was issued to and for. -/
theorem IssuedFor.grant_eq (issued : database.IssuedFor now value owner username)
    {token : SubjectToken} (found : Decision.Finds (database.reply now) value token) :
    token.grant.clientId = owner ∧ token.grant.principal = some username := by
  have told {scope : Json} {expiresAt : Option Moment} {grant : Grant}
      (read : Grant.ofColumns (.string owner) scope (.string username) expiresAt =
        .ok (.valid grant)) : grant.clientId = owner ∧ grant.principal = some username := by
    obtain ⟨isOwner, _, isName⟩ := Grant.holds_of_ofColumns read
    exact ⟨(Json.string.inj isOwner).symm, (Checked.valid.inj isName).symm⟩
  cases found with
  | access found =>
    obtain ⟨_, row, queried, made⟩ := reply_access_eq_some.mp found
    cases issued with
    | @access issuedRow isRow owned isName =>
      obtain rfl := Option.some.inj (isRow.symm.trans queried)
      have read := AccessTokenRow.grant_of_record made
      rw [owned, isName] at read
      exact told read
    | refresh missing => cases missing.symm.trans queried
  | refresh missing found =>
    obtain ⟨_, absent⟩ := reply_access_eq_none.mp missing
    obtain ⟨_, row, queried, made⟩ := reply_refresh_eq_some.mp found
    cases issued with
    | access isRow => cases isRow.symm.trans absent
    | @refresh issuedRow _ isRow owned isName =>
      obtain rfl := Option.some.inj (isRow.symm.trans queried)
      have read := RefreshTokenRow.grant_of_record made
      rw [owned, isName] at read
      exact told read

/-- The user that is found by a name has that name. -/
theorem preferredUsername_of_user? {row : UserRow} (found : database.user? username = some row) :
    row.preferredUsername = username :=
  by simpa using List.find?_some found

theorem reply_user_eq_some {clientId : String} {user : UserContext} :
    database.reply now (.user username clientId) = .ok (some user) ↔
      database.failure? .users = none ∧
        ∃ row, database.user? username = some row ∧ row.seenBy clientId = .ok user :=
  answer_mapM_eq_some

theorem reply_user_eq_none {clientId : String} :
    database.reply now (.user username clientId) = .ok none ↔
      database.failure? .users = none ∧ database.user? username = none :=
  answer_mapM_eq_none

/-- A client is told alike of users whom it sees alike. -/
theorem reply_user_congr {users : List UserRow} {row other : UserRow} {clientId : String}
    (isUser : database.user? username = some row)
    (isOther : { database with users }.user? username = some other)
    (sameSight : other.seenBy clientId = row.seenBy clientId) :
    { database with users }.reply now (.user username clientId) =
      database.reply now (.user username clientId) := by
  have failure : { database with users }.failure? .users = database.failure? .users := rfl
  simp only [reply, answer, isUser, isOther, failure]
  cases database.failure? .users with
  | some failure => rfl
  | none => simp only [ok_bind, Option.mapM_some, sameSight]

end Database

namespace Decision

/-- The user that a token was issued for is looked up, unless their name is empty. -/
theorem eval_findUser_of_principal {reply : (question : Lookup) -> Except Failure question.Reply}
    {grant : Grant} {username : String} (isName : grant.principal = some username) :
    (findUser grant).eval reply =
      if username = "" then .ok none else reply (.user username grant.clientId) := by
  simp only [findUser, isName, String.isEmpty_iff]
  split
  · rfl
  · rw [lookup, Inquiry.eval_question]

/-- An answer tells the id of the owner of the token that it is about. -/
theorem get?_clientId {issuer : Json} {token : SubjectToken} {user : Option UserContext}
    {told : Answer} (assembled : assemble issuer token user = .ok told) :
    told.payload.get? "client_id" = some (.string token.grant.clientId) := by
  obtain ⟨name, rfl⟩ := exists_answer_of_assemble assembled
  have listed : ("client_id", Json.ofString? (some token.grant.clientId)) ∈
      (answer name token user).fields := by simp [Answer.fields, answer]
  exact Answer.get?_text rfl listed

/-- An answer tells the subject of the user that it is about, where there is one. -/
theorem get?_sub {issuer : Json} {token : SubjectToken} {user : Option UserContext} {told : Answer}
    (assembled : assemble issuer token user = .ok told) :
    told.payload.get? "sub" = (user.map (·.subject)).map .string := by
  obtain ⟨name, rfl⟩ := exists_answer_of_assemble assembled
  exact Answer.get?_text rfl (by simp [Answer.fields, answer])

end Decision

/-- An answer depends on users only by how the owner of the token sees the one that it was issued
for. -/
theorem Database.answers_withUsers {database : Database} {now : Moment} {users : List UserRow}
    {policy : Policy} {requester : Requester} {value : String} {profile : ClientProfile}
    {token : SubjectToken} {user : Option UserContext} {told : Answer}
    (answers : Decision.Answers (database.reply now) policy requester value profile token user told)
    (sameSight : ∀ username, token.grant.principal = some username ->
      { database with users }.reply now (.user username token.grant.clientId) =
        database.reply now (.user username token.grant.clientId)) :
    Decision.Answers ({ database with users }.reply now) policy requester value profile token user
      told where
  admitted := by
    rw [← answers.admitted]
    exact Decision.eval_authenticate_congr rfl
  found := by
    cases answers.found with
    | access found => exact .access found
    | refresh missing found => exact .refresh missing found
  userFound := by
    rw [← answers.userFound]
    exact Decision.eval_findUser_congr sameSight
  permitted := answers.permitted
  assembled := answers.assembled

namespace Session

/-- What is told of the user that a token was issued for is how the owner of the token knows them,
whoever asks and whatever was asked before: the identifier for the owner where there is one, or
else the own subject of the user. It does not change when the identifiers are put in another order,
nor when those for other clients are added, changed or removed, be they for the client that
asks. -/
theorem active_subject {α : Type} {surroundings : Surroundings} {policy : Policy}
    {value owner : String} {hint : Json} {requester : Requester} {told : Answer} {row : UserRow}
    (issued : surroundings.database.IssuedFor surroundings.now value owner row.preferredUsername)
    (isUser : surroundings.database.user? row.preferredUsername = some row)
    (distinct : row.IsDistinct) (before : Procedure α)
    (active : ((Session.run surroundings before .empty).state.runDecision surroundings.database
      surroundings.now (Decision.introspect policy (some value) hint requester)).result =
        .ok (.active told)) :
    told.payload.get? "client_id" = some (.string owner) ∧
      (row.preferredUsername = "" -> told.payload.get? "sub" = none) ∧
      (row.preferredUsername ≠ "" -> ∃ subject,
        told.payload.get? "sub" = some (.string subject) ∧
          ∀ name, row.IsKnownAs owner name ↔ name = subject) ∧
      ∀ (users : List UserRow) (other : UserRow),
        let edited : Surroundings :=
          { surroundings with database := { surroundings.database with users } }
        edited.database.user? row.preferredUsername = some other -> other.IsDistinct ->
          row.AlikeFor owner other -> ∀ {β : Type} (beforeEdited : Procedure β),
            ((Session.run edited beforeEdited .empty).state.runDecision edited.database edited.now
              (Decision.introspect policy (some value) hint requester)).result =
                .ok (.active told) := by
  rw [result_runDecision] at active
  obtain ⟨_, profile, token, user, ⟨same, nonempty⟩, answers⟩ :=
    Decision.eval_introspect_eq_active.mp active
  obtain rfl := Option.some.inj same
  obtain ⟨isOwner, isName⟩ := issued.grant_eq answers.found
  refine ⟨?_, ?_, ?_, ?_⟩
  · rw [Decision.get?_clientId answers.assembled, isOwner]
  · intro unnamed
    have userFound := answers.userFound
    rw [Decision.eval_findUser_of_principal isName, if_pos unnamed] at userFound
    rw [Decision.get?_sub answers.assembled, ← Except.ok.inj userFound]
    rfl
  · intro named
    have userFound := answers.userFound
    rw [Decision.eval_findUser_of_principal isName, if_neg named, isOwner] at userFound
    cases user with
    | none =>
      obtain ⟨_, missing⟩ := Database.reply_user_eq_none.mp userFound
      cases isUser.symm.trans missing
    | some user =>
      obtain ⟨_, found, isFound, seen⟩ := Database.reply_user_eq_some.mp userFound
      obtain rfl := Option.some.inj (isUser.symm.trans isFound)
      obtain ⟨isSubject, _⟩ := UserRow.seenBy_eq_ok.mp seen
      refine ⟨user.subject, Decision.get?_sub answers.assembled, fun name => ?_⟩
      rw [← UserRow.subjectFor_eq_iff distinct, isSubject, Json.string.injEq, eq_comm]
  · intro users other edited isOther alsoDistinct alike β beforeEdited
    have sight : other.seenBy owner = row.seenBy owner := alike.seenBy_eq distinct alsoDistinct
      (Database.preferredUsername_of_user? isOther)
    rw [result_runDecision, Decision.eval_introspect_eq_active]
    refine ⟨value, profile, token, user, ⟨rfl, nonempty⟩, Database.answers_withUsers answers ?_⟩
    intro username isPrincipal
    obtain rfl := Option.some.inj (isName.symm.trans isPrincipal)
    rw [isOwner]
    exact Database.reply_user_congr isUser isOther sight

/-- A user with identifiers of some clients, and a token that was issued for them to one client,
which another one may see. -/
def sharedDatabase (pairwise : List PairwiseIdentifier) : Database where
  clients := [⟨"desk", .string "client_secret_basic", .null, .null, .null, .null, .bool true,
    .list [.string "read"], .string "ROLE_CLIENT"⟩]
  accessTokens := [⟨"t-1", .string "shop", .null, .string "read", .string "alice", none⟩]
  refreshTokens := []
  users := [⟨.string "u-1", "alice", pairwise⟩]
  outages := []

/-- A client that asks about a token of another one is told the subject that the owner knows, also
when its own identifier comes first. It is told the same when that one is changed and comes
last. -/
theorem active_subject_foreign :
    let decision : Decision Outcome := Decision.introspect
      (.ofTexts "uma_protection" .subset none) (some "t-1") .null (.direct "desk" .empty)
    let listed : List PairwiseIdentifier :=
      [⟨.string "desk", .string "d-1"⟩, ⟨.string "shop", .string "s-1"⟩]
    let edited : List PairwiseIdentifier :=
      [⟨.string "shop", .string "s-1"⟩, ⟨.string "desk", .string "d-2"⟩]
    let shared (pairwise : List PairwiseIdentifier) : Surroundings :=
      ⟨sharedDatabase pairwise, ⟨0, some 0⟩, fun _ => .unreachable, 900⟩
    let row : UserRow := ⟨.string "u-1", "alice", listed⟩
    (shared listed).database.IssuedFor (shared listed).now "t-1" "shop" row.preferredUsername ∧
      (shared listed).database.user? row.preferredUsername = some row ∧ row.IsDistinct ∧
      ∃ told : Answer, told.payload.get? "sub" = some (.string "s-1") ∧
        ((Session.run (shared listed) (pure ()) .empty).state.runDecision (shared listed).database
          (shared listed).now decision).result = .ok (.active told) ∧
        ((Session.run (shared edited) (pure ()) .empty).state.runDecision (shared edited).database
          (shared edited).now decision).result = .ok (.active told) := by
  intro decision listed edited shared row
  have issued : (shared listed).database.IssuedFor (shared listed).now "t-1" "shop" "alice" :=
    @Database.IssuedFor.access _ _ _ _ _
      ⟨"t-1", .string "shop", .null, .string "read", .string "alice", none⟩ rfl rfl rfl
  have distinct : row.IsDistinct := by simp [UserRow.IsDistinct, row, listed]
  have alsoDistinct : UserRow.IsDistinct ⟨.string "u-1", "alice", edited⟩ := by
    simp [UserRow.IsDistinct, edited]
  have alike : row.AlikeFor "shop" ⟨.string "u-1", "alice", edited⟩ :=
    ⟨rfl, fun identifier => by simp [row, listed, edited]⟩
  let told : Answer := ⟨true, some "read", some "shop", none, some "s-1", some "alice",
    some "Bearer", none⟩
  have active : ((Session.run (shared listed) (pure ()) .empty).state.runDecision
      (shared listed).database (shared listed).now decision).result = .ok (.active told) := by
    rw [result_runDecision]
    rfl
  obtain ⟨_, _, isTold, unchanged⟩ := active_subject issued rfl distinct (pure ()) active
  obtain ⟨subject, sub, known⟩ := isTold (by decide)
  obtain rfl : "s-1" = subject := (known "s-1").mp (.inl (by simp [row, listed]))
  exact ⟨issued, rfl, distinct, told, sub, active,
    unchanged [⟨.string "u-1", "alice", edited⟩] _ rfl alsoDistinct alike (pure ())⟩

end Session

end Introspection
