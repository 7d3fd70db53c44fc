import Introspection.Proofs.Database.Schema
import Introspection.Proofs.Records
import Introspection.Proofs.Session.Coherence
import Mathlib.Data.List.Nodup

/-!
# A database as plain maps

What it is for maps from keys to records to be those of a database at a time
(`Database.Represents`): a record is under a key exactly when some row of the key makes it, and a
row of a token only while the token is live. A database that keeps its unique constraints and its
foreign keys (`Database.Conforms`) has such maps (`Conforms.represents`), and answers every lookup
as they do (`Conforms.reply_eq`).
-/

namespace Introspection

/-- Of rows with different keys, a search for a key finds just the row that it is for. -/
theorem find?_key_iff {row key : Type} {rows : List row} {keyOf : row -> key}
    (unique : (rows.map keyOf).Nodup) {isWanted : row -> Bool} {wanted : key}
    (fixed : ∀ row, isWanted row = true -> keyOf row = wanted) {found : row} :
    rows.find? isWanted = some found ↔ found ∈ rows ∧ isWanted found = true := by
  constructor
  · intro search
    exact ⟨List.mem_of_find?_eq_some search, List.find?_some search⟩
  · rintro ⟨member, accepted⟩
    obtain ⟨first, search⟩ := Option.isSome_iff_exists.mp
      (List.find?_isSome.mpr ⟨found, member, accepted⟩)
    have sameKey : keyOf first = keyOf found :=
      (fixed first (List.find?_some search)).trans (fixed found accepted).symm
    rw [search, List.inj_on_of_nodup_map unique (List.mem_of_find?_eq_some search) member sameKey]

/-- Of rows with different keys, a search for a key among the live ones finds just the row that it
is for, while that is live. -/
theorem find?_live_iff {row : Type} {rows : List row} {keyOf : row -> String}
    {expiry : row -> Option Moment} (unique : (rows.map keyOf).Nodup) {wanted : String}
    {now : Moment} {found : row} :
    rows.find? (fun row => keyOf row = wanted && Moment.isAfter (expiry row) now) = some found ↔
      found ∈ rows ∧ keyOf found = wanted ∧ Moment.isAfter (expiry found) now = true := by
  have fixed : ∀ row, (keyOf row = wanted && Moment.isAfter (expiry row) now) = true ->
      keyOf row = wanted := by
    intro row accepted
    simp only [Bool.and_eq_true, decide_eq_true_eq] at accepted
    exact accepted.1
  rw [find?_key_iff unique fixed]
  simp only [Bool.and_eq_true, decide_eq_true_eq]

/-- The columns that tokens of both kinds have hold a registered client, scopes, and the name of a
user or nothing. -/
structure Grant.Conforms (clients : List ClientRow) (owner scope principal : Json) : Prop where
  owner : ∃ client ∈ clients, owner = .string client.clientId
  scope : scope.IsScope
  principal : principal.IsOptionalText

/-- The identifiers by which clients know a user are texts, one for each client. -/
structure UserRow.Conforms (row : UserRow) : Prop where
  subject : ∃ subject, row.subject = .string subject
  identifiers : ∀ pairwise ∈ row.pairwise, ∃ identifier, pairwise.identifier = .string identifier
  unique : (row.pairwise.map (·.clientId)).Nodup

/-- A database keeps the constraints of its schema: no two rows of a table have the same key, each
token refers to a client, and columns for texts and scopes hold such. -/
structure Database.Conforms (database : Database) : Prop where
  clientIds : (database.clients.map (·.clientId)).Nodup
  tokens : (database.accessTokens.map (·.token)).Nodup
  tokenHashes : (database.refreshTokens.map (·.tokenHash)).Nodup
  usernames : (database.users.map (·.preferredUsername)).Nodup
  clients : ∀ row ∈ database.clients, row.scope.IsScope ∧ row.authorities.IsScope
  accessGrants : ∀ row ∈ database.accessTokens,
    Grant.Conforms database.clients row.owner row.scope row.principal
  tokenTypes : ∀ row ∈ database.accessTokens, row.tokenType.IsOptionalText
  refreshGrants : ∀ row ∈ database.refreshTokens,
    Grant.Conforms database.clients row.owner row.scope row.principal
  users : ∀ row ∈ database.users, row.Conforms

/-- The profile of a client, as it is registered. -/
def ClientRow.view (row : ClientRow) : ClientProfile :=
  ⟨row.clientId, !row.allowIntrospection.isVoid, Scope.named row.scope, Scope.named row.authorities⟩

/-- The access token of a row, for the client that owns it. -/
def AccessTokenRow.view (row : AccessTokenRow) (owner : String) : AccessToken where
  value := row.token
  grant := ⟨owner, Scope.named row.scope, row.principal.string?, row.expiresAt⟩
  tokenType := (row.tokenType.string?.filter (!·.isEmpty)).getD defaultTokenType

/-- The refresh token of a row, for the client that owns it and the value that it is the hash
of. -/
def RefreshTokenRow.view (row : RefreshTokenRow) (value owner : String) : RefreshToken where
  value := value
  grant := ⟨owner, Scope.named row.scope, row.principal.string?, row.expiresAt⟩

/-- A client knows a user by the identifier for it, and by the subject of the user where there is
no identifier for it. -/
def UserRow.IsKnownAs (row : UserRow) (clientId subject : String) : Prop :=
  ⟨.string clientId, .string subject⟩ ∈ row.pairwise ∨
    (∀ pairwise ∈ row.pairwise, pairwise.clientId ≠ .string clientId) ∧
      row.subject = .string subject

namespace Database

/-- Maps hold what is in a database at a time: the profile of every client under its id, every
live access token under its value, every live refresh token under the value that it is the hash
of, and every user under their name and the id of the client that asks. -/
structure Represents (database : Database) (now : Moment) (records : Records) : Prop where
  client : ∀ clientId profile, records (.client clientId) = some profile ↔
    ∃ row ∈ database.clients, row.clientId = clientId ∧ row.view = profile
  access : ∀ value token, records (.access value) = some token ↔
    ∃ row ∈ database.accessTokens, ∃ owner ∈ database.clients,
      row.token = value ∧ Moment.isAfter row.expiresAt now = true ∧
        row.owner = .string owner.clientId ∧ row.view owner.clientId = token
  refresh : ∀ value token, records (.refresh value) = some token ↔
    ∃ row ∈ database.refreshTokens, ∃ owner ∈ database.clients,
      row.tokenHash = tokenHash value ∧ Moment.isAfter row.expiresAt now = true ∧
        row.owner = .string owner.clientId ∧ row.view value owner.clientId = token
  user : ∀ username clientId user, records (.user username clientId) = some user ↔
    ∃ row ∈ database.users, row.preferredUsername = username ∧
      row.IsKnownAs clientId user.subject ∧ user.preferredUsername = some username

/-- The maps of a database at a time. -/
def records (database : Database) (now : Moment) : Records
  | .client clientId => (database.client? clientId).map (·.view)
  | .access value =>
    (database.accessToken? now value).map fun row => row.view (row.owner.string?.getD "")
  | .refresh value =>
    (database.refreshToken? now (tokenHash value)).map fun row =>
      row.view value (row.owner.string?.getD "")
  | .user username clientId =>
    (database.user? username).map fun row =>
      ⟨((row.subjectFor clientId).string?.getD ""), some row.preferredUsername⟩

end Database

section Rows

/-- The profile of a client with scopes in its columns. -/
theorem ClientRow.profile_eq {row : ClientRow} (scope : row.scope.IsScope)
    (authorities : row.authorities.IsScope) : row.profile = .ok row.view := by
  simp only [profile, Scope.column_of_isScope _ scope, Scope.column_of_isScope _ authorities,
    ok_bind, Checked.map_valid, Checked.seq_valid, Checked.toExcept_valid]
  rfl

/-- What a token was granted is what its columns hold. -/
theorem Grant.holds_of_ofColumns {owner scope principal : Json} {expiresAt : Option Moment}
    {grant : Grant} (read : Grant.ofColumns owner scope principal expiresAt = .ok (.valid grant)) :
    owner = .string grant.clientId ∧
      Scope.column "scopes" scope = .ok (.valid grant.scopes) ∧
        Checked.optional Checked.text principal = .valid grant.principal := by
  obtain ⟨_, isColumn, allRead⟩ := bind_eq_ok.mp read
  obtain ⟨_, name, bothRead, isName, rfl⟩ := Checked.seq_eq_valid.mp (Except.ok.inj allRead)
  obtain ⟨_, scopes, ownerRead, rfl, rfl⟩ := Checked.seq_eq_valid.mp bothRead
  obtain ⟨clientId, isOwner, rfl⟩ := Checked.map_eq_valid.mp ownerRead
  exact ⟨Checked.text_eq_valid.mp (Checked.under_eq_valid.mp isOwner), isColumn,
    Checked.under_eq_valid.mp isName⟩

/-- A record of an access token is made of what the columns of its row grant. -/
theorem AccessTokenRow.grant_of_record {row : AccessTokenRow} {token : AccessToken}
    (made : row.record = .ok token) :
    Grant.ofColumns row.owner row.scope row.principal row.expiresAt = .ok (.valid token.grant) := by
  obtain ⟨_, read, bothRead⟩ := bind_eq_ok.mp made
  obtain ⟨_, _, grantRead, _, rfl⟩ := Checked.seq_eq_valid.mp (Checked.toExcept_eq_ok.mp bothRead)
  obtain ⟨grant, rfl, rfl⟩ := Checked.map_eq_valid.mp grantRead
  exact read

/-- A record of a refresh token is made of what the columns of its row grant. -/
theorem RefreshTokenRow.grant_of_record {row : RefreshTokenRow} {value : String}
    {token : RefreshToken} (made : row.record value = .ok token) :
    Grant.ofColumns row.owner row.scope row.principal row.expiresAt = .ok (.valid token.grant) := by
  obtain ⟨_, read, grantRead⟩ := bind_eq_ok.mp made
  obtain ⟨grant, rfl, rfl⟩ := Checked.map_eq_valid.mp (Checked.toExcept_eq_ok.mp grantRead)
  exact read

/-- What a token was granted whose columns are of their types. -/
theorem Grant.ofColumns_eq {owner scope principal : Json} {clientId : String}
    (owned : owner = .string clientId) (isScope : scope.IsScope)
    (isName : principal.IsOptionalText) (expiresAt : Option Moment) :
    Grant.ofColumns owner scope principal expiresAt =
      .ok (.valid ⟨clientId, Scope.named scope, principal.string?, expiresAt⟩) := by
  simp only [ofColumns, owned, Checked.text, Scope.column_of_isScope _ isScope,
    Checked.optional_text isName, ok_bind, pure_eq_ok, Checked.under_valid, Checked.map_valid,
    Checked.seq_valid]

/-- The type of an access token is the one that is stored, unless that is missing or empty. -/
theorem AccessTokenRow.typeName_eq {row : AccessTokenRow} (typed : row.tokenType.IsOptionalText) :
    row.typeName =
      .valid ((row.tokenType.string?.filter (!·.isEmpty)).getD defaultTokenType) := by
  unfold typeName
  generalize row.tokenType = stored at typed
  cases typed with
  | absent => rfl
  | present text =>
    by_cases void : text.isEmpty = true
    · simp [Json.isVoid, Json.string?, Option.filter, void]
    · simp [Json.isVoid, Json.string?, Option.filter, void, Checked.text]

/-- The record of an access token whose columns are of their types. -/
theorem AccessTokenRow.record_eq {row : AccessTokenRow} {clientId : String}
    (owned : row.owner = .string clientId) (isScope : row.scope.IsScope)
    (isName : row.principal.IsOptionalText) (typed : row.tokenType.IsOptionalText) :
    row.record = .ok (row.view clientId) := by
  simp only [record, Grant.ofColumns_eq owned isScope isName, typeName_eq typed, ok_bind,
    Checked.map_valid, Checked.seq_valid, Checked.toExcept_valid, view]

/-- The record of a refresh token whose columns are of their types. -/
theorem RefreshTokenRow.record_eq {row : RefreshTokenRow} {clientId : String}
    (owned : row.owner = .string clientId) (isScope : row.scope.IsScope)
    (isName : row.principal.IsOptionalText) (value : String) :
    row.record value = .ok (row.view value clientId) := by
  simp only [record, Grant.ofColumns_eq owned isScope isName, ok_bind, Checked.map,
    Checked.toExcept_valid, view]

/-- The identifier for a client is the one that is found for it, where there is one for each. -/
theorem UserRow.find?_pairwise_iff {row : UserRow}
    (unique : (row.pairwise.map (·.clientId)).Nodup) {clientId : String}
    {pairwise : PairwiseIdentifier} :
    row.pairwise.find? (·.clientId.string? == some clientId) = some pairwise ↔
      pairwise ∈ row.pairwise ∧ pairwise.clientId = .string clientId := by
  have isFor (other : PairwiseIdentifier) :
      (other.clientId.string? == some clientId) = true ↔ other.clientId = .string clientId := by
    cases other.clientId <;> simp [Json.string?]
  rw [find?_key_iff unique fun other accepted => (isFor other).mp accepted, isFor]

/-- The subject that a client sees a user under is the text by which it knows them, where there is
one identifier for each client. -/
theorem UserRow.subjectFor_eq_iff {row : UserRow}
    (unique : (row.pairwise.map (·.clientId)).Nodup) {clientId subject : String} :
    row.subjectFor clientId = .string subject ↔ row.IsKnownAs clientId subject := by
  have search (pairwise : PairwiseIdentifier) := @find?_pairwise_iff row unique clientId pairwise
  unfold subjectFor IsKnownAs
  cases found : row.pairwise.find? (·.clientId.string? == some clientId) with
  | none =>
    have absent : ∀ pairwise ∈ row.pairwise, pairwise.clientId ≠ .string clientId := by
      intro pairwise member equal
      rw [(search pairwise).mpr ⟨member, equal⟩] at found
      cases found
    constructor
    · intro own
      exact .inr ⟨absent, own⟩
    · rintro (member | ⟨_, own⟩)
      · exact absurd rfl (absent _ member)
      · exact own
  | some pairwise =>
    obtain ⟨member, equal⟩ := (search pairwise).mp found
    constructor
    · intro identifier
      left
      rw [← equal, ← identifier]
      exact member
    · rintro (other | ⟨absent, _⟩)
      · have same := (search _).mpr ⟨other, rfl⟩
        rw [found] at same
        rw [Option.some.inj same]
      · exact absurd equal (absent pairwise member)

/-- A client knows a user by some text. -/
theorem UserRow.exists_subjectFor_eq {row : UserRow} (conforms : row.Conforms)
    (clientId : String) : ∃ subject, row.subjectFor clientId = .string subject := by
  unfold subjectFor
  split
  · next pairwise found =>
    exact conforms.identifiers pairwise (List.mem_of_find?_eq_some found)
  · exact conforms.subject

end Rows

/-- Of clients with different ids, a query by an id selects the one that has it. -/
theorem Database.client?_eq_some {database : Database} {clientId : String} {row : ClientRow}
    (unique : (database.clients.map (·.clientId)).Nodup) :
    database.client? clientId = some row ↔ row ∈ database.clients ∧ row.clientId = clientId := by
  rw [client?, find?_key_iff unique fun row => of_decide_eq_true]
  simp

namespace Database.Conforms

variable {database : Database} {now : Moment} {clientId value username : String}

/-- A query by an id selects the client that has it. -/
theorem client?_iff (conforms : database.Conforms) {row : ClientRow} :
    database.client? clientId = some row ↔ row ∈ database.clients ∧ row.clientId = clientId :=
  client?_eq_some conforms.clientIds

/-- A query by a value selects the live access token that has it. -/
theorem accessToken?_iff (conforms : database.Conforms) {row : AccessTokenRow} :
    database.accessToken? now value = some row ↔
      row ∈ database.accessTokens ∧ row.token = value ∧ Moment.isAfter row.expiresAt now = true :=
  find?_live_iff conforms.tokens

/-- A query by a hash selects the live refresh token that has it. -/
theorem refreshToken?_iff (conforms : database.Conforms) {row : RefreshTokenRow} {hash : String} :
    database.refreshToken? now hash = some row ↔
      row ∈ database.refreshTokens ∧ row.tokenHash = hash ∧
        Moment.isAfter row.expiresAt now = true :=
  find?_live_iff conforms.tokenHashes

/-- A query by a name selects the user who has it. -/
theorem user?_iff (conforms : database.Conforms) {row : UserRow} :
    database.user? username = some row ↔
      row ∈ database.users ∧ row.preferredUsername = username := by
  rw [user?, find?_key_iff conforms.usernames fun row => of_decide_eq_true]
  simp

/-- The maps of a database that conforms hold what is in it. -/
theorem represents (conforms : database.Conforms) (now : Moment) :
    database.Represents now (database.records now) where
  client clientId profile := by
    simp only [records, Option.map_eq_some_iff, conforms.client?_iff, and_assoc]
  access value token := by
    simp only [records, Option.map_eq_some_iff, conforms.accessToken?_iff, and_assoc]
    constructor
    · rintro ⟨row, member, isValue, live, rfl⟩
      obtain ⟨owner, registered, owned⟩ := (conforms.accessGrants row member).owner
      exact ⟨row, member, owner, registered, isValue, live, owned, by rw [owned]; rfl⟩
    · rintro ⟨row, member, owner, registered, isValue, live, owned, rfl⟩
      exact ⟨row, member, isValue, live, by rw [owned]; rfl⟩
  refresh value token := by
    simp only [records, Option.map_eq_some_iff, conforms.refreshToken?_iff, and_assoc]
    constructor
    · rintro ⟨row, member, isHash, live, rfl⟩
      obtain ⟨owner, registered, owned⟩ := (conforms.refreshGrants row member).owner
      exact ⟨row, member, owner, registered, isHash, live, owned, by rw [owned]; rfl⟩
    · rintro ⟨row, member, owner, registered, isHash, live, owned, rfl⟩
      exact ⟨row, member, isHash, live, by rw [owned]; rfl⟩
  user username clientId user := by
    simp only [records, Option.map_eq_some_iff, conforms.user?_iff]
    constructor
    · rintro ⟨row, ⟨member, isName⟩, rfl⟩
      have rowConforms := conforms.users row member
      obtain ⟨subject, known⟩ := UserRow.exists_subjectFor_eq rowConforms clientId
      refine ⟨row, member, isName, ?_, congrArg some isName⟩
      rw [← UserRow.subjectFor_eq_iff rowConforms.unique, known]
      rfl
    · rintro ⟨row, member, isName, known, named⟩
      refine ⟨row, ⟨member, isName⟩, ?_⟩
      rw [(UserRow.subjectFor_eq_iff (conforms.users row member).unique).mpr known, isName, ← named]
      rfl

/-- A database that conforms, none of its tables failing, answers every lookup as its maps do. -/
theorem reply_eq (conforms : database.Conforms) (running : database.outages = []) (now : Moment) :
    database.reply now = (database.records now).reply := by
  have answers : ∀ {α : Type} (store : Store) (found : α),
      database.answer store found = .ok found := by
    intro α store found
    simp [answer, failure?, running, Entries.get?]
  funext question
  cases question with
  | client clientId =>
    simp only [reply, answers, ok_bind, Records.reply, records]
    cases found : database.client? clientId with
    | none => rfl
    | some row =>
      obtain ⟨scope, authorities⟩ := conforms.clients row (conforms.client?_iff.mp found).1
      simp [ClientRow.profile_eq scope authorities]
  | access value =>
    simp only [reply, answers, ok_bind, Records.reply, records]
    cases found : database.accessToken? now value with
    | none => rfl
    | some row =>
      have member := (conforms.accessToken?_iff.mp found).1
      have grant := conforms.accessGrants row member
      obtain ⟨owner, _, owned⟩ := grant.owner
      simp [AccessTokenRow.record_eq owned grant.scope grant.principal
        (conforms.tokenTypes row member), owned, Json.string?]
  | refresh value =>
    simp only [reply, answers, ok_bind, Records.reply, records]
    cases found : database.refreshToken? now (tokenHash value) with
    | none => rfl
    | some row =>
      have grant := conforms.refreshGrants row (conforms.refreshToken?_iff.mp found).1
      obtain ⟨owner, _, owned⟩ := grant.owner
      simp [RefreshTokenRow.record_eq owned grant.scope grant.principal, owned, Json.string?]
  | user username clientId =>
    simp only [reply, answers, ok_bind, Records.reply, records]
    cases found : database.user? username with
    | none => rfl
    | some row =>
      obtain ⟨subject, known⟩ := UserRow.exists_subjectFor_eq
        (conforms.users row (conforms.user?_iff.mp found).1) clientId
      simp [UserRow.seenBy, known, Checked.text, Checked.map, Json.string?]

end Database.Conforms

end Introspection
