import Introspection.Proofs.Correspondence
import Introspection.Proofs.Scope.Publication
import Introspection.Proofs.Session.Economy

/-!
# The shape of stored scopes

Scopes are stored as a list of names or as a text of words. The words of a text have no blanks in
them; the names of a list are taken as they are. A list and the text that it is joined to with
single spaces are therefore read as the same scopes where no name has a blank in it
(`Scope.members_joined`), and nowhere else (`Scope.isPlain_of_column_eq`).

Of names without blanks the shape makes no difference. Rows that store them in one shape or the
other give the same profile and the same records, and a service over such rows serves every request
alike (`serve_restated`): a decision reads scopes of profiles and records only, and authentication,
which reads registrations themselves, does not look at the scopes there
(`introspect_ignoresScopes`).
-/

namespace Introspection

namespace Scope

/-- None of some names has a blank in it. -/
def IsPlain (names : List String) : Prop :=
  ∀ name ∈ names, ∀ c ∈ name.toList, Text.isBlank c = false

instance (names : List String) : Decidable (IsPlain names) :=
  decidable_of_iff (names.all fun name => name.toList.all fun c => !Text.isBlank c) (by
    simp [IsPlain])

/-- The words of a text that is joined of names without blanks are the names that are not empty. -/
theorem words_joined {names : List String} (plain : IsPlain names) :
    (Text.words (" ".intercalate names).toList).map String.ofList = names.filter (!·.isEmpty) := by
  have spaced : (" ".intercalate names).toList = [' '].intercalate (names.map String.toList) :=
    String.toList_intercalate
  have sameEmpty (name : String) : name.toList.isEmpty = name.isEmpty := by
    rw [Bool.eq_iff_iff, List.isEmpty_iff, String.isEmpty_iff, String.toList_eq_nil_iff]
  rw [spaced, Text.words_intercalate_of_plain (List.forall_mem_map.mpr plain), List.filter_map,
    List.map_map]
  simp [Function.comp_def, sameEmpty]

/-- Names without blanks are the same members as a list and as a text, in the same order. -/
theorem members_joined {names : List String} (plain : IsPlain names) :
    members (.list (names.map .string)) = members (.string (" ".intercalate names)) := by
  rw [members_list, members_string, words_joined plain, distinctMembers, distinctMembers,
    filter_isVoid_map_string, filter_isVoid_map_string, List.filter_filter]
  simp only [Bool.and_self]

/-- Names that are the same scopes as a list and as a text have no blanks in them. -/
theorem isPlain_of_column_eq {names : List String} {field : String}
    (same : column field (.list (names.map .string)) =
      column field (.string (" ".intercalate names))) : IsPlain names := by
  rw [column_of_isScope _ (.names names), column_of_isScope _ (.words _), Except.ok.injEq,
    Checked.valid.injEq] at same
  intro name member
  by_cases empty : name = ""
  · simp [empty]
  · have inList : name ∈ named (.list (names.map .string)) := by
      simpa [named, ScopeSet.mem_ofList, List.filterMap_map, Function.comp_def, Json.string?]
        using ⟨member, empty⟩
    rw [same] at inList
    exact (Text.isWord_of_mem_words (ScopeSet.mem_ofText.mp inList)).plain

end Scope

/-- Stored scopes are kept as they are, or names without blanks are put from a list into a text or
from a text into a list. -/
inductive Json.RestatesScope : Json -> Json -> Prop
  | same (stored : Json) : RestatesScope stored stored
  | joined {names : List String} (plain : Scope.IsPlain names) :
      RestatesScope (.list (names.map .string)) (.string (" ".intercalate names))
  | divided {names : List String} (plain : Scope.IsPlain names) :
      RestatesScope (.string (" ".intercalate names)) (.list (names.map .string))

/-- Scopes that are restated are read as the same, in whatever field they are. -/
theorem Json.RestatesScope.column_eq {stored other : Json} (restates : stored.RestatesScope other)
    (field : String) : Scope.column field other = Scope.column field stored := by
  have same : Scope.members other = Scope.members stored := by
    cases restates with
    | same => rfl
    | joined plain => exact (Scope.members_joined plain).symm
    | divided plain => exact Scope.members_joined plain
  rw [Scope.column, Scope.column, same]

/-- A registration is restated when its scopes and its authorities are. -/
def ClientRow.Restates (row other : ClientRow) : Prop :=
  ∃ scope authorities, row.scope.RestatesScope scope ∧
    row.authorities.RestatesScope authorities ∧ other = { row with scope, authorities }

/-- A row of an access token is restated when its scopes are. -/
def AccessTokenRow.Restates (row other : AccessTokenRow) : Prop :=
  ∃ scope, row.scope.RestatesScope scope ∧ other = { row with scope }

/-- A row of a refresh token is restated when its scopes are. -/
def RefreshTokenRow.Restates (row other : RefreshTokenRow) : Prop :=
  ∃ scope, row.scope.RestatesScope scope ∧ other = { row with scope }

theorem ClientRow.Restates.profile_eq {row other : ClientRow} (restates : row.Restates other) :
    other.profile = row.profile := by
  obtain ⟨scope, authorities, scopes, roles, rfl⟩ := restates
  simp only [profile, scopes.column_eq, roles.column_eq]

theorem AccessTokenRow.Restates.record_eq {row other : AccessTokenRow}
    (restates : row.Restates other) : other.record = row.record := by
  obtain ⟨scope, scopes, rfl⟩ := restates
  simp only [record, Grant.ofColumns, scopes.column_eq]
  rfl

theorem RefreshTokenRow.Restates.record_eq {row other : RefreshTokenRow}
    (restates : row.Restates other) (value : String) : other.record value = row.record value := by
  obtain ⟨scope, scopes, rfl⟩ := restates
  simp only [record, Grant.ofColumns, scopes.column_eq]

/-- Among rows that are related one by one, a search for what does not tell them apart finds none
in both, or rows that are related. -/
theorem find?_forall₂ {α : Type} {related : α -> α -> Prop} {rows others : List α}
    {isWanted : α -> Bool} (alike : List.Forall₂ related rows others)
    (same : ∀ row other, related row other -> isWanted other = isWanted row) :
    Option.Rel related (rows.find? isWanted) (others.find? isWanted) := by
  induction alike with
  | nil => exact .none
  | @cons row other _ _ first _ ih =>
    rw [List.find?_cons, List.find?_cons, same row other first]
    cases isWanted row with
    | true => exact .some first
    | false => exact ih

namespace Database

/-- A database is restated when the scopes in it are. -/
structure Restates (database other : Database) : Prop where
  clients : List.Forall₂ ClientRow.Restates database.clients other.clients
  accessTokens : List.Forall₂ AccessTokenRow.Restates database.accessTokens other.accessTokens
  refreshTokens : List.Forall₂ RefreshTokenRow.Restates database.refreshTokens other.refreshTokens
  users : other.users = database.users
  outages : other.outages = database.outages

theorem failure?_congr {database other : Database} (outages : other.outages = database.outages)
    (store : Store) : other.failure? store = database.failure? store := by
  rw [failure?, failure?, outages]

/-- Records that are made alike of related rows are answered alike. -/
theorem answer_mapM_congr {row record : Type} {related : row -> row -> Prop}
    {make : row -> Except Failure record} {database other : Database} {store : Store}
    {found foundOther : Option row} (outages : other.outages = database.outages)
    (alike : Option.Rel related found foundOther)
    (same : ∀ read readOther, related read readOther -> make readOther = make read) :
    (other.answer store foundOther >>= fun found => found.mapM make) =
      (database.answer store found >>= fun found => found.mapM make) := by
  unfold answer
  rw [failure?_congr outages]
  cases database.failure? store with
  | some failure => rfl
  | none =>
    cases alike with
    | none => rfl
    | some alike => simp only [ok_bind, Option.mapM_some, same _ _ alike]

namespace Restates

variable {database other : Database}

/-- A client of an id is found in both, or in none. -/
theorem client?_rel (restates : database.Restates other) (clientId : String) :
    Option.Rel ClientRow.Restates (database.client? clientId) (other.client? clientId) := by
  refine find?_forall₂ restates.clients ?_
  rintro row _ ⟨_, _, _, _, rfl⟩
  rfl

/-- Every lookup of a record is answered alike. -/
theorem reply_eq (restates : database.Restates other) (now : Moment) :
    other.reply now = database.reply now := by
  funext question
  cases question with
  | client clientId =>
    exact answer_mapM_congr restates.outages (restates.client?_rel clientId)
      fun _ _ restated => restated.profile_eq
  | access value =>
    refine answer_mapM_congr restates.outages (find?_forall₂ restates.accessTokens ?_)
      fun _ _ restated => restated.record_eq
    rintro row _ ⟨_, _, rfl⟩
    rfl
  | refresh value =>
    refine answer_mapM_congr restates.outages (find?_forall₂ restates.refreshTokens ?_)
      fun _ _ restated => restated.record_eq value
    rintro row _ ⟨_, _, rfl⟩
    rfl
  | user username clientId =>
    simp only [reply, answer, user?, failure?, restates.users, restates.outages]

end Restates

end Database

/-- Registrations may differ in their scopes and authorities, and nothing else may. -/
def Correspondence.unscoped : Correspondence Question Question.Reply where
  rename := id
  alike
    | .registration _ => Option.Rel fun row other =>
        ∃ scope authorities, other = { row with scope, authorities }
    | .record _ => Eq
    | .document _ => Eq
  event := Eq

/-- A procedure goes the same way whatever scopes are registered. -/
def Procedure.IgnoresScopes {α : Type} (procedure : Procedure α) : Prop :=
  procedure.Corresponds .unscoped Eq procedure

namespace Procedure.IgnoresScopes

variable {α β : Type}

theorem done (value : α) : IgnoresScopes (pure value) := Inquiry.Corresponds.done rfl

theorem fail (failure : Failure) : IgnoresScopes (.fail failure : Procedure α) :=
  Inquiry.Corresponds.fail failure

theorem record (event : Event) : IgnoresScopes (Inquiry.record event) :=
  Inquiry.Corresponds.record rfl

theorem ofExcept (computed : Except Failure α) : IgnoresScopes (Inquiry.ofExcept computed) :=
  Inquiry.Corresponds.ofExcept computed

theorem bind {procedure : Procedure α} {next : α -> Procedure β} (ignores : procedure.IgnoresScopes)
    (after : ∀ value, (next value).IgnoresScopes) : IgnoresScopes (procedure >>= next) := by
  refine Inquiry.Corresponds.bind ignores ?_
  rintro value _ rfl
  exact after value

theorem document (address : String) : IgnoresScopes (Procedure.ask (.document address)) :=
  @Inquiry.Corresponds.question _ _ Correspondence.unscoped (.document address)

/-- A decision over records does not see registrations at all. -/
theorem ofDecision (decision : Decision α) : IgnoresScopes (.ofDecision decision) := by
  induction decision with
  | done value => exact Inquiry.Corresponds.done rfl
  | fail failure => exact Inquiry.Corresponds.fail failure
  | note event rest ih => exact Inquiry.Corresponds.note rfl ih
  | ask question rest ih =>
    refine @Inquiry.Corresponds.ask _ _ .unscoped _ _ _ (.record question) _ _ ?_
    intro reply other same
    rw [← EndAlike.eq same]
    exact ih (reply.map fun reply => reply)

/-- A procedure that ignores scopes runs alike where everything is answered alike but for the
scopes of registrations. -/
theorem answered_eq {procedure : Procedure α} (ignores : procedure.IgnoresScopes)
    {reply other : (question : Question) -> Except Failure question.Reply}
    (alike : ∀ question,
      EndAlike (Correspondence.unscoped.alike question) (reply question) (other question)) :
    procedure.answered other = procedure.answered reply := by
  obtain ⟨ends, asked, events⟩ := ignores.answered fun question _ => alike question
  have sameEvents : List.Forall₂ Eq _ _ := events
  rw [List.forall₂_eq_eq_eq] at sameEvents
  have sameAsked : (procedure.answered other).asked = (procedure.answered reply).asked := by
    simpa [Correspondence.unscoped] using asked
  have sameResult := ends.eq
  generalize procedure.answered other = second at *
  generalize procedure.answered reply = first at *
  cases first
  cases second
  simp_all

end Procedure.IgnoresScopes

namespace Credential

open Procedure

variable {occasion : Occasion}

theorem fetch_ignoresScopes (depth : Nat) (address : Web.Address) :
    (fetch depth address).IgnoresScopes := by
  unfold fetch
  split
  · exact .done none
  · refine .bind (.document address.target) fun reply => ?_
    split
    · exact .ofExcept _
    · exact .done none

theorem keySet_ignoresScopes (depth : Nat) (client : ClientRow) :
    (keySet depth client).IgnoresScopes := by
  unfold keySet
  split
  · exact .done _
  · split
    · exact .done _
    · split
      · split
        · exact .fail _
        · next address _ =>
          refine .bind (fetch_ignoresScopes depth address) fun document => ?_
          cases document with
          | some value => exact .done value
          | none => exact .bind (.record _) fun _ => .done _
      · exact .fail _

theorem check_ignoresScopes (client : ClientRow) (isBearer : Bool) (value : String) :
    (check occasion client isBearer value).IgnoresScopes := by
  unfold check
  split
  · exact .fail _
  · exact .done _
  · next method _ =>
    split
    · exact .done _
    · cases method with
      | privateKey =>
        exact .bind (keySet_ignoresScopes _ client) fun keySet =>
          .bind (.ofExcept _) fun _ => .done _
      | sharedBearer => exact .bind (.ofExcept _) fun _ => .done _
      | secretBasic => exact .ofExcept _

/-- A direct requester is found out without a look at the scopes of its registration. -/
theorem direct_ignoresScopes (clientId : String) (isBearer : Bool) (value : String) :
    (direct occasion clientId isBearer value).IgnoresScopes := by
  have asked := @Inquiry.Corresponds.question _ _ Correspondence.unscoped (.registration clientId)
  refine asked.bind fun found other alike => ?_
  cases alike with
  | none => exact Inquiry.Corresponds.done rfl
  | @some client _ alike =>
    obtain ⟨scope, authorities, rfl⟩ := alike
    have checked : check occasion { client with scope, authorities } isBearer value =
      check occasion client isBearer value := rfl
    dsimp only
    rw [checked]
    refine Procedure.IgnoresScopes.bind (check_ignoresScopes client isBearer value) fun ended => ?_
    cases ended with
    | error denial => exact .done _
    | ok _ => exact .done _

/-- Authentication does not look at registered scopes. -/
theorem authenticate_ignoresScopes (credentials : Credentials) :
    (authenticate occasion credentials).IgnoresScopes := by
  unfold authenticate
  split
  · next value _ =>
    refine .bind (.ofDecision _) fun delegated => ?_
    split
    · exact .done _
    · refine .bind (.ofExcept _) fun outcome => ?_
      cases outcome with
      | error denial => exact .done _
      | ok claims =>
        dsimp only
        -- Which client the claims name makes no difference to what follows.
        generalize (if (claim claims "iss").isVoid = true then claim claims "sub"
          else claim claims "iss") = named
        split
        · exact .done _
        · exact direct_ignoresScopes _ true value
  · split
    · exact .done _
    · split
      · exact .done _
      · exact direct_ignoresScopes _ false _

end Credential

namespace Http

/-- Introspection looks at no scopes but those of profiles and records. -/
theorem introspect_ignoresScopes (configuration : Configuration) (now : Int) (depth : Nat)
    (request : Request) : (introspect configuration now depth request).IgnoresScopes := by
  simp only [introspect]
  split
  · exact .done _
  · refine .bind (Credential.authenticate_ignoresScopes _) fun authenticated => ?_
    cases authenticated with
    | error denial => exact .done _
    | ok requester =>
      exact .bind (.ofExcept _) fun policy => .bind (.ofDecision _) fun outcome => .done _

/-- Introspection is served alike where its procedure runs alike. -/
theorem serveIntrospection_congr (surroundings other : Surroundings) (configuration : Configuration)
    (identifier : String) (request : Request) (sameTime : other.now = surroundings.now)
    (sameDepth : other.depth = surroundings.depth)
    (sameRun :
      (introspect configuration surroundings.now.wholeSeconds surroundings.depth request).answered
          other.reply =
        (introspect configuration surroundings.now.wholeSeconds surroundings.depth
          request).answered surroundings.reply) :
    serveIntrospection other configuration identifier request =
      serveIntrospection surroundings configuration identifier request := by
  unfold serveIntrospection
  rw [sameTime, sameDepth]
  have meets := meets_introspect configuration surroundings.now.wholeSeconds surroundings.depth
    request
  generalize introspect configuration surroundings.now.wholeSeconds surroundings.depth request =
    procedure at sameRun meets
  have visible : (Session.run other procedure .empty).visible =
      (Session.run surroundings procedure .empty).visible := by
    rw [(Session.visible_run procedure Session.empty_coherent).1, sameRun,
      (Session.visible_run procedure Session.empty_coherent).1]
  -- The queries are not seen from outside, but they follow from what is asked.
  have queries : (Session.run other procedure .empty).state.queries =
      (Session.run surroundings procedure .empty).state.queries := by
    rw [Session.queries_run meets Session.empty_accounted Session.empty_coherent,
      Session.queries_run meets Session.empty_accounted Session.empty_coherent, Session.asked_run,
      Session.asked_run, sameRun]
  generalize Session.run other procedure .empty = second at visible queries
  generalize Session.run surroundings procedure .empty = first at visible queries
  obtain ⟨result, asked, events, state⟩ := first
  obtain ⟨otherResult, otherAsked, otherEvents, otherState⟩ := second
  obtain ⟨rfl, rfl, rfl⟩ : otherResult = result ∧ otherAsked = asked ∧ otherEvents = events := by
    simpa [Transcript.visible] using visible
  dsimp only at queries ⊢
  rw [queries]

/-- Every question is answered alike by a database that is restated, but for the scopes of
registrations. -/
theorem reply_restated {surroundings : Surroundings} {database : Database}
    (restates : surroundings.database.Restates database) (question : Question) :
    EndAlike (Correspondence.unscoped.alike question) (surroundings.reply question)
      ({ surroundings with database }.reply question) := by
  cases question with
  | record lookup =>
    have same : { surroundings with database }.reply (.record lookup) =
        surroundings.reply (.record lookup) := by
      simp only [Surroundings.reply, restates.reply_eq]
    rw [same]
    exact .refl _
  | document address => exact .ok rfl
  | registration clientId =>
    simp only [Surroundings.reply, Database.answer, Database.failure?_congr restates.outages]
    cases surroundings.database.failure? .clients with
    | some failure => exact .error failure
    | none =>
      refine .ok ?_
      have found := restates.client?_rel clientId
      generalize surroundings.database.client? clientId = row at found
      generalize database.client? clientId = restated at found
      cases found with
      | none => exact .none
      | some restates =>
        obtain ⟨scope, authorities, _, _, rfl⟩ := restates
        exact .some ⟨scope, authorities, rfl⟩

/-- A service over a database that is restated serves every request alike: with the same response,
the same entries and the same queries. -/
theorem serve_restated {surroundings : Surroundings} {database : Database}
    (restates : surroundings.database.Restates database) (configuration : Configuration)
    (fresh : String) (request : Request) :
    serve { surroundings with database } configuration fresh request =
      serve surroundings configuration fresh request := by
  have served (identifier : String) :=
    serveIntrospection_congr surroundings { surroundings with database } configuration identifier
      request rfl rfl
      ((introspect_ignoresScopes configuration _ _ request).answered_eq (reply_restated restates))
  simp only [serve, served]

/-- What the shape of stored scopes amounts to. Names without blanks are the same members of a
scope as a list and as the text that the list is joined to with single spaces; names of which some
has a blank are not the same scopes in the two shapes. Rows that store names without blanks in one
shape or the other give the same profile and the same records, and over tables that differ in such
shapes alone every request is served alike. -/
theorem scope_shape :
    (∀ names : List String, Scope.IsPlain names ->
      Scope.members (.list (names.map .string)) =
        Scope.members (.string (" ".intercalate names))) ∧
    (∀ names : List String, ¬ Scope.IsPlain names -> ∀ field,
      Scope.column field (.list (names.map .string)) ≠
        Scope.column field (.string (" ".intercalate names))) ∧
    (∀ row other : ClientRow, row.Restates other -> other.profile = row.profile) ∧
    (∀ row other : AccessTokenRow, row.Restates other -> other.record = row.record) ∧
    (∀ row other : RefreshTokenRow, row.Restates other ->
      ∀ value, other.record value = row.record value) ∧
    ∀ (surroundings : Surroundings) (database : Database),
      surroundings.database.Restates database ->
        ∀ (configuration : Configuration) (fresh : String) (request : Request),
          serve { surroundings with database } configuration fresh request =
            serve surroundings configuration fresh request := by
  refine ⟨fun names plain => Scope.members_joined plain, ?_, ?_, ?_, ?_, ?_⟩
  · intro names notPlain field same
    exact notPlain (Scope.isPlain_of_column_eq same)
  · intro row other restates
    exact restates.profile_eq
  · intro row other restates
    exact restates.record_eq
  · intro row other restates value
    exact restates.record_eq value
  · intro surroundings database restates configuration fresh request
    exact serve_restated restates configuration fresh request

/-- A client with a token, both of them with scopes that are stored in some shape. -/
def shapedDatabase (scope : Json) : Database where
  clients := [⟨"shop", .string "client_secret_basic", .null, .null, .null, .null, .bool true,
    scope, .string "ROLE_CLIENT"⟩]
  accessTokens := [⟨"t-1", .string "shop", .null, scope, .null, none⟩]
  refreshTokens := [⟨tokenHash "t-2", .string "shop", scope, .null, none⟩]
  users := []
  outages := []

/-- Scopes of which one is there twice and one is empty are put from a list into a text. -/
theorem scope_shape_joined :
    let names := ["read", "", "write", "read"]
    let listed := shapedDatabase (.list (names.map .string))
    let joined := shapedDatabase (.string "read  write read")
    Scope.IsPlain names ∧ ¬ Scope.IsPlain ["a\u00a0b"] ∧ listed.Restates joined ∧
      Scope.members (.list (names.map .string)) = Scope.members (.string "read  write read") ∧
      Scope.column "scopes" (.list [.string "a\u00a0b"]) ≠
        Scope.column "scopes" (.string "a\u00a0b") ∧
      joined.clients.map (·.profile) = listed.clients.map (·.profile) ∧
      joined.accessTokens.map (·.record) = listed.accessTokens.map (·.record) ∧
      joined.refreshTokens.map (·.record "t-2") = listed.refreshTokens.map (·.record "t-2") ∧
      ∀ (configuration : Configuration) (request : Request),
        serve ⟨joined, ⟨0, some 0⟩, fun _ => .unreachable, 900⟩ configuration "r-1" request =
          serve ⟨listed, ⟨0, some 0⟩, fun _ => .unreachable, 900⟩ configuration "r-1" request := by
  intro names listed joined
  have plain : Scope.IsPlain names := by decide
  have spaced : ¬ Scope.IsPlain ["a\u00a0b"] := by decide
  have restated : (Json.list (names.map .string)).RestatesScope (.string "read  write read") :=
    .joined plain
  have client : ClientRow.Restates ⟨"shop", .string "client_secret_basic", .null, .null, .null,
      .null, .bool true, .list (names.map .string), .string "ROLE_CLIENT"⟩ _ :=
    ⟨_, _, restated, .same _, rfl⟩
  have access : AccessTokenRow.Restates ⟨"t-1", .string "shop", .null, .list (names.map .string),
      .null, none⟩ _ := ⟨_, restated, rfl⟩
  have refresh : RefreshTokenRow.Restates ⟨tokenHash "t-2", .string "shop",
      .list (names.map .string), .null, none⟩ _ := ⟨_, restated, rfl⟩
  have restates : listed.Restates joined :=
    ⟨.cons client .nil, .cons access .nil, .cons refresh .nil, rfl, rfl⟩
  obtain ⟨members, column, profile, accessRecord, refreshRecord, served⟩ := scope_shape
  refine ⟨plain, spaced, restates, members names plain, column ["a\u00a0b"] spaced "scopes",
    congrArg ([·]) (profile _ _ client), congrArg ([·]) (accessRecord _ _ access),
    congrArg ([·]) (refreshRecord _ _ refresh "t-2"), fun configuration request => ?_⟩
  exact served ⟨listed, ⟨0, some 0⟩, fun _ => .unreachable, 900⟩ joined restates configuration "r-1"
    request

/-- A name with a space in it is one scope as the member of a list, and two scopes as a text. -/
theorem scope_shape_spaced :
    let names := ["a b"]
    Scope.members (.list (names.map .string)) = .ok [.string "a b"] ∧
      Scope.members (.string (" ".intercalate names)) = .ok [.string "a", .string "b"] ∧
      (shapedDatabase (.list (names.map .string))).clients.map (·.profile) ≠
        (shapedDatabase (.string (" ".intercalate names))).clients.map (·.profile) := by
  exact ⟨rfl, rfl, by decide⟩

end Http

end Introspection
