import Introspection.Proofs.Decision.Law
import Mathlib.Data.List.Nodup

/-!
# Tokens of both kinds

Access tokens and refresh tokens are in different stores and are looked for one after the other.
Apart from that a decision treats them alike (`introspect_kinds_alike`): how it ends follows from
what the token was granted, and what is told about it differs in the type, which only access tokens
have.
-/

namespace Introspection

namespace Answer

/-- Whether a field has a value. -/
def hasValue (field : String × Json) : Bool := !field.2 matches .null

/-- The fields of an answer that have a value. -/
def published (answer : Answer) : List (String × Json) := answer.fields.filter hasValue

/-- Of an active token the fields are published that have a value. -/
theorem payload_of_active {answer : Answer} (active : answer.active = true) :
    answer.payload = .object answer.published := by
  simp only [payload, active, if_true]
  rfl

/-- The names of the fields of an answer are different. -/
theorem nodup_fields (answer : Answer) : (answer.fields.map Prod.fst).Nodup := by
  simp [fields]

/-- What is published of an active token under the name of a field is the value of the field, if it
has one. -/
theorem get?_payload {answer : Answer} (active : answer.active = true) {name : String}
    {value : Json} (isField : (name, value) ∈ answer.fields) :
    answer.payload.get? name = if hasValue (name, value) then some value else none := by
  have only : ∀ field ∈ answer.fields, field.1 = name -> field = (name, value) :=
    fun field member isNamed => List.inj_on_of_nodup_map answer.nodup_fields member isField isNamed
  rw [payload_of_active active, Json.get?, Json.member?, published]
  cases search : (answer.fields.filter hasValue).find? (·.1 == name) with
  | none =>
    have hidden : ¬ hasValue (name, value) = true := fun shown =>
      List.find?_eq_none.mp search _ (List.mem_filter.mpr ⟨isField, shown⟩) (beq_self_eq_true name)
    rw [if_neg hidden, Option.map_none]
  | some found =>
    obtain ⟨member, shown⟩ := List.mem_filter.mp (List.mem_of_find?_eq_some search)
    have isNamed : found.1 = name := by simpa using List.find?_some search
    obtain rfl := only found member isNamed
    rw [if_pos shown, Option.map_some]

/-- A text that is told of an active token is published under the name of its field. -/
theorem get?_text {answer : Answer} (active : answer.active = true) {name : String}
    {value : Option String} (isField : (name, Json.ofString? value) ∈ answer.fields) :
    answer.payload.get? name = value.map Json.string := by
  rw [get?_payload active isField]
  cases value with
  | none => rfl
  | some text => rfl

/-- The type of a token is the value of one field, and no other field depends on it. -/
theorem fields_withType (answer : Answer) :
    ∃ before after, (∀ field ∈ before ++ after, field.1 ≠ "token_type") ∧
      ∀ tokenType, { answer with tokenType := tokenType }.fields =
        before ++ ("token_type", Json.ofString? tokenType) :: after := by
  refine ⟨answer.fields.take 6, answer.fields.drop 7, ?_, fun tokenType => rfl⟩
  simp [fields]

/-- What is published of two answers is the same but for the type of the token, which is in the
first one alone. -/
def SameButType (tokenType : String) (typed untyped : Answer) : Prop :=
  ∃ members, typed.payload = .object members ∧ ("token_type", .string tokenType) ∈ members ∧
    untyped.payload = .object (members.filter (·.1 ≠ "token_type"))

/-- An answer without the type of the token publishes what one with it does, but for the type. -/
theorem sameButType_of_eq {typed untyped : Answer} {tokenType : String}
    (active : typed.active = true) (isTyped : typed.tokenType = some tokenType)
    (same : untyped = { typed with tokenType := none }) : typed.SameButType tokenType untyped := by
  obtain ⟨before, after, others, fields⟩ := typed.fields_withType
  have typedPublished : typed.published =
      before.filter hasValue ++ ("token_type", .string tokenType) :: after.filter hasValue := by
    have typedFields : typed.fields =
        before ++ ("token_type", .ofString? typed.tokenType) :: after := fields typed.tokenType
    rw [published, typedFields, isTyped]
    simp [hasValue, Json.ofString?]
  have untypedPublished : untyped.published = before.filter hasValue ++ after.filter hasValue := by
    rw [published, same, fields none]
    simp [hasValue, Json.ofString?]
  have kept : ∀ rest : List (String × Json), rest ⊆ before ++ after ->
      (rest.filter hasValue).filter (·.1 ≠ "token_type") = rest.filter hasValue := by
    intro rest within
    refine List.filter_eq_self.mpr fun field member => ?_
    simpa using others field (within (List.mem_filter.mp member).1)
  have untypedActive : untyped.active = true := by rw [same, active]
  refine ⟨_, payload_of_active active, ?_, ?_⟩
  · simp [typedPublished]
  · rw [payload_of_active untypedActive, typedPublished, untypedPublished, List.filter_append,
      List.filter_cons_of_neg (by simp), kept _ (List.subset_append_left _ _),
      kept _ (List.subset_append_right _ _)]

end Answer

/-- Two outcomes are of one kind, with the same reason, or with answers that are the same but for
the type of the token. -/
inductive Outcome.SameButType (tokenType : String) : Outcome -> Outcome -> Prop
  | inactive (reason : InactiveReason) : SameButType tokenType (.inactive reason) (.inactive reason)
  | forbidden (reason : Refusal) : SameButType tokenType (.forbidden reason) (.forbidden reason)
  | active {typed untyped : Answer} (same : typed.SameButType tokenType untyped) :
      SameButType tokenType (.active typed) (.active untyped)

/-- Two stores hold the same clients and users, and the same grant under a value: the first as an
access token, the second as a refresh token. -/
structure Stores.HoldAlike (value : String) (grant : Grant) (tokenType : String)
    (first second : Stores) : Prop where
  clients : second.clients = first.clients
  users : second.users = first.users
  access : ∃ shown, first.accessTokens.get? value = some ⟨shown, grant, tokenType⟩
  noAccess : second.accessTokens.get? value = none
  refresh : ∃ shown, second.refreshTokens.get? value = some ⟨shown, grant⟩

/-- A grant can be put into any stores, as an access token or as a refresh token. -/
theorem Stores.holdAlike_put (stores : Stores) (value : String) (grant : Grant)
    (tokenType : String) :
    HoldAlike value grant tokenType
      { stores with accessTokens := stores.accessTokens.put value ⟨value, grant, tokenType⟩ }
      { stores with
        accessTokens := stores.accessTokens.erase value
        refreshTokens := stores.refreshTokens.put value ⟨value, grant⟩ } where
  clients := rfl
  users := rfl
  access := ⟨value, Entries.get?_put_self _ _ _⟩
  noAccess := by simp [Entries.get?, Entries.erase]
  refresh := ⟨value, Entries.get?_put_self _ _ _⟩

namespace Stores.HoldAlike

variable {value tokenType : String} {grant : Grant} {first second : Stores}

/-- The value names the grant in the first stores, as an access token. -/
theorem token?_first (alike : HoldAlike value grant tokenType first second) :
    ∃ shown, Records.token? first.find value = some (.access ⟨shown, grant, tokenType⟩) := by
  obtain ⟨shown, held⟩ := alike.access
  exact ⟨shown, by simp [Records.token?, Stores.find, held]⟩

/-- The value names the grant in the second stores, as a refresh token. -/
theorem token?_second (alike : HoldAlike value grant tokenType first second) :
    ∃ shown, Records.token? second.find value = some (.refresh ⟨shown, grant⟩) := by
  obtain ⟨shown, held⟩ := alike.refresh
  exact ⟨shown, by simp [Records.token?, Stores.find, held, alike.noAccess]⟩

theorem user?_eq (alike : HoldAlike value grant tokenType first second) :
    Records.user? second.find grant = Records.user? first.find grant := by
  simp only [Records.user?, Stores.find, alike.users]

theorem client_eq (alike : HoldAlike value grant tokenType first second) (clientId : String) :
    second.find (.client clientId) = first.find (.client clientId) := by
  simp only [Stores.find, alike.clients]

end Stores.HoldAlike

variable {records others : Records} {scope : String} {requester : Requester}

/-- Who may ask depends on the records of clients alone. -/
theorem Entitled.congr {profile : ClientProfile}
    (same : ∀ clientId, others (.client clientId) = records (.client clientId))
    (entitled : Entitled records scope requester profile) :
    Entitled others scope requester profile := by
  cases entitled with
  | delegated held registered => exact .delegated held ((same _).trans registered)
  | direct registered allowed role => exact .direct ((same _).trans registered) allowed role

/-- Why others may not ask depends on the records of clients alone. -/
theorem Unentitled.congr {refusal : Refusal}
    (same : ∀ clientId, others (.client clientId) = records (.client clientId))
    (unentitled : Unentitled records scope requester refusal) :
    Unentitled others scope requester refusal := by
  cases unentitled with
  | withoutScope lacking => exact .withoutScope lacking
  | delegatedUnknown held unregistered =>
    exact .delegatedUnknown held ((same _).trans unregistered)
  | directUnknown unregistered => exact .directUnknown ((same _).trans unregistered)
  | notAllowed registered lacking => exact .notAllowed ((same _).trans registered) lacking

/-- How a request about the access token is decided is how the one about the refresh token is, but
for the type of the token. -/
theorem Decides.alike {value tokenType : String} {grant : Grant} {first second : Stores}
    (alike : Stores.HoldAlike value grant tokenType first second) {rule : ScopeRule}
    {issuer : Option String} {outcome : Outcome}
    (decided : Decides first.find scope rule issuer (some value) requester outcome) :
    ∃ other, Decides second.find scope rule issuer (some value) requester other ∧
      outcome.SameButType tokenType other := by
  obtain ⟨shown, isAccess⟩ := alike.token?_first
  obtain ⟨shownAlso, isRefresh⟩ := alike.token?_second
  cases decided with
  | missing absent => exact ⟨_, .missing absent, .inactive _⟩
  | refused given unentitled =>
    exact ⟨_, .refused given (unentitled.congr alike.client_eq), .forbidden _⟩
  | unknown given entitled unnamed =>
    obtain rfl := Option.some.inj given.1
    rw [isAccess] at unnamed
    cases unnamed
  | hidden given entitled named unseen =>
    obtain rfl := Option.some.inj given.1
    obtain rfl := Option.some.inj (isAccess.symm.trans named)
    exact ⟨_, .hidden given (entitled.congr alike.client_eq) isRefresh unseen, .forbidden _⟩
  | shown given entitled named seen =>
    obtain rfl := Option.some.inj given.1
    obtain rfl := Option.some.inj (isAccess.symm.trans named)
    refine ⟨_, .shown given (entitled.congr alike.client_eq) isRefresh seen, .active ?_⟩
    exact Answer.sameButType_of_eq rfl rfl (congrArg (Decision.answer issuer _) alike.user?_eq)

namespace Decision

/-- Access tokens and refresh tokens are treated alike. Of a value that names one grant, as an
access token here and as a refresh token there, both requests have an outcome, of the same kind and
with the same reason; and what is told about the token is the same, but for the type of the access
token. -/
theorem introspect_kinds_alike {first second : Stores} {value tokenType : String} {grant : Grant}
    (alike : Stores.HoldAlike value grant tokenType first second) (scope : String)
    (rule : ScopeRule) (issuer : Option String) (hint : Json) (requester : Requester) :
    ∃ typed untyped,
      (first.calm.run
        (introspect (.ofTexts scope rule issuer) (some value) hint requester)).result =
          .ok typed ∧
      (second.calm.run
        (introspect (.ofTexts scope rule issuer) (some value) hint requester)).result =
          .ok untyped ∧
      typed.SameButType tokenType untyped := by
  obtain ⟨typed, decided⟩ := exists_decides first.find scope rule issuer (some value) requester
  obtain ⟨untyped, also, same⟩ := decided.alike alike
  exact ⟨typed, untyped, (result_eq_ok_iff first hint).mpr decided,
    (result_eq_ok_iff second hint).mpr also, same⟩

/-- Stores with a client that may ask about tokens of others, and a user. -/
def askingStores : Stores where
  clients := [("shop", ⟨"shop", true, .ofList ["read"], .ofList [clientRole]⟩)]
  accessTokens := []
  refreshTokens := []
  users := [(("alice", "bank"), ⟨"u-1", some "alice"⟩)]
  failing := []

/-- The client is told the same about a token of another client and its user, whichever kind the
token is of, but for its type. -/
theorem introspect_kinds_alike_foreign :
    let grant : Grant := ⟨"bank", .ofList ["read"], some "alice", some ⟨5000000, some 0⟩⟩
    let first : Stores := { askingStores with
      accessTokens := askingStores.accessTokens.put "t-1" ⟨"t-1", grant, "DPoP"⟩ }
    let second : Stores := { askingStores with
      accessTokens := askingStores.accessTokens.erase "t-1"
      refreshTokens := askingStores.refreshTokens.put "t-1" ⟨"t-1", grant⟩ }
    let policy : Policy := .ofTexts "uma_protection" .subset none
    let typed : Outcome := .active
      ⟨true, some "read", some "bank", some 5, some "u-1", some "alice", some "DPoP", none⟩
    Stores.HoldAlike "t-1" grant "DPoP" first second ∧
      (first.calm.run (introspect policy (some "t-1") .null (.direct "shop" .empty))).result =
        .ok typed ∧
      ∃ untyped,
        (second.calm.run (introspect policy (some "t-1") .null (.direct "shop" .empty))).result =
          .ok untyped ∧ typed.SameButType "DPoP" untyped := by
  intro grant first second policy typed
  have alike : Stores.HoldAlike "t-1" grant "DPoP" first second :=
    askingStores.holdAlike_put "t-1" grant "DPoP"
  have told : (first.calm.run (introspect policy (some "t-1") .null
      (.direct "shop" .empty))).result = .ok typed := rfl
  obtain ⟨outcome, untyped, decided, also, same⟩ := introspect_kinds_alike alike "uma_protection"
    .subset none .null (.direct "shop" .empty)
  obtain rfl := Except.ok.inj (told.symm.trans decided)
  exact ⟨alike, told, untyped, also, same⟩

end Decision

end Introspection
