import Introspection.Proofs.Credential.Claims
import Introspection.Proofs.Credential.Settlement
import Introspection.Proofs.Json.Depth

/-!
# Where the keys of a client come from

A client that signs its assertions has its key set stored with it, or at an address. It makes no
difference which, as long as a server answers with the same key set (`keySource_law`): the two rows
have equal key sets (`keySet_of_held`, `keySet_of_answered`), and nothing else in a check looks at
where they come from (`KeyedAlike.eval_check`).

Where no key set is fetched (`FetchFails`), the client is as one without keys. Each assertion for it
is denied once it comes to its keys, and it is not authenticated in any other way either
(`eval_check_of_unkeyed`).

One kind of answer is neither a key set nor the lack of one (`AnswersTooDeep`): a document in which
lists and objects stand in one another too deeply is a failure, though it may well be JSON
(`nestedKeySet_undenied`). An answer is of one of the three kinds (`fetch_cases`).
-/

namespace Introspection

/-- The same client with another key set, or with another address for it. -/
def ClientRow.withKeys (row : ClientRow) (keys keysAddress : Json) : ClientRow :=
  { row with keys := keys, keysAddress := keysAddress }

/-- The same surroundings with other clients. -/
def Surroundings.registering (surroundings : Surroundings) (clients : List ClientRow) :
    Surroundings :=
  { surroundings with database := { surroundings.database with clients := clients } }

/-- Rows in the place of each other are found in the place of each other. -/
theorem Surroundings.client?_registering {surroundings : Surroundings} {row other : ClientRow}
    {related : ClientRow -> ClientRow -> Prop} (reflexive : ∀ row, related row row)
    (same : row.clientId = other.clientId) (areRelated : related row other)
    (before after : List ClientRow) (clientId : String) :
    Option.Rel related
      ((surroundings.registering (before ++ row :: after)).database.client? clientId)
      ((surroundings.registering (before ++ other :: after)).database.client? clientId) := by
  have found_refl : ∀ found : Option ClientRow, Option.Rel related found found
    | none => .none
    | some found => .some (reflexive found)
  simp only [registering, Database.client?, List.find?_append]
  cases before.find? (·.clientId = clientId) with
  | some earlier => exact found_refl (some earlier)
  | none =>
    rw [Option.none_or, Option.none_or, List.find?_cons, List.find?_cons, same]
    split
    · exact .some areRelated
    · exact found_refl _

namespace Credential

open Assertion (Members)

variable {surroundings : Surroundings} {occasion : Occasion} {credentials : Credentials}
  {client : ClientRow} {text assertion value : String}

/-- A server answers, with success, with a key set. -/
def AnswersObject (fetch : String -> Reply) (depth : Nat) (text : String) (members : Members) :
    Prop :=
  ∃ status body, Answers fetch text (.answered status body) ∧ (200 ≤ status ∧ status < 300) ∧
    Json.ofDocument depth body = .ok (.object members)

/-- No key set is fetched from an address that can be read. -/
inductive FetchFails (fetch : String -> Reply) (depth : Nat) (text : String) : Prop
  /-- It is not an address that a server can be asked at. -/
  | unaskable {address : Web.Address} (nonempty : text ≠ "")
      (read : Web.Address.read? text = some address)
      (noServer : (address.host.toList.all Percent.isAscii && address.namesServer) = false)
  | unreachable (answered : Answers fetch text .unreachable)
  | status {status : Nat} {body : List UInt8}
      (answered : Answers fetch text (.answered status body))
      (unsuccessful : ¬ (200 ≤ status ∧ status < 300))
  | noDocument {status : Nat} {body : List UInt8}
      (answered : Answers fetch text (.answered status body))
      (unread : Json.ofDocument depth body = .error .malformed)
  | noObject {status : Nat} {body : List UInt8} {value : Json}
      (answered : Answers fetch text (.answered status body))
      (read : Json.ofDocument depth body = .ok value)
      (other : ∀ members, value ≠ .object members)

/-- From an address that can be read, a key set is fetched, or none is, or a document that is nested
too deeply. -/
theorem fetch_cases (fetch : String -> Reply) (depth : Nat) (nonempty : text ≠ "")
    {address : Web.Address} (read : Web.Address.read? text = some address) :
    (∃ members, AnswersObject fetch depth text members) ∨
      FetchFails fetch depth text ∨ AnswersTooDeep fetch depth text := by
  by_cases asked : (address.host.toList.all Percent.isAscii && address.namesServer) = true
  swap
  · exact .inr (.inl (.unaskable nonempty read (by simpa using asked)))
  obtain ⟨ascii, server⟩ := Bool.and_eq_true_iff.mp asked
  have answers (reply : Reply) (isReply : fetch address.target = reply) :
      Answers fetch text reply := ⟨nonempty, address, read, ascii, server, isReply⟩
  cases isReply : fetch address.target with
  | unreachable => exact .inr (.inl (.unreachable (answers _ isReply)))
  | answered status body =>
    have answered := answers _ isReply
    by_cases success : 200 ≤ status ∧ status < 300
    swap
    · exact .inr (.inl (.status answered success))
    cases isValue : Json.ofDocument depth body with
    | error flaw =>
      cases flaw with
      | malformed => exact .inr (.inl (.noDocument answered isValue))
      | tooDeep => exact .inr (.inr ⟨status, body, answered, success, isValue⟩)
    | ok value =>
      by_cases isObject : ∃ members, value = .object members
      · obtain ⟨members, rfl⟩ := isObject
        exact .inl ⟨members, status, body, answered, success, isValue⟩
      · exact .inr (.inl (.noObject answered isValue (not_exists.mp isObject)))

section KeySet

variable {depth : Nat}

/-- A key set that is stored is the one of the client. -/
theorem keySet_of_held {members : Members} (held : client.keys = .object members) :
    (keySet depth client).eval surroundings.reply = .ok (.object members) :=
  keySet_eq_object.mpr (.stored held)

/-- A key set that a server answers with is the one of a client that has its address instead. -/
theorem keySet_of_answered {members : Members} (notHeld : ∀ others, client.keys ≠ .object others)
    (named : client.keysAddress = .string text)
    (answers : AnswersObject surroundings.fetch depth text members) :
    (keySet depth client).eval surroundings.reply = .ok (.object members) := by
  obtain ⟨status, body, answered, success, isDocument⟩ := answers
  refine keySet_eq_object.mpr (.fetched notHeld named answered ?_)
  rw [document, if_pos success, isDocument]

/-- A client whose key set is not fetched has none, and that it has none is no failure. -/
theorem keySet_of_fetchFails (notHeld : ∀ others, client.keys ≠ .object others)
    (named : client.keysAddress = .string text)
    (fails : FetchFails surroundings.fetch depth text) :
    ∃ value, (keySet depth client).eval surroundings.reply = .ok value ∧
      ∀ members, value ≠ .object members := by
  -- Where a server answers, what is found is the document of the answer, if there is one.
  have found {reply : Reply} {held : Option Json} (answered : Answers surroundings.fetch text reply)
      (isDocument : document depth reply = .ok held)
      (other : ∀ members, held ≠ some (.object members)) :
      ∃ value, (keySet depth client).eval surroundings.reply = .ok value ∧
        ∀ members, value ≠ .object members := by
    rw [keySet_of_answers notHeld named answered, isDocument]
    refine ⟨_, rfl, fun members same => ?_⟩
    cases held with
    | none => cases same
    | some value => exact other members (congrArg some same)
  cases fails with
  | @unaskable address nonempty read noServer =>
    rw [keySet_of_address notHeld named nonempty, read]
    dsimp only
    rw [Inquiry.eval_bind, eval_fetch, noServer]
    exact ⟨.null, rfl, nofun⟩
  | unreachable answered => exact found answered rfl (by simp)
  | status answered unsuccessful =>
    exact found answered (by rw [document, if_neg unsuccessful]) (by simp)
  | @noDocument status body answered unread =>
    have none : document depth (.answered status body) = .ok none := by
      rw [document, unread]
      exact ite_self _
    exact found answered none (by simp)
  | @noObject status body value answered read other =>
    by_cases success : 200 ≤ status ∧ status < 300
    · refine found answered (by rw [document, if_pos success, read]) fun members same => ?_
      exact other members (Option.some.inj same)
    · exact found answered (by rw [document, if_neg success]) (by simp)

end KeySet

section Check

variable {isBearer : Bool}

/-- Two rows are of one client, and have equal key sets, each in its surroundings. -/
structure KeyedAlike (surroundings other : Surroundings) (depth : Nat) (row otherRow : ClientRow) :
    Prop where
  sameClient : otherRow = row.withKeys otherRow.keys otherRow.keysAddress
  sameKeySet : (keySet depth row).eval surroundings.reply =
    (keySet depth otherRow).eval other.reply

/-- A row has one key set wherever documents are answered alike. -/
theorem keyedAlike_refl {other : Surroundings} (fetch : surroundings.fetch = other.fetch)
    (depth : Nat) (row : ClientRow) : KeyedAlike surroundings other depth row row := by
  refine ⟨rfl, ?_⟩
  unfold keySet
  split
  · rfl
  · split
    · rfl
    · split
      · split
        · rfl
        · -- The document is all that is asked for.
          rw [Inquiry.eval_bind, Inquiry.eval_bind, eval_fetch, eval_fetch, fetch]
          refine bind_congr fun found => ?_
          cases found with
          | none => rfl
          | some value => rfl
      · rfl

/-- A check does not look at where a key set comes from. -/
theorem KeyedAlike.eval_check {other : Surroundings} {row otherRow : ClientRow}
    (alike : KeyedAlike surroundings other occasion.depth row otherRow) :
    (check occasion row isBearer value).eval surroundings.reply =
      (check occasion otherRow isBearer value).eval other.reply := by
  have same := alike.sameKeySet
  rw [alike.sameClient] at same ⊢
  have method (keys keysAddress : Json) :
      (row.withKeys keys keysAddress).authMethod = row.authMethod := rfl
  simp only [check, method]
  cases AuthMethod.ofJson? row.authMethod with
  | error failure => rfl
  | ok registered =>
    cases registered with
    | none => rfl
    | some method =>
      dsimp only
      split
      · rfl
      · cases method with
        | privateKey =>
          simp only [Inquiry.eval_bind, Inquiry.eval_ofExcept, Inquiry.eval_pure, same]
          rfl
        | sharedBearer =>
          simp only [Inquiry.eval_bind, Inquiry.eval_ofExcept, Inquiry.eval_pure]
          rfl
        | secretBasic =>
          rw [Inquiry.eval_ofExcept, Inquiry.eval_ofExcept]
          rfl

/-- Clients whose rows are keyed alike are told alike. -/
theorem eval_direct_of_keyedAlike {other : Surroundings} {clientId : String}
    (answers : surroundings.database.failure? .clients = other.database.failure? .clients)
    (alike : Option.Rel (KeyedAlike surroundings other occasion.depth)
      (surroundings.database.client? clientId) (other.database.client? clientId)) :
    (direct occasion clientId isBearer value).eval surroundings.reply =
      (direct occasion clientId isBearer value).eval other.reply := by
  have registration (surroundings : Surroundings) :
      surroundings.reply (.registration clientId) =
        surroundings.database.answer .clients (surroundings.database.client? clientId) := rfl
  rw [direct, Inquiry.eval_bind, Inquiry.eval_bind, Procedure.eval_ask, Procedure.eval_ask,
    registration, registration, Database.answer, Database.answer, answers]
  cases other.database.failure? .clients with
  | some failure => rfl
  | none =>
    dsimp only
    rw [ok_bind, ok_bind]
    generalize surroundings.database.client? clientId = found at alike
    generalize other.database.client? clientId = foundOther at alike
    cases alike with
    | none => rfl
    | some alike =>
      dsimp only
      rw [Inquiry.eval_bind, Inquiry.eval_bind, alike.eval_check, alike.sameClient]
      congr
      funext outcome
      cases outcome <;> rfl

/-- A client without a key set denies whatever it is registered to check with one. -/
theorem eval_check_of_unkeyed (registered : client.IsRegisteredFor .privateKey) {keys : Json}
    (found : (keySet occasion.depth client).eval surroundings.reply = .ok keys)
    (other : ∀ members, keys ≠ .object members) :
    (check occasion client isBearer value).eval surroundings.reply =
      .ok (.error (if isBearer then .invalidKeys else .unauthorizedClient)) := by
  cases isBearer with
  | false =>
    simp only [check, ofJson?_eq_some.mpr registered]
    rfl
  | true =>
    have denied : verifyWithKeySet occasion client keys value = .ok (.error .invalidKeys) := by
      unfold verifyWithKeySet
      split
      · exact absurd rfl (other _)
      · rfl
    rw [check_of_privateKey registered, Inquiry.eval_bind, found, ok_bind, Inquiry.eval_bind,
      Inquiry.eval_ofExcept, denied]
    rfl

end Check

section Authentication

/-- Authentication ends alike where access tokens are answered alike and clients are told
alike. -/
theorem eval_authenticate_congr_direct {other : Surroundings}
    (tokens : ∀ value, surroundings.database.reply surroundings.now (.access value) =
      other.database.reply other.now (.access value))
    (clients : ∀ clientId isBearer value,
      (direct occasion clientId isBearer value).eval surroundings.reply =
        (direct occasion clientId isBearer value).eval other.reply) :
    (authenticate occasion credentials).eval surroundings.reply =
      (authenticate occasion credentials).eval other.reply := by
  unfold authenticate
  split
  · next bearer _ =>
    have looked : (Decision.delegatedRequester bearer).eval
        (surroundings.database.reply surroundings.now) =
          (Decision.delegatedRequester bearer).eval (other.database.reply other.now) := by
      unfold Decision.delegatedRequester Decision.lookup
      rw [Inquiry.eval_bind, Inquiry.eval_bind, Inquiry.eval_question, Inquiry.eval_question,
        tokens bearer]
      congr
      funext token
      cases token <;> rfl
    rw [Inquiry.eval_bind, Inquiry.eval_bind, Procedure.eval_ofDecision,
      Procedure.eval_ofDecision, looked]
    congr
    funext found
    split
    · rfl
    · rw [Inquiry.eval_bind, Inquiry.eval_bind, Inquiry.eval_ofExcept, Inquiry.eval_ofExcept]
      refine bind_congr fun outcome => ?_
      cases outcome with
      | error denial => rfl
      | ok claims =>
        dsimp only
        -- Which client the claims name makes no difference to what follows.
        generalize (if (claim claims "iss").isVoid = true then claim claims "sub"
          else claim claims "iss") = named
        split
        · rfl
        · exact clients _ _ _
  · split
    · rfl
    · split
      · rfl
      · exact clients _ _ _

/-- A direct requester comes from the check of a value for the client. -/
theorem exists_direct_of_authenticate {clientId : String} {authorities : ScopeSet}
    (authenticated : (authenticate occasion credentials).eval surroundings.reply =
      .ok (.ok (.direct clientId authorities))) :
    ∃ isBearer value, (direct occasion clientId isBearer value).eval surroundings.reply =
      .ok (.ok (.direct clientId authorities)) := by
  cases given : bearerValue? credentials with
  | some bearer =>
    obtain ⟨noToken, names⟩ := names_of_authenticate given authenticated
    rw [eval_authenticate_of_names given noToken names] at authenticated
    exact ⟨true, bearer, authenticated⟩
  | none =>
    simp only [authenticate, given] at authenticated
    split at authenticated
    · cases authenticated
    · next named secret _ =>
      split at authenticated
      · cases authenticated
      · obtain ⟨_, _, same, _⟩ := check_of_direct authenticated
        obtain ⟨rfl, _⟩ := Requester.direct.inj same
        exact ⟨false, secret, authenticated⟩

/-- A row in the place of one with an equal key set makes no difference to who is authenticated. -/
theorem eval_authenticate_of_keySet {row : ClientRow}
    {keys keysAddress otherKeys otherAddress : Json}
    (same : ∀ clients, (keySet occasion.depth (row.withKeys keys keysAddress)).eval
        (surroundings.registering clients).reply =
      (keySet occasion.depth (row.withKeys otherKeys otherAddress)).eval
        (surroundings.registering clients).reply)
    (before after : List ClientRow) :
    (authenticate occasion credentials).eval (surroundings.registering
        (before ++ row.withKeys keys keysAddress :: after)).reply =
      (authenticate occasion credentials).eval (surroundings.registering
        (before ++ row.withKeys otherKeys otherAddress :: after)).reply := by
  have fetch (clients others : List ClientRow) :
      (surroundings.registering clients).fetch = (surroundings.registering others).fetch := rfl
  refine eval_authenticate_congr_direct (fun _ => rfl) fun clientId isBearer value => ?_
  refine eval_direct_of_keyedAlike rfl (Surroundings.client?_registering
    (keyedAlike_refl (fetch _ _) _) ?_ ⟨?_, ?_⟩ before after clientId)
  · rfl
  · rfl
  · rw [same]
    exact (keyedAlike_refl (fetch _ _) _ _).sameKeySet

/-- A client that passes no check is not authenticated, whatever is presented for it. -/
theorem not_direct_of_unchecked
    (found : surroundings.database.client? client.clientId = some client)
    (unchecked : ∀ isBearer value,
      (check occasion client isBearer value).eval surroundings.reply ≠ .ok (.ok ()))
    (authorities : ScopeSet) :
    (authenticate occasion credentials).eval surroundings.reply ≠
      .ok (.ok (.direct client.clientId authorities)) := by
  intro authenticated
  obtain ⟨isBearer, value, identified⟩ := exists_direct_of_authenticate authenticated
  obtain ⟨other, foundOther, _, checked⟩ := check_of_direct identified
  obtain rfl := Option.some.inj (found.symm.trans foundOther)
  exact unchecked isBearer value checked

/-- A client signs its assertions, and has no key set stored with it, but the address of one. -/
structure HasKeysAt (surroundings : Surroundings) (client : ClientRow) (text : String) : Prop where
  registered : client.IsRegisteredFor .privateKey
  notHeld : ∀ members, client.keys ≠ .object members
  named : client.keysAddress = .string text
  found : surroundings.database.client? client.clientId = some client

/-- Credentials come to the keys of a client: the bearer among them is looked up and is no access
token, it names the client in its claims, and clients are told. -/
structure ComesToKeys (surroundings : Surroundings) (depth : Nat) (credentials : Credentials)
    (client : ClientRow) : Prop where
  bearer : ∃ assertion, bearerValue? credentials = some assertion ∧
    IsNoToken surroundings assertion ∧ Names depth assertion client.clientId
  answered : surroundings.database.failure? .clients = none

/-- An assertion for a client whose key set is not fetched is denied. -/
theorem denied_of_fetchFails (keyed : HasKeysAt surroundings client text)
    (fails : FetchFails surroundings.fetch occasion.depth text)
    (comes : ComesToKeys surroundings occasion.depth credentials client) :
    (authenticate occasion credentials).eval surroundings.reply = .ok (.error .invalidKeys) := by
  obtain ⟨keys, isKeys, noObject⟩ := keySet_of_fetchFails keyed.notHeld keyed.named fails
  obtain ⟨assertion, given, noToken, names⟩ := comes.bearer
  rw [eval_authenticate_of_names given noToken names]
  exact eval_direct_of_found comes.answered keyed.found
    (eval_check_of_unkeyed keyed.registered isKeys noObject)

/-- An assertion for a client whose key set is nested too deeply is neither right nor denied. -/
theorem failed_of_answersTooDeep (keyed : HasKeysAt surroundings client text)
    (deep : AnswersTooDeep surroundings.fetch occasion.depth text)
    (comes : ComesToKeys surroundings occasion.depth credentials client) :
    (authenticate occasion credentials).eval surroundings.reply = .error .tooDeep := by
  obtain ⟨assertion, given, noToken, names⟩ := comes.bearer
  rw [eval_authenticate_of_names given noToken names]
  exact direct_eq_error.mpr (.inr ⟨comes.answered, client, keyed.found,
    .search keyed.registered (.document keyed.notHeld keyed.named deep)⟩)

/-- A client without a key set that could be fetched is not authenticated. -/
theorem not_direct_of_unfetched (keyed : HasKeysAt surroundings client text)
    (unfetched : FetchFails surroundings.fetch occasion.depth text ∨
      AnswersTooDeep surroundings.fetch occasion.depth text) (authorities : ScopeSet) :
    (authenticate occasion credentials).eval surroundings.reply ≠
      .ok (.ok (.direct client.clientId authorities)) := by
  refine not_direct_of_unchecked keyed.found (fun isBearer value checked => ?_) authorities
  rcases unfetched with fails | deep
  · obtain ⟨keys, isKeys, noObject⟩ := keySet_of_fetchFails keyed.notHeld keyed.named fails
    rw [eval_check_of_unkeyed keyed.registered isKeys noObject] at checked
    cases checked
  · cases isBearer with
    | false =>
      simp only [check, ofJson?_eq_some.mpr keyed.registered] at checked
      cases checked
    | true =>
      rw [check_eq_error.mpr
        (.search keyed.registered (.document keyed.notHeld keyed.named deep))] at checked
      cases checked

end Authentication

/-- The address of a key set. -/
def keySetAddress : String := "https://rs.example/jwks"

/-- A key set with one key. -/
def keySetDocument : List UInt8 := Text.utf8 <|
  "\x7b\"keys\":[\x7b\"crv\":\"P-256\",\"kty\":\"EC\"," ++
    "\"x\":\"qKW5k8wMIT7qGNS7HVO1bWsmzhuSQB28cyTAXHMWhfs\"," ++
    "\"y\":\"7T7uEZlriojTT_Ce2BDQbjvLEfpaFDhBPBCFW5iHqwo\"\x7d]\x7d"

/-- A client that has its key set there. -/
def keyedClient : ClientRow :=
  ⟨"rs", .string "private_key_jwt", .null, .null, .null, .string keySetAddress, .bool true,
    .list [.string "openid"], .null⟩

/-- The database of the client, with one reply of every server. -/
def keyedSurroundings (reply : Reply) : Surroundings :=
  ⟨{ sharingDatabase with clients := [keyedClient] }, ⟨60, some 0⟩, fun _ => reply, 900⟩

/-- A server that is asked there answers. -/
theorem answers_keySetAddress (reply : Reply) :
    Answers (keyedSurroundings reply).fetch keySetAddress reply := by
  have read : (Web.Address.read? keySetAddress).map
      (fun address => (address.host.toList.all Percent.isAscii, address.namesServer)) =
        some (true, true) := by
    decide +kernel
  obtain ⟨address, isAddress, same⟩ := Option.map_eq_some_iff.mp read
  obtain ⟨ascii, server⟩ := Prod.mk.inj same
  exact ⟨by decide, address, isAddress, ascii, server, rfl⟩

theorem hasKeysAt_keyedClient (reply : Reply) :
    HasKeysAt (keyedSurroundings reply) keyedClient keySetAddress :=
  ⟨⟨_, rfl, by decide⟩, nofun, rfl, rfl⟩

/-- An assertion that names the client comes to its keys. -/
theorem comesToKeys_keyedClient (reply : Reply) :
    ComesToKeys (keyedSurroundings reply) sharingMinute.depth sharingCredentials keyedClient := by
  have isNamed : ((Assertion.unverifiedClaims sharingMinute.depth numericAudience).toOption.map
      fun claims => ((namedBy claims).isVoid, (namedBy claims).display)) =
        some (false, keyedClient.clientId) := by
    decide +kernel
  obtain ⟨claims, isRead, same⟩ := Option.map_eq_some_iff.mp isNamed
  obtain ⟨present, isClient⟩ := Prod.mk.inj same
  exact ⟨⟨numericAudience, bearerValue?_sharingCredentials, ⟨rfl, rfl⟩, claims,
    eq_ok_of_toOption isRead, present, isClient⟩, rfl⟩

end Credential

end Introspection
