import Introspection.Proofs.Credential.Verification
import Introspection.Proofs.Session.Coherence
import Mathlib.Control.Monad.Basic

/-!
# Who a direct requester is

Nobody is taken for a client who has not proved to be it (`authenticate_sound`). What a request
presents for a client is a secret, or a bearer credential that is no live access token
(`Credential.Presents`); and it is right (`Credential.IsRight`) only in the way that the row of
this very client lays down: as its secret, or signed with one of its keys.

A bearer credential names its client in claims that nobody has checked at that point. This does no
harm, because the keys that it is checked with are those of the client that it names.
-/

namespace Introspection

variable {surroundings : Surroundings}

/-- The key set of a client: the one that is stored with it, or else the document that is found at
its address. -/
inductive ClientRow.HasKeySet (client : ClientRow) (fetch : String -> Reply) (depth : Nat) :
    Assertion.Members -> Prop
  | stored {members : Assertion.Members} (held : client.keys = .object members) :
      HasKeySet client fetch depth members
  | fetched {members : Assertion.Members} {text : String} {address : Web.Address} {status : Nat}
      {body : List UInt8} (notHeld : ∀ others, client.keys ≠ .object others)
      (named : client.keysAddress = .string text) (read : Web.Address.read? text = some address)
      (answered : fetch address.target = .answered status body)
      (success : 200 ≤ status ∧ status < 300)
      (document : Json.ofDocument depth body = .ok (.object members)) :
      HasKeySet client fetch depth members

/-- A key is what a client secret stands for, for an assertion with some header. -/
def Assertion.Key.IsOfSecret (key : Key) (depth : Nat) (secret : Json) (header : Members) : Prop :=
  ∃ shared, SharedKey.ofSecret depth secret = .ok shared ∧ shared.keyFor header = .ok key

namespace Credential

open Assertion (Members Algorithm)

/-- The value of a credential is right for a client, in the bearer scheme or in the basic one. -/
inductive IsRight (fetch : String -> Reply) (occasion : Occasion) (client : ClientRow) :
    (isBearer : Bool) -> (value : String) -> Prop
  /-- It is the client's secret. -/
  | secret {password stored : String} (registered : client.IsRegisteredFor .secretBasic)
      (nonempty : password ≠ "") (held : client.secret = .string stored)
      (verified : Secret.verify password stored = .ok true) :
      IsRight fetch occasion client false password
  /-- It is signed with a key of the client's key set. -/
  | ownKey {assertion : String} {parsed : Assertion.Parsed} {algorithm : Algorithm}
      {key : Assertion.Key} {keySet : Members} (registered : client.IsRegisteredFor .privateKey)
      (own : client.HasKeySet fetch occasion.depth keySet) (inSet : key.IsIn keySet)
      (accepted : algorithm ∈ Algorithm.publicKey)
      (read : Assertion.parse occasion.depth (Text.utf8 assertion) = .ok parsed)
      (signed : parsed.SignedBy algorithm key)
      (fit : ClaimsFit occasion.address client.clientId parsed.claims) :
      IsRight fetch occasion client true assertion
  /-- It is signed with the client's secret. -/
  | sharedKey {assertion : String} {parsed : Assertion.Parsed} {algorithm : Algorithm}
      {key : Assertion.Key} (registered : client.IsRegisteredFor .sharedBearer)
      (nonempty : client.secret.isVoid = false)
      (ofSecret : key.IsOfSecret occasion.depth client.secret parsed.header)
      (accepted : algorithm ∈ Algorithm.sharedSecret)
      (read : Assertion.parse occasion.depth (Text.utf8 assertion) = .ok parsed)
      (signed : parsed.SignedBy algorithm key)
      (fit : ClaimsFit occasion.address client.clientId parsed.claims) :
      IsRight fetch occasion client true assertion

/-- What credentials present for a client. A bearer credential goes before a basic one, and is
presented for a client only where it is not itself a live access token. -/
inductive Presents (database : Database) (now : Moment) (credentials : Credentials)
    (clientId : String) : (isBearer : Bool) -> (value : String) -> Prop
  | bearer {value : String} (given : bearerValue? credentials = some value)
      (noToken : ∀ row ∈ database.accessTokens, row.token = value ->
        Moment.isAfter row.expiresAt now = false) :
      Presents database now credentials clientId true value
  | basic {password : String} (noBearer : bearerValue? credentials = none)
      (given : credentials.basic = some (clientId, password)) :
      Presents database now credentials clientId false password

/-- A document is the body of an answer of success. -/
theorem answered_of_document {depth : Nat} {reply : Reply} {value : Json}
    (held : document depth reply = .ok (some value)) :
    ∃ status body, reply = .answered status body ∧ (200 ≤ status ∧ status < 300) ∧
      Json.ofDocument depth body = .ok value := by
  unfold document at held
  split at held
  · cases held
  · next status body =>
    split at held
    · next success =>
      split at held
      · next other isDocument =>
        obtain rfl := Option.some.inj (Except.ok.inj held)
        exact ⟨status, body, rfl, success, isDocument⟩
      · cases held
      · cases held
    · cases held

/-- A document that was fetched is the body of an answer of success. -/
theorem answered_of_fetch {depth : Nat} {address : Web.Address} {value : Json}
    (fetched : (fetch depth address).eval surroundings.reply = .ok (some value)) :
    ∃ status body, surroundings.fetch address.target = .answered status body ∧
      (200 ≤ status ∧ status < 300) ∧ Json.ofDocument depth body = .ok value := by
  unfold fetch at fetched
  split at fetched
  · cases fetched
  · rw [Inquiry.eval_bind, Procedure.eval_ask] at fetched
    simp only [Surroundings.reply, ok_bind] at fetched
    split at fetched
    · rw [Inquiry.eval_ofExcept] at fetched
      exact answered_of_document fetched
    · cases fetched

/-- What is found as the key set of a client is its key set. -/
theorem hasKeySet_of_keySet {depth : Nat} {client : ClientRow} {members : Members}
    (found : (keySet depth client).eval surroundings.reply = .ok (.object members)) :
    client.HasKeySet surroundings.fetch depth members := by
  unfold keySet at found
  split at found
  · next stored held =>
    rw [Inquiry.eval_pure] at found
    obtain rfl := Json.object.inj (Except.ok.inj found)
    exact .stored held
  · next notHeld =>
    split at found
    · cases found
    · split at found
      · next text named =>
        split at found
        · cases found
        · next address read =>
          rw [Inquiry.eval_bind] at found
          obtain ⟨document, fetched, found⟩ := bind_eq_ok.mp found
          cases document with
          | none => cases found
          | some value =>
            rw [Inquiry.eval_pure] at found
            obtain rfl := Except.ok.inj found
            obtain ⟨status, body, answered, success, isDocument⟩ := answered_of_fetch fetched
            exact .fetched notHeld named read answered success isDocument
      · cases found

/-- A credential that passes the check is right. -/
theorem isRight_of_check {occasion : Occasion} {client : ClientRow} {isBearer : Bool}
    {value : String}
    (checked : (check occasion client isBearer value).eval surroundings.reply = .ok (.ok ())) :
    IsRight surroundings.fetch occasion client isBearer value := by
  unfold check at checked
  split at checked
  · cases checked
  · cases checked
  · next method found =>
    have registered := ClientRow.isRegisteredFor_of_ofJson? found
    split at checked
    · cases checked
    · next scheme =>
      have scheme : method.isBearer = isBearer := by simpa using scheme
      cases method with
      | privateKey =>
        obtain rfl : true = isBearer := scheme
        rw [Inquiry.eval_bind] at checked
        obtain ⟨value, isKeySet, checked⟩ := bind_eq_ok.mp checked
        rw [Inquiry.eval_bind, Inquiry.eval_ofExcept] at checked
        obtain ⟨outcome, verified, checked⟩ := bind_eq_ok.mp checked
        cases outcome with
        | error denial => cases checked
        | ok parsed =>
          obtain ⟨members, keys, rfl, taken, vouches⟩ := vouchesFor_of_verifyWithKeySet verified
          obtain ⟨algorithm, accepted, key, selected, signed⟩ := vouches.accepted.signed
          exact .ownKey registered (hasKeySet_of_keySet isKeySet)
            (Assertion.Key.isIn_of_ofSet taken (Assertion.Key.select_mem selected)) accepted
            vouches.accepted.read signed vouches.claims
      | sharedBearer =>
        obtain rfl : true = isBearer := scheme
        rw [Inquiry.eval_bind, Inquiry.eval_ofExcept] at checked
        obtain ⟨outcome, verified, checked⟩ := bind_eq_ok.mp checked
        cases outcome with
        | error denial => cases checked
        | ok parsed =>
          obtain ⟨nonempty, shared, isShared, vouches⟩ := vouchesFor_of_verifyWithSecret verified
          obtain ⟨algorithm, accepted, key, isKey, signed⟩ := vouches.accepted.signed
          exact .sharedKey registered nonempty ⟨shared, isShared, isKey⟩ accepted
            vouches.accepted.read signed vouches.claims
      | secretBasic =>
        obtain rfl : false = isBearer := scheme
        rw [Inquiry.eval_ofExcept] at checked
        obtain ⟨nonempty, stored, held, verified⟩ := right_of_verifySecret checked
        exact .secret registered nonempty held verified

/-- A client whose row is found is what the check of the credential makes of it. -/
theorem eval_direct_of_found {occasion : Occasion} {client : ClientRow} {clientId : String}
    {isBearer : Bool} {value : String} {outcome : Except Denial Unit}
    (answers : surroundings.database.failure? .clients = none)
    (found : surroundings.database.client? clientId = some client)
    (checked : (check occasion client isBearer value).eval surroundings.reply = .ok outcome) :
    (direct occasion clientId isBearer value).eval surroundings.reply =
      .ok (outcome.map fun _ => .direct client.clientId (.ofList [clientRole])) := by
  have registered : surroundings.reply (.registration clientId) = .ok (some client) :=
    Database.answer_eq_ok_iff.mpr ⟨answers, found⟩
  rw [direct, Inquiry.eval_bind, Procedure.eval_ask, registered, ok_bind]
  simp only [Inquiry.eval_bind, checked, ok_bind]
  cases outcome with
  | error denial => rfl
  | ok _ => rfl

/-- A direct requester is the client whose row is found, after its credential has passed the check,
in the role of a client. -/
theorem check_of_direct {occasion : Occasion} {clientId : String} {isBearer : Bool}
    {value : String} {requester : Requester}
    (authenticated : (direct occasion clientId isBearer value).eval surroundings.reply =
      .ok (.ok requester)) :
    ∃ client, surroundings.database.client? clientId = some client ∧
      requester = .direct clientId (.ofList [clientRole]) ∧
      (check occasion client isBearer value).eval surroundings.reply = .ok (.ok ()) := by
  unfold direct at authenticated
  rw [Inquiry.eval_bind, Procedure.eval_ask] at authenticated
  obtain ⟨registration, registered, authenticated⟩ := bind_eq_ok.mp authenticated
  cases registration with
  | none => cases authenticated
  | some client =>
    have found : surroundings.database.client? clientId = some client :=
      Database.answer_eq_ok registered
    have isClient : client.clientId = clientId := by simpa using List.find?_some found
    rw [Inquiry.eval_bind] at authenticated
    obtain ⟨outcome, checked, authenticated⟩ := bind_eq_ok.mp authenticated
    cases outcome with
    | error denial => cases authenticated
    | ok _ =>
      rw [Inquiry.eval_pure, isClient] at authenticated
      obtain rfl := Except.ok.inj (Except.ok.inj authenticated)
      exact ⟨client, found, rfl, checked⟩

/-- A direct requester is a registered client for which the credential is right. -/
theorem isRight_of_direct {occasion : Occasion} {clientId : String} {isBearer : Bool}
    {value : String} {requester : Requester}
    (authenticated : (direct occasion clientId isBearer value).eval surroundings.reply =
      .ok (.ok requester)) :
    ∃ client ∈ surroundings.database.clients, client.clientId = clientId ∧
      requester = .direct clientId (.ofList [clientRole]) ∧
      IsRight surroundings.fetch occasion client isBearer value := by
  obtain ⟨client, found, same, checked⟩ := check_of_direct authenticated
  exact ⟨client, List.mem_of_find?_eq_some found, by simpa using List.find?_some found, same,
    isRight_of_check checked⟩

/-- A credential that is a live access token makes a delegated requester, and any other one makes
none. -/
theorem delegatedRequester_eq_ok {database : Database} {now : Moment} {value : String}
    {found : Option Requester}
    (looked : (Decision.delegatedRequester value).eval (database.reply now) = .ok found) :
    (∃ clientId scopes, found = some (.delegated clientId scopes)) ∨
      found = none ∧ ∀ row ∈ database.accessTokens, row.token = value ->
        Moment.isAfter row.expiresAt now = false := by
  unfold Decision.delegatedRequester Decision.lookup at looked
  rw [Inquiry.eval_bind, Inquiry.eval_question] at looked
  obtain ⟨token, answered, looked⟩ := bind_eq_ok.mp looked
  cases token with
  | some token =>
    left
    exact ⟨_, _, (Except.ok.inj looked).symm⟩
  | none =>
    right
    refine ⟨(Except.ok.inj looked).symm, ?_⟩
    obtain ⟨row, queried, absent⟩ := bind_eq_ok.mp answered
    cases row with
    | some row =>
      rw [Option.mapM_some] at absent
      obtain ⟨record, _, absent⟩ := bind_eq_ok.mp absent
      cases absent
    | none =>
      intro row member isValue
      have unfound := List.find?_eq_none.mp (Database.answer_eq_ok queried) row member
      simpa [isValue] using unfound

/-- Soundness of authentication, for every database, time and answer of a server. Who is taken for
a client has the role of a client and no other, and has presented a credential for it that is right
by what is registered in a row of this client. -/
theorem authenticate_sound {occasion : Occasion} {credentials : Credentials} {clientId : String}
    {authorities : ScopeSet}
    (authenticated : (Session.run surroundings (authenticate occasion credentials) .empty).result =
      .ok (.ok (.direct clientId authorities))) :
    authorities = .ofList [clientRole] ∧
      ∃ client ∈ surroundings.database.clients, client.clientId = clientId ∧
        ∃ isBearer value,
          Presents surroundings.database surroundings.now credentials clientId isBearer value ∧
            IsRight surroundings.fetch occasion client isBearer value := by
  rw [Session.result_run] at authenticated
  unfold authenticate at authenticated
  split at authenticated
  · next value given =>
    rw [Inquiry.eval_bind, Procedure.eval_ofDecision] at authenticated
    obtain ⟨found, looked, authenticated⟩ := bind_eq_ok.mp authenticated
    rcases delegatedRequester_eq_ok looked with ⟨owner, scopes, rfl⟩ | ⟨rfl, noToken⟩
    · cases authenticated
    · rw [Inquiry.eval_bind, Inquiry.eval_ofExcept] at authenticated
      obtain ⟨outcome, _, authenticated⟩ := bind_eq_ok.mp authenticated
      cases outcome with
      | error denial => cases authenticated
      | ok claims =>
        dsimp only at authenticated
        -- Which client the unchecked claims name makes no difference to what follows.
        generalize (if (claim claims "iss").isVoid = true then claim claims "sub"
          else claim claims "iss") = named at authenticated
        split at authenticated
        · cases authenticated
        · obtain ⟨client, member, isClient, same, right⟩ := isRight_of_direct authenticated
          obtain ⟨rfl, rfl⟩ := Requester.direct.inj same
          exact ⟨rfl, client, member, isClient, true, value, .bearer given noToken, right⟩
  · next noBearer =>
    split at authenticated
    · cases authenticated
    · next owner password given =>
      split at authenticated
      · cases authenticated
      · obtain ⟨client, member, isClient, same, right⟩ := isRight_of_direct authenticated
        obtain ⟨rfl, rfl⟩ := Requester.direct.inj same
        exact ⟨rfl, client, member, isClient, false, password, .basic noBearer given, right⟩

/-- A database with one client, which has a secret. -/
def secretDatabase : Database where
  clients := [⟨"shop", .string "Client_Secret_Basic", .null,
    .string "pbkdf2_sha256$1$c2FsdA$b0rYx47DZcBg5kjraU7kDepYSEsDcfvWFxWsRBC3OAo", .null, .null,
    .bool true, .null, .null⟩]
  accessTokens := []
  refreshTokens := []
  users := []
  outages := []

/-- The client is authenticated by its secret, and so it has proved to be the client. -/
theorem authenticate_sound_secret :
    let surroundings : Surroundings := ⟨secretDatabase, ⟨0, some 0⟩, fun _ => .unreachable, 900⟩
    let occasion : Occasion := ⟨"http://localhost/introspect", 0, .int 0, 900⟩
    let credentials : Credentials := ⟨none, some ("shop", "pw")⟩
    (Session.run surroundings (authenticate occasion credentials) .empty).result =
        .ok (.ok (.direct "shop" (.ofList [clientRole]))) ∧
      ∃ client ∈ secretDatabase.clients, client.clientId = "shop" ∧
        ∃ isBearer value,
          Presents secretDatabase ⟨0, some 0⟩ credentials "shop" isBearer value ∧
            IsRight (fun _ => .unreachable) occasion client isBearer value := by
  intro surroundings occasion credentials
  have authenticated :
      (Session.run surroundings (authenticate occasion credentials) .empty).result =
        .ok (.ok (.direct "shop" (.ofList [clientRole]))) := by
    decide +kernel
  exact ⟨authenticated, (authenticate_sound authenticated).2⟩

end Credential

end Introspection
