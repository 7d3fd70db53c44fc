import Introspection.Proofs.Credential.Breakdown
import Introspection.Proofs.Database.Maps
import Introspection.Proofs.Http.BasicAccess
import Introspection.Proofs.Secret.RoundTrip
import Mathlib.Control.Monad.Basic

/-!
# Clients that authenticate by a secret

A client is never locked out that is registered for a basic credential and whose secret is stored as
new secrets are (`ClientRow.KeepsSecret`): the header with its id and its secret makes it the direct
requester (`authenticate_basic`), whoever else is registered, and whatever its secret looks like in
ASCII. The way leads from the header to the id and the secret in it, to the row of the client, and
through the checks of its registration to the stored secret.
-/

namespace Introspection

/-- A client is registered to authenticate by a secret, and the secret is stored as new ones are,
with some salt and a number of iterations that can be counted in 64 bits. -/
structure ClientRow.KeepsSecret (row : ClientRow) (secret : String) : Prop where
  registered : row.IsRegisteredFor .secretBasic
  stored : ∃ (count : Int) (salt fresh : List UInt8) (text : String),
    salt ≠ [] ∧ 1 ≤ count ∧ count < Secret.iterationLimit ∧
      Secret.create secret count (some salt) fresh = .ok text ∧ row.secret = .string text

/-- What is stored for a secret verifies it. -/
theorem ClientRow.KeepsSecret.verified {row : ClientRow} {secret : String}
    (keeps : row.KeepsSecret secret) :
    ∃ stored, row.secret = .string stored ∧ Secret.verify secret stored = .ok true := by
  obtain ⟨_, _, _, text, _, _, _, created, held⟩ := keeps.stored
  exact ⟨text, held, Secret.verify_create created⟩

namespace Credential

open Http

variable {surroundings : Surroundings} {occasion : Occasion} {client : ClientRow}
  {presented stored : String}

/-- A secret that verifies against the stored one is right, if it is not empty. -/
theorem verifySecret_of_verified (nonempty : presented ≠ "") (held : client.secret = .string stored)
    (verified : Secret.verify presented stored = .ok true) :
    verifySecret client presented = .ok (.ok ()) := by
  obtain ⟨_, spells, _⟩ := Secret.verify_eq_ok_true.mp verified
  have present : (Json.string stored).isVoid = false :=
    String.isEmpty_eq_false_iff.mpr spells.ne_empty
  have isGiven : presented.isEmpty = false := String.isEmpty_eq_false_iff.mpr nonempty
  simp only [verifySecret, held, present, isGiven, verified]
  rfl

/-- A client that is registered to authenticate by a secret passes the check with the right one in
the basic scheme. -/
theorem eval_check_of_verified (registered : client.IsRegisteredFor .secretBasic)
    (verified : verifySecret client presented = .ok (.ok ())) :
    (check occasion client false presented).eval surroundings.reply = .ok (.ok ()) := by
  simp only [check, ofJson?_eq_some.mpr registered, AuthMethod.isBearer, bne_self_eq_false,
    Bool.false_eq_true, if_false, Inquiry.eval_ofExcept, verified]

/-- A client whose row is found, and which passes the check, is the direct requester. -/
theorem eval_direct_of_check {isBearer : Bool} {value : String}
    (answers : surroundings.database.failure? .clients = none)
    (found : surroundings.database.client? client.clientId = some client)
    (checked : (check occasion client isBearer value).eval surroundings.reply = .ok (.ok ())) :
    (direct occasion client.clientId isBearer value).eval surroundings.reply =
      .ok (.ok (.direct client.clientId (.ofList [clientRole]))) :=
  eval_direct_of_found answers found checked

/-- Credentials without a bearer in them are checked for the client that they name, if they name
one. -/
theorem authenticate_of_basic {clientId secret : String} (named : clientId ≠ "") :
    authenticate occasion ⟨none, some (clientId, secret)⟩ =
      direct occasion clientId false secret := by
  have isNamed : clientId.isEmpty = false := String.isEmpty_eq_false_iff.mpr named
  simp only [authenticate, bearerValue?, Option.bind_none, isNamed, Bool.false_eq_true, if_false]

/-- No client is locked out that keeps a secret. Its id, without a colon, and its secret, both in
ASCII and not empty, are read from the header that they are written in, and make it the direct
requester, in the role of a client and with its id to mark the request. This holds on every
database with at most one row of a client id, while the table of clients answers. -/
theorem authenticate_basic {secret : String}
    (unique : (surroundings.database.clients.map (·.clientId)).Nodup)
    (answers : surroundings.database.failure? .clients = none)
    (member : client ∈ surroundings.database.clients) (keeps : client.KeepsSecret secret)
    (named : client.clientId ≠ "") (idAscii : Text.IsAscii client.clientId)
    (noColon : ':' ∉ client.clientId.toList) (nonempty : secret ≠ "")
    (ascii : Text.IsAscii secret) (occasion : Occasion) :
    ∃ credentials,
      Authorization.read? (some (Authorization.basicHeader client.clientId secret)) =
          some credentials ∧
        (Session.run surroundings (authenticate occasion credentials) .empty).result =
            .ok (.ok (.direct client.clientId (.ofList [clientRole]))) ∧
          mark (Session.run surroundings (authenticate occasion credentials) .empty).result =
            some client.clientId := by
  have found : surroundings.database.client? client.clientId = some client :=
    (Database.client?_eq_some unique).mpr ⟨member, rfl⟩
  obtain ⟨stored, held, verified⟩ := keeps.verified
  have checked : (check occasion client false secret).eval surroundings.reply = .ok (.ok ()) :=
    eval_check_of_verified keeps.registered (verifySecret_of_verified nonempty held verified)
  have authenticated : (Session.run surroundings
      (authenticate occasion ⟨none, some (client.clientId, secret)⟩) .empty).result =
        .ok (.ok (.direct client.clientId (.ofList [clientRole]))) := by
    rw [Session.result_run, authenticate_of_basic named]
    exact eval_direct_of_check answers found checked
  exact ⟨_, Authorization.read?_basicHeader idAscii noColon ascii, authenticated,
    congrArg mark authenticated⟩

/-- A client with a colon in its secret, and its method in another case. -/
def shop : ClientRow where
  clientId := "shop"
  authMethod := .string "Client_Secret_Basic"
  signingAlg := .null
  secret := .string "pbkdf2_sha256$1$c2FsdA$Zdk8gZ1-XU3AD5yTzZ0pZK04G4B0ks2Hw2bbCzWQzmA"
  keys := .null
  keysAddress := .null
  allowIntrospection := .bool true
  scope := .null
  authorities := .null

theorem keepsSecret_shop : shop.KeepsSecret "p:w" where
  registered := ⟨"Client_Secret_Basic", rfl, by decide +kernel⟩
  stored := ⟨1, [115, 97, 108, 116], [], _, by decide, by decide, by decide, by decide +kernel, rfl⟩

/-- A database in which the client is registered beside another one. -/
def shopSurroundings : Surroundings where
  database := ⟨[{ shop with clientId := "depot" }, shop], [], [], [], [(.users, .connection)]⟩
  now := ⟨1735689600, some 0⟩
  fetch _ := .unreachable
  depth := 900

/-- A request at that time. -/
def shopOccasion : Occasion := ⟨"http://testserver/introspect", 1735689600, .int 0, 900⟩

/-- The header of the client, and what is made of it. -/
theorem authenticate_basic_shop :
    ∃ credentials, Authorization.read? (some "Basic c2hvcDpwOnc=") = some credentials ∧
      (Session.run shopSurroundings (authenticate shopOccasion credentials) .empty).result =
          .ok (.ok (.direct "shop" (.ofList [clientRole]))) ∧
        mark (Session.run shopSurroundings (authenticate shopOccasion credentials)
          .empty).result = some "shop" := by
  have header : Authorization.basicHeader "shop" "p:w" = "Basic c2hvcDpwOnc=" := by
    decide +kernel
  have unique : (shopSurroundings.database.clients.map (·.clientId)).Nodup := by decide
  have member : shop ∈ shopSurroundings.database.clients := List.mem_cons_of_mem _ (.head _)
  rw [← header]
  exact authenticate_basic unique rfl member keepsSecret_shop (by decide) (by decide) (by decide)
    (by decide) (by decide) shopOccasion

end Credential

end Introspection
