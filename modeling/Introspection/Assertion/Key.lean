import Introspection.Base64
import Introspection.Crypto.Curve
import Introspection.Crypto.Edwards
import Introspection.Crypto.RsaPair
import Introspection.Failure
import Introspection.Json.Printer
import Introspection.Text.Utf8

/-!
# Keys of assertions

JSON objects as keys, and sets of them. Every key of a set is looked at when the set is taken in,
but only for its type and for the fields that the type needs; what the fields hold counts when the
key is used. An RSA key that is private and does not tell its primes is the exception: they are
recovered at once.

A private key stands for the public one that belongs to it.

A key that cannot be used is a defect of the assertion. Some values lead to a failure instead,
where a type or a name is relied on that is not there.
-/

namespace Introspection.Assertion

/-- Why a key, or an assertion, does not do. -/
inductive Fault
  /-- It is not of the required form, or does not fit. -/
  | unusable
  /-- It has brought the check itself to fail. -/
  | failed (failure : Failure)
  deriving DecidableEq, Repr

/-- The families of keys. -/
inductive Family
  | rsa
  | elliptic
  | edwards
  | shared
  deriving DecidableEq, Repr

namespace Family

/-- Every family. -/
def all : List Family := [.rsa, .elliptic, .edwards, .shared]

/-- The type that names a family. -/
def name : Family -> String
  | .rsa => "RSA"
  | .elliptic => "EC"
  | .edwards => "OKP"
  | .shared => "oct"

/-- The fields that a key has to have. -/
def requiredFields : Family -> List String
  | .rsa => ["n", "e"]
  | .elliptic => ["crv", "x", "y"]
  | .edwards => ["crv", "x"]
  | .shared => ["k"]

end Family

/-- The fields of a JSON object. -/
abbrev Members : Type := List (String × Json)

/-- A key that has been taken in. -/
inductive Key
  /-- A key in JSON, by its fields. -/
  | described (family : Family) (members : Members)
  /-- A shared secret itself. -/
  | secret (bytes : List UInt8)

/-- The family of a key. -/
def Key.family : Key -> Family
  | .described family _ => family
  | .secret _ => .shared

/-- The field of a key, `null` when it is absent. -/
def Key.get (key : Key) (name : String) : Json :=
  match key with
  | .described _ members => (Json.member? name members).getD .null
  | .secret _ => .null

/-- Whether a key has a field at all, be it `null`. -/
def Key.has (key : Key) (name : String) : Bool :=
  match key with
  | .described _ members => (Json.member? name members).isSome
  | .secret _ => false

namespace Key

/-- A byte given as a number. -/
def byte : Json -> Except Fault UInt8
  | .int number => if 0 ≤ number ∧ number < 256 then .ok number.toNat.toUInt8 else .error .unusable
  | .bool value => .ok value.toNat.toUInt8
  | _ => .error (.failed .wrongType)

/-- The bytes that a value of a field has before base64 is undone. -/
def rawBytes (encode : String -> Option (List UInt8)) (value : Json) : Except Fault (List UInt8) :=
  let encoded (text : String) : Except Fault (List UInt8) :=
    match encode text with
    | some bytes => .ok bytes
    | none => .error .unusable
  match value with
  | .string text => encoded text
  | .int number => encoded (Text.decimal number)
  | .double number => encoded number.text
  | .bool value => encoded (Json.bool value).display
  | .list items => items.mapM byte
  | .object members => if members.isEmpty then .ok [] else .error (.failed .wrongType)
  | .null => .error (.failed .wrongType)

/-- The bytes of a field. -/
def bytes (encode : String -> Option (List UInt8)) (value : Json) : Except Fault (List UInt8) := do
  match Base64.decodeAddress? (<- rawBytes encode value) with
  | some bytes => .ok bytes
  | none => .error .unusable

/-- The number of a field. -/
def number (key : Key) (name : String) : Except Fault Nat := do
  let bytes <- bytes Text.Ascii.encode? (key.get name)
  if bytes.isEmpty then .error .unusable else .ok (Bytes.toNat bytes)

/-- The fields in which a private RSA key tells its parts. -/
def partFields : List String := ["p", "q", "dp", "dq", "qi"]

/-- The numbers of an RSA key that are public. -/
def publicRsa (key : Key) : Except Fault Crypto.Rsa.Key := do
  let exponent <- key.number "e"
  let modulus <- key.number "n"
  return ⟨modulus, exponent⟩

/-- The public numbers of a private RSA key that tells its parts, checked against these. -/
def privateRsa (key : Key) : Except Fault Crypto.Rsa.Key := do
  if key.has "oth" then throw .unusable
  let numbers <- key.publicRsa
  let secret <- key.number "d"
  let parts : Crypto.Rsa.Parts := {
    first := <- key.number "p"
    second := <- key.number "q"
    firstExponent := <- key.number "dp"
    secondExponent := <- key.number "dq"
    coefficient := <- key.number "qi" }
  if parts.belong numbers secret then return numbers else throw .unusable

/-- Take in an RSA key. Of the parts of a private one, all have to be told or none. -/
def takeRsa (key : Key) : Except Fault Key :=
  if !key.has "d" || partFields.all key.has then .ok key
  else if partFields.any key.has || key.has "oth" then .error .unusable
  else do
    let numbers <- key.publicRsa
    if Crypto.Rsa.isSecret numbers (<- key.number "d") then return key else throw .unusable

/-- The family that a type names. -/
def family? : Json -> Except Fault Family
  | .string name => match Family.all.find? (·.name == name) with
    | some family => .ok family
    | none => .error (.failed .unknownName)
  | .list _ => .error (.failed .wrongType)
  | .object _ => .error (.failed .wrongType)
  | _ => .error (.failed .unknownName)

/-- Take in a key of a family, if it has the fields that it needs. -/
def ofMembers (family : Family) (members : Members) : Except Fault Key :=
  let key : Key := .described family members
  if !family.requiredFields.all key.has then .error .unusable
  else match family with
    | .rsa => key.takeRsa
    | _ => .ok key

/-- Take in a key. An empty object, a text, a number and a list of bytes are no keys; an object
without a type, `null` and other lists are mistaken for another kind of value. -/
def ofJson : Json -> Except Fault Key
  | .object members => match (Json.member? "kty" members).getD .null with
    | .null => if members.isEmpty then .error .unusable else .error (.failed .wrongType)
    | type => do ofMembers (<- family? type) members
  | .null => .error (.failed .wrongType)
  | .list items => do
    let _ <- items.mapM byte
    throw .unusable
  | _ => .error .unusable

/-- Take in all keys of a set, given as its fields. -/
def ofSet (members : Members) : Except Fault (List Key) :=
  match (Json.member? "keys" members).getD .null with
  | .list items => items.mapM ofJson
  | .object fields => fields.mapM (fun field => ofJson (.string field.1))
  | .string text => text.toList.mapM (fun c => ofJson (.string (String.ofList [c])))
  | _ => .error (.failed .wrongType)

/-- The key of a set that an assertion names: the first one of the same identifier, or the only
one when the assertion names none. -/
def select (keys : List Key) (identifier : Json) : Except Fault Key :=
  match keys, identifier with
  | [key], .null => .ok key
  | keys, identifier =>
    match keys.find? (fun key => (key.get "kid").same identifier) with
    | some key => .ok key
    | none => .error .unusable

/-- Whether a list of permitted operations has an operation in it. -/
def permits (operations : Json) (operation : String) : Except Fault Bool :=
  match operations with
  | .null => .ok true
  | .list items => .ok (items.any (fun item => item.string? == some operation))
  | .object members => .ok (members.any (fun member => member.1 == operation))
  | .string text => .ok (Bytes.occursIn operation.toList text.toList)
  | _ => .error (.failed .wrongType)

/-- Check that a key may verify signatures: its operations first, its use after them. -/
def checkUse (key : Key) : Except Fault Unit := do
  if !(<- permits (key.get "key_ops") "verify") then throw .unusable
  let use := key.get "use"
  if !use.isVoid && use.string? != some "sig" then throw .unusable

/-- The public numbers of an RSA key. -/
def rsa (key : Key) : Except Fault Crypto.Rsa.Key := do
  if key.has "d" && partFields.all key.has then key.privateRsa
  else
    let numbers <- key.publicRsa
    if numbers.isUsable then return numbers else throw .unusable

/-- The point of a key on a curve. Of a private key, it has to be the point of its number. -/
def point (key : Key) (curve : Crypto.Curve) : Except Fault (Nat × Nat) := do
  let x <- key.number "x"
  let y <- key.number "y"
  let secret <- if key.has "d" then some <$> key.number "d" else pure none
  match curve.point? x y with
  | none => throw .unusable
  | some point =>
    if secret.all (fun secret => curve.publicPoint secret = some point) then return point
    else throw .unusable

/-- The encoded point of a key on the Edwards curve, found from the private key where that is
given. Of the other curves of this family, two are for key agreement alone and have no signatures,
and one is not checked. -/
def edwards (key : Key) : Except Fault (List UInt8) := do
  let size <- match key.get "crv" with
    | .string "Ed25519" => .ok 32
    | .string "Ed448" => .ok 57
    | .string "X25519" => .ok 32
    | .string "X448" => .ok 56
    | .list _ => .error (.failed .wrongType)
    | .object _ => .error (.failed .wrongType)
    | _ => .error (.failed .unknownName)
  let isPrivate := key.has "d"
  let bytes <- bytes (fun text => some (Text.utf8 text)) (key.get (if isPrivate then "d" else "x"))
  if bytes.length ≠ size then .error .unusable
  else match (key.get "crv").string? with
    | some "Ed25519" => .ok (if isPrivate then Crypto.Edwards.publicKey bytes else bytes)
    | some "Ed448" => .error .unusable
    | _ => .error (.failed .unsupportedKey)

/-- What the texts of public keys begin with. -/
def publicKeyMarks : List String :=
  ["-----BEGIN ", "---- BEGIN ", "ssh-rsa ", "ssh-dss ", "ssh-ed25519 ", "ecdsa-sha2-"]

/-- Whether bytes will do as a shared key: there are some, and they do not look like the text of a
public key. -/
def isSecret (bytes : List UInt8) : Bool :=
  !bytes.isEmpty && !publicKeyMarks.any fun mark => Bytes.occursIn (Text.utf8 mark) bytes

/-- The bytes of a shared key. -/
def shared (key : Key) : Except Fault (List UInt8) := do
  let bytes <- match key with
    | .secret bytes => pure bytes
    | .described _ _ => bytes (fun text => some (Text.utf8 text)) (key.get "k")
  if isSecret bytes then return bytes else throw .unusable

end Key

end Introspection.Assertion
