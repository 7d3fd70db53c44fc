import Introspection.Base64
import Introspection.Crypto.KeyDerivation
import Introspection.Failure
import Introspection.Text.Integer
import Introspection.Text.Utf8

/-!
# Client secrets

A client secret is stored as a derived key with what is needed to derive it again:
`pbkdf2_sha256$iterations$salt$key`, salt and key in the base64 alphabet for addresses without
padding. A presented secret is right when it derives the stored key, at the stored key's length.
-/

namespace Introspection.Secret

/-- The name of the derivation, the first part of a stored secret. -/
def scheme : String := "pbkdf2_sha256"

/-- The number of iterations for new secrets. -/
def defaultIterations : Nat := 390000

/-- The length of the salt of new secrets, in bytes. -/
def saltLength : Nat := 16

/-- The length of the key of new secrets, in bytes. -/
def keyLength : Nat := 32

/-- A derivation is set up with a number of iterations in 64 bits. -/
def iterationLimit : Nat := Nat.pow 2 64

/-- When it is done, it counts them in 32 bits. -/
def counterLimit : Nat := Nat.pow 2 32

/-- One of the bits is the sign. -/
def signedLimit : Nat := Nat.pow 2 31

/-- The character between the parts of a stored secret. -/
def separator : Char := '$'

/-- The number of iterations that a derivation is set up with. -/
def iterations (count : Int) : Except Failure Nat :=
  if count < 0 ∨ (iterationLimit : Int) ≤ count then .error .outOfRange
  else if count = 0 then .error .noIterations
  else .ok count.toNat

/-- What a derivation counts of its iterations. -/
def counted (iterations : Nat) : Nat := iterations % counterLimit

/-- The key that a secret derives, where what is counted of the iterations is a positive number. -/
def derive (secret : String) (salt : List UInt8) (iterations length : Nat) :
    Except Failure (List UInt8) :=
  if counted iterations = 0 ∨ signedLimit ≤ counted iterations then .error .derivationRefused
  else .ok (Crypto.KeyDerivation.derive (Text.utf8 secret) salt (counted iterations) length)

/-- The characters of a text in ASCII. -/
def charsOf (bytes : List UInt8) : List Char := bytes.map (fun byte => Char.ofNat byte.toNat)

/-- The stored form of a derived key. -/
def storedForm (count : Int) (salt key : List UInt8) : String :=
  String.ofList (([separator] : List Char).intercalate
    [scheme.toList, (Text.decimal count).toList, charsOf (Base64.encodeAddress salt),
      charsOf (Base64.encodeAddress key)])

/-- The stored form of a secret. -/
def hash (secret : String) (count : Int) (salt : List UInt8) : Except Failure String := do
  let iterations <- iterations count
  let key <- derive secret salt iterations keyLength
  return storedForm count salt key

/-- The salt of a new secret: the one that is asked for, or a fresh one where that is missing or
empty. -/
def saltFor (asked : Option (List UInt8)) (fresh : List UInt8) : List UInt8 :=
  (asked.filter (fun salt => !salt.isEmpty)).getD fresh

/-- The stored form of a new secret. -/
def create (secret : String) (count : Int) (asked : Option (List UInt8)) (fresh : List UInt8) :
    Except Failure String :=
  hash secret count (saltFor asked fresh)

/-- A stored secret taken apart. -/
structure Stored where
  iterations : Int
  salt : List UInt8
  key : List UInt8
  deriving DecidableEq, Repr

/-- The parts of a text between separators. From the fourth part on it is not divided. -/
def parts (stored : List Char) : List (List Char) :=
  match stored.splitOn separator with
  | a :: b :: c :: rest@(_ :: _) => [a, b, c, ([separator] : List Char).intercalate rest]
  | pieces => pieces

/-- The bytes of a part in base64. -/
def bytes? (part : List Char) : Option (List UInt8) := do
  Base64.decodeAddress? (<- Text.Ascii.encode? (String.ofList part))

/-- Take a stored secret apart. -/
def read? (stored : String) : Option Stored :=
  match parts stored.toList with
  | [name, iterations, salt, key] => do
    if String.ofList name ≠ scheme then none
    let key <- bytes? key
    let salt <- bytes? salt
    let iterations <- Text.integer? iterations
    return ⟨iterations, salt, key⟩
  | _ => none

/-- Whether a presented secret is the stored one. A text that is no stored secret, or one without
iterations, verifies nothing; a number of iterations that the derivation cannot be set up with, or
refuses, is a failure. -/
def verify (secret stored : String) : Except Failure Bool :=
  match read? stored with
  | none => .ok false
  | some stored =>
    match iterations stored.iterations with
    | .error .noIterations => .ok false
    | .error failure => .error failure
    | .ok count => do
      let key <- derive secret stored.salt count stored.key.length
      return key == stored.key

end Introspection.Secret
