import Introspection.Assertion.Algorithm
import Introspection.Json.Reader

/-!
# Assertions

Signed statements by which a client names itself: a header, claims and a signature in base64 with
dots between them. They are read in two ways. Before it is known whose key to use, a part is read
on its own from the text; when the signature is checked, the whole is taken apart anew as bytes.
In both ways a part that is malformed makes the assertion unusable, and one in which lists and
objects stand in one another too deeply is a failure.

A checked assertion has a signature that is right, and claims whose times fit the present.
-/

namespace Introspection.Assertion

/-- The fault of an assertion with a part that is not read. -/
def faultOf : Json.Flaw -> Fault
  | .malformed => .unusable
  | .tooDeep => .failed .tooDeep

/-- The bytes of a part, if they can be had from it. -/
def orUnusable {α : Type} (found : Option α) : Except Fault α := found.elim (.error .unusable) .ok

/-- Read a header or claims: base64 of the UTF-8 text of a JSON object. -/
def readPart (depth : Nat) (part : List UInt8) : Except Fault Members := do
  let bytes <- orUnusable (Base64.decodeAddress? part)
  let text <- orUnusable (Text.Utf8.decode? bytes)
  match <- (Json.read depth text.toList).mapError faultOf with
  | .object members => return members
  | _ => throw .unusable

/-- A part of an assertion by its place, read without a look at the signature. -/
def unverifiedPart (depth : Nat) (assertion : String) (place : Nat) : Except Fault Members := do
  let part <- orUnusable (assertion.toList.splitOn '.')[place]?
  readPart depth (Text.utf8 (String.ofList part))

/-- The header, read without a look at the signature. -/
def unverifiedHeader (depth : Nat) (assertion : String) : Except Fault Members :=
  unverifiedPart depth assertion 0

/-- The claims, read without a look at the signature. -/
def unverifiedClaims (depth : Nat) (assertion : String) : Except Fault Members :=
  unverifiedPart depth assertion 1

/-- No assertion longer than this is read, in bytes. -/
def sizeLimit : Nat := 256000

/-- The dot. -/
def dot : UInt8 := 46

/-- An assertion taken apart, with the bytes that the signature is over. -/
structure Parsed where
  header : Members
  claims : Members
  signed : List UInt8
  signature : List UInt8

/-- The names that a header may list as critical. -/
def criticalNames : List String :=
  ["alg", "jku", "jwk", "kid", "x5u", "x5c", "x5t", "x5t#S256", "typ", "cty", "crit"]

/-- Whether everything that a header lists as critical is known and present. -/
def criticalHeadersHold (header : Members) : Bool :=
  match Json.member? "crit" header with
  | none => true
  | some (.list names) => names.all fun name => match name with
    | .string name => name ∈ criticalNames && (Json.member? name header).isSome
    | _ => false
  | some _ => false

/-- Take the bytes of an assertion apart: the signature is what follows the last dot, the header
what comes before the first. -/
def parse (depth : Nat) (bytes : List UInt8) : Except Fault Parsed := do
  if sizeLimit < bytes.length then throw .unusable
  let signature := (bytes.reverse.takeWhile (· != dot)).reverse
  let signed := bytes.take (bytes.length - signature.length - 1)
  let header <- readPart depth (signed.takeWhile (· != dot))
  if !criticalHeadersHold header then throw .unusable
  let claims <- readPart depth ((signed.dropWhile (· != dot)).drop 1)
  let signature <- orUnusable (Base64.decodeAddress? signature)
  return ⟨header, claims, signed, signature⟩

/-- The time that comes some leeway after another, a leeway with a fraction being added in binary
floating point. -/
def later (time : Int) : (leeway : Json) -> Except Fault Json.Number
  | .int leeway => .ok (.int (time + leeway))
  | .bool leeway => .ok (.int (time + leeway.toNat))
  | .double leeway => .ok (.double ((Double.ofInt time).add leeway))
  | _ => .error (.failed .wrongType)

/-- The time that comes some leeway before another. -/
def earlier (time : Int) : (leeway : Json) -> Except Fault Json.Number
  | .int leeway => .ok (.int (time - leeway))
  | .bool leeway => .ok (.int (time - leeway.toNat))
  | .double leeway => .ok (.double ((Double.ofInt time).add leeway.negate))
  | _ => .error (.failed .wrongType)

/-- Check a claim that has to be a number, if it is there, and that must not compare in the given
way with a bound. The bound is asked for only when there is such a number. -/
def checkTime (claims : Members) (name : String) (refused : Ordering)
    (bound : Except Fault Json.Number) : Except Fault Unit :=
  let checkNumber (value : Json.Number) : Except Fault Unit := do
    if value.compare? (<- bound) == some refused then throw .unusable
  match Json.member? name claims with
  | none => .ok ()
  | some (.int value) => checkNumber (.int value)
  | some (.double value) => checkNumber (.double value)
  | some _ => .error .unusable

/-- Check that the times that claims name fit the present, give or take the leeway. -/
def checkTimes (now : Int) (leeway : Json) (claims : Members) : Except Fault Unit := do
  checkTime claims "exp" .lt (earlier now leeway)
  checkTime claims "nbf" .gt (later now leeway)
  checkTime claims "iat" .gt (later now leeway)

/-- What is wrong with an encrypted assertion, which has five parts: no algorithm that is accepted
encrypts, but a list or an object in the place of its name cannot even be looked up. -/
def faultOfEncrypted (depth : Nat) (bytes : List UInt8) : Fault :=
  match bytes.splitOn dot with
  | header :: parts =>
    if sizeLimit < bytes.length then .unusable
    else match readPart depth header with
      | .error fault => fault
      | .ok members =>
        if parts.all fun part => (Base64.decodeAddress? part).isSome then
          match Json.member? "alg" members with
          | some (.list _) => .failed .wrongType
          | some (.object _) => .failed .wrongType
          | _ => .unusable
        else .unusable
  | [] => .unusable

/-- The assertion, when its signature is right under the key that `keyFor` gives for its header
and its times fit. -/
def check (accepted : List Algorithm) (keyFor : Members -> Except Fault Key) (depth : Nat)
    (now : Int) (leeway : Json) (assertion : String) : Except Fault Parsed := do
  let bytes := Text.utf8 assertion
  match bytes.count dot with
  | 2 =>
    let parsed <- parse depth bytes
    let algorithm <- Algorithm.choose accepted (Json.member? "alg" parsed.header)
    let key <- keyFor parsed.header
    if !(<- algorithm.verify key parsed.signed parsed.signature) then throw .unusable
    checkTimes now leeway parsed.claims
    return parsed
  | 4 => throw (faultOfEncrypted depth bytes)
  | _ => throw .unusable

/-- The identifier of the key that a header names, `null` for none. -/
def keyIdentifier (header : Members) : Json := (Json.member? "kid" header).getD .null

end Introspection.Assertion
