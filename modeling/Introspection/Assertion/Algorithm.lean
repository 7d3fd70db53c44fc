import Introspection.Assertion.Key

/-!
# Signature algorithms of assertions

The algorithms by name, in the two groups that are accepted: with a key of a key set, and with a
shared secret. A key of another family than the algorithm's is not looked for; to meet one is a
failure.
-/

namespace Introspection.Assertion

/-- An algorithm. -/
inductive Algorithm
  | keyed (digest : Crypto.Digest)
  | rsa (digest : Crypto.Digest)
  | rsaSalted
  | elliptic (curve : Crypto.Curve)
  | edwards
  deriving DecidableEq, Repr

namespace Algorithm

/-- The name of an algorithm. -/
def name : Algorithm -> String
  | .keyed .sha256 => "HS256"
  | .keyed .sha384 => "HS384"
  | .keyed .sha512 => "HS512"
  | .rsa .sha256 => "RS256"
  | .rsa .sha384 => "RS384"
  | .rsa .sha512 => "RS512"
  | .rsaSalted => "PS256"
  | .elliptic .p256 => "ES256"
  | .elliptic .p384 => "ES384"
  | .edwards => "EdDSA"

/-- The algorithms with a public key. -/
def publicKey : List Algorithm :=
  [.rsa .sha256, .rsa .sha384, .rsa .sha512, .rsaSalted, .elliptic .p256, .elliptic .p384, .edwards]

/-- The algorithms with a shared secret. -/
def sharedSecret : List Algorithm := [.keyed .sha256, .keyed .sha384, .keyed .sha512]

/-- The family of the keys of an algorithm. -/
def family : Algorithm -> Family
  | .keyed _ => .shared
  | .rsa _ => .rsa
  | .rsaSalted => .rsa
  | .elliptic _ => .elliptic
  | .edwards => .edwards

/-- The hash that goes with a curve. -/
def digestOf : Crypto.Curve -> Crypto.Digest
  | .p256 => .sha256
  | .p384 => .sha384

/-- The algorithm that a header names, if it is one of those accepted. -/
def choose (accepted : List Algorithm) (named : Option Json) : Except Fault Algorithm :=
  match named with
  | some (.string text) => match accepted.find? (·.name == text) with
    | some algorithm => .ok algorithm
    | none => .error .unusable
  | some (.list _) => .error (.failed .wrongType)
  | some (.object _) => .error (.failed .wrongType)
  | _ => .error .unusable

/-- Whether a signature of a message is right under a key. -/
def verify (algorithm : Algorithm) (key : Key) (message signature : List UInt8) :
    Except Fault Bool := do
  if key.family ≠ algorithm.family then throw (.failed .unknownName)
  match algorithm with
  | .keyed digest =>
    key.checkUse
    return digest.hmac (<- key.shared) message == signature
  | .rsa digest =>
    key.checkUse
    return Crypto.Rsa.verifyDeterministic (<- key.rsa) digest message signature
  | .rsaSalted =>
    key.checkUse
    return Crypto.Rsa.verifySalted (<- key.rsa) .sha256 message signature
  | .elliptic curve =>
    if (key.get "crv").string? != some curve.name then throw .unusable
    let point <- key.point curve
    if signature.length ≠ 2 * curve.size then return false
    key.checkUse
    return curve.verify point (digestOf curve) message (Bytes.toNat (signature.take curve.size))
      (Bytes.toNat (signature.drop curve.size))
  | .edwards =>
    key.checkUse
    return Crypto.Edwards.verify (<- key.edwards) message signature

end Algorithm

end Introspection.Assertion
