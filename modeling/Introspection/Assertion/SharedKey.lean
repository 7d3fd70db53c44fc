import Introspection.Assertion

/-!
# Shared secrets as keys

A client secret is a key by its bytes. A secret in braces is a key, or a set of keys, in JSON, and
so is one that is stored as an object; one stored as a list is a set of keys. This much is settled
before an assertion is looked at; which key of a set is meant is told by the assertion.
-/

namespace Introspection.Assertion

/-- A client secret, read. -/
inductive SharedKey
  /-- The secret itself. -/
  | secret (bytes : List UInt8)
  /-- A key, or a set of keys, by its fields. -/
  | described (members : Members)

namespace SharedKey

/-- The UTF-8 form of a text, which every text has. -/
def encode (text : String) : Option (List UInt8) := some (Text.utf8 text)

/-- Read a client secret. -/
def ofSecret (depth : Nat) : Json -> Except Fault SharedKey
  | .object members => .ok (.described members)
  | .list items => .ok (.described [("keys", .list items)])
  | .string text =>
    let characters := text.toList
    if characters.head? = some '\x7b' ∧ characters.getLast? = some '\x7d' then
      match Json.read depth characters with
      | .ok (.object members) => .ok (.described members)
      | .ok _ => .error .unusable
      | .error flaw => .error (faultOf flaw)
    else .ok (.secret (Text.utf8 text))
  | value => do return .secret (<- Key.rawBytes encode value)

/-- The key that a value of a set stands for. -/
def ofJson : Json -> Except Fault Key
  | .object members => Key.ofMembers .shared members
  | value => do return .secret (<- Key.rawBytes encode value)

/-- The first key of the given identifier. All before it have to be objects. -/
def find (identifier : Json) : List Json -> Except Fault Key
  | [] => .error .unusable
  | .object members :: rest =>
    if ((Json.member? "kid" members).getD .null).same identifier then
      Key.ofMembers .shared members
    else find identifier rest
  | _ :: _ => .error (.failed .unsupportedKey)

/-- The items that a set goes through. -/
def items : Json -> Except Fault (List Json)
  | .list items => .ok items
  | .object members => .ok (members.map fun member => .string member.1)
  | .string text => .ok (text.toList.map fun c => .string (String.ofList [c]))
  | _ => .error (.failed .wrongType)

/-- The key of a set that an assertion names, or the only one. The only member of an object has no
place in it by which it could be found. -/
def select (keys identifier : Json) : Except Fault Key := do
  let items <- items keys
  match identifier, items with
  | .null, [key] => if keys matches .object _ then throw (.failed .unknownName) else ofJson key
  | .null, _ => throw .unusable
  | identifier, items => find identifier items

/-- The key that a secret is for an assertion with the given header. -/
def keyFor (key : SharedKey) (header : Members) : Except Fault Key :=
  match key with
  | .secret bytes => .ok (.secret bytes)
  | .described members => match Json.member? "keys" members with
    | some keys => select keys (keyIdentifier header)
    | none => Key.ofMembers .shared members

end SharedKey

end Introspection.Assertion
