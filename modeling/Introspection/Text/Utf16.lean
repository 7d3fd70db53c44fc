import Introspection.Bytes

/-!
# Wider encodings of text

Texts in units of two bytes (UTF-16) and of four (UTF-32), in either order of the bytes. Half of a
pair of units that has lost the other half is read as U+FFFD, or refused by a strict reading.
-/

namespace Introspection.Text

/-- Which byte of a unit comes first. -/
inductive ByteOrder
  | greatFirst
  | smallFirst
  deriving DecidableEq, Repr

/-- The number that a unit spells. -/
def ByteOrder.unit (order : ByteOrder) (bytes : List UInt8) : Nat :=
  match order with
  | .greatFirst => Bytes.toNat bytes
  | .smallFirst => Bytes.toNatReversed bytes

/-- The units of two bytes; there have to be whole ones. -/
def units16? (order : ByteOrder) : List UInt8 -> Option (List Nat)
  | [] => some []
  | [_] => none
  | a :: b :: rest => (units16? order rest).map (order.unit [a, b] :: ·)

/-- The units of four bytes; there have to be whole ones. -/
def units32? (order : ByteOrder) : List UInt8 -> Option (List Nat)
  | [] => some []
  | a :: b :: c :: d :: rest => (units32? order rest).map (order.unit [a, b, c, d] :: ·)
  | _ => none

/-- The character of a code point, U+FFFD for half of a pair. -/
def ofCode (code : Nat) : Char := if code.isValidChar then Char.ofNat code else '\uFFFD'

/-- The characters of units of two bytes, of which two from the ranges of halves make one. -/
def pairUnits : List Nat -> List Char
  | high :: low :: rest =>
    if 0xD800 ≤ high ∧ high < 0xDC00 ∧ 0xDC00 ≤ low ∧ low < 0xE000 then
      ofCode (0x10000 + (high - 0xD800) * 0x400 + (low - 0xDC00)) :: pairUnits rest
    else ofCode high :: pairUnits (low :: rest)
  | units => units.map ofCode

/-- The character of a code point, none for half of a pair. -/
def charOfCode? (code : Nat) : Option Char :=
  if code.isValidChar then some (Char.ofNat code) else none

/-- The characters of units of two bytes of which no half of a pair stands alone. -/
def pairedUnits? : List Nat -> Option (List Char)
  | high :: low :: rest => do
    if 0xD800 ≤ high ∧ high < 0xDC00 ∧ 0xDC00 ≤ low ∧ low < 0xE000 then
      return (<- charOfCode? (0x10000 + (high - 0xD800) * 0x400 + (low - 0xDC00))) ::
        (<- pairedUnits? rest)
    else return (<- charOfCode? high) :: (<- pairedUnits? (low :: rest))
  | units => units.mapM charOfCode?

/-- Read a text in UTF-16. -/
def decodeUtf16? (order : ByteOrder) (bytes : List UInt8) : Option (List Char) :=
  (units16? order bytes).map pairUnits

/-- Read a text in UTF-32; no unit is above the last code point. -/
def decodeUtf32? (order : ByteOrder) (bytes : List UInt8) : Option (List Char) := do
  let units <- units32? order bytes
  if units.all (· < 0x110000) then some (units.map ofCode) else none

end Introspection.Text
