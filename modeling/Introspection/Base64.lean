/-!
# Base64

Writing bytes with either alphabet, and a forgiving reading of them. The reader skips what is not
in the alphabet, stops at the padding that completes a group, and refuses a text only when it
ends inside a group. Unused low bits of the last character are not looked at.
-/

namespace Introspection.Base64

/-- The sixty-two letters and digits that both alphabets share, by value. -/
def commonDigit (value : Nat) : UInt8 :=
  if value < 26 then (65 + value).toUInt8
  else if value < 52 then (71 + value).toUInt8
  else (value - 4).toUInt8

/-- The alphabet of general use, which ends in `+` and `/`. -/
def standardDigit (value : Nat) : UInt8 :=
  if value < 62 then commonDigit value else if value = 62 then 43 else 47

/-- The alphabet for texts inside addresses, which ends in `-` and `_`. -/
def addressDigit (value : Nat) : UInt8 :=
  if value < 62 then commonDigit value else if value = 62 then 45 else 95

/-- The value of a character of the alphabet of general use. -/
def value? (byte : UInt8) : Option Nat :=
  let code := byte.toNat
  if 65 ≤ code ∧ code ≤ 90 then some (code - 65)
  else if 97 ≤ code ∧ code ≤ 122 then some (code - 71)
  else if 48 ≤ code ∧ code ≤ 57 then some (code + 4)
  else if code = 43 then some 62
  else if code = 47 then some 63
  else none

/-- The padding character `=`. -/
def padding : UInt8 := 61

/-- Three bytes in four characters, and a last group of one or two bytes in two or three. -/
def groups (digit : Nat -> UInt8) : List UInt8 -> List UInt8
  | [] => []
  | [a] => [digit (a.toNat / 4), digit (a.toNat % 4 * 16)]
  | [a, b] =>
    [digit (a.toNat / 4), digit (a.toNat % 4 * 16 + b.toNat / 16), digit (b.toNat % 16 * 4)]
  | a :: b :: c :: rest =>
    digit (a.toNat / 4) :: digit (a.toNat % 4 * 16 + b.toNat / 16) ::
      digit (b.toNat % 16 * 4 + c.toNat / 64) :: digit (c.toNat % 64) :: groups digit rest

/-- The text with as much padding as brings its length to a multiple of four. -/
def pad (text : List UInt8) : List UInt8 :=
  text ++ List.replicate ((4 - text.length % 4) % 4) padding

/-- The padded form in the alphabet of general use. -/
def encode (bytes : List UInt8) : List UInt8 := pad (groups standardDigit bytes)

/-- The form without padding in the alphabet for addresses. -/
def encodeAddress (bytes : List UInt8) : List UInt8 := groups addressDigit bytes

/-- How far the reading has come: the place in the group, the bits of it that are not yet in a
byte, the padding seen since the last character of the alphabet, the bytes read (last first) and
whether the padding has ended the text. -/
structure Reader where
  place : Nat
  bits : Nat
  pads : Nat
  bytes : List UInt8
  done : Bool

/-- Nothing read yet. -/
def Reader.empty : Reader := ⟨0, 0, 0, [], false⟩

/-- Read a character of the alphabet. -/
def Reader.push (reader : Reader) (value : Nat) : Reader :=
  match reader.place with
  | 0 => { reader with place := 1, bits := value, pads := 0 }
  | 1 => { reader with
      place := 2, bits := value % 16, pads := 0,
      bytes := (reader.bits * 4 + value / 16).toUInt8 :: reader.bytes }
  | 2 => { reader with
      place := 3, bits := value % 4, pads := 0,
      bytes := (reader.bits * 16 + value / 4).toUInt8 :: reader.bytes }
  | _ => { reader with
      place := 0, bits := 0, pads := 0,
      bytes := (reader.bits * 64 + value).toUInt8 :: reader.bytes }

/-- Read any character. -/
def Reader.step (reader : Reader) (byte : UInt8) : Reader :=
  if reader.done then reader
  else if byte = padding then
    if 2 ≤ reader.place then
      if 4 ≤ reader.place + (reader.pads + 1) then
        { reader with pads := reader.pads + 1, done := true }
      else { reader with pads := reader.pads + 1 }
    else reader
  else match value? byte with
    | some value => reader.push value
    | none => reader

/-- The bytes of a text in the alphabet of general use. -/
def decode? (text : List UInt8) : Option (List UInt8) :=
  let reader := text.foldl Reader.step Reader.empty
  if reader.done ∨ reader.place = 0 then some reader.bytes.reverse else none

/-- The character of the alphabet of general use for one of the alphabet for addresses. -/
def ofAddressDigit (byte : UInt8) : UInt8 :=
  if byte = 45 then 43 else if byte = 95 then 47 else byte

/-- The bytes of a text in the alphabet for addresses; its padding may be left out. -/
def decodeAddress? (text : List UInt8) : Option (List UInt8) :=
  decode? ((pad text).map ofAddressDigit)

end Introspection.Base64
