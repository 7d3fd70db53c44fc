/-!
# Hexadecimal

Bytes as two lower-case digits each.
-/

namespace Introspection.Hex

/-- The bytes in hexadecimal. -/
def encode (bytes : List UInt8) : String :=
  String.ofList (bytes.flatMap fun byte =>
    [Nat.digitChar (byte.toNat / 16), Nat.digitChar (byte.toNat % 16)])

/-- The value of a hexadecimal digit of either case. -/
def digit? (c : Char) : Option Nat :=
  if '0' ≤ c ∧ c ≤ '9' then some (c.toNat - '0'.toNat)
  else if 'a' ≤ c ∧ c ≤ 'f' then some (c.toNat - 'a'.toNat + 10)
  else if 'A' ≤ c ∧ c ≤ 'F' then some (c.toNat - 'A'.toNat + 10)
  else none

/-- The number written by hexadecimal digits. -/
def number? (digits : List Char) : Option Nat :=
  digits.foldlM (fun number c => (digit? c).map (16 * number + ·)) 0

/-- The bytes of a text of digit pairs. -/
def decode? : List Char -> Option (List UInt8)
  | [] => some []
  | [_] => none
  | high :: low :: rest => do
    let byte <- number? [high, low]
    let bytes <- decode? rest
    return byte.toUInt8 :: bytes

end Introspection.Hex
