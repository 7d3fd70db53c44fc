/-!
# Numbers as bytes

The bytes of a number at a fixed width, in either order, and the number that bytes spell. Also
combining two runs of bytes, and finding one run in another.
-/

namespace Introspection.Bytes

/-- The number spelled by bytes, most significant first. -/
def toNat (bytes : List UInt8) : Nat :=
  bytes.foldl (fun number byte => 256 * number + byte.toNat) 0

/-- The last `width` bytes of a number, least significant first. -/
def ofNatReversed : (width : Nat) -> Nat -> List UInt8
  | 0, _ => []
  | width + 1, number => (number % 256).toUInt8 :: ofNatReversed width (number / 256)

/-- The last `width` bytes of a number, most significant first. -/
def ofNat (width number : Nat) : List UInt8 := (ofNatReversed width number).reverse

/-- The number spelled by bytes, least significant first. -/
def toNatReversed (bytes : List UInt8) : Nat := toNat bytes.reverse

/-- The bytes of two texts combined place by place by exclusive or. -/
def xor (a b : List UInt8) : List UInt8 := List.zipWith (· ^^^ ·) a b

/-- Whether a run of items occurs in a list. -/
def occursIn {α : Type} [BEq α] (run : List α) : List α -> Bool
  | [] => run.isEmpty
  | item :: rest => run.isPrefixOf (item :: rest) || occursIn run rest

end Introspection.Bytes
