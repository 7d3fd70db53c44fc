import Introspection.Bytes

/-!
# SHA-256

The hash function with a 256-bit result: the message is padded to blocks of sixteen 32-bit words,
and each block is mixed into a chaining value in 64 rounds.
-/

namespace Introspection.Crypto.Sha256

/-- The chaining value: eight words. -/
structure Chain where
  a : UInt32
  b : UInt32
  c : UInt32
  d : UInt32
  e : UInt32
  f : UInt32
  g : UInt32
  h : UInt32
  deriving DecidableEq, Repr

/-- The constant added in each round. -/
def roundConstants : List UInt32 := [
  0x428a2f98, 0x71374491, 0xb5c0fbcf, 0xe9b5dba5, 0x3956c25b, 0x59f111f1, 0x923f82a4, 0xab1c5ed5,
  0xd807aa98, 0x12835b01, 0x243185be, 0x550c7dc3, 0x72be5d74, 0x80deb1fe, 0x9bdc06a7, 0xc19bf174,
  0xe49b69c1, 0xefbe4786, 0x0fc19dc6, 0x240ca1cc, 0x2de92c6f, 0x4a7484aa, 0x5cb0a9dc, 0x76f988da,
  0x983e5152, 0xa831c66d, 0xb00327c8, 0xbf597fc7, 0xc6e00bf3, 0xd5a79147, 0x06ca6351, 0x14292967,
  0x27b70a85, 0x2e1b2138, 0x4d2c6dfc, 0x53380d13, 0x650a7354, 0x766a0abb, 0x81c2c92e, 0x92722c85,
  0xa2bfe8a1, 0xa81a664b, 0xc24b8b70, 0xc76c51a3, 0xd192e819, 0xd6990624, 0xf40e3585, 0x106aa070,
  0x19a4c116, 0x1e376c08, 0x2748774c, 0x34b0bcb5, 0x391c0cb3, 0x4ed8aa4a, 0x5b9cca4f, 0x682e6ff3,
  0x748f82ee, 0x78a5636f, 0x84c87814, 0x8cc70208, 0x90befffa, 0xa4506ceb, 0xbef9a3f7, 0xc67178f2]

/-- The chaining value before the first block. -/
def start : Chain := ⟨
  0x6a09e667, 0xbb67ae85, 0x3c6ef372, 0xa54ff53a,
  0x510e527f, 0x9b05688c, 0x1f83d9ab, 0x5be0cd19⟩

/-- The word with its bits moved right by `count` places, those that fall off coming in on the
left. -/
def rotateRight (word count : UInt32) : UInt32 := (word >>> count) ||| (word <<< (32 - count))

/-- One round, for the sum of its constant and its word of the schedule. -/
def round (chain : Chain) (addend : UInt32) : Chain :=
  let ⟨a, b, c, d, e, f, g, h⟩ := chain
  let mixed := rotateRight e 6 ^^^ rotateRight e 11 ^^^ rotateRight e 25
  let choice := (e &&& f) ^^^ ((~~~ e) &&& g)
  let first := h + mixed + choice + addend
  let spread := rotateRight a 2 ^^^ rotateRight a 13 ^^^ rotateRight a 22
  let majority := (a &&& b) ^^^ (a &&& c) ^^^ (b &&& c)
  ⟨first + (spread + majority), a, b, c, d + first, e, f, g⟩

/-- The next word of the schedule, from those before it. -/
def nextWord (words : Array UInt32) : UInt32 :=
  let back (places : Nat) : UInt32 := words.getD (words.size - places) 0
  let late := back 2
  let early := back 15
  let lateMix := rotateRight late 17 ^^^ rotateRight late 19 ^^^ (late >>> 10)
  let earlyMix := rotateRight early 7 ^^^ rotateRight early 18 ^^^ (early >>> 3)
  lateMix + back 7 + earlyMix + back 16

/-- The sixteen words of a block, extended to one for each round. -/
def schedule (block : Array UInt32) : Array UInt32 :=
  (List.range 48).foldl (fun words _ => words.push (nextWord words)) block

/-- Take one block of sixteen words into the chaining value. -/
def compress (chain : Chain) (block : Array UInt32) : Chain :=
  let last := ((schedule block).toList.zip roundConstants).foldl
    (fun chain (word, constant) => round chain (word + constant)) chain
  ⟨chain.a + last.a, chain.b + last.b, chain.c + last.c, chain.d + last.d,
    chain.e + last.e, chain.f + last.f, chain.g + last.g, chain.h + last.h⟩

/-- The big-endian words of a text whose length is a multiple of 4 bytes. -/
def wordsOf : List UInt8 -> List UInt32
  | b0 :: b1 :: b2 :: b3 :: rest =>
    UInt32.ofNat (Bytes.toNat [b0, b1, b2, b3]) :: wordsOf rest
  | _ => []

/-- The message with its padding: a one bit, zeros, and the length in bits. -/
def padded (message : List UInt8) : List UInt8 :=
  let zeros := (119 - message.length % 64) % 64
  message ++ 0x80 :: List.replicate zeros 0 ++ Bytes.ofNat 8 (8 * message.length)

/-- Take the words of a padded message, block by block. -/
def absorb (chain : Chain) (words : List UInt32) : Chain :=
  (words.foldl
    (fun (chain, block) word =>
      let block := block.push word
      if block.size = 16 then (compress chain block, #[]) else (chain, block))
    (chain, (#[] : Array UInt32))).1

/-- The bytes of a chaining value. -/
def Chain.bytes (chain : Chain) : List UInt8 :=
  [chain.a, chain.b, chain.c, chain.d, chain.e, chain.f, chain.g, chain.h].flatMap
    (fun word => Bytes.ofNat 4 word.toNat)

/-- The 32-byte hash of a message. -/
def hash (message : List UInt8) : List UInt8 :=
  (absorb start (wordsOf (padded message))).bytes

end Introspection.Crypto.Sha256
