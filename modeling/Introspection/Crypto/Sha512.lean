import Introspection.Bytes

/-!
# SHA-512 and SHA-384

The hash functions on blocks of sixteen 64-bit words, in 80 rounds. The two differ in the chaining
value they start from, and SHA-384 gives out only the first 48 bytes of the last one.
-/

namespace Introspection.Crypto.Sha512

/-- The chaining value: eight words. -/
structure Chain where
  a : UInt64
  b : UInt64
  c : UInt64
  d : UInt64
  e : UInt64
  f : UInt64
  g : UInt64
  h : UInt64
  deriving DecidableEq, Repr

/-- The constant added in each round. -/
def roundConstants : List UInt64 := [
  0x428a2f98d728ae22, 0x7137449123ef65cd, 0xb5c0fbcfec4d3b2f, 0xe9b5dba58189dbbc,
  0x3956c25bf348b538, 0x59f111f1b605d019, 0x923f82a4af194f9b, 0xab1c5ed5da6d8118,
  0xd807aa98a3030242, 0x12835b0145706fbe, 0x243185be4ee4b28c, 0x550c7dc3d5ffb4e2,
  0x72be5d74f27b896f, 0x80deb1fe3b1696b1, 0x9bdc06a725c71235, 0xc19bf174cf692694,
  0xe49b69c19ef14ad2, 0xefbe4786384f25e3, 0x0fc19dc68b8cd5b5, 0x240ca1cc77ac9c65,
  0x2de92c6f592b0275, 0x4a7484aa6ea6e483, 0x5cb0a9dcbd41fbd4, 0x76f988da831153b5,
  0x983e5152ee66dfab, 0xa831c66d2db43210, 0xb00327c898fb213f, 0xbf597fc7beef0ee4,
  0xc6e00bf33da88fc2, 0xd5a79147930aa725, 0x06ca6351e003826f, 0x142929670a0e6e70,
  0x27b70a8546d22ffc, 0x2e1b21385c26c926, 0x4d2c6dfc5ac42aed, 0x53380d139d95b3df,
  0x650a73548baf63de, 0x766a0abb3c77b2a8, 0x81c2c92e47edaee6, 0x92722c851482353b,
  0xa2bfe8a14cf10364, 0xa81a664bbc423001, 0xc24b8b70d0f89791, 0xc76c51a30654be30,
  0xd192e819d6ef5218, 0xd69906245565a910, 0xf40e35855771202a, 0x106aa07032bbd1b8,
  0x19a4c116b8d2d0c8, 0x1e376c085141ab53, 0x2748774cdf8eeb99, 0x34b0bcb5e19b48a8,
  0x391c0cb3c5c95a63, 0x4ed8aa4ae3418acb, 0x5b9cca4f7763e373, 0x682e6ff3d6b2b8a3,
  0x748f82ee5defb2fc, 0x78a5636f43172f60, 0x84c87814a1f0ab72, 0x8cc702081a6439ec,
  0x90befffa23631e28, 0xa4506cebde82bde9, 0xbef9a3f7b2c67915, 0xc67178f2e372532b,
  0xca273eceea26619c, 0xd186b8c721c0c207, 0xeada7dd6cde0eb1e, 0xf57d4f7fee6ed178,
  0x06f067aa72176fba, 0x0a637dc5a2c898a6, 0x113f9804bef90dae, 0x1b710b35131c471b,
  0x28db77f523047d84, 0x32caab7b40c72493, 0x3c9ebe0a15c9bebc, 0x431d67c49c100d4c,
  0x4cc5d4becb3e42b6, 0x597f299cfc657e2a, 0x5fcb6fab3ad6faec, 0x6c44198c4a475817]

/-- The chaining value of SHA-512 before the first block. -/
def start512 : Chain := ⟨
  0x6a09e667f3bcc908, 0xbb67ae8584caa73b, 0x3c6ef372fe94f82b, 0xa54ff53a5f1d36f1,
  0x510e527fade682d1, 0x9b05688c2b3e6c1f, 0x1f83d9abfb41bd6b, 0x5be0cd19137e2179⟩

/-- The chaining value of SHA-384 before the first block. -/
def start384 : Chain := ⟨
  0xcbbb9d5dc1059ed8, 0x629a292a367cd507, 0x9159015a3070dd17, 0x152fecd8f70e5939,
  0x67332667ffc00b31, 0x8eb44a8768581511, 0xdb0c2e0d64f98fa7, 0x47b5481dbefa4fa4⟩

/-- The word with its bits moved right by `count` places, those that fall off coming in on the
left. -/
def rotateRight (word count : UInt64) : UInt64 := (word >>> count) ||| (word <<< (64 - count))

/-- One round, for the sum of its constant and its word of the schedule. -/
def round (chain : Chain) (addend : UInt64) : Chain :=
  let ⟨a, b, c, d, e, f, g, h⟩ := chain
  let mixed := rotateRight e 14 ^^^ rotateRight e 18 ^^^ rotateRight e 41
  let choice := (e &&& f) ^^^ ((~~~ e) &&& g)
  let first := h + mixed + choice + addend
  let spread := rotateRight a 28 ^^^ rotateRight a 34 ^^^ rotateRight a 39
  let majority := (a &&& b) ^^^ (a &&& c) ^^^ (b &&& c)
  ⟨first + (spread + majority), a, b, c, d + first, e, f, g⟩

/-- The next word of the schedule, from those before it. -/
def nextWord (words : Array UInt64) : UInt64 :=
  let back (places : Nat) : UInt64 := words.getD (words.size - places) 0
  let late := back 2
  let early := back 15
  let lateMix := rotateRight late 19 ^^^ rotateRight late 61 ^^^ (late >>> 6)
  let earlyMix := rotateRight early 1 ^^^ rotateRight early 8 ^^^ (early >>> 7)
  lateMix + back 7 + earlyMix + back 16

/-- The sixteen words of a block, extended to one for each round. -/
def schedule (block : Array UInt64) : Array UInt64 :=
  (List.range 64).foldl (fun words _ => words.push (nextWord words)) block

/-- Take one block of sixteen words into the chaining value. -/
def compress (chain : Chain) (block : Array UInt64) : Chain :=
  let last := ((schedule block).toList.zip roundConstants).foldl
    (fun chain (word, constant) => round chain (word + constant)) chain
  ⟨chain.a + last.a, chain.b + last.b, chain.c + last.c, chain.d + last.d,
    chain.e + last.e, chain.f + last.f, chain.g + last.g, chain.h + last.h⟩

/-- The big-endian words of a text whose length is a multiple of 8 bytes. -/
def wordsOf : List UInt8 -> List UInt64
  | b0 :: b1 :: b2 :: b3 :: b4 :: b5 :: b6 :: b7 :: rest =>
    UInt64.ofNat (Bytes.toNat [b0, b1, b2, b3, b4, b5, b6, b7]) :: wordsOf rest
  | _ => []

/-- The message with its padding: a one bit, zeros, and the length in bits. -/
def padded (message : List UInt8) : List UInt8 :=
  let zeros := (239 - message.length % 128) % 128
  message ++ 0x80 :: List.replicate zeros 0 ++ Bytes.ofNat 16 (8 * message.length)

/-- Take the words of a padded message, block by block. -/
def absorb (chain : Chain) (words : List UInt64) : Chain :=
  (words.foldl
    (fun (chain, block) word =>
      let block := block.push word
      if block.size = 16 then (compress chain block, #[]) else (chain, block))
    (chain, (#[] : Array UInt64))).1

/-- The bytes of a chaining value. -/
def Chain.bytes (chain : Chain) : List UInt8 :=
  [chain.a, chain.b, chain.c, chain.d, chain.e, chain.f, chain.g, chain.h].flatMap
    (fun word => Bytes.ofNat 8 word.toNat)

/-- The 64-byte hash of a message. -/
def hash512 (message : List UInt8) : List UInt8 :=
  (absorb start512 (wordsOf (padded message))).bytes

/-- The 48-byte hash of a message. -/
def hash384 (message : List UInt8) : List UInt8 :=
  ((absorb start384 (wordsOf (padded message))).bytes).take 48

end Introspection.Crypto.Sha512
