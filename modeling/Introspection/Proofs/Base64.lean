import Introspection.Base64
import Mathlib.Algebra.Group.Nat.Defs
import Mathlib.Data.List.DropRight

/-!
# Bytes through base64

What is written in base64 are the bits of the bytes, six to a digit (`exists_carry`). Bytes written
so are read as what they were (`decode?_encode`), also in the alphabet for addresses, where the
padding is left out (`decodeAddress?_encodeAddress`).

The reader is forgiving, but what is written never leads it astray: each full group of digits takes
it from the beginning of a group to the beginning of the next one, with three more bytes
(`foldl_step_group`), and a last group that is not full is ended by its padding.
-/

namespace Introspection.Base64

section Bits

/-- The lowest bits of a number, the highest of them first. -/
def bits : Nat -> Nat -> List Bool
  | 0, _ => []
  | width + 1, number => bits width (number / 2) ++ [decide (number % 2 = 1)]

/-- Numbers carry the bits of bytes, six of them each, and zeros after the last bit. -/
def Carry (values : List Nat) (bytes : List UInt8) : Prop :=
  ∃ zeros < 6, values.flatMap (bits 6) =
    bytes.flatMap (fun byte => bits 8 byte.toNat) ++ List.replicate zeros false

/-- The bits of a number are those of its high part and those of its low part. -/
theorem bits_eq_append (width rest : Nat) {number high low : Nat}
    (whole : number = high * 2 ^ rest + low) (small : low < 2 ^ rest) :
    bits (width + rest) number = bits width high ++ bits rest low := by
  induction rest generalizing number low with
  | zero =>
    obtain rfl : low = 0 := by omega
    obtain rfl : number = high := by omega
    exact (List.append_nil _).symm
  | succ rest ih =>
    rw [Nat.pow_succ, ← Nat.mul_assoc] at whole
    rw [Nat.pow_succ] at small
    have half : number / 2 = high * 2 ^ rest + low / 2 := by omega
    have last : number % 2 = low % 2 := by omega
    have smaller : low / 2 < 2 ^ rest := by omega
    rw [← Nat.add_assoc, bits, ih half smaller, last, bits, List.append_assoc]

variable (byte : UInt8)

/-- The bits of a byte as they are divided where it is the first one of a group. -/
theorem bits_first :
    bits 8 byte.toNat = bits 6 (byte.toNat / 4) ++ bits 2 (byte.toNat % 4) :=
  bits_eq_append 6 2 (by omega) (by omega)

/-- The bits of a byte as they are divided where it is the second one of a group. -/
theorem bits_second :
    bits 8 byte.toNat = bits 4 (byte.toNat / 16) ++ bits 4 (byte.toNat % 16) :=
  bits_eq_append 4 4 (by omega) (by omega)

/-- The bits of a byte as they are divided where it is the third one of a group. -/
theorem bits_third :
    bits 8 byte.toNat = bits 2 (byte.toNat / 64) ++ bits 6 (byte.toNat % 64) :=
  bits_eq_append 2 6 (by omega) (by omega)

/-- The second digit of a group has the last bits of the first byte before others. -/
theorem bits_secondDigit {value : Nat} (small : value < 16) :
    bits 6 (byte.toNat % 4 * 16 + value) = bits 2 (byte.toNat % 4) ++ bits 4 value :=
  bits_eq_append 2 4 rfl small

/-- The third digit of a group has the last bits of the second byte before others. -/
theorem bits_thirdDigit {value : Nat} (small : value < 4) :
    bits 6 (byte.toNat % 16 * 4 + value) = bits 4 (byte.toNat % 16) ++ bits 2 value :=
  bits_eq_append 4 2 rfl small

end Bits

section Writing

variable {digit : Nat -> UInt8} {bytes : List UInt8}

/-- What is written are digits, and their values carry the bits of the bytes. -/
theorem exists_carry (digit : Nat -> UInt8) (bytes : List UInt8) :
    ∃ values, groups digit bytes = values.map digit ∧ (∀ value ∈ values, value < 64) ∧
      Carry values bytes := by
  induction bytes using groups.induct with
  | case1 => exact ⟨[], rfl, List.forall_mem_nil _, 0, by decide, rfl⟩
  | case2 a =>
    have := a.toNat_lt
    have last := bits_secondDigit a (by decide : 0 < 16)
    rw [Nat.add_zero] at last
    refine ⟨[a.toNat / 4, a.toNat % 4 * 16], rfl, ?_, 4, by decide, ?_⟩
    · simp only [List.forall_mem_cons]
      exact ⟨by omega, by omega, List.forall_mem_nil _⟩
    · simp only [List.flatMap_cons, bits_first a, last, List.append_assoc]
      rfl
  | case3 a b =>
    have := a.toNat_lt
    have := b.toNat_lt
    have high : b.toNat / 16 < 16 := by omega
    have last := bits_thirdDigit b (by decide : 0 < 4)
    rw [Nat.add_zero] at last
    refine ⟨[a.toNat / 4, a.toNat % 4 * 16 + b.toNat / 16, b.toNat % 16 * 4], rfl, ?_, 2,
      by decide, ?_⟩
    · simp only [List.forall_mem_cons]
      exact ⟨by omega, by omega, by omega, List.forall_mem_nil _⟩
    · simp only [List.flatMap_cons, bits_first a, bits_second b, bits_secondDigit a high,
        last, List.append_assoc]
      rfl
  | case4 a b c rest ih =>
    have := a.toNat_lt
    have := b.toNat_lt
    have := c.toNat_lt
    have high : b.toNat / 16 < 16 := by omega
    have higher : c.toNat / 64 < 4 := by omega
    obtain ⟨values, written, small, zeros, few, carried⟩ := ih
    refine ⟨a.toNat / 4 :: (a.toNat % 4 * 16 + b.toNat / 16) ::
      (b.toNat % 16 * 4 + c.toNat / 64) :: c.toNat % 64 :: values, ?_, ?_, zeros, few, ?_⟩
    · simp only [groups, written, List.map_cons]
    · simp only [List.forall_mem_cons]
      exact ⟨by omega, by omega, by omega, by omega, small⟩
    · simp only [List.flatMap_cons, carried, bits_first a, bits_second b, bits_third c,
        bits_secondDigit a high, bits_thirdDigit b higher, List.append_assoc]

/-- All that are written are digits. -/
theorem exists_digit_of_mem_groups {byte : UInt8} (member : byte ∈ groups digit bytes) :
    ∃ value < 64, digit value = byte := by
  obtain ⟨values, written, small, _⟩ := exists_carry digit bytes
  rw [written] at member
  obtain ⟨value, isValue, same⟩ := List.mem_map.mp member
  exact ⟨value, small value isValue, same⟩

/-- Digits can be replaced as they are written or afterwards. -/
theorem map_groups (replace : UInt8 -> UInt8) (bytes : List UInt8) :
    (groups digit bytes).map replace = groups (replace ∘ digit) bytes := by
  induction bytes using groups.induct with
  | case1 => rfl
  | case2 a => rfl
  | case3 a b => rfl
  | case4 a b c rest ih => simp [groups, ih]

/-- Padding comes after full groups. -/
theorem pad_group (p q r s : UInt8) (rest : List UInt8) :
    pad (p :: q :: r :: s :: rest) = p :: q :: r :: s :: pad rest := by
  have same : (4 - (rest.length + 4) % 4) % 4 = (4 - rest.length % 4) % 4 := by omega
  simp only [pad, List.length_cons, List.cons_append, same]

/-- Taking the padding off gives a text without padding back. -/
theorem rdropWhile_pad {text : List UInt8} (plain : padding ∉ text) :
    (pad text).rdropWhile (· == padding) = text := by
  have itself : text.rdropWhile (· == padding) = text := by
    rw [List.rdropWhile_eq_self_iff]
    intro nonempty isPadding
    rw [← beq_iff_eq.mp isPadding] at plain
    exact plain (List.getLast_mem nonempty)
  rw [pad, List.rdropWhile, List.reverse_append, List.reverse_replicate,
    List.dropWhile_append_of_pos (by simp), ← List.rdropWhile, itself]

/-- What is written in the alphabet of general use are its digits and padding. -/
theorem mem_encode {byte : UInt8} (member : byte ∈ encode bytes) :
    byte = padding ∨ ∃ value < 64, standardDigit value = byte := by
  rcases List.mem_append.mp member with isDigit | isPadding
  · exact .inr (exists_digit_of_mem_groups isDigit)
  · exact .inl (List.eq_of_mem_replicate isPadding)

/-- The alphabets differ in two digits, which the reader takes for one another. -/
theorem ofAddressDigit_comp_addressDigit : ofAddressDigit ∘ addressDigit = standardDigit := by
  have common : ∀ value < 62, ofAddressDigit (commonDigit value) = commonDigit value := by decide
  funext value
  simp only [Function.comp, addressDigit, standardDigit]
  split
  · next small => exact common value small
  · split
    · rfl
    · rfl

/-- With padding and in the alphabet of general use, what is written in the alphabet for addresses
is what is written in that alphabet. -/
theorem map_pad_encodeAddress (bytes : List UInt8) :
    (pad (encodeAddress bytes)).map ofAddressDigit = encode bytes := by
  have digits : (encodeAddress bytes).map ofAddressDigit = groups standardDigit bytes := by
    rw [encodeAddress, map_groups, ofAddressDigit_comp_addressDigit]
  have sameLength := congrArg List.length digits
  rw [List.length_map] at sameLength
  rw [pad, List.map_append, List.map_replicate, digits, encode, pad, sameLength]
  rfl

end Writing

section Reading

variable {place bits pads value : Nat} {read : List UInt8}

theorem value?_standardDigit (small : value < 64) : value? (standardDigit value) = some value := by
  revert value
  decide

/-- A digit is read as its value, wherever in a group the reader is. -/
theorem step_standardDigit (small : value < 64) :
    Reader.step ⟨place, bits, pads, read, false⟩ (standardDigit value) =
      Reader.push ⟨place, bits, pads, read, false⟩ value := by
  have isDigit := value?_standardDigit small
  have notPadding : standardDigit value ≠ padding := by
    intro same
    rw [same] at isDigit
    cases isDigit
  simp [Reader.step, notPadding, isDigit]

/-- Padding inside a group is counted, and ends the text when it completes the group. -/
theorem step_padding (inside : 2 ≤ place) :
    Reader.step ⟨place, bits, pads, read, false⟩ padding =
      ⟨place, bits, pads + 1, read, decide (4 ≤ place + (pads + 1))⟩ := by
  simp only [Reader.step, if_pos inside, Bool.false_eq_true, if_false, if_true]
  split
  · next complete => simp [complete]
  · next incomplete => simp [incomplete]

theorem push_start : Reader.push ⟨0, bits, pads, read, false⟩ value = ⟨1, value, 0, read, false⟩ :=
  rfl

/-- The first byte of a group is read from its six high bits and its two low ones. -/
theorem push_first (byte : UInt8) (small : value < 16) :
    Reader.push ⟨1, byte.toNat / 4, pads, read, false⟩ (byte.toNat % 4 * 16 + value) =
      ⟨2, value, 0, byte :: read, false⟩ := by
  have joined : byte.toNat / 4 * 4 + (byte.toNat % 4 * 16 + value) / 16 = byte.toNat := by omega
  have left : (byte.toNat % 4 * 16 + value) % 16 = value := by omega
  simp [Reader.push, joined, left]

/-- The second byte of a group is read from its two halves. -/
theorem push_second (byte : UInt8) (small : value < 4) :
    Reader.push ⟨2, byte.toNat / 16, pads, read, false⟩ (byte.toNat % 16 * 4 + value) =
      ⟨3, value, 0, byte :: read, false⟩ := by
  have joined : byte.toNat / 16 * 16 + (byte.toNat % 16 * 4 + value) / 4 = byte.toNat := by omega
  have left : (byte.toNat % 16 * 4 + value) % 4 = value := by omega
  simp [Reader.push, joined, left]

/-- The third byte of a group is read from its two high bits and its six low ones. -/
theorem push_third (byte : UInt8) :
    Reader.push ⟨3, byte.toNat / 64, pads, read, false⟩ (byte.toNat % 64) =
      ⟨0, 0, 0, byte :: read, false⟩ := by
  have joined : byte.toNat / 64 * 64 + byte.toNat % 64 = byte.toNat := by omega
  simp [Reader.push, joined]

/-- A full group is read as its three bytes, from the beginning of one group to that of the
next. -/
theorem foldl_step_group (a b c : UInt8) (rest : List UInt8) :
    (standardDigit (a.toNat / 4) :: standardDigit (a.toNat % 4 * 16 + b.toNat / 16) ::
      standardDigit (b.toNat % 16 * 4 + c.toNat / 64) :: standardDigit (c.toNat % 64) ::
        rest).foldl Reader.step ⟨0, bits, pads, read, false⟩ =
      rest.foldl Reader.step ⟨0, 0, 0, c :: b :: a :: read, false⟩ := by
  have := a.toNat_lt
  have := b.toNat_lt
  have := c.toNat_lt
  simp (disch := omega) only [List.foldl_cons, step_standardDigit, push_start, push_first,
    push_second, push_third]

/-- What is written is read to its end, from the beginning of a group, as the bytes that it was
written from. -/
theorem foldl_step_encode (bytes : List UInt8) (bits pads : Nat) (read : List UInt8) :
    ∃ last, (encode bytes).foldl Reader.step ⟨0, bits, pads, read, false⟩ = last ∧
      last.bytes = bytes.reverse ++ read ∧ (last.done = true ∨ last.place = 0) := by
  induction bytes using groups.induct generalizing bits pads read with
  | case1 => exact ⟨_, rfl, rfl, .inr rfl⟩
  | case2 a =>
    have := a.toNat_lt
    have written : encode [a] = [standardDigit (a.toNat / 4), standardDigit (a.toNat % 4 * 16 + 0),
      padding, padding] := rfl
    refine ⟨⟨2, 0, 2, a :: read, true⟩, ?_, rfl, .inl rfl⟩
    rw [written]
    simp (disch := omega) only [List.foldl_cons, List.foldl_nil, step_standardDigit, push_start,
      push_first, step_padding]
    rfl
  | case3 a b =>
    have := a.toNat_lt
    have := b.toNat_lt
    have written : encode [a, b] = [standardDigit (a.toNat / 4),
      standardDigit (a.toNat % 4 * 16 + b.toNat / 16), standardDigit (b.toNat % 16 * 4 + 0),
      padding] := rfl
    refine ⟨⟨3, 0, 1, b :: a :: read, true⟩, ?_, rfl, .inl rfl⟩
    rw [written]
    simp (disch := omega) only [List.foldl_cons, List.foldl_nil, step_standardDigit, push_start,
      push_first, push_second, step_padding]
    rfl
  | case4 a b c rest ih =>
    obtain ⟨last, ended, isRead, complete⟩ := ih 0 0 (c :: b :: a :: read)
    refine ⟨last, ?_, by simpa using isRead, complete⟩
    rw [encode, groups, pad_group, foldl_step_group]
    exact ended

end Reading

/-- Bytes are read from base64 as they were written. -/
theorem decode?_encode (bytes : List UInt8) : decode? (encode bytes) = some bytes := by
  obtain ⟨last, ended, isRead, complete⟩ := foldl_step_encode bytes 0 0 []
  simp only [decode?, Reader.empty, ended, if_pos complete, isRead, List.append_nil,
    List.reverse_reverse]

/-- Bytes are read as they were written in the alphabet for addresses, without padding. -/
theorem decodeAddress?_encodeAddress (bytes : List UInt8) :
    decodeAddress? (encodeAddress bytes) = some bytes := by
  rw [decodeAddress?, map_pad_encodeAddress, decode?_encode]

end Introspection.Base64
