/-!
# UTF-8

Texts as bytes and back. Reading goes byte by byte with the table of well-formed sequences: no
surrogates, nothing above U+10FFFF and no longer form than needed. A sequence that breaks off
counts once, up to the byte that broke it, and that byte is read afresh.
-/

namespace Introspection.Text

/-- The bytes of a text. -/
def utf8 (text : String) : List UInt8 := text.toList.flatMap String.utf8EncodeChar

namespace Utf8

/-- A sequence that has begun: the bits so far, how many bytes are still to come, and the range
that the next of them has to be in. -/
structure Begun where
  bits : Nat
  left : Nat
  low : Nat
  high : Nat

/-- How far the reading of bytes has come. What has been read is held last first; `none` stands
for a sequence that is not well formed. -/
structure State where
  begun : Option Begun
  read : List (Option Char)

/-- Take a byte with no sequence begun. -/
def start (read : List (Option Char)) (byte : UInt8) : State :=
  let code := byte.toNat
  let begin bits left low high : State := ⟨some ⟨bits, left, low, high⟩, read⟩
  if code < 0x80 then ⟨none, some (Char.ofNat code) :: read⟩
  else if code < 0xC2 then ⟨none, none :: read⟩
  else if code < 0xE0 then begin (code - 0xC0) 1 0x80 0xBF
  else if code == 0xE0 then begin 0 2 0xA0 0xBF
  else if code == 0xED then begin 0xD 2 0x80 0x9F
  else if code < 0xF0 then begin (code - 0xE0) 2 0x80 0xBF
  else if code == 0xF0 then begin 0 3 0x90 0xBF
  else if code < 0xF4 then begin (code - 0xF0) 3 0x80 0xBF
  else if code == 0xF4 then begin 4 3 0x80 0x8F
  else ⟨none, none :: read⟩

/-- Take the next byte. -/
def step (state : State) (byte : UInt8) : State :=
  match state.begun with
  | none => start state.read byte
  | some begun =>
    if begun.low ≤ byte.toNat ∧ byte.toNat ≤ begun.high then
      let bits := 64 * begun.bits + byte.toNat % 64
      if begun.left ≤ 1 then ⟨none, some (Char.ofNat bits) :: state.read⟩
      else ⟨some ⟨bits, begun.left - 1, 0x80, 0xBF⟩, state.read⟩
    else start (none :: state.read) byte

/-- What a run of bytes spells, `none` for each sequence that is not well formed. -/
def scan (bytes : List UInt8) : List (Option Char) :=
  let last := bytes.foldl step ⟨none, []⟩
  match last.begun with
  | none => last.read.reverse
  | some _ => (none :: last.read).reverse

/-- The text of well-formed bytes. -/
def decode? (bytes : List UInt8) : Option String :=
  ((scan bytes).mapM id).map String.ofList

/-- The text of any bytes, with U+FFFD for each sequence that is not well formed. -/
def decode (bytes : List UInt8) : String :=
  String.ofList ((scan bytes).map (·.getD '\uFFFD'))

end Utf8

namespace Latin1

/-- The text whose characters have the bytes as their codes. -/
def decode (bytes : List UInt8) : String :=
  String.ofList (bytes.map (fun byte => Char.ofNat byte.toNat))

/-- The bytes of a text without a character above U+00FF. -/
def encode? (text : String) : Option (List UInt8) :=
  text.toList.mapM (fun c => if c.toNat < 0x100 then some c.toNat.toUInt8 else none)

end Latin1

namespace Ascii

/-- The bytes of a text without a character above U+007F. -/
def encode? (text : String) : Option (List UInt8) :=
  text.toList.mapM (fun c => if c.toNat < 0x80 then some c.toNat.toUInt8 else none)

/-- The text of bytes that are all below 128. -/
def decode? (bytes : List UInt8) : Option String :=
  (bytes.mapM (fun byte => if byte < 0x80 then some (Char.ofNat byte.toNat) else none)).map
    String.ofList

end Ascii

end Introspection.Text
