/-!
# Punycode

Texts of any characters in letters, digits and hyphens. The ASCII characters come first, then a
hyphen if there are any, then the others: each by how far on it is from the one before it, where
code points and the places to put them are counted through together, in the order of the code
points. The distances are written with the lowest digit first, in digits that end a number when
they are below a threshold; how thresholds rise from digit to digit is adapted to the distances
seen.
-/

namespace Introspection.Text.Punycode

/-- The letter or digit of a value below thirty-six. -/
def digit (value : Nat) : Char :=
  if value < 26 then Char.ofNat (97 + value) else Char.ofNat (22 + value)

/-- The value of a letter in either case, or of a digit. -/
def value? (c : Char) : Option Nat :=
  let code := c.toNat
  if 97 ≤ code ∧ code ≤ 122 then some (code - 97)
  else if 65 ≤ code ∧ code ≤ 90 then some (code - 65)
  else if 48 ≤ code ∧ code ≤ 57 then some (code - 22)
  else none

/-- The threshold of a digit by its place, from the bias. -/
def threshold (bias place : Nat) : Nat := min 26 (max 1 (36 * (place + 1) - bias))

/-- A distance brought below a limit by division, and how many divisions it took. -/
def reduce (distance divisions : Nat) : Nat × Nat :=
  if distance ≤ 455 then (distance, divisions) else reduce (distance / 35) (divisions + 1)
termination_by distance
decreasing_by omega

/-- The bias after a distance, for a text of the given length with the new character in it. -/
def adapt (distance length : Nat) (isFirst : Bool) : Nat :=
  let distance := if isFirst then distance / 700 else distance / 2
  let (rest, divisions) := reduce (distance + distance / length) 0
  36 * divisions + 36 * rest / (rest + 38)

/-- Write a distance from the digit of the given place on. -/
def writeNumber (bias place number : Nat) : List Char :=
  let limit := threshold bias place
  if number < limit then [digit number]
  else
    digit (limit + (number - limit) % (36 - limit)) ::
      writeNumber bias (place + 1) ((number - limit) / (36 - limit))
termination_by number
decreasing_by
  have positive : 1 ≤ threshold bias place := by unfold threshold; omega
  exact Nat.lt_of_le_of_lt (Nat.div_le_self _ _) (by omega)

/-- Read a distance, given the weight of the next digit and the sum of those before it. -/
def readNumber? (bias place weight sum : Nat) : List Char -> Option (Nat × List Char)
  | [] => none
  | c :: rest => do
    let value <- value? c
    let sum := sum + value * weight
    let limit := threshold bias place
    if value < limit then return (sum, rest)
    else readNumber? bias (place + 1) (weight * (36 - limit)) sum rest

/-- How far the writing has come: what is written, the distance gone since the last character, the
bias, and how many characters have been written. -/
structure Writer where
  text : List Char
  distance : Nat
  bias : Nat
  count : Nat

/-- Whether a character is written as it is. -/
def isBasic (c : Char) : Bool := c.toNat < 0x80

/-- Pass a character of the text while those of one code point are written. -/
def Writer.pass (basics code : Nat) (writer : Writer) (c : Char) : Writer :=
  if c.toNat < code then { writer with distance := writer.distance + 1 }
  else if c.toNat = code then {
    text := writer.text ++ writeNumber writer.bias 0 writer.distance
    distance := 0
    bias := adapt writer.distance (writer.count + 1) (writer.count == basics)
    count := writer.count + 1 }
  else writer

/-- Write the characters of the given code points, from the one after the last on. -/
def Writer.run (basics : Nat) (text : List Char) (writer : Writer) :
    (last : Nat) -> (codes : List Nat) -> Writer
  | _, [] => writer
  | last, code :: codes =>
    let ahead := { writer with distance := writer.distance + (code - last) * (writer.count + 1) }
    let done := text.foldl (Writer.pass basics code) ahead
    Writer.run basics text { done with distance := done.distance + 1 } (code + 1) codes

/-- The encoding of a text. -/
def encode (text : List Char) : List Char :=
  let basics := text.filter isBasic
  let codes := ((text.filter (!isBasic ·)).map Char.toNat).mergeSort.eraseDups
  let start := if basics.isEmpty then [] else basics ++ ['-']
  (Writer.run basics.length text ⟨start, 0, 72, basics.length⟩ 0x80 codes).text

/-- Put in the characters that are read. Each of them takes a digit at least, so that the number
of digits bounds how many there are. -/
def insertAll (fuel bias code place : Nat) (isFirst : Bool) (text : List Char) :
    (digits : List Char) -> Option (List Char)
  | [] => some text
  | digits =>
    match fuel with
    | 0 => none
    | fuel + 1 => do
      let (distance, rest) <- readNumber? bias 0 1 0 digits
      let length := text.length + 1
      let code := code + (place + distance) / length
      let place := (place + distance) % length
      if !code.isValidChar then none
      let text := text.take place ++ Char.ofNat code :: text.drop place
      insertAll fuel (adapt distance length isFirst) code (place + 1) false text rest

/-- The text of an encoding. -/
def decode? (encoded : List Char) : Option (List Char) :=
  let digits := (encoded.reverse.takeWhile (· ≠ '-')).reverse
  let basics := encoded.take (encoded.length - digits.length - 1)
  insertAll digits.length 72 0x80 0 true basics digits

end Introspection.Text.Punycode
