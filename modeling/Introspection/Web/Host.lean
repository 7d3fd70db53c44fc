import Introspection.Percent
import Introspection.Text.Integer
import Introspection.Web.Label

/-!
# Hosts

The hosts that addresses name: by an address of four numbers, by one of eight numbers in brackets,
or by a name. What has the form of four numbers with anything between them has to be such an
address. Names are brought to small letters; one in ASCII may hold any characters, those that have
to be being escaped.
-/

namespace Introspection.Web

/-- Whether a text is one of the four numbers of an address: below 256, without leading zeros. -/
def isOctet (text : List Char) : Bool :=
  let digits := text.filterMap Text.asciiDigit?
  !text.isEmpty && digits.length == text.length && text.length ≤ 3 &&
    (text.length == 1 || text.head? != some '0') && Text.numberOf digits < 256

/-- Whether a text is an address of four numbers. -/
def isFourfold (text : List Char) : Bool :=
  let octets := text.splitOn '.'
  octets.length == 4 && octets.all isOctet

/-- Whether a text is four runs of digits with any one character between each and the next. What
is no digit has to part two runs; the other partings may be digits, each of which has to leave a
digit on either side. -/
def isNumbers (text : List Char) : Bool :=
  let runs := (text.map fun c => if (Text.asciiDigit? c).isSome then c else '.').splitOn '.'
  runs.length ≤ 4 && runs.all (fun run => !run.isEmpty) &&
    4 ≤ runs.foldl (fun parts run => parts + 1 + (run.length - 1) / 2) 0

/-- Whether a text is one of the numbers of a longer address. -/
def isHextet (text : List Char) : Bool :=
  !text.isEmpty && text.length ≤ 4 && text.all fun c => (Hex.digit? c).isSome

/-- The parts of a longer address; the last may be an address of four numbers, which makes two. -/
def hextets? (text : List Char) : Option (List (List Char)) :=
  let parts := text.splitOn ':'
  let last := parts.getLastD []
  if parts.length < 3 then none
  else if last.contains '.' then
    if isFourfold last then some (parts.dropLast ++ [['0'], ['0']]) else none
  else some parts

/-- Whether a text is an address of eight numbers, a run of which may be left out once. -/
def isEightfold (text : List Char) : Bool :=
  match hextets? text with
  | none => false
  | some parts =>
    let inner := (parts.drop 1).dropLast
    match inner.count [] with
    | 0 => parts.length == 8 && parts.all isHextet
    | 1 =>
      let before := parts.takeWhile fun part => !part.isEmpty
      let after := (parts.drop before.length).dropWhile List.isEmpty
      let empties := parts.length - before.length - after.length
      empties == 1 + before.isEmpty.toNat + after.isEmpty.toNat &&
        (before ++ after).all isHextet && before.length + after.length < 8
    | _ => false

/-- Whether a text is an address of eight numbers, possibly with a zone after a percent sign. -/
def isZonedEightfold (text : List Char) : Bool :=
  let zone := text.dropWhile (· ≠ '%')
  isEightfold (text.takeWhile (· ≠ '%')) &&
    (zone.isEmpty || (1 < zone.length && !(zone.drop 1).contains '%'))

/-- The characters that stand for themselves in a name in ASCII, beside the unreserved ones. -/
def hostMarks : List Char :=
  ['!', '$', '&', '\'', '(', ')', '*', '+', ',', ';', '=', '"', '`', '\x7b', '\x7d', '%', '|', '\\']

/-- The host that a text names, in the form in which it is used: the address without its
brackets, or the name. -/
def host? (text : List Char) : Option String :=
  if isNumbers text then if isFourfold text then some (String.ofList text) else none
  else if text.head? = some '[' ∧ text.getLast? = some ']' then
    let address := (text.drop 1).dropLast
    if isZonedEightfold address then some (String.ofList address) else none
  else if text.all Percent.isAscii then
    some (Percent.encode hostMarks (String.ofList (text.map Char.toLower)))
  else encodeName? (Text.lowercase text)

end Introspection.Web
