import Introspection.Double.Fixed
import Introspection.Json.Printer

/-!
# Message templates

Texts with places that values are put into. A place begins with `%`, may name its value in
brackets, may say how wide it is to be and how many digits or characters to show, and ends with
the letter of its kind. Places without a name take the values in turn, and every value has to be
taken; a single object serves places with names. Two percent signs stand for one.

A template that cannot be filled makes no message.
-/

namespace Introspection.Log

/-- A count in a place: written there, or taken from the values. -/
inductive Count
  | written (count : Nat)
  | taken
  deriving DecidableEq, Repr

/-- How a value is laid out. -/
structure Layout where
  leftAligned : Bool := false
  plusSign : Bool := false
  spaceSign : Bool := false
  marked : Bool := false
  zeroFilled : Bool := false
  width : Count := .written 0
  precision : Option Count := none
  deriving DecidableEq, Repr

/-- A part of a template. -/
inductive Piece
  | text (c : Char)
  | place (name : Option String) (layout : Layout) (kind : Char)
  deriving DecidableEq, Repr

namespace Template

/-- The name after an opening bracket, in which brackets may be nested, and the text after it. -/
def readName (depth : Nat) (done : List Char) : List Char -> Option (String × List Char)
  | [] => none
  | ')' :: rest =>
    if depth = 0 then some (String.ofList done.reverse, rest)
    else readName (depth - 1) (')' :: done) rest
  | '(' :: rest => readName (depth + 1) ('(' :: done) rest
  | c :: rest => readName depth (c :: done) rest

/-- The flags of a place, and the text after them. -/
def readFlags (layout : Layout) : List Char -> Layout × List Char
  | '-' :: rest => readFlags { layout with leftAligned := true } rest
  | '+' :: rest => readFlags { layout with plusSign := true } rest
  | ' ' :: rest => readFlags { layout with spaceSign := true } rest
  | '#' :: rest => readFlags { layout with marked := true } rest
  | '0' :: rest => readFlags { layout with zeroFilled := true } rest
  | text => (layout, text)

/-- A count, zero when none is written, and the text after it. -/
def readCount : List Char -> Count × List Char
  | '*' :: rest => (.taken, rest)
  | text =>
    let (digits, rest) := Text.spanDigits text
    (.written (Text.numberOf digits), rest)

/-- The precision of a place, and the text after it. -/
def readPrecision : List Char -> Option Count × List Char
  | '.' :: rest =>
    let (count, rest) := readCount rest
    (some count, rest)
  | text => (none, text)

/-- A place after its `%`, and the text after it. -/
def readPlace (text : List Char) : Option (Piece × List Char) := do
  let (name, text) <- match text with
    | '(' :: rest => (readName 0 [] rest).map fun (name, rest) => (some name, rest)
    | text => some (none, text)
  let (layout, text) := readFlags {} text
  let (width, text) := readCount text
  let (precision, text) := readPrecision text
  let text := match text with
    | c :: rest => if c = 'h' ∨ c = 'l' ∨ c = 'L' then rest else text
    | [] => []
  match text with
  | kind :: rest => some (.place name { layout with width, precision } kind, rest)
  | [] => none

/-- The pieces of a text, read with at most `fuel` steps. -/
def readPieces : (fuel : Nat) -> List Char -> Option (List Piece)
  | 0, _ => none
  | _, [] => some []
  | fuel + 1, '%' :: '%' :: rest => return .text '%' :: (<- readPieces fuel rest)
  | fuel + 1, '%' :: rest => do
    let (piece, rest) <- readPlace rest
    return piece :: (<- readPieces fuel rest)
  | fuel + 1, c :: rest => return .text c :: (<- readPieces fuel rest)

/-- The pieces of a template. Every step reads a character at least. -/
def pieces? (template : String) : Option (List Piece) :=
  readPieces (template.length + 1) template.toList

/-- The values that are still to be put into places. -/
structure Supply where
  /-- The values that places with names are filled from. -/
  named : Option (List (String × Json))
  waiting : List Json

/-- The values for a template: a single object that has members serves places with names. -/
def Supply.of : List Json -> Supply
  | [.object (member :: members)] => ⟨some (member :: members), [.object (member :: members)]⟩
  | values => ⟨none, values⟩

/-- Take the next value. -/
def Supply.next? (supply : Supply) : Option (Json × Supply) :=
  match supply.waiting with
  | value :: rest => some (value, { supply with waiting := rest })
  | [] => none

/-- Make the value of a name the only one that is waiting. -/
def Supply.call? (supply : Supply) : Option String -> Option Supply
  | none => some supply
  | some name => do
    let value <- Json.member? name (<- supply.named)
    return { supply with waiting := [value] }

/-- A count, taken from the values if it is not written. -/
def Supply.count? (supply : Supply) : Count -> Option (Int × Supply)
  | .written count => some (count, supply)
  | .taken => do
    let (value, supply) <- supply.next?
    match value.number? with
    | some (.int count) => return (count, supply)
    | _ => none

/-- What is shown of a value: a sign, a mark for the base, and the rest. -/
structure Shown where
  sign : List Char
  mark : List Char
  body : List Char
  /-- Whether zeros may fill the place. -/
  numeric : Bool

/-- The sign of a number that is shown. -/
def signOf (layout : Layout) (negative : Bool) : List Char :=
  if negative then ['-']
  else if layout.plusSign then ['+']
  else if layout.spaceSign then [' ']
  else []

/-- A text, of which a count of characters is shown. -/
def showText (precision : Option Nat) (text : String) : Shown :=
  ⟨[], [], match precision with
    | some count => text.toList.take count
    | none => text.toList, false⟩

/-- An integer in a base, with a count of digits at least. -/
def showInteger (layout : Layout) (precision : Option Nat) (base : Nat) (mark : List Char)
    (value : Int) : Shown :=
  let digits := Nat.toDigits base value.natAbs
  let missing := precision.getD 0 - digits.length
  ⟨signOf layout (value < 0), if layout.marked then mark else [],
    List.replicate missing '0' ++ digits, true⟩

/-- A number in one of the layouts of floating-point numbers. -/
def showDouble (layout : Layout) (precision : Option Nat) (kind : Char) (value : Double) : Shown :=
  let count := precision.getD 6
  let (negative, body) : Bool × List Char := match value with
    | .nan => (false, ['n', 'a', 'n'])
    | .infinite negative => (negative, ['i', 'n', 'f'])
    | .finite negative mantissa exponent =>
      let (top, bottom) := Double.magnitude mantissa exponent
      (negative, match kind with
        | 'e' => Double.scientific top bottom count layout.marked
        | 'f' => Double.fixed top bottom count layout.marked
        | _ => Double.general top bottom count layout.marked)
  ⟨signOf layout negative, [], body, true⟩

/-- The integer that a number is shown as, its fraction cut off. -/
def wholeOf? (value : Json) : Option Int :=
  match value.number? with
  | some (.int value) => some value
  | some (.double value) => value.truncate?
  | none => none

/-- The integer that a value is. -/
def integerOf? (value : Json) : Option Int :=
  match value.number? with
  | some (.int value) => some value
  | _ => none

/-- The floating-point number nearest to a value, unless that is beyond all of them. -/
def doubleOf? (value : Json) : Option Double :=
  match value.number? with
  | some (.double value) => some value
  | some (.int value) => match Double.ofQuotient value 1 with
    | .infinite _ => none
    | value => some value
  | none => none

/-- The character that a value is or is the code of. -/
def characterOf? (value : Json) : Option Char :=
  match value with
  | .string text => match text.toList with
    | [c] => some c
    | _ => none
  | value => do
    let code <- integerOf? value
    if 0 ≤ code ∧ code.toNat.isValidChar then some (Char.ofNat code.toNat) else none

/-- The same in capital letters. -/
def Shown.capital (shown : Shown) : Shown :=
  { shown with mark := shown.mark.map Char.toUpper, body := shown.body.map Char.toUpper }

/-- No place is wider than this, or shows more digits. -/
def fillLimit : Nat := 10000000

/-- The numbers that a precision may have been written or taken as. -/
def isPrecision (count : Int) : Bool := -2147483648 ≤ count && count ≤ 2147483647

/-- The kinds of places that show as many digits as the precision says. -/
def hasAllDigits (layout : Layout) (kind : Char) : Bool :=
  match kind with
  | 's' | 'r' | 'a' | 'c' => false
  | 'g' | 'G' => layout.marked
  | _ => true

/-- How many digits or characters to show by a precision, unless it is beyond the limits. -/
def shownCount? (layout : Layout) (kind : Char) (precision : Int) : Option Nat :=
  let count := precision.toNat
  if !isPrecision precision then none
  else if hasAllDigits layout kind then if fillLimit < count then none else some count
  else if kind = 'g' ∨ kind = 'G' then some (min count (Double.exactDigits + 1))
  else some count

/-- What is shown of a value in a place of a kind. -/
def show? (layout : Layout) (precision : Option Nat) (kind : Char) (value : Json) :
    Option Shown :=
  match kind with
  | 's' => some (showText precision value.display)
  | 'r' => some (showText precision value.displayInner)
  | 'a' => some (showText precision (Text.asciiOnly value.displayInner))
  | 'c' => (characterOf? value).map fun c => ⟨[], [], [c], false⟩
  | 'd' | 'i' | 'u' => (wholeOf? value).map (showInteger layout precision 10 [])
  | 'o' => (integerOf? value).map (showInteger layout precision 8 ['0', 'o'])
  | 'x' => (integerOf? value).map (showInteger layout precision 16 ['0', 'x'])
  | 'X' => (integerOf? value).map fun value =>
    (showInteger layout precision 16 ['0', 'x'] value).capital
  | 'e' | 'f' | 'g' => (doubleOf? value).map (showDouble layout precision kind)
  | 'E' | 'F' | 'G' => (doubleOf? value).map fun value =>
    (showDouble layout precision kind.toLower value).capital
  | _ => none

/-- What is shown, filled up to a width. -/
def Shown.filled (shown : Shown) (leftAligned zeroFilled : Bool) (width : Nat) : List Char :=
  let front := shown.sign ++ shown.mark
  let missing := width - (front.length + shown.body.length)
  if leftAligned then front ++ shown.body ++ List.replicate missing ' '
  else if zeroFilled && shown.numeric then front ++ List.replicate missing '0' ++ shown.body
  else List.replicate missing ' ' ++ front ++ shown.body

/-- Fill a piece. -/
def fillPiece (supply : Supply) : Piece -> Option (List Char × Supply)
  | .text c => some ([c], supply)
  | .place name layout kind => do
    let supply <- supply.call? name
    let (width, supply) <- supply.count? layout.width
    let (precision, supply) <- match layout.precision with
      | some count => do
        let (count, supply) <- supply.count? count
        some (some (<- shownCount? layout kind count), supply)
      | none => some (none, supply)
    if fillLimit < width.natAbs then none
    let (value, supply) <- supply.next?
    let shown <- show? layout precision kind value
    return (shown.filled (layout.leftAligned || width < 0) layout.zeroFilled width.natAbs, supply)

/-- Fill pieces in turn. -/
def fillPieces (supply : Supply) : List Piece -> Option (List Char × Supply)
  | [] => some ([], supply)
  | piece :: rest => do
    let (text, supply) <- fillPiece supply piece
    let (more, supply) <- fillPieces supply rest
    return (text ++ more, supply)

/-- The message that a template makes of values; without values it stands as it is. -/
def fill? (template : String) (values : List Json) : Option String :=
  if values.isEmpty then some template
  else do
    let (text, supply) <- fillPieces (Supply.of values) (<- pieces? template)
    if supply.named.isNone && !supply.waiting.isEmpty then none else some (String.ofList text)

end Template

end Introspection.Log
