import Introspection.Moment
import Introspection.Text.Blank

/-!
# Text of points in time

The written form `2030-01-01T05:30:00.000001+05:30`: the fraction has six digits and is left out
when it is zero, the offset has seconds only when they are not zero. The reader takes any number
of fraction digits, of which six count, other marks between date and time, and `Z`.
-/

namespace Introspection.Moment

/-- The last `width` decimal digits of a number. -/
def fixedDigits : (width : Nat) -> Nat -> List Char
  | 0, _ => []
  | width + 1, number => fixedDigits width (number / 10) ++ [Nat.digitChar (number % 10)]

/-- An offset: hours and minutes, and seconds when there are any. -/
def offsetText (offset : Int) : List Char :=
  let magnitude := offset.natAbs
  let seconds := magnitude % 60
  (if offset < 0 then '-' else '+') :: fixedDigits 2 (magnitude / 3600) ++
    ':' :: fixedDigits 2 (magnitude / 60 % 60) ++
    (if seconds = 0 then [] else ':' :: fixedDigits 2 seconds)

/-- The written form of a moment. -/
def text (moment : Moment) : String :=
  let (year, month, dayOfMonth) := dateOfDays (moment.reading / day)
  let micros := (moment.reading % day).toNat
  let seconds := micros / 1000000
  let fraction := micros % 1000000
  String.ofList <|
    fixedDigits 4 year.toNat ++ '-' :: fixedDigits 2 month ++ '-' :: fixedDigits 2 dayOfMonth ++
      'T' :: fixedDigits 2 (seconds / 3600) ++ ':' :: fixedDigits 2 (seconds / 60 % 60) ++
      ':' :: fixedDigits 2 (seconds % 60) ++
      (if fraction = 0 then [] else '.' :: fixedDigits 6 fraction) ++
      (match moment.offset with
        | some offset => offsetText offset
        | none => [])

/-- Read exactly `width` digits. -/
def takeNumber? (width : Nat) (text : List Char) : Option (Nat × List Char) := do
  let digits <- (text.take width).mapM Text.asciiDigit?
  if digits.length = width then some (Text.numberOf digits, text.drop width) else none

/-- Read one given character. -/
def takeChar? (c : Char) : List Char -> Option (List Char)
  | first :: rest => if first = c then some rest else none
  | [] => none

/-- Read a date as the days from the start of 1970. -/
def takeDate? (text : List Char) : Option (Int × List Char) := do
  let (year, rest) <- takeNumber? 4 text
  let (month, rest) <- takeNumber? 2 (<- takeChar? '-' rest)
  let (dayOfMonth, rest) <- takeNumber? 2 (<- takeChar? '-' rest)
  if month = 0 ∨ 12 < month ∨ dayOfMonth = 0 ∨ daysInMonth year month < dayOfMonth then
    none
  else some (daysOfDate year month dayOfMonth, rest)

/-- Read hours, minutes and possibly seconds with a fraction, as microseconds. -/
def takeTime? (text : List Char) : Option (Int × List Char) := do
  let (hours, rest) <- takeNumber? 2 text
  let (minutes, rest) <- takeNumber? 2 (<- takeChar? ':' rest)
  if 23 < hours ∨ 59 < minutes then none
  let minutesOfDay : Int := hours * 60 + minutes
  match rest with
  | ':' :: rest =>
    let (seconds, rest) <- takeNumber? 2 rest
    if 59 < seconds then none
    let wholeTime := (minutesOfDay * 60 + seconds) * second
    match rest with
    | mark :: rest =>
      if mark = '.' ∨ mark = ',' then
        let (digits, rest) := Text.spanDigits rest
        if digits.isEmpty then none
        else some (wholeTime + Text.numberOf ((digits ++ List.replicate 6 0).take 6), rest)
      else some (wholeTime, mark :: rest)
    | [] => some (wholeTime, [])
  | rest => some (minutesOfDay * 60 * second, rest)

/-- Read the whole of an offset; seconds in it are allowed only where `withSeconds` says so. -/
def offset? (withSeconds : Bool) : List Char -> Option Int
  | ['Z'] => some 0
  | ['z'] => some 0
  | sign :: rest => do
    let negative <-
      if sign = '+' then some false
      else if sign = '-' ∨ sign = '\u2212' then some true
      else none
    let (hours, rest) <- takeNumber? 2 rest
    let (minutes, rest) <- takeNumber? 2 ((takeChar? ':' rest).getD rest)
    if 23 < hours ∨ 59 < minutes then none
    let seconds <- match rest with
      | [] => some 0
      | ':' :: rest => do
        let (seconds, rest) <- takeNumber? 2 rest
        if withSeconds && seconds < 60 && rest.isEmpty then some seconds else none
      | _ => none
    return Text.withSign negative ((hours * 60 + minutes) * 60 + seconds)
  | [] => none

/-- Read a moment. -/
def ofText? (withSeconds : Bool) (text : List Char) : Option Moment := do
  let (days, rest) <- takeDate? text
  match rest with
  | [] => return ⟨days * day, none⟩
  | separator :: rest =>
    if separator ∉ ['T', 't', ' ', '_'] then none
    let (time, rest) <- takeTime? rest
    let offset <- if rest.isEmpty then some none else (offset? withSeconds rest).map some
    return ⟨days * day + time, offset⟩

/-- Counts beyond this, in either direction, are counts of milliseconds and not of seconds. -/
def secondsLimit : Int := 20000000000

/-- The moment in universal time at an instant, if it lies in the years 0 to 9999. -/
def ofInstant? (instant : Int) : Option Moment :=
  if -62167219200 * second ≤ instant ∧ instant < 253402300800 * second then
    some (ofInstant instant)
  else none

/-- The moment so many seconds or milliseconds after the start of 1970. -/
def ofEpoch? (count : Int) : Option Moment :=
  ofInstant? (count * (if count.natAbs ≤ secondsLimit.toNat then second else second / 1000))

/-- The moment a fractional number of seconds or milliseconds after the start of 1970, to the
microsecond: the fraction of the number below counts forward from there, a half is rounded up. -/
def ofEpochDouble? : Double -> Option Moment
  | .finite negative mantissa exponent =>
    let (top, bottom) := Double.magnitude mantissa exponent
    let unit := if top ≤ secondsLimit.toNat * bottom then second else second / 1000
    let numerator := Text.withSign negative top
    let whole := numerator / bottom
    let micros := (Double.ofQuotient (numerator % bottom * unit) bottom).rounded
    ofInstant? (whole * unit + micros)
  | _ => none

end Introspection.Moment
