import Introspection.Double
import Introspection.Text.Integer

/-!
# Points in time

A moment is a reading of clock and calendar to the microsecond with the offset from universal
time that it was given with, if any. Moments are compared by the instant they denote, and the
whole seconds of an instant are taken from its quotient in binary floating point.
-/

namespace Introspection

/-- A reading of clock and calendar, in microseconds since the start of 1970, and its offset from
universal time in seconds, positive to the east. -/
structure Moment where
  reading : Int
  offset : Option Int
  deriving DecidableEq, Repr, Inhabited

namespace Moment

/-- Microseconds of a second. -/
def second : Int := 1000000

/-- Microseconds of a day. -/
def day : Int := 86400 * second

/-- The start of the year 1, which no moment of a record precedes. -/
def firstReading : Int := -62135596800 * second

/-- The instant, in microseconds since the start of 1970 in universal time. A moment without an
offset is taken to be in universal time. -/
def instant (moment : Moment) : Int := moment.reading - moment.offset.getD 0 * second

/-- The moment in universal time at an instant. -/
def ofInstant (instant : Int) : Moment := ⟨instant, some 0⟩

/-- Whole seconds since the start of 1970: the instant in seconds, rounded to the nearest number
in binary floating point, without its fraction. -/
def wholeSeconds (moment : Moment) : Int :=
  ((Double.ofQuotient moment.instant 1000000).truncate?).getD 0

/-- Whether a time of expiry, if there is one, lies after a moment. -/
def isAfter (expiry : Option Moment) (now : Moment) : Bool :=
  match expiry with
  | none => true
  | some expiry => now.instant < expiry.instant

/-- Whether a year has a 29th of February. -/
def isLeapYear (year : Int) : Bool := year % 4 == 0 && (year % 100 != 0 || year % 400 == 0)

/-- The days of a month. -/
def daysInMonth (year : Int) (month : Nat) : Nat :=
  if month = 2 then (if isLeapYear year then 29 else 28)
  else if month = 4 ∨ month = 6 ∨ month = 9 ∨ month = 11 then 30
  else 31

/-- The days from the start of 1970 to a date. Years are counted from March here, so that the
29th of February is the last day of its year, in eras of 400 years. -/
def daysOfDate (year : Int) (month day : Nat) : Int :=
  let year := if month ≤ 2 then year - 1 else year
  let era := year / 400
  let yearOfEra := year % 400
  let monthFromMarch : Int := (month + 9) % 12
  let dayOfYear := (153 * monthFromMarch + 2) / 5 + day - 1
  let dayOfEra := yearOfEra * 365 + yearOfEra / 4 - yearOfEra / 100 + dayOfYear
  era * 146097 + dayOfEra - 719468

/-- Year, month and day so many days after the start of 1970. -/
def dateOfDays (days : Int) : Int × Nat × Nat :=
  let days := days + 719468
  let era := days / 146097
  let dayOfEra := days % 146097
  let yearOfEra := (dayOfEra - dayOfEra / 1460 + dayOfEra / 36524 - dayOfEra / 146096) / 365
  let dayOfYear := dayOfEra - (365 * yearOfEra + yearOfEra / 4 - yearOfEra / 100)
  let monthFromMarch := (5 * dayOfYear + 2) / 153
  let day := dayOfYear - (153 * monthFromMarch + 2) / 5 + 1
  let month := if monthFromMarch < 10 then monthFromMarch + 3 else monthFromMarch - 9
  let year := yearOfEra + era * 400 + (if month ≤ 2 then 1 else 0)
  (year, month.toNat, day.toNat)

end Moment

end Introspection
