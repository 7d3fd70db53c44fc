import Introspection.Moment
import Introspection.Proofs.Double.Rounding

/-!
# Whole seconds of a moment

The whole seconds of an instant pass through binary floating point, where they are rounded, and
then lose their fraction towards the start of 1970. Both keep the order of instants, so a moment of
the calendar that is later than another one has no fewer whole seconds (`wholeSeconds_mono`). The
offset that a moment is written with does not show in them.
-/

namespace Introspection.Moment

/-- The end of the year 9999, after which the calendar has no readings. -/
def endReading : Int := 253402300800 * second

/-- A moment of the calendar: its reading is in the years 1 to 9999, and its offset is less than a
day. -/
structure IsDate (moment : Moment) : Prop where
  notBefore : firstReading ≤ moment.reading
  before : moment.reading < endReading
  offset : (moment.offset.getD 0).natAbs < 86400

variable {moment earlier later : Moment}

/-- Instants of the calendar are so few that all whole seconds among them are numbers of the
format, and halves of them as well. -/
theorem IsDate.natAbs_instant_lt (date : moment.IsDate) :
    moment.instant.natAbs < 1000000 * 2 ^ 52 := by
  obtain ⟨notBefore, before, offset⟩ := date
  unfold firstReading second at notBefore
  unfold endReading second at before
  unfold instant second
  omega

/-- The whole seconds of a moment of the calendar are those of a finite number. -/
theorem IsDate.wholeSeconds_eq (date : moment.IsDate) :
    ∃ value, (Double.ofQuotient moment.instant 1000000).value? = some value ∧
      moment.wholeSeconds = Double.wholePart value := by
  have few := date.natAbs_instant_lt
  obtain ⟨value, isValue⟩ : ∃ value,
      (Double.ofQuotient moment.instant 1000000).value? = some value :=
    Double.exists_value?_ofQuotient (by decide) (by omega)
  refine ⟨value, isValue, ?_⟩
  rw [wholeSeconds, Double.truncate?_eq_some isValue, Option.getD_some]

/-- A later moment of the calendar has no fewer whole seconds. -/
theorem wholeSeconds_mono (date : earlier.IsDate) (laterDate : later.IsDate)
    (passed : earlier.instant ≤ later.instant) :
    earlier.wholeSeconds ≤ later.wholeSeconds := by
  obtain ⟨value, isValue, whole⟩ := date.wholeSeconds_eq
  obtain ⟨laterValue, isLater, laterWhole⟩ := laterDate.wholeSeconds_eq
  rw [whole, laterWhole]
  exact Double.wholePart_mono (Double.ofQuotient_mono (by decide) passed isValue isLater)

/-- The moment of the same instant in universal time. -/
def inUniversalTime (moment : Moment) : Moment := ofInstant moment.instant

@[simp] theorem instant_inUniversalTime (moment : Moment) :
    moment.inUniversalTime.instant = moment.instant := by
  simp [inUniversalTime, ofInstant, instant]

/-- A time of expiry is after the present or not, whichever offset it is written with. -/
@[simp] theorem isAfter_inUniversalTime (expiry : Option Moment) (now : Moment) :
    isAfter (expiry.map inUniversalTime) now = isAfter expiry now := by
  cases expiry with
  | none => rfl
  | some expiry => simp [isAfter]

/-- Whole seconds are those of the instant, whichever offset a moment is written with. -/
@[simp] theorem wholeSeconds_inUniversalTime (moment : Moment) :
    moment.inUniversalTime.wholeSeconds = moment.wholeSeconds := by
  simp [wholeSeconds]

end Introspection.Moment
