import Introspection.Proofs.Double.Carry
import Introspection.Proofs.Session.Deadline

/-!
# How exactly a time of expiry is told

What is told of a time of expiry are whole seconds. They should be the last ones that the token is
live for, so that whoever keeps to them never takes it for live when it has expired. They are, for
all times from 1970 on to the year 2514 (`ExpiryTold.near`), and they are off by no more than a
second for any time of the calendar (`ExpiryTold.close`).

They are not always, for two reasons (`ExpiryTold.isFloor_iff`). Fractions of a second are taken
away towards the start of 1970, and before it this is the wrong direction. And the seconds with
their fraction are rounded to a floating-point number at first. From 2^34 seconds on these are more
than two microseconds apart, and the last microseconds before a whole second are rounded to this
second. The end of the year 9999, which is at times stored to say that a token does not expire, is
among them (`expiry_outlived`).
-/

namespace Introspection

namespace Moment

variable {moment : Moment}

/-- A number of seconds is the last whole one not after a moment. -/
def IsFloor (seconds : Int) (moment : Moment) : Prop :=
  seconds * second ≤ moment.instant ∧ moment.instant < (seconds + 1) * second

/-- The seconds of a moment are rounded to the whole number that is the next away from zero. -/
def Carries (moment : Moment) : Prop := Double.Carries moment.instant.natAbs 1000000

instance (moment : Moment) : Decidable moment.Carries :=
  inferInstanceAs (Decidable (Double.Carries _ _))

/-- The magnitude of the whole seconds that a moment is told as. -/
def toldMagnitude (moment : Moment) : Nat :=
  moment.instant.natAbs / 1000000 + if moment.Carries then 1 else 0

/-- The whole seconds of a moment of the calendar, with their sign. -/
theorem IsDate.wholeSeconds_eq_signed (date : moment.IsDate) :
    moment.wholeSeconds = Double.signedInt (moment.instant < 0) moment.toldMagnitude := by
  rw [wholeSeconds, Double.truncate?_ofQuotient (by decide) (by decide) date.natAbs_instant_lt,
    Option.getD_some]
  rfl

/-- The seconds of a moment have no more bits than the bound on it. -/
theorem log2_seconds_lt {bits : Nat} (positive : 0 < bits)
    (below : moment.instant.natAbs < 1000000 * 2 ^ bits) :
    (moment.instant.natAbs / 1000000).log2 < bits := by
  by_cases zero : moment.instant.natAbs / 1000000 = 0
  · rw [zero, Nat.log2_zero]
    exact positive
  · exact (Nat.log2_lt zero).mpr (Nat.div_lt_of_lt_mul below)

/-- A moment without a fraction of a second does not carry. -/
theorem IsDate.not_carries_of_dvd (date : moment.IsDate) (whole : second ∣ moment.instant) :
    ¬ moment.Carries := by
  have bits := log2_seconds_lt (by decide) date.natAbs_instant_lt
  have rest : moment.instant.natAbs % 1000000 = 0 :=
    Nat.mod_eq_zero_of_dvd (Int.natAbs_dvd_natAbs.mpr whole)
  have power : 2 ^ 1 ≤ 2 ^ (53 - (moment.instant.natAbs / 1000000).log2) :=
    Nat.pow_le_pow_right (by decide) (by omega)
  rw [Carries, Double.Carries, rest]
  omega

/-- A moment within 2^34 seconds of the start of 1970 does not carry: the numbers there are less
than two microseconds apart. -/
theorem not_carries_of_near (near : moment.instant.natAbs < 1000000 * 2 ^ 34) :
    ¬ moment.Carries := by
  have bits := log2_seconds_lt (by decide) near
  have distancePos : 1 ≤ 1000000 - moment.instant.natAbs % 1000000 := by omega
  have power : 2 ^ 20 ≤ 2 ^ (53 - (moment.instant.natAbs / 1000000).log2) :=
    Nat.pow_le_pow_right (by decide) (by omega)
  have product := Nat.mul_le_mul distancePos power
  rw [Carries, Double.Carries]
  omega

/-- A moment has no fraction of a second where its magnitude has none. -/
theorem second_dvd_iff : second ∣ moment.instant ↔ moment.instant.natAbs % 1000000 = 0 := by
  unfold second
  omega

/-- The whole seconds of a moment of the calendar are a magnitude before or after 1970. -/
theorem IsDate.wholeSeconds_cases (date : moment.IsDate) :
    (0 ≤ moment.instant ∧ moment.wholeSeconds = moment.toldMagnitude) ∨
      (moment.instant < 0 ∧ moment.wholeSeconds = -moment.toldMagnitude) := by
  rw [date.wholeSeconds_eq_signed, Double.signedInt]
  by_cases before : moment.instant < 0
  · exact .inr ⟨before, by simp [before]⟩
  · exact .inl ⟨not_lt.mp before, by simp [before]⟩

/-- The magnitude is one more than it should be where a moment carries. Then the moment has a
fraction of a second. -/
theorem IsDate.toldMagnitude_cases (date : moment.IsDate) :
    (moment.Carries ∧ moment.instant.natAbs % 1000000 ≠ 0 ∧
        moment.toldMagnitude = moment.instant.natAbs / 1000000 + 1) ∨
      (¬ moment.Carries ∧ moment.toldMagnitude = moment.instant.natAbs / 1000000) := by
  by_cases carries : moment.Carries
  · refine .inl ⟨carries, fun none => ?_, by rw [toldMagnitude, if_pos carries]⟩
    exact date.not_carries_of_dvd (second_dvd_iff.mpr none) carries
  · exact .inr ⟨carries, by rw [toldMagnitude, if_neg carries, Nat.add_zero]⟩

/-- Where the whole seconds of a moment of the calendar are the last ones not after it. -/
theorem IsDate.isFloor_iff (date : moment.IsDate) :
    IsFloor moment.wholeSeconds moment ↔
      (0 ≤ moment.instant ∧ ¬ moment.Carries) ∨
        (moment.instant < 0 ∧ (second ∣ moment.instant ∨ moment.Carries)) := by
  have magnitude := date.toldMagnitude_cases
  rw [second_dvd_iff]
  unfold IsFloor second
  rcases date.wholeSeconds_cases with ⟨since, isTold⟩ | ⟨before, isTold⟩
  · -- From 1970 on, the seconds are right unless they are rounded up.
    rcases magnitude with ⟨carries, _, isValue⟩ | ⟨keeps, isValue⟩
    · simp only [carries, not_true_eq_false, and_false, or_true, and_true, false_or]
      omega
    · simp only [keeps, not_false_eq_true, and_true, or_false]
      omega
  · -- Before 1970, they are wrong unless there is no fraction, or it is rounded away from zero.
    rcases magnitude with ⟨carries, fraction, isValue⟩ | ⟨keeps, isValue⟩
    · simp only [carries, not_true_eq_false, and_false, or_true, and_true, false_or]
      omega
    · simp only [keeps, not_false_eq_true, and_true, or_false]
      omega

end Moment

open Moment (second IsFloor)

/-- What is told of a time of expiry. -/
structure ExpiryTold (expiry : Moment) (seconds : Int) : Prop where
  /-- These are its seconds without their fraction, or one more, with its sign. -/
  isSigned : seconds = Double.signedInt (expiry.instant < 0) expiry.toldMagnitude
  /-- Where they are right, and where not. -/
  isFloor_iff : IsFloor seconds expiry ↔
    (0 ≤ expiry.instant ∧ ¬ expiry.Carries) ∨
      (expiry.instant < 0 ∧ (second ∣ expiry.instant ∨ expiry.Carries))
  /-- They are right, or else they are one more than what is right. -/
  close : IsFloor seconds expiry ∨ IsFloor (seconds - 1) expiry
  /-- A time of expiry without a fraction of a second is told as it is. -/
  whole : second ∣ expiry.instant -> seconds * second = expiry.instant
  /-- From the start of 1970 on, they are right for 2^34 seconds. -/
  near : 0 ≤ expiry.instant -> expiry.instant < 2 ^ 34 * second -> IsFloor seconds expiry

/-- The whole seconds of a moment of the calendar are what is told. -/
theorem Moment.IsDate.expiryTold {expiry : Moment} (date : expiry.IsDate) :
    ExpiryTold expiry expiry.wholeSeconds := by
  have told := date.wholeSeconds_cases
  have magnitude := date.toldMagnitude_cases
  constructor
  · exact date.wholeSeconds_eq_signed
  · exact date.isFloor_iff
  · unfold IsFloor second
    rcases magnitude with ⟨_, fraction, isValue⟩ | ⟨_, isValue⟩
    · omega
    · omega
  · rw [Moment.second_dvd_iff]
    intro whole
    unfold second
    rcases magnitude with ⟨_, fraction, _⟩ | ⟨_, isValue⟩
    · exact absurd whole fraction
    · omega
  · intro since before
    refine date.isFloor_iff.mpr (.inl ⟨since, Moment.not_carries_of_near ?_⟩)
    unfold second at before
    omega

namespace Decision

variable {issuer : Json} {token : SubjectToken} {user : Option UserContext} {told : Answer}
  {expiry : Moment}

/-- Of every token that expires at a moment of the calendar its time of expiry is told, and this is
how exactly. -/
theorem assemble_expiry (assembled : assemble issuer token user = .ok told)
    (expires : token.grant.expiresAt = some expiry) (date : expiry.IsDate) :
    ∃ seconds, told.payload.get? "exp" = some (.int seconds) ∧ ExpiryTold expiry seconds := by
  obtain ⟨name, rfl⟩ := exists_answer_of_assemble assembled
  refine ⟨expiry.wholeSeconds, ?_, date.expiryTold⟩
  rw [Answer.get?_exp rfl, answer, expires]
  rfl

/-- An access token that expires at a moment. -/
def expiringToken (expiry : Moment) : SubjectToken :=
  .access ⟨"t-1", ⟨"shop", .empty, none, some expiry⟩, defaultTokenType⟩

/-- A token that expires half a second before 1970 is told about as expiring at its start. -/
theorem assemble_expiry_before :
    ∃ told, assemble .null (expiringToken ⟨-500000, some 0⟩) none = .ok told ∧
      told.payload.get? "exp" = some (.int 0) ∧ ExpiryTold ⟨-500000, some 0⟩ 0 := by
  have date : (⟨-500000, some 0⟩ : Moment).IsDate := ⟨by decide, by decide, by decide⟩
  have isWhole : (⟨-500000, some 0⟩ : Moment).wholeSeconds = 0 := by decide +kernel
  have assembled : assemble .null (expiringToken ⟨-500000, some 0⟩) none =
      .ok (answer none (expiringToken ⟨-500000, some 0⟩) none) := rfl
  have isTold : (answer none (expiringToken ⟨-500000, some 0⟩) none).payload.get? "exp" =
      some (.int 0) := by
    rw [← isWhole]
    rfl
  obtain ⟨seconds, same, law⟩ := assemble_expiry assembled rfl date
  obtain rfl := Json.int.inj (Option.some.inj (isTold.symm.trans same))
  exact ⟨_, assembled, isTold, law⟩

/-- The last microsecond of the year 9999. -/
def endOfCalendar : Moment := ⟨Moment.endReading - 1, some 0⟩

/-- A token that expires at the end of the calendar is told about as expiring a microsecond
later. -/
theorem expiry_outlived :
    endOfCalendar.IsDate ∧
      ∃ told seconds, assemble .null (expiringToken endOfCalendar) none = .ok told ∧
        told.payload.get? "exp" = some (.int seconds) ∧
          endOfCalendar.instant < seconds * second ∧ ¬ IsFloor seconds endOfCalendar := by
  have date : endOfCalendar.IsDate := ⟨by decide, by decide, by decide⟩
  have isWhole : endOfCalendar.wholeSeconds = 253402300800 := by decide +kernel
  have outlived : endOfCalendar.instant < 253402300800 * second := by decide
  refine ⟨date, _, 253402300800, rfl, ?_, outlived, fun right => ?_⟩
  · rw [← isWhole]
    rfl
  · exact absurd right.1 (not_le.mpr outlived)

end Decision

end Introspection
