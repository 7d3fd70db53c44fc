import Introspection.Json
import Introspection.Proofs.Double.Rounding
import Mathlib.Algebra.Order.Ring.Cast
import Mathlib.Order.Compare
import Mathlib.Order.WithBot

/-!
# The order of numbers

Numbers of JSON have their places among the rationals, with the infinite ones at both ends
(`Json.Number.value?`), apart from the one that is no number. They compare as these places do
(`Json.Number.compare?_eq`), without any rounding, whole numbers and others alike.
-/

namespace Introspection

/-- The rationals with an end on both sides. -/
abbrev Extended : Type := WithBot (WithTop ℚ)

namespace Extended

/-- A rational between the ends. -/
def ofRat (value : ℚ) : Extended := WithBot.some (WithTop.some value)

theorem ofRat_strictMono : StrictMono ofRat := WithBot.coe_strictMono.comp WithTop.coe_strictMono

theorem bot_lt_ofRat (value : ℚ) : ⊥ < ofRat value := WithBot.bot_lt_coe _

theorem ofRat_lt_top (value : ℚ) : ofRat value < ⊤ :=
  WithBot.coe_lt_coe.mpr (WithTop.coe_lt_top value)

end Extended

namespace Double

/-- The place of a number, infinite ones included. -/
def extended? : Double -> Option Extended
  | .infinite negative => some (if negative then ⊥ else ⊤)
  | number => number.value?.map Extended.ofRat

theorem extended?_finite (negative : Bool) (mantissa : Nat) (exponent : Int) :
    (finite negative mantissa exponent).extended? =
      some (Extended.ofRat (signed negative (mantissa * 2 ^ exponent))) := rfl

theorem denominator_magnitude_pos (mantissa : Nat) (exponent : Int) :
    0 < (magnitude mantissa exponent).2 := by
  unfold magnitude
  split
  · exact Nat.one_pos
  · exact Nat.two_pow_pos _

/-- A signed fraction of the parts of a magnitude is the value. -/
theorem signedInt_div (negative : Bool) (mantissa : Nat) (exponent : Int) :
    (signedInt negative (magnitude mantissa exponent).1 : ℚ) / (magnitude mantissa exponent).2 =
      signed negative (mantissa * 2 ^ exponent) := by
  rw [← magnitude_eq]
  cases negative with
  | false => simp [signedInt, signed]
  | true => simp [signedInt, signed, neg_div]

/-- Fractions compare as their cross products do. -/
theorem compare_cross (top other : Int) {bottom otherBottom : Nat} (bottomPos : 0 < bottom)
    (otherPos : 0 < otherBottom) :
    compare (top * otherBottom) (other * bottom) =
      cmp ((top : ℚ) / bottom) ((other : ℚ) / otherBottom) := by
  have bottomPosRat : (0 : ℚ) < bottom := by exact_mod_cast bottomPos
  have otherPosRat : (0 : ℚ) < otherBottom := by exact_mod_cast otherPos
  have first : ((top * otherBottom : Int) : ℚ) = top / bottom * (bottom * otherBottom) := by
    push_cast
    field_simp
  have second : ((other * bottom : Int) : ℚ) = other / otherBottom * (bottom * otherBottom) := by
    push_cast
    field_simp
  rw [← cmp_eq_compare, ← Int.cast_strictMono (R := ℚ) |>.cmp_map_eq, first, second,
    cmp_mul_pos_right (mul_pos bottomPosRat otherPosRat)]

/-- A number compares with an integer as their places do. -/
theorem compareInt_eq (number : Double) (n : Int) :
    number.compareInt n = number.extended?.map fun place => cmp place (Extended.ofRat n) := by
  cases number with
  | nan => rfl
  | infinite negative =>
    cases negative with
    | true => exact congrArg some (Extended.bot_lt_ofRat n).cmp_eq_lt.symm
    | false => exact congrArg some (Extended.ofRat_lt_top n).cmp_eq_gt.symm
  | finite negative mantissa exponent =>
    have crossed := compare_cross (signedInt negative (magnitude mantissa exponent).1) n
      (denominator_magnitude_pos mantissa exponent) Nat.one_pos
    rw [signedInt_div, Nat.cast_one, Nat.cast_one, mul_one, div_one] at crossed
    rw [extended?_finite, Option.map_some, Extended.ofRat_strictMono.cmp_map_eq, ← crossed]
    rfl

/-- Two numbers compare as their places do. -/
theorem compare?_eq (number other : Double) :
    number.compare? other =
      number.extended?.bind fun place => other.extended?.map fun otherPlace =>
        cmp place otherPlace := by
  cases number with
  | nan => cases other <;> rfl
  | infinite negative =>
    cases other with
    | nan => rfl
    | infinite otherNegative => cases negative <;> cases otherNegative <;> decide
    | finite otherNegative mantissa exponent =>
      cases negative with
      | true => exact congrArg some (Extended.bot_lt_ofRat _).cmp_eq_lt.symm
      | false => exact congrArg some (Extended.ofRat_lt_top _).cmp_eq_gt.symm
  | finite negative mantissa exponent =>
    cases other with
    | nan => rfl
    | infinite otherNegative =>
      cases otherNegative with
      | true => exact congrArg some (Extended.bot_lt_ofRat _).cmp_eq_gt.symm
      | false => exact congrArg some (Extended.ofRat_lt_top _).cmp_eq_lt.symm
    | finite otherNegative otherMantissa otherExponent =>
      have crossed := compare_cross (signedInt negative (magnitude mantissa exponent).1)
        (signedInt otherNegative (magnitude otherMantissa otherExponent).1)
        (denominator_magnitude_pos mantissa exponent)
        (denominator_magnitude_pos otherMantissa otherExponent)
      rw [signedInt_div, signedInt_div] at crossed
      rw [extended?_finite, extended?_finite, Option.bind_some, Option.map_some,
        Extended.ofRat_strictMono.cmp_map_eq, ← crossed]
      rfl

end Double

namespace Json.Number

/-- The place of a number. -/
def value? : Number -> Option Extended
  | .int value => some (Extended.ofRat value)
  | .double value => value.extended?

/-- Two numbers compare as their places do. -/
theorem compare?_eq (a b : Number) :
    a.compare? b = a.value?.bind fun place => b.value?.map fun other => cmp place other := by
  cases a with
  | int a =>
    cases b with
    | int b =>
      have cast := (Int.cast_strictMono (R := ℚ)).cmp_map_eq a b
      rw [value?, value?, Option.bind_some, Option.map_some,
        Extended.ofRat_strictMono.cmp_map_eq, cast, cmp_eq_compare]
      rfl
    | double b =>
      rw [compare?, Double.compareInt_eq, value?, value?, Option.bind_some, Option.map_map]
      congr 1
      funext place
      exact cmp_swap place _
  | double a =>
    cases b with
    | int b => rw [compare?, Double.compareInt_eq, value?, value?, Option.map_eq_bind]; rfl
    | double b => exact a.compare?_eq b

/-- A number is below another one: both have a place, and that of the first comes before. -/
def IsBelow (a b : Number) : Prop :=
  ∃ place other, a.value? = some place ∧ b.value? = some other ∧ place < other

theorem compare?_eq_lt_iff {a b : Number} : a.compare? b = some .lt ↔ a.IsBelow b := by
  rw [compare?_eq, Option.bind_eq_some_iff]
  constructor
  · rintro ⟨place, isPlace, compared⟩
    obtain ⟨other, isOther, less⟩ := Option.map_eq_some_iff.mp compared
    exact ⟨place, other, isPlace, isOther, (cmp_eq_lt_iff _ _).mp less⟩
  · rintro ⟨place, other, isPlace, isOther, less⟩
    exact ⟨place, isPlace, Option.map_eq_some_iff.mpr ⟨other, isOther, less.cmp_eq_lt⟩⟩

theorem compare?_eq_gt_iff {a b : Number} : a.compare? b = some .gt ↔ b.IsBelow a := by
  rw [compare?_eq, Option.bind_eq_some_iff]
  constructor
  · rintro ⟨place, isPlace, compared⟩
    obtain ⟨other, isOther, greater⟩ := Option.map_eq_some_iff.mp compared
    exact ⟨other, place, isOther, isPlace, (cmp_eq_gt_iff _ _).mp greater⟩
  · rintro ⟨other, place, isOther, isPlace, greater⟩
    exact ⟨place, isPlace, Option.map_eq_some_iff.mpr ⟨other, isOther, greater.cmp_eq_gt⟩⟩

end Json.Number

end Introspection
