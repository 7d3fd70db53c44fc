import Introspection.Double
import Mathlib.Algebra.Order.Field.Power
import Mathlib.Algebra.Order.Ring.Rat
import Mathlib.Tactic.NormNum
import Mathlib.Tactic.Positivity
import Mathlib.Tactic.Ring

/-!
# The range of binary floating point

A number that a fraction is rounded to has a mantissa of at most 2^53 (`mantissa_le`): the exponent
is chosen so that the fraction, divided by its power of two, comes out below 2^53. With the greatest
exponent this bounds the integer part of every quotient that is finite (`natAbs_truncate?_le`).
-/

namespace Introspection

namespace Double

variable {numerator denominator : Nat}

/-- A scaled fraction is below a power of two when the fraction is below the power with the
exponent of the scale added. -/
theorem scaled_lt_iff (numerator denominator bits : Nat) (exponent : Int) :
    (scaled numerator denominator exponent).1 <
        (scaled numerator denominator exponent).2 * 2 ^ bits ↔
      (numerator : ℚ) < denominator * 2 ^ (bits + exponent : Int) := by
  have two : (2 : ℚ) ≠ 0 := by decide
  unfold scaled
  split
  · next nonneg =>
    obtain ⟨power, rfl⟩ := Int.eq_ofNat_of_zero_le nonneg
    rw [← @Nat.cast_lt ℚ, zpow_add₀ two]
    simp only [Nat.pow_eq, Int.toNat_natCast, Nat.cast_mul, Nat.cast_pow, Nat.cast_ofNat,
      zpow_natCast]
    rw [mul_assoc, mul_comm ((2 : ℚ) ^ power)]
  · next negative =>
    obtain ⟨power, rfl⟩ : ∃ power : Nat, exponent = -power := ⟨(-exponent).toNat, by omega⟩
    rw [← @Nat.cast_lt ℚ, zpow_add₀ two, zpow_neg]
    simp only [Nat.pow_eq, neg_neg, Int.toNat_natCast, Nat.cast_mul, Nat.cast_pow, Nat.cast_ofNat,
      zpow_natCast]
    rw [← mul_assoc, lt_mul_inv_iff₀ (by positivity)]

/-- A fraction is below a power of two that the logarithms of its parts give. -/
theorem lt_of_log2 (denominatorPos : 0 < denominator) :
    (numerator : ℚ) <
      denominator * 2 ^ ((numerator.log2 : Int) - (denominator.log2 : Int) + 1) := by
  have two : (2 : ℚ) ≠ 0 := by decide
  have above : (numerator : ℚ) < 2 ^ (numerator.log2 + 1) := by
    exact_mod_cast Nat.lt_log2_self
  have below : (2 : ℚ) ^ denominator.log2 ≤ denominator := by
    exact_mod_cast Nat.log2_self_le denominatorPos.ne'
  calc (numerator : ℚ)
    _ < 2 ^ (numerator.log2 + 1) := above
    _ = 2 ^ denominator.log2 * 2 ^ ((numerator.log2 : Int) - (denominator.log2 : Int) + 1) := by
      rw [← zpow_natCast, ← zpow_natCast, ← zpow_add₀ two]
      congr 1
      push_cast
      ring
    _ ≤ denominator * 2 ^ ((numerator.log2 : Int) - (denominator.log2 : Int) + 1) :=
      mul_le_mul_of_nonneg_right below (by positivity)

/-- The exponent of a fraction scales it to below 2^53. -/
theorem scaled_exponentOf_lt (denominatorPos : 0 < denominator) :
    (scaled numerator denominator (exponentOf numerator denominator)).1 <
      (scaled numerator denominator (exponentOf numerator denominator)).2 * 2 ^ 53 := by
  rw [scaled_lt_iff]
  have greater {exponent : Int} (fits : (numerator : ℚ) < denominator * 2 ^ (53 + exponent : Int)) :
      (numerator : ℚ) < denominator * 2 ^ (53 + max leastExponent exponent : Int) := by
    refine fits.trans_le (mul_le_mul_of_nonneg_left ?_ (by positivity))
    exact zpow_le_zpow_right₀ (by norm_num) (by omega)
  simp only [exponentOf]
  apply greater
  split
  · next small =>
    have small := (scaled_lt_iff numerator denominator 52 _).mp small
    convert small using 3
    push_cast
    ring
  · convert lt_of_log2 denominatorPos using 3
    ring

/-- The nearest integer is at most one above the quotient. -/
theorem nearestQuotient_le (top bottom : Nat) : nearestQuotient top bottom ≤ top / bottom + 1 := by
  unfold nearestQuotient
  dsimp only
  split
  · omega
  · split
    · omega
    · omega

/-- The mantissa and the exponent of what a fraction is rounded to. -/
theorem mantissa_le (denominatorPos : 0 < denominator) {sign negative : Bool} {mantissa : Nat}
    {exponent : Int}
    (rounded : ofFraction sign numerator denominator = .finite negative mantissa exponent) :
    mantissa ≤ 2 ^ 53 ∧ exponent ≤ greatestExponent := by
  revert rounded
  fun_cases ofFraction sign numerator denominator with
  | case1 =>
    rintro ⟨⟩
    exact ⟨Nat.zero_le _, by decide⟩
  | case2 =>
    rintro ⟨⟩
  | case3 _ scale top bottom isScaled whole carried after parts bounded =>
    have scaled : (Double.scaled numerator denominator scale).1 <
        (Double.scaled numerator denominator scale).2 * 2 ^ 53 :=
      scaled_exponentOf_lt denominatorPos
    rw [isScaled] at scaled
    have nearest : whole ≤ 2 ^ 53 :=
      (nearestQuotient_le top bottom).trans (Nat.div_lt_of_lt_mul scaled)
    rintro ⟨⟩
    refine ⟨?_, Int.not_lt.mp bounded⟩
    -- A mantissa of 2^53 is carried over into the exponent.
    split at parts
    · rw [← (Prod.mk.inj parts).1]
      exact Nat.pow_le_pow_right (by decide) (by decide)
    · rw [← (Prod.mk.inj parts).1]
      exact nearest

/-- The integer part of a quotient that is finite is within the range of the format. -/
theorem natAbs_truncate?_le {quotient : Int} (denominatorPos : 0 < denominator) {value : Int}
    (truncated : (ofQuotient quotient denominator).truncate? = some value) :
    value.natAbs ≤ 2 ^ 53 * 2 ^ greatestExponent.toNat := by
  cases rounded : ofQuotient quotient denominator with
  | infinite negative =>
    rw [rounded] at truncated
    cases truncated
  | nan =>
    rw [rounded] at truncated
    cases truncated
  | finite negative mantissa exponent =>
    obtain ⟨small, bounded⟩ := mantissa_le denominatorPos rounded
    have natAbs (magnitude : Nat) : (signedInt negative magnitude).natAbs = magnitude := by
      cases negative <;> simp [signedInt]
    simp only [rounded, truncate?, magnitude] at truncated
    split at truncated
    · obtain rfl := Option.some.inj truncated
      have power : 2 ^ exponent.toNat ≤ 2 ^ greatestExponent.toNat :=
        Nat.pow_le_pow_right (by decide) (Int.toNat_le_toNat bounded)
      rw [natAbs, Nat.div_one]
      exact Nat.mul_le_mul small power
    · obtain rfl := Option.some.inj truncated
      rw [natAbs]
      exact (Nat.div_le_self _ _).trans
        (small.trans (Nat.le_mul_of_pos_right _ (Nat.two_pow_pos _)))

end Double

end Introspection
