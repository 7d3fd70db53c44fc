import Introspection.Proofs.Double.Rounding

/-!
# The integer part of a rounded fraction

A fraction is rounded to a multiple of a power of two. Below 2^52 all whole numbers are such
multiples, so that rounding does not go past the whole numbers on either side of the fraction: its
integer part stays as it is, or else becomes the next number (`floor_nearest`). The latter is where
the fraction is no further from the next number than half the distance of the multiples
(`Carries`), and since these are the wider apart the larger the fraction is, it is a matter of size.
-/

namespace Introspection.Double

variable {numerator denominator : Nat}

/-- A fraction is rounded to the next whole number. Its distance from this number is at most half
the distance of the floating-point numbers of its size. -/
def Carries (numerator denominator : Nat) : Prop :=
  (denominator - numerator % denominator) * 2 ^ (53 - (numerator / denominator).log2) ≤ denominator

instance (numerator denominator : Nat) : Decidable (Carries numerator denominator) :=
  inferInstanceAs (Decidable (_ ≤ _))

/-- An even number is not above the nearest integer to a quotient where it is at most a half above
the quotient. -/
theorem even_le_nearestQuotient_iff {top bottom whole : Nat} (positive : 0 < bottom)
    (even : whole % 2 = 0) :
    whole ≤ nearestQuotient top bottom ↔ 2 * (whole * bottom) ≤ 2 * top + bottom := by
  have parts := Nat.div_add_mod top bottom
  have rest := Nat.mod_lt top positive
  unfold nearestQuotient
  dsimp only
  generalize top / bottom = quotient at *
  generalize top % bottom = remainder at *
  obtain below | rfl | above :
      whole ≤ quotient ∨ whole = quotient + 1 ∨ quotient + 2 ≤ whole := by omega
  · have product : whole * bottom ≤ bottom * quotient := by
      rw [mul_comm bottom]
      exact Nat.mul_le_mul_right bottom below
    split_ifs <;> omega
  · have product : (quotient + 1) * bottom = bottom * quotient + bottom := by ring
    split_ifs <;> omega
  · have product : bottom * quotient + 2 * bottom ≤ whole * bottom := by
      calc bottom * quotient + 2 * bottom
        _ = (quotient + 2) * bottom := by ring
        _ ≤ whole * bottom := Nat.mul_le_mul_right bottom above
    split_ifs <;> omega

/-- The exponent of a fraction that is not too large, and what is known of its size by it. -/
structure HasPower (numerator denominator power : Nat) : Prop where
  positive : 0 < power
  exponent : exponentOf numerator denominator = -(power : Int)
  above : (numerator : ℚ) < denominator * 2 ^ (53 - power : Int)
  below : exponentOf numerator denominator ≠ leastExponent ->
    (denominator : ℚ) * 2 ^ (52 - power : Int) ≤ numerator

/-- A fraction below 2^52 is rounded to a multiple of a power below one. -/
theorem exists_hasPower (denominatorPos : 0 < denominator) (numeratorPos : numerator ≠ 0)
    (bounded : numerator < denominator * 2 ^ 52) :
    ∃ power, HasPower numerator denominator power := by
  have least_or_below := exponentOf_eq_or_le numeratorPos denominator
  have negative : exponentOf numerator denominator < 0 := by
    rcases least_or_below with least | below
    · rw [least]
      decide
    · have bound : (numerator : ℚ) < denominator * 2 ^ (52 : Int) := by exact_mod_cast bounded
      have powers := lt_of_mul_lt_mul_left (below.trans_lt bound) (by positivity)
      have exponents := (zpow_lt_zpow_iff_right₀ (by norm_num)).mp powers
      omega
  obtain ⟨power, isPower⟩ : ∃ power : Nat, exponentOf numerator denominator = -(power : Int) :=
    ⟨(-exponentOf numerator denominator).toNat, by omega⟩
  refine ⟨power, by omega, isPower, ?_, ?_⟩
  · have above : (numerator : ℚ) < denominator * 2 ^ (53 + exponentOf numerator denominator) :=
      lt_exponentOf denominatorPos
    rwa [isPower] at above
  · intro notLeast
    have below := least_or_below.resolve_left notLeast
    rwa [isPower] at below

namespace HasPower

variable {power : Nat} (has : HasPower numerator denominator power)

include has

/-- The value that the fraction is rounded to. -/
theorem nearest_eq :
    nearest numerator denominator =
      (nearestQuotient (numerator * 2 ^ power) denominator : ℚ) / (2 ^ power : Nat) := by
  have isScaled : scaled numerator denominator (-(power : Int)) =
      (numerator * 2 ^ power, denominator) := by
    have := has.positive
    rw [scaled, if_neg (by omega), neg_neg, Int.toNat_natCast, Nat.pow_eq]
  rw [nearest, has.exponent, isScaled, zpow_neg, zpow_natCast, div_eq_mul_inv, Nat.cast_pow,
    Nat.cast_ofNat]

/-- A fraction below one has a small power. -/
theorem le_of_lt (below : numerator < denominator) : 53 ≤ power := by
  by_contra large
  have notLeast : exponentOf numerator denominator ≠ leastExponent := by
    rw [has.exponent, leastExponent]
    omega
  have one : (denominator : ℚ) * 1 ≤ denominator * 2 ^ (52 - power : Int) := by
    refine mul_le_mul_of_nonneg_left (one_le_zpow₀ (by norm_num) (by omega)) (by positivity)
  have reached : (denominator : ℚ) ≤ numerator := by
    rw [mul_one] at one
    exact one.trans (has.below notLeast)
  have : denominator ≤ numerator := by exact_mod_cast reached
  omega

/-- The power of a fraction from one on is given by the logarithm of its integer part. -/
theorem log2_eq (denominatorPos : 0 < denominator) (reaches : denominator ≤ numerator) :
    (numerator / denominator).log2 + power = 52 := by
  have bounded : power ≤ 52 := by
    by_contra small
    have power_le : (2 : ℚ) ^ (53 - power : Int) ≤ 1 :=
      zpow_le_one_of_nonpos₀ (by norm_num) (by omega)
    have product : (denominator : ℚ) * 2 ^ (53 - power : Int) ≤ denominator * 1 :=
      mul_le_mul_of_nonneg_left power_le (by positivity)
    rw [mul_one] at product
    have less : (numerator : ℚ) < denominator := has.above.trans_le product
    have : numerator < denominator := by exact_mod_cast less
    omega
  have notLeast : exponentOf numerator denominator ≠ leastExponent := by
    rw [has.exponent, leastExponent]
    omega
  obtain ⟨size, isSize⟩ : ∃ size : Nat, size + power = 52 := ⟨52 - power, by omega⟩
  have lower : denominator * 2 ^ size ≤ numerator := by
    have below := has.below notLeast
    rw [show (52 - power : Int) = size by omega, zpow_natCast] at below
    exact_mod_cast below
  have upper : numerator < denominator * 2 ^ (size + 1) := by
    have above := has.above
    rw [show (53 - power : Int) = (size + 1 : Nat) by omega, zpow_natCast] at above
    exact_mod_cast above
  have isLog : (numerator / denominator).log2 = size := by
    have reached : 2 ^ size ≤ numerator / denominator :=
      (Nat.le_div_iff_mul_le denominatorPos).mpr (by rwa [mul_comm])
    rw [Nat.log2_eq_iff (by have := Nat.two_pow_pos size; omega)]
    exact ⟨reached, Nat.div_lt_of_lt_mul upper⟩
  omega

/-- The mantissa reaches the next whole number where the fraction carries. -/
theorem reaches_iff (denominatorPos : 0 < denominator) (small : denominator < 2 ^ 52) :
    (numerator / denominator + 1) * 2 ^ power ≤
        nearestQuotient (numerator * 2 ^ power) denominator ↔
      Carries numerator denominator := by
  have even : ((numerator / denominator + 1) * 2 ^ power) % 2 = 0 := by
    obtain ⟨less, rfl⟩ := Nat.exists_eq_add_one.mpr has.positive
    rw [pow_succ, ← mul_assoc, Nat.mul_mod_left]
  -- The distance from the next whole number, in parts of the denominator.
  obtain ⟨distance, isDistance⟩ : ∃ distance, distance + numerator % denominator = denominator :=
    ⟨denominator - numerator % denominator, by have := Nat.mod_lt numerator denominatorPos; omega⟩
  have distancePos : 0 < distance := by have := Nat.mod_lt numerator denominatorPos; omega
  have next : (numerator / denominator + 1) * denominator = numerator + distance := by
    have parts := Nat.div_add_mod numerator denominator
    rw [add_mul, one_mul, mul_comm]
    omega
  have isCarried : Carries numerator denominator ↔
      distance * 2 ^ (53 - (numerator / denominator).log2) ≤ denominator := by
    rw [Carries, show denominator - numerator % denominator = distance by omega]
  have isReached : (numerator / denominator + 1) * 2 ^ power ≤
      nearestQuotient (numerator * 2 ^ power) denominator ↔
        distance * 2 ^ (power + 1) ≤ denominator := by
    have product : (numerator + distance) * 2 ^ power =
        numerator * 2 ^ power + distance * 2 ^ power := add_mul ..
    have doubled : distance * 2 ^ (power + 1) = 2 * (distance * 2 ^ power) := by ring
    rw [even_le_nearestQuotient_iff denominatorPos even, mul_right_comm, next, product, doubled]
    omega
  rw [isReached, isCarried]
  have far (exponent : Nat) (large : 53 ≤ exponent) : ¬ distance * 2 ^ exponent ≤ denominator := by
    have power : 2 ^ 53 ≤ 2 ^ exponent := Nat.pow_le_pow_right (by decide) large
    have product : 1 * 2 ^ exponent ≤ distance * 2 ^ exponent :=
      Nat.mul_le_mul_right _ distancePos
    omega
  rcases Nat.lt_or_ge numerator denominator with below | reaches
  · have powerLarge := has.le_of_lt below
    rw [Nat.div_eq_of_lt below]
    exact iff_of_false (far _ (by omega)) (far _ (by simp))
  · have isLog := has.log2_eq denominatorPos reaches
    rw [show 53 - (numerator / denominator).log2 = power + 1 by omega]

end HasPower

/-- Rounding leaves the integer part of a fraction below 2^52 as it is, or carries to the next
number. -/
theorem floor_nearest (denominatorPos : 0 < denominator) (small : denominator < 2 ^ 52)
    (bounded : numerator < denominator * 2 ^ 52) :
    ⌊nearest numerator denominator⌋ =
      (numerator / denominator + if Carries numerator denominator then 1 else 0 : Nat) := by
  rcases Nat.eq_zero_or_pos numerator with rfl | numeratorPos
  · have stays : ¬ Carries 0 denominator := by
      simp only [Carries, Nat.zero_mod, Nat.zero_div, Nat.log2_zero, Nat.sub_zero]
      omega
    rw [nearest_zero, if_neg stays]
    simp
  · obtain ⟨power, has⟩ := exists_hasPower denominatorPos numeratorPos.ne' bounded
    have lower : numerator / denominator * 2 ^ power ≤
        nearestQuotient (numerator * 2 ^ power) denominator := by
      refine le_trans ?_ (le_nearestQuotient _ _)
      rw [Nat.le_div_iff_mul_le denominatorPos, mul_right_comm]
      exact Nat.mul_le_mul_right _ (Nat.div_mul_le_self _ _)
    have upper : nearestQuotient (numerator * 2 ^ power) denominator ≤
        (numerator / denominator + 1) * 2 ^ power := by
      refine (nearestQuotient_le _ _).trans (Nat.div_lt_of_lt_mul ?_)
      rw [← mul_assoc]
      exact Nat.mul_lt_mul_of_pos_right (Nat.lt_mul_div_succ _ denominatorPos)
        (Nat.two_pow_pos power)
    have reaches := has.reaches_iff denominatorPos small
    rw [has.nearest_eq, Rat.floor_natCast_div_natCast, ← Int.natCast_div, Nat.cast_inj]
    split
    · next carries =>
      rw [Nat.le_antisymm upper (reaches.mpr carries),
        Nat.mul_div_cancel _ (Nat.two_pow_pos power)]
    · next stays =>
      have less := not_le.mp (reaches.not.mpr stays)
      exact Nat.div_eq_of_lt_le lower less

/-- A quotient below 2^52 is truncated, after rounding, to the integer part of its magnitude or to
the next number, with its sign. -/
theorem truncate?_ofQuotient {quotient : Int} (denominatorPos : 0 < denominator)
    (small : denominator < 2 ^ 52) (bounded : quotient.natAbs < denominator * 2 ^ 52) :
    (ofQuotient quotient denominator).truncate? =
      some (signedInt (quotient < 0) (quotient.natAbs / denominator +
        if Carries quotient.natAbs denominator then 1 else 0)) := by
  obtain ⟨value, isValue⟩ : ∃ value, (ofQuotient quotient denominator).value? = some value :=
    exists_value?_ofQuotient denominatorPos
      (bounded.trans_le (Nat.mul_le_mul_left _ (Nat.pow_le_pow_right (by decide) (by decide))))
  rw [truncate?_eq_some isValue]
  rw [ofQuotient, value?_ofFraction denominatorPos, Option.ite_none_right_eq_some,
    Option.some.injEq] at isValue
  obtain ⟨_, rfl⟩ := isValue
  have whole : wholePart (nearest quotient.natAbs denominator) =
      (quotient.natAbs / denominator +
        if Carries quotient.natAbs denominator then 1 else 0 : Nat) := by
    rw [wholePart, if_pos (nearest_nonneg ..), floor_nearest denominatorPos small bounded]
  by_cases negative : quotient < 0
  · simp only [signed, signedInt, negative, decide_true, if_true, wholePart_neg, whole]
  · simp only [signed, signedInt, negative, decide_false, Bool.false_eq_true, if_false, whole]

end Introspection.Double
