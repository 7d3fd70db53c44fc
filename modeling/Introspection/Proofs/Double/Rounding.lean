import Introspection.Proofs.Double.Range
import Mathlib.Data.Rat.Floor

/-!
# Rounding to binary floating point

The value of a number as a rational, and rounding as a function of fractions: to the nearest
multiple of the power of two that the size of the fraction gives (`nearest`). A number that a
fraction is rounded to has this value unless it is too large for the format
(`value?_ofFraction`). A greater fraction is rounded to no smaller a value (`nearest_mono`), since
either both are rounded to multiples of the same power, or a power of two lies between them.
-/

namespace Introspection

namespace Double

/-- A magnitude with its sign. -/
def signed (negative : Bool) (magnitude : ℚ) : ℚ := if negative then -magnitude else magnitude

/-- The value of a finite number. -/
def value? : Double -> Option ℚ
  | .finite negative mantissa exponent => some (signed negative (mantissa * 2 ^ exponent))
  | _ => none

theorem value?_finite (negative : Bool) (mantissa : Nat) (exponent : Int) :
    (finite negative mantissa exponent).value? = some (signed negative (mantissa * 2 ^ exponent)) :=
  rfl

theorem value?_infinite (negative : Bool) : (infinite negative).value? = none := rfl

/-- The multiple of a power of two that a fraction is rounded to, had exponents no upper bound. -/
def nearest (numerator denominator : Nat) : ℚ :=
  nearestQuotient (scaled numerator denominator (exponentOf numerator denominator)).1
    (scaled numerator denominator (exponentOf numerator denominator)).2 *
    2 ^ exponentOf numerator denominator

variable {numerator denominator : Nat}

theorem two_zpow_pos (exponent : Int) : (0 : ℚ) < 2 ^ exponent := by positivity

theorem denominator_pos_of_scaled (denominatorPos : 0 < denominator) (exponent : Int) :
    0 < (scaled numerator denominator exponent).2 := by
  unfold scaled
  split
  · exact Nat.mul_pos denominatorPos (Nat.two_pow_pos _)
  · exact denominatorPos

/-- Fractions of one denominator are scaled to fractions of one denominator, in order. -/
theorem scaled_mono {greater : Nat} (le : numerator ≤ greater) (denominator : Nat)
    (exponent : Int) :
    (scaled numerator denominator exponent).1 ≤ (scaled greater denominator exponent).1 ∧
      (scaled numerator denominator exponent).2 = (scaled greater denominator exponent).2 := by
  unfold scaled
  split
  · exact ⟨le, rfl⟩
  · exact ⟨Nat.mul_le_mul_right _ le, rfl⟩

/-- A fraction is at or above a power of two that the logarithms of its parts give. -/
theorem log2_le (numeratorPos : numerator ≠ 0) :
    (denominator : ℚ) * 2 ^ ((numerator.log2 : Int) - (denominator.log2 : Int) - 1) ≤
      numerator := by
  have two : (2 : ℚ) ≠ 0 := by decide
  have above : (denominator : ℚ) < 2 ^ (denominator.log2 + 1) := by
    exact_mod_cast Nat.lt_log2_self
  have below : (2 : ℚ) ^ numerator.log2 ≤ numerator := by
    exact_mod_cast Nat.log2_self_le numeratorPos
  calc (denominator : ℚ) * 2 ^ ((numerator.log2 : Int) - (denominator.log2 : Int) - 1)
    _ ≤ 2 ^ (denominator.log2 + 1) *
        2 ^ ((numerator.log2 : Int) - (denominator.log2 : Int) - 1) :=
      mul_le_mul_of_nonneg_right above.le (by positivity)
    _ = 2 ^ numerator.log2 := by
      rw [← zpow_natCast, ← zpow_natCast, ← zpow_add₀ two]
      congr 1
      push_cast
      ring
    _ ≤ numerator := below

/-- The exponent of a fraction scales it to at least 2^52, unless it is the least one. -/
theorem exponentOf_eq_or_le (numeratorPos : numerator ≠ 0) (denominator : Nat) :
    exponentOf numerator denominator = leastExponent ∨
      (denominator : ℚ) * 2 ^ (52 + exponentOf numerator denominator) ≤ numerator := by
  simp only [exponentOf]
  split
  · next small =>
    rcases max_cases leastExponent
      ((numerator.log2 : Int) - (denominator.log2 : Int) - 52 - 1) with ⟨isMax, _⟩ | ⟨isMax, _⟩
    · exact .inl isMax
    · right
      rw [isMax]
      convert log2_le numeratorPos using 3
      ring
  · next large =>
    rcases max_cases leastExponent
      ((numerator.log2 : Int) - (denominator.log2 : Int) - 52) with ⟨isMax, _⟩ | ⟨isMax, _⟩
    · exact .inl isMax
    · right
      rw [isMax]
      have large := (scaled_lt_iff numerator denominator 52 _).not.mp large
      exact_mod_cast not_lt.mp large

/-- The exponent of a fraction is the least one below which it has no more than 53 bits. -/
theorem lt_exponentOf (denominatorPos : 0 < denominator) :
    (numerator : ℚ) < denominator * 2 ^ (53 + exponentOf numerator denominator) := by
  have scaled := (scaled_lt_iff numerator denominator 53 _).mp (scaled_exponentOf_lt denominatorPos)
  exact_mod_cast scaled

theorem leastExponent_le_exponentOf (numerator denominator : Nat) :
    leastExponent ≤ exponentOf numerator denominator := le_max_left _ _

/-- A greater fraction of the same denominator has no smaller exponent. -/
theorem exponentOf_mono {greater : Nat} (denominatorPos : 0 < denominator)
    (numeratorPos : numerator ≠ 0) (le : numerator ≤ greater) :
    exponentOf numerator denominator ≤ exponentOf greater denominator := by
  rcases exponentOf_eq_or_le numeratorPos denominator with least | bound
  · rw [least]
    exact leastExponent_le_exponentOf ..
  · have between : (denominator : ℚ) * 2 ^ (52 + exponentOf numerator denominator) <
        denominator * 2 ^ (53 + exponentOf greater denominator) :=
      calc (denominator : ℚ) * 2 ^ (52 + exponentOf numerator denominator)
        _ ≤ numerator := bound
        _ ≤ greater := by exact_mod_cast le
        _ < denominator * 2 ^ (53 + exponentOf greater denominator) :=
          lt_exponentOf denominatorPos
    have powers := lt_of_mul_lt_mul_left between (by positivity)
    have exponents := (zpow_lt_zpow_iff_right₀ (by norm_num)).mp powers
    omega

/-- The nearest integer is at or above the integer part of the quotient. -/
theorem le_nearestQuotient (top bottom : Nat) : top / bottom ≤ nearestQuotient top bottom := by
  unfold nearestQuotient
  dsimp only
  split
  · exact le_rfl
  · split
    · omega
    · omega

@[simp] theorem nearestQuotient_zero (bottom : Nat) : nearestQuotient 0 bottom = 0 := by
  simp [nearestQuotient]

/-- A greater quotient by the same number has no smaller nearest integer. -/
theorem nearestQuotient_mono {top greater : Nat} (bottom : Nat) (le : top ≤ greater) :
    nearestQuotient top bottom ≤ nearestQuotient greater bottom := by
  rcases Nat.lt_or_ge (top / bottom) (greater / bottom) with apart | together
  · calc nearestQuotient top bottom
      _ ≤ top / bottom + 1 := nearestQuotient_le top bottom
      _ ≤ greater / bottom := apart
      _ ≤ nearestQuotient greater bottom := le_nearestQuotient greater bottom
  · -- With the same integer part the rests are in order.
    have same : top / bottom = greater / bottom :=
      Nat.le_antisymm (Nat.div_le_div_right le) together
    have rests : top % bottom ≤ greater % bottom := by
      have whole := Nat.div_add_mod top bottom
      have wholeGreater := Nat.div_add_mod greater bottom
      rw [same] at whole
      omega
    unfold nearestQuotient
    dsimp only
    rw [same]
    -- A rest below the half stays so, and one that is the half may come to be above it.
    by_cases below : 2 * (greater % bottom) < bottom
    · rw [if_pos below, if_pos (by omega)]
    · rw [if_neg below]
      by_cases above : bottom < 2 * (greater % bottom)
      · rw [if_pos above]
        split
        · omega
        · split
          · exact le_rfl
          · omega
      · have notAbove : ¬ bottom < 2 * (top % bottom) := by omega
        rw [if_neg above, if_neg notAbove]
        split
        · omega
        · exact le_rfl

theorem nearest_nonneg (numerator denominator : Nat) : 0 ≤ nearest numerator denominator := by
  unfold nearest
  positivity

@[simp] theorem nearest_zero (denominator : Nat) : nearest 0 denominator = 0 := by
  have top (exponent : Int) : (scaled 0 denominator exponent).1 = 0 := by
    unfold scaled
    split
    · rfl
    · exact Nat.zero_mul _
  rw [nearest, top, nearestQuotient_zero, Nat.cast_zero, zero_mul]

/-- A mantissa has at most 53 bits, or is the power of two with 54. -/
theorem nearestQuotient_scaled_le (numerator : Nat) (denominatorPos : 0 < denominator) :
    nearestQuotient (scaled numerator denominator (exponentOf numerator denominator)).1
      (scaled numerator denominator (exponentOf numerator denominator)).2 ≤ 2 ^ 53 :=
  (nearestQuotient_le _ _).trans (Nat.div_lt_of_lt_mul (scaled_exponentOf_lt denominatorPos))

/-- A mantissa has 53 bits at least, unless the exponent is the least one. -/
theorem le_nearestQuotient_scaled (denominatorPos : 0 < denominator) (numeratorPos : numerator ≠ 0)
    (notLeast : exponentOf numerator denominator ≠ leastExponent) :
    2 ^ 52 ≤ nearestQuotient (scaled numerator denominator (exponentOf numerator denominator)).1
      (scaled numerator denominator (exponentOf numerator denominator)).2 := by
  have large := (exponentOf_eq_or_le numeratorPos denominator).resolve_left notLeast
  have scaledLarge := (scaled_lt_iff numerator denominator 52 _).not.mpr (by
    exact_mod_cast not_lt.mpr large)
  refine le_trans ?_ (le_nearestQuotient _ _)
  rw [Nat.le_div_iff_mul_le (denominator_pos_of_scaled denominatorPos _), mul_comm]
  exact not_lt.mp scaledLarge

/-- A greater fraction of the same denominator is rounded to no smaller a value. -/
theorem nearest_mono {greater : Nat} (denominatorPos : 0 < denominator)
    (le : numerator ≤ greater) : nearest numerator denominator ≤ nearest greater denominator := by
  rcases Nat.eq_zero_or_pos numerator with rfl | numeratorPos
  · rw [nearest_zero]
    exact nearest_nonneg ..
  have two : (2 : ℚ) ≠ 0 := by decide
  rcases (exponentOf_mono denominatorPos numeratorPos.ne' le).eq_or_lt with same | less
  · rw [nearest, nearest, ← same]
    obtain ⟨tops, bottoms⟩ := scaled_mono le denominator (exponentOf numerator denominator)
    rw [← bottoms]
    have mantissas := nearestQuotient_mono
      (scaled numerator denominator (exponentOf numerator denominator)).2 tops
    exact mul_le_mul_of_nonneg_right (by exact_mod_cast mantissas) (two_zpow_pos _).le
  · have notLeast : exponentOf greater denominator ≠ leastExponent := by
      have := leastExponent_le_exponentOf numerator denominator
      omega
    have small := nearestQuotient_scaled_le numerator denominatorPos
    have large := le_nearestQuotient_scaled denominatorPos (by omega) notLeast
    calc nearest numerator denominator
      _ ≤ 2 ^ 53 * 2 ^ exponentOf numerator denominator := by
        rw [nearest]
        exact mul_le_mul_of_nonneg_right (by exact_mod_cast small) (two_zpow_pos _).le
      _ = 2 ^ 52 * 2 ^ (exponentOf numerator denominator + 1) := by
        rw [zpow_add₀ two]
        ring
      _ ≤ 2 ^ 52 * 2 ^ exponentOf greater denominator := by
        refine mul_le_mul_of_nonneg_left ?_ (by positivity)
        exact zpow_le_zpow_right₀ (by norm_num) less
      _ ≤ nearest greater denominator := by
        rw [nearest]
        exact mul_le_mul_of_nonneg_right (by exact_mod_cast large) (two_zpow_pos _).le

/-- A fraction below a power of two is rounded to no more than that power, unless the power is too
small for the format. -/
theorem nearest_le_zpow {power : Int} (denominatorPos : 0 < denominator)
    (numeratorPos : numerator ≠ 0) (fits : leastExponent + 53 ≤ power)
    (below : (numerator : ℚ) < denominator * 2 ^ power) :
    nearest numerator denominator ≤ 2 ^ power := by
  have two : (2 : ℚ) ≠ 0 := by decide
  have bounded : exponentOf numerator denominator ≤ power - 53 := by
    rcases exponentOf_eq_or_le numeratorPos denominator with least | bound
    · omega
    · have powers := lt_of_mul_lt_mul_left (bound.trans_lt below) (by positivity)
      have exponents := (zpow_lt_zpow_iff_right₀ (by norm_num)).mp powers
      omega
  calc nearest numerator denominator
    _ ≤ 2 ^ 53 * 2 ^ exponentOf numerator denominator := by
      have small := nearestQuotient_scaled_le numerator denominatorPos
      exact mul_le_mul_of_nonneg_right (by exact_mod_cast small) (two_zpow_pos _).le
    _ ≤ 2 ^ 53 * 2 ^ (power - 53) := by
      refine mul_le_mul_of_nonneg_left ?_ (by positivity)
      exact zpow_le_zpow_right₀ (by norm_num) bounded
    _ = 2 ^ power := by
      rw [← zpow_natCast, ← zpow_add₀ two]
      congr 1
      push_cast
      ring

/-- The number of a mantissa and an exponent, where a mantissa of 54 bits is carried over and an
exponent beyond the greatest gives an infinite number. -/
def ofParts (negative : Bool) (mantissa : Nat) (exponent : Int) : Double :=
  if mantissa = 2 ^ 53 then
    if greatestExponent < exponent + 1 then .infinite negative
    else .finite negative (2 ^ 52) (exponent + 1)
  else if greatestExponent < exponent then .infinite negative
  else .finite negative mantissa exponent

/-- A mantissa and an exponent after the carry are those of the number. -/
theorem ofParts_of_carry {mantissa : Nat} {exponent : Int} {carried : Nat × Int}
    (isCarried : (if mantissa = 2 ^ 53 then (2 ^ 52, exponent + 1) else (mantissa, exponent)) =
      carried) (negative : Bool) :
    ofParts negative mantissa exponent =
      if greatestExponent < carried.2 then .infinite negative
      else .finite negative carried.1 carried.2 := by
  unfold ofParts
  by_cases carries : mantissa = 2 ^ 53
  · rw [if_pos carries] at isCarried ⊢
    rw [← isCarried]
  · rw [if_neg carries] at isCarried ⊢
    rw [← isCarried]

theorem ofFraction_eq_ofParts (numeratorPos : numerator ≠ 0) (negative : Bool) :
    ofFraction negative numerator denominator =
      ofParts negative
        (nearestQuotient (scaled numerator denominator (exponentOf numerator denominator)).1
          (scaled numerator denominator (exponentOf numerator denominator)).2)
        (exponentOf numerator denominator) := by
  fun_cases ofFraction negative numerator denominator with
  | case1 zero => exact absurd zero numeratorPos
  | case2 _ scale top bottom isScaled whole mantissa exponent carried beyond =>
    rw [isScaled]
    exact ((ofParts_of_carry carried negative).trans (if_pos beyond)).symm
  | case3 _ scale top bottom isScaled whole mantissa exponent carried within =>
    rw [isScaled]
    exact ((ofParts_of_carry carried negative).trans (if_neg within)).symm

/-- The number of a mantissa and an exponent has their value, unless that is beyond the greatest
exponent. -/
theorem value?_ofParts (negative : Bool) {mantissa : Nat} {exponent : Int}
    (small : mantissa ≤ 2 ^ 53) (large : exponent ≠ leastExponent -> 2 ^ 52 ≤ mantissa) :
    (ofParts negative mantissa exponent).value? =
      if (mantissa * 2 ^ exponent : ℚ) < 2 ^ (1024 : Int) then
        some (signed negative (mantissa * 2 ^ exponent))
      else none := by
  have two : (2 : ℚ) ≠ 0 := by decide
  have one : (1 : ℚ) < 2 := by norm_num
  unfold ofParts
  by_cases carries : mantissa = 2 ^ 53
  · have value : ((2 ^ 52 : Nat) * 2 ^ (exponent + 1) : ℚ) = mantissa * 2 ^ exponent := by
      rw [carries, zpow_add₀ two]
      push_cast
      ring
    have isPower : (mantissa * 2 ^ exponent : ℚ) = 2 ^ (53 + exponent) := by
      rw [carries, zpow_add₀ two]
      push_cast
      rfl
    have fits : (mantissa * 2 ^ exponent : ℚ) < 2 ^ (1024 : Int) ↔
        ¬ greatestExponent < exponent + 1 := by
      rw [isPower, zpow_lt_zpow_iff_right₀ one]
      unfold greatestExponent
      omega
    rw [if_pos carries]
    by_cases beyond : greatestExponent < exponent + 1
    · rw [if_pos beyond, if_neg (fits.not.mpr (not_not.mpr beyond)), value?_infinite]
    · rw [if_neg beyond, if_pos (fits.mpr beyond), value?_finite, value]
  · have fits : (mantissa * 2 ^ exponent : ℚ) < 2 ^ (1024 : Int) ↔
        ¬ greatestExponent < exponent := by
      constructor
      · intro less beyond
        have notLeast : exponent ≠ leastExponent := by
          unfold greatestExponent at beyond
          unfold leastExponent
          omega
        have power : (2 : ℚ) ^ (52 + exponent) ≤ mantissa * 2 ^ exponent := by
          rw [zpow_add₀ two]
          exact mul_le_mul_of_nonneg_right (by exact_mod_cast large notLeast)
            (two_zpow_pos _).le
        have exponents := (zpow_lt_zpow_iff_right₀ one).mp (power.trans_lt less)
        unfold greatestExponent at beyond
        omega
      · intro within
        have power : (mantissa * 2 ^ exponent : ℚ) < 2 ^ (53 + exponent) := by
          rw [zpow_add₀ two]
          have less : mantissa < 2 ^ 53 := by omega
          exact mul_lt_mul_of_pos_right (by exact_mod_cast less) (two_zpow_pos _)
        refine power.trans_le (zpow_le_zpow_right₀ one.le ?_)
        unfold greatestExponent at within
        omega
    rw [if_neg carries]
    by_cases beyond : greatestExponent < exponent
    · rw [if_pos beyond, if_neg (fits.not.mpr (not_not.mpr beyond)), value?_infinite]
    · rw [if_neg beyond, if_pos (fits.mpr beyond), value?_finite]

/-- The number that a fraction is rounded to has the rounded value, unless that is beyond the
greatest exponent. -/
theorem value?_ofFraction (denominatorPos : 0 < denominator) (negative : Bool) :
    (ofFraction negative numerator denominator).value? =
      if nearest numerator denominator < 2 ^ (1024 : Int) then
        some (signed negative (nearest numerator denominator))
      else none := by
  rcases Nat.eq_zero_or_pos numerator with rfl | numeratorPos
  · rw [nearest_zero, if_pos (two_zpow_pos _), ofFraction, if_pos rfl]
    simp [value?_finite, signed]
  · rw [ofFraction_eq_ofParts numeratorPos.ne', nearest]
    exact value?_ofParts negative (nearestQuotient_scaled_le _ denominatorPos)
      (le_nearestQuotient_scaled denominatorPos numeratorPos.ne')

/-- A magnitude and a greater one are in order, or in the reverse order under a negative sign. -/
theorem signed_natAbs_mono (magnitude : Nat -> ℚ) (nonneg : ∀ n, 0 ≤ magnitude n)
    (mono : Monotone magnitude) {less greater : Int} (le : less ≤ greater) :
    signed (less < 0) (magnitude less.natAbs) ≤
      signed (greater < 0) (magnitude greater.natAbs) := by
  by_cases negative : less < 0
  · by_cases bothNegative : greater < 0
    · have magnitudes := mono (show greater.natAbs ≤ less.natAbs by omega)
      simpa [signed, negative, bothNegative] using magnitudes
    · have first := nonneg less.natAbs
      have second := nonneg greater.natAbs
      simp only [signed, negative, bothNegative, decide_true, decide_false, if_true,
        Bool.false_eq_true, if_false]
      exact (neg_nonpos.mpr first).trans second
  · have notNegative : ¬ greater < 0 := by omega
    have magnitudes := mono (show less.natAbs ≤ greater.natAbs by omega)
    simpa [signed, negative, notNegative] using magnitudes

/-- A greater quotient by the same number is rounded to no smaller a value. -/
theorem ofQuotient_mono {less greater : Int} (denominatorPos : 0 < denominator)
    (le : less ≤ greater) {value other : ℚ}
    (isValue : (ofQuotient less denominator).value? = some value)
    (isOther : (ofQuotient greater denominator).value? = some other) : value ≤ other := by
  rw [ofQuotient, value?_ofFraction denominatorPos, Option.ite_none_right_eq_some,
    Option.some.injEq] at isValue isOther
  obtain ⟨_, rfl⟩ := isValue
  obtain ⟨_, rfl⟩ := isOther
  exact signed_natAbs_mono (nearest · denominator) (nearest_nonneg · denominator)
    (fun _ _ => nearest_mono denominatorPos) le

/-- A quotient below 2^53 in magnitude is rounded to a finite number. -/
theorem exists_value?_ofQuotient {quotient : Int} (denominatorPos : 0 < denominator)
    (bounded : quotient.natAbs < denominator * 2 ^ 53) :
    ∃ value, (ofQuotient quotient denominator).value? = some value := by
  refine ⟨_, (value?_ofFraction denominatorPos _).trans (if_pos ?_)⟩
  rcases Nat.eq_zero_or_pos quotient.natAbs with zero | positive
  · rw [zero, nearest_zero]
    exact two_zpow_pos _
  · have below : (quotient.natAbs : ℚ) < denominator * 2 ^ (53 : Int) := by exact_mod_cast bounded
    refine (nearest_le_zpow denominatorPos positive.ne' (by decide) below).trans_lt ?_
    exact zpow_lt_zpow_right₀ (by norm_num) (by norm_num)

/-- The integer part of a rational, without its fraction. -/
def wholePart (value : ℚ) : Int := if 0 ≤ value then ⌊value⌋ else ⌈value⌉

theorem wholePart_mono {less greater : ℚ} (le : less ≤ greater) :
    wholePart less ≤ wholePart greater := by
  unfold wholePart
  by_cases nonneg : 0 ≤ less
  · rw [if_pos nonneg, if_pos (nonneg.trans le)]
    exact Int.floor_mono le
  · rw [if_neg nonneg]
    by_cases mixed : 0 ≤ greater
    · rw [if_pos mixed]
      exact (Int.ceil_nonpos.mpr (not_le.mp nonneg).le).trans (Int.floor_nonneg.mpr mixed)
    · rw [if_neg mixed]
      exact Int.ceil_mono le

theorem wholePart_neg (value : ℚ) : wholePart (-value) = -wholePart value := by
  unfold wholePart
  rcases lt_trichotomy value 0 with negative | rfl | positive
  · rw [if_pos (by linarith), if_neg (not_le.mpr negative), Int.floor_neg]
  · simp
  · rw [if_neg (by linarith), if_pos positive.le, Int.ceil_neg]

/-- The magnitude of a number, as a fraction. -/
theorem magnitude_eq (mantissa : Nat) (exponent : Int) :
    ((magnitude mantissa exponent).1 : ℚ) / (magnitude mantissa exponent).2 =
      mantissa * 2 ^ exponent := by
  unfold magnitude
  split
  · next nonneg =>
    obtain ⟨power, rfl⟩ := Int.eq_ofNat_of_zero_le nonneg
    simp
  · next negative =>
    obtain ⟨power, rfl⟩ : ∃ power : Nat, exponent = -power := ⟨(-exponent).toNat, by omega⟩
    simp [div_eq_mul_inv]

/-- A number is truncated to the integer part of its value. -/
theorem truncate?_eq_some {number : Double} {value : ℚ} (isValue : number.value? = some value) :
    number.truncate? = some (wholePart value) := by
  cases number with
  | infinite negative => cases isValue
  | nan => cases isValue
  | finite negative mantissa exponent =>
    obtain rfl := Option.some.inj isValue
    rw [← magnitude_eq]
    simp only [truncate?]
    generalize magnitude mantissa exponent = parts
    obtain ⟨top, bottom⟩ := parts
    have whole : wholePart ((top : ℚ) / bottom) = (top / bottom : Nat) := by
      rw [wholePart, if_pos (by positivity)]
      exact Rat.floor_natCast_div_natCast top bottom
    cases negative with
    | false => simp only [signed, signedInt, Bool.false_eq_true, if_false, whole]
    | true => simp only [signed, signedInt, if_true, wholePart_neg, whole]

end Double

end Introspection
