/-
This file proves that fractions and decimals are rounded to the nearest number of a format.
-/

import CommandShell.Binary.Decimal
import CommandShell.Proofs.Nearest

namespace CommandShell.Binary

/-! ### Rounding to whole numbers -/

section Whole

variable {numerator denominator whole : Nat} {exact excess : ℚ}

theorem fraction_sub_floor (numerator : Nat) (positive : 0 < denominator) :
    (numerator : ℚ) / denominator - (numerator / denominator : Nat) =
      ((numerator % denominator : Nat) : ℚ) / denominator := by
  have split : (denominator : ℚ) * (numerator / denominator : Nat) +
      (numerator % denominator : Nat) = numerator := mod_cast Nat.div_add_mod numerator denominator
  have nonzero : (denominator : ℚ) ≠ 0 := by positivity
  rw [eq_div_iff nonzero, sub_mul, div_mul_cancel₀ _ nonzero]
  linarith

theorem isNearestWhole_of_below (error : exact - whole = excess) (nonneg : 0 ≤ excess)
    (atMost : excess ≤ 1 / 2) (even : excess = 1 / 2 → Even whole) :
    IsNearestWhole exact whole := by
  have distance : |exact - whole| = excess := by rw [error, abs_of_nonneg nonneg]
  constructor
  · rwa [distance]
  · rwa [distance]

theorem isNearestWhole_of_above (error : exact - whole = excess) (atMost : excess ≤ 1)
    (atLeast : 1 / 2 ≤ excess) (even : excess = 1 / 2 → Even (whole + 1)) :
    IsNearestWhole exact (whole + 1) := by
  have distance : |exact - (whole + 1 : Nat)| = 1 - excess := by
    rw [abs_of_nonpos] <;> push_cast <;> linarith
  constructor
  · rw [distance]
    linarith
  · rw [distance]
    intro tie
    apply even
    linarith

/-- The remainder is compared with half the denominator. -/
theorem isNearestWhole_roundHalfEven (numerator : Nat) (positive : 0 < denominator) :
    IsNearestWhole (numerator / denominator) (roundHalfEven numerator denominator) := by
  have positive' : (0 : ℚ) < denominator := mod_cast positive
  have error := fraction_sub_floor numerator positive
  have less : numerator % denominator < denominator := Nat.mod_lt _ positive
  unfold roundHalfEven
  generalize (numerator : ℚ) / denominator = exact at error ⊢
  generalize numerator / denominator = floor at error ⊢
  generalize numerator % denominator = remainder at error less ⊢
  have nonneg : (0 : ℚ) ≤ remainder / denominator := by positivity
  have atMost : (remainder / denominator : ℚ) ≤ 1 := by
    rw [div_le_one positive']
    exact mod_cast less.le
  have below : 2 * remainder < denominator ↔ (remainder / denominator : ℚ) < 1 / 2 := by
    rw [div_lt_div_iff₀ positive' (by norm_num), mul_comm, one_mul]
    exact mod_cast Iff.rfl
  have above : denominator < 2 * remainder ↔ (1 / 2 : ℚ) < remainder / denominator := by
    rw [div_lt_div_iff₀ (by norm_num) positive', mul_comm (remainder : ℚ), one_mul]
    exact mod_cast Iff.rfl
  simp only [below, above]
  split
  · rename_i small
    exact isNearestWhole_of_below error nonneg small.le fun tie => absurd tie small.ne
  · rename_i notSmall
    rw [not_lt] at notSmall
    split
    · rename_i large
      exact isNearestWhole_of_above error atMost notSmall fun tie => absurd tie large.ne'
    · rename_i notLarge
      rw [not_lt] at notLarge
      split
      · rename_i even
        exact isNearestWhole_of_below error nonneg notLarge fun _ => Nat.even_iff.mpr even
      · rename_i odd
        apply isNearestWhole_of_above error atMost notSmall
        intro _
        rw [Nat.even_iff]
        omega

end Whole

section Magnitude

variable {format : Format} {significand : Nat} {exponent : Int} {exact : ℚ}

/-! ### Rounding fractions -/

theorem zpow_eq_div (base : Nat) (exponent : Int) : (base : ℚ) ^ exponent =
    (base ^ exponent.toNat : ℚ) / (base ^ (-exponent).toNat : ℚ) := by
  cases exponent with
  | ofNat shift => simp
  | negSucc less => simp [zpow_negSucc]

theorem magnitude_two_pow (bits : Nat) (exponent : Int) :
    magnitude (2 ^ bits) exponent = 2 ^ (bits + exponent) := by
  rw [magnitude, zpow_add₀ (by norm_num), zpow_natCast]
  push_cast
  rfl

section Fraction

variable {numerator denominator : Nat}

theorem unscale_eq (numerator denominator : Nat) (exponent : Int) :
    ((unscale numerator denominator exponent).1 : ℚ) / (unscale numerator denominator exponent).2 =
      numerator / denominator / 2 ^ exponent := by
  have power := zpow_eq_div 2 exponent
  push_cast at power
  simp only [unscale, Nat.pow_eq]
  push_cast
  rw [power, div_div_div_eq]

theorem unscale_positive (numerator : Nat) (positive : 0 < denominator) (exponent : Int) :
    0 < (unscale numerator denominator exponent).2 :=
  Nat.mul_pos positive (Nat.pow_pos (by omega))

theorem le_unscale_iff (numerator : Nat) (positive : 0 < denominator) (whole : Nat)
    (exponent : Int) :
    whole ≤ (unscale numerator denominator exponent).1 /
        (unscale numerator denominator exponent).2 ↔
      magnitude whole exponent ≤ numerator / denominator := by
  have positive' := unscale_positive numerator positive exponent
  have scale : (0 : ℚ) < 2 ^ exponent := by positivity
  rw [Nat.le_div_iff_mul_le positive', magnitude, ← le_div_iff₀ scale, ← unscale_eq,
    le_div_iff₀ (mod_cast positive')]
  exact mod_cast Iff.rfl

theorem fraction_lt (nonzero : 0 < numerator) (positive : 0 < denominator) :
    ((numerator : ℚ) / denominator) < 2 ^ ((numerator.log2 : Int) - denominator.log2 + 1) := by
  have atMost : (numerator : ℚ) < 2 ^ (numerator.log2 + 1) := mod_cast Nat.lt_log2_self
  have atLeast : (2 : ℚ) ^ denominator.log2 ≤ denominator :=
    mod_cast Nat.log2_self_le positive.ne'
  calc (numerator : ℚ) / denominator
      ≤ numerator / 2 ^ denominator.log2 := by gcongr
    _ < 2 ^ (numerator.log2 + 1) / 2 ^ denominator.log2 := by gcongr
    _ = 2 ^ ((numerator.log2 : Int) - denominator.log2 + 1) := by
      rw [sub_add_eq_add_sub, zpow_sub₀ (by norm_num)]
      norm_cast

theorem lt_fraction (nonzero : 0 < numerator) (positive : 0 < denominator) :
    2 ^ ((numerator.log2 : Int) - denominator.log2 - 1) < ((numerator : ℚ) / denominator) := by
  have atLeast : (2 : ℚ) ^ numerator.log2 ≤ numerator := mod_cast Nat.log2_self_le nonzero.ne'
  have atMost : (denominator : ℚ) < 2 ^ (denominator.log2 + 1) := mod_cast Nat.lt_log2_self
  have positive' : (0 : ℚ) < denominator := mod_cast positive
  calc (2 : ℚ) ^ ((numerator.log2 : Int) - denominator.log2 - 1)
      = 2 ^ numerator.log2 / 2 ^ (denominator.log2 + 1) := by
        rw [sub_sub, zpow_sub₀ (by norm_num)]
        norm_cast
    _ < 2 ^ numerator.log2 / denominator := by gcongr
    _ ≤ numerator / denominator := by gcongr

theorem Format.isExponentFor (format : Format) (nonzero : 0 < numerator)
    (positive : 0 < denominator) (enough : 0 < format.precision) :
    format.IsExponentFor (numerator / denominator) (format.exponentFor numerator denominator) := by
  have upper := fraction_lt nonzero positive
  have lower := lt_fraction nonzero positive
  have carry := le_unscale_iff numerator positive (2 ^ format.precision)
  -- The logarithms leave one bit open, which the comparison with the precision decides.
  simp only [exponentFor, Nat.pow_eq, carry]
  generalize guessed : (numerator.log2 : Int) - denominator.log2 - format.precision = guess
  have upper : ((numerator : ℚ) / denominator) < 2 ^ (format.precision + (guess + 1)) := by
    convert upper using 2
    omega
  have lower : 2 ^ (format.precision - 1 + guess) < ((numerator : ℚ) / denominator) := by
    convert lower using 2
    omega
  generalize (numerator : ℚ) / denominator = exact at upper lower ⊢
  split
  · rename_i reached
    constructor
    · omega
    · rw [magnitude_two_pow]
      apply upper.trans_le
      gcongr
      · norm_num
      · omega
    · left
      rwa [magnitude_full enough]
  · rename_i below
    constructor
    · omega
    · exact not_le.mp below
    · rcases le_total format.minExponent guess with reached | tooSmall
      · left
        rw [max_eq_right reached, magnitude_two_pow, Nat.cast_sub (by omega)]
        exact lower.le
      · right
        exact max_eq_left tooSmall

/-- A magnitude of at most half the least number rounds to zero. -/
theorem Format.isNearest_zero (positive : 0 < format.precision) (nonneg : 0 ≤ exact)
    (small : 2 * exact ≤ 2 ^ format.minExponent) :
    format.IsNearest exact 0 format.minExponent := by
  have scale : (0 : ℚ) < 2 ^ format.minExponent := by positivity
  have isExponent : format.IsExponentFor exact format.minExponent := by
    refine ⟨le_rfl, ?_, .inr rfl⟩
    have one : (1 : ℚ) ≤ (2 ^ format.precision : Nat) := mod_cast Nat.one_le_two_pow
    have more : (2 : ℚ) ^ format.minExponent ≤
        magnitude (2 ^ format.precision) format.minExponent := le_mul_of_one_le_left scale.le one
    linarith
  apply isNearest_of_short isExponent _ positive (by positivity)
  constructor
  · rw [Nat.cast_zero, sub_zero, abs_of_nonneg (by positivity), div_le_iff₀ scale]
    linarith
  · exact fun _ => .zero

theorem Format.RoundsTo.of_isNearest {negative : Bool}
    (nearest : format.IsNearest exact significand exponent) :
    format.RoundsTo negative exact (if format.maxExponent < exponent then .infinite negative
      else .finite negative significand exponent) := by
  split
  · rename_i beyond
    exact .infinite nearest beyond
  · rename_i within
    exact .finite nearest (not_lt.mp within)

/-- A fraction is rounded to the nearest number of the format. -/
theorem Format.round_roundsTo (format : Format) (negative : Bool) (numerator : Nat)
    (positive : 0 < denominator) (enough : 2 ≤ format.precision)
    (exponents : format.minExponent ≤ format.maxExponent) :
    format.RoundsTo negative (numerator / denominator)
      (format.round negative numerator denominator) := by
  unfold round
  split
  · rename_i zero
    subst zero
    apply RoundsTo.finite _ exponents
    apply isNearest_zero (by omega) <;> simp
    positivity
  · rename_i nonzero
    have isExponent := format.isExponentFor (Nat.pos_of_ne_zero nonzero) positive (by omega)
    generalize format.exponentFor numerator denominator = exponent at isExponent ⊢
    have isNearest := isNearestWhole_roundHalfEven (unscale numerator denominator exponent).1
      (unscale_positive numerator positive exponent)
    rw [unscale_eq] at isNearest
    exact .of_isNearest (isNearest_carried isExponent isNearest enough rfl)

end Fraction

/-- What reaches the power of two behind the greatest number is infinite. -/
theorem Format.RoundsTo.eq_infinite {negative : Bool} {number : Number}
    (rounds : format.RoundsTo negative exact number) (enough : 2 ≤ format.precision)
    (exponents : format.minExponent ≤ format.maxExponent)
    (large : 2 ^ (format.precision + format.maxExponent) ≤ exact) :
    number = .infinite negative := by
  cases rounds with
  | infinite => rfl
  | @finite significand exponent nearest within =>
      have holds : format.Holds (2 ^ (format.precision - 1)) (format.maxExponent + 1) :=
        ⟨Nat.pow_lt_pow_right (by omega) (by omega), by omega, .inl le_rfl⟩
      have power : magnitude (2 ^ (format.precision - 1)) (format.maxExponent + 1) =
          2 ^ (format.precision + format.maxExponent) := by
        rw [magnitude_full (by omega), magnitude_two_pow]
      have next : exponent < format.maxExponent + 1 := by omega
      have lt := nearest.holds.lt_full (by omega) next
      have nearer := nearest.nearest _ _ holds
      rw [power] at lt nearer
      rw [abs_of_pos (sub_pos.mpr (lt.trans_le large)),
        abs_of_nonneg (sub_nonneg.mpr large)] at nearer
      linarith

end Magnitude

/-! ### Decimals -/

namespace Decimal

/-- This is the number that the decimal is, without its sign. -/
def exact (decimal : Decimal) : ℚ :=
  decimal.significand * 10 ^ decimal.exponent

variable {format : Format} {decimal : Decimal}

theorem exact_nonneg (decimal : Decimal) : 0 ≤ decimal.exact := by
  unfold exact
  positivity

theorem exact_eq_div (decimal : Decimal) : decimal.exact =
    (decimal.significand * 10 ^ decimal.exponent.toNat : Nat) /
      (10 ^ (-decimal.exponent).toNat : Nat) := by
  have power := zpow_eq_div 10 decimal.exponent
  push_cast at power ⊢
  rw [exact, power, mul_div_assoc]

section Digits

variable {power : Int}

theorem exact_lt_of_le
    (le : decimal.exponent + (Nat.toDigits 10 decimal.significand).length ≤ power) :
    decimal.exact < 10 ^ power := by
  have length : 0 < (Nat.toDigits 10 decimal.significand).length :=
    List.length_pos_of_ne_nil Nat.toDigits_ne_nil
  have short := (Nat.length_toDigits_le_iff (by omega) length).mp le_rfl
  have short : (decimal.significand : ℚ) < 10 ^ (Nat.toDigits 10 decimal.significand).length :=
    mod_cast short
  calc decimal.exact
      < 10 ^ (Nat.toDigits 10 decimal.significand).length * 10 ^ decimal.exponent := by
        unfold exact
        gcongr
    _ = 10 ^ (decimal.exponent + (Nat.toDigits 10 decimal.significand).length) := by
        rw [zpow_add₀ (by norm_num), zpow_natCast, mul_comm]
    _ ≤ 10 ^ power := by
        gcongr
        norm_num

theorem le_exact_of_lt (nonzero : decimal.significand ≠ 0)
    (lt : power < decimal.exponent + (Nat.toDigits 10 decimal.significand).length) :
    10 ^ power ≤ decimal.exact := by
  have length : 0 < (Nat.toDigits 10 decimal.significand).length :=
    List.length_pos_of_ne_nil Nat.toDigits_ne_nil
  obtain ⟨less, same⟩ := Nat.exists_eq_add_one.mpr length
  have long : 10 ^ less ≤ decimal.significand := by
    rcases less.eq_zero_or_pos with rfl | positive
    · exact Nat.one_le_iff_ne_zero.mpr nonzero
    · rw [← not_lt, ← Nat.length_toDigits_le_iff (by omega) positive]
      omega
  have long : (10 : ℚ) ^ less ≤ decimal.significand := mod_cast long
  calc (10 : ℚ) ^ power
      ≤ 10 ^ (decimal.exponent + less) := by
        gcongr
        · norm_num
        · omega
    _ = 10 ^ less * 10 ^ decimal.exponent := by
        rw [zpow_add₀ (by norm_num), zpow_natCast, mul_comm]
    _ ≤ decimal.exact := by
        unfold exact
        gcongr

end Digits

end Decimal

/-- All numbers of the format are far from the powers of ten at which decimals are not rounded. -/
structure Format.Moderate (format : Format) : Prop where
  precise : 2 ≤ format.precision
  exponents : format.minExponent ≤ format.maxExponent
  least : -(3 * Decimal.greatestMagnitude) < format.minExponent
  greatest : format.precision + format.maxExponent ≤ 3 * Decimal.greatestMagnitude

theorem moderate_binary32 : binary32.Moderate := by
  constructor <;> decide

theorem moderate_binary64 : binary64.Moderate := by
  constructor <;> decide

theorem two_zpow_le_ten_zpow : (2 : ℚ) ^ (3 * Decimal.greatestMagnitude) ≤
    10 ^ Decimal.greatestMagnitude := by
  rw [zpow_mul]
  apply zpow_le_zpow_left₀ <;> norm_num [Decimal.greatestMagnitude]

theorem Format.Moderate.twice_exact_lt {format : Format} {decimal : Decimal}
    (moderate : format.Moderate)
    (small : decimal.exponent + (Nat.toDigits 10 decimal.significand).length <
      -Decimal.greatestMagnitude) :
    2 * decimal.exact < 2 ^ format.minExponent := by
  have least := moderate.least
  calc 2 * decimal.exact
      < 2 * 10 ^ (-Decimal.greatestMagnitude) := by
        gcongr
        exact Decimal.exact_lt_of_le small.le
    _ ≤ 2 * 2 ^ (-(3 * Decimal.greatestMagnitude)) := by
        rw [zpow_neg, zpow_neg]
        gcongr
        exact two_zpow_le_ten_zpow
    _ = 2 ^ (-(3 * Decimal.greatestMagnitude) + 1) := by
        rw [zpow_add_one₀ (by norm_num), mul_comm]
    _ ≤ 2 ^ format.minExponent := by
        gcongr
        · norm_num
        · omega

theorem Format.Moderate.le_exact {format : Format} {decimal : Decimal} (moderate : format.Moderate)
    (nonzero : decimal.significand ≠ 0)
    (large : Decimal.greatestMagnitude <
      decimal.exponent + (Nat.toDigits 10 decimal.significand).length) :
    2 ^ (format.precision + format.maxExponent) ≤ decimal.exact := by
  have greatest := moderate.greatest
  calc (2 : ℚ) ^ (format.precision + format.maxExponent)
      ≤ 2 ^ (3 * Decimal.greatestMagnitude) := by
        gcongr
        norm_num
    _ ≤ 10 ^ Decimal.greatestMagnitude := two_zpow_le_ten_zpow
    _ ≤ decimal.exact := Decimal.le_exact_of_lt nonzero large

namespace Decimal

variable {format : Format}

/-- A decimal is read as the nearest number of the format. -/
theorem toNumber_roundsTo (moderate : format.Moderate) (decimal : Decimal) :
    format.RoundsTo decimal.negative decimal.exact (decimal.toNumber format) := by
  have precise := moderate.precise
  have rounded := format.round_roundsTo decimal.negative
    (decimal.significand * 10 ^ decimal.exponent.toNat)
    (Nat.pow_pos (by omega) : 0 < 10 ^ (-decimal.exponent).toNat) precise moderate.exponents
  rw [← exact_eq_div] at rounded
  simp only [toNumber, Bool.or_eq_true, decide_eq_true_eq, Nat.pow_eq]
  split
  · rename_i small
    apply Format.RoundsTo.finite _ moderate.exponents
    apply Format.isNearest_zero (by omega) decimal.exact_nonneg
    rcases small with zero | small
    · rw [exact, zero, Nat.cast_zero, zero_mul, mul_zero]
      positivity
    · exact (moderate.twice_exact_lt small).le
  · rename_i notSmall
    split
    · rename_i large
      have nonzero : decimal.significand ≠ 0 := fun zero => notSmall (.inl zero)
      rw [rounded.eq_infinite precise moderate.exponents
        (moderate.le_exact nonzero large)] at rounded
      exact rounded
    · exact rounded

end Decimal

end CommandShell.Binary
