/-
This file says which number of a format a rational number rounds to: the nearest one, of two
equally near ones that with the even significand, as if there were no greatest exponent. What needs
a greater exponent than the format has is infinite. There is one such number.
-/

import CommandShell.Binary.Number
import Mathlib.Algebra.Order.Field.Power
import Mathlib.Algebra.Order.Ring.Rat
import Mathlib.Algebra.Group.Nat.Even
import Mathlib.Tactic.FieldSimp
import Mathlib.Tactic.Linarith
import Mathlib.Tactic.NormNum
import Mathlib.Tactic.Positivity
import Mathlib.Tactic.Ring

namespace CommandShell.Binary

/-! ### Whole numbers -/

/-- No whole number is nearer, and of two equally near ones this is the even one. -/
structure IsNearestWhole (exact : ℚ) (whole : Nat) : Prop where
  close : |exact - whole| ≤ 1 / 2
  even : |exact - whole| = 1 / 2 → Even whole

section Whole

variable {whole other : Nat} {exact : ℚ}

theorem IsNearestWhole.half_le (nearest : IsNearestWhole exact whole) (distinct : other ≠ whole) :
    1 / 2 ≤ |exact - other| := by
  have apart : (1 : ℚ) ≤ |(whole : ℚ) - other| := by
    have apart : (1 : Int) ≤ |(whole : Int) - other| := by
      apply Int.one_le_abs
      omega
    exact mod_cast apart
  have triangle := abs_sub_le (whole : ℚ) exact other
  have close := nearest.close
  rw [abs_sub_comm] at close
  linarith

theorem IsNearestWhole.le (nearest : IsNearestWhole exact whole) (other : Nat) :
    |exact - whole| ≤ |exact - other| := by
  by_cases same : other = whole
  · rw [same]
  · exact nearest.close.trans (nearest.half_le same)

theorem IsNearestWhole.even_of_tie (nearest : IsNearestWhole exact whole)
    (distinct : other ≠ whole) (tie : |exact - other| = |exact - whole|) : Even whole := by
  apply nearest.even
  apply le_antisymm nearest.close
  rw [← tie]
  exact nearest.half_le distinct

theorem IsNearestWhole.le_whole (nearest : IsNearestWhole exact whole) (le : other ≤ exact) :
    other ≤ whole := by
  have close := (abs_le.mp nearest.close).2
  have near : (other : ℚ) < whole + 1 := by linarith
  exact Nat.lt_succ_iff.mp (mod_cast near)

theorem IsNearestWhole.whole_le (nearest : IsNearestWhole exact whole) (le : exact ≤ other) :
    whole ≤ other := by
  have close := (abs_le.mp nearest.close).1
  have near : (whole : ℚ) < other + 1 := by linarith
  exact Nat.lt_succ_iff.mp (mod_cast near)

end Whole

/-! ### The numbers of a format -/

/-- This is the significand times a power of two. -/
def magnitude (significand : Nat) (exponent : Int) : ℚ :=
  significand * 2 ^ exponent

namespace Format

/-- The significand has at most as many bits as the precision, and just as many unless the exponent
is the least one. The exponent may be greater than those of the format. -/
structure Holds (format : Format) (significand : Nat) (exponent : Int) : Prop where
  short : significand < 2 ^ format.precision
  least : format.minExponent ≤ exponent
  full : 2 ^ (format.precision - 1) ≤ significand ∨ exponent = format.minExponent

/-- No number is nearer, and if another one is as near the significand is even. -/
structure IsNearest (format : Format) (exact : ℚ) (significand : Nat) (exponent : Int) : Prop where
  holds : format.Holds significand exponent
  nearest : ∀ other otherExponent, format.Holds other otherExponent →
    |exact - magnitude significand exponent| ≤ |exact - magnitude other otherExponent|
  even : ∀ other otherExponent, format.Holds other otherExponent →
    |exact - magnitude other otherExponent| = |exact - magnitude significand exponent| →
      magnitude other otherExponent ≠ magnitude significand exponent → Even significand

/-- A magnitude rounds to the nearest number, which is infinite if it needs an exponent greater than
those of the format. The sign is kept. -/
inductive RoundsTo (format : Format) (negative : Bool) (exact : ℚ) : Number → Prop where
  | finite {significand : Nat} {exponent : Int}
      (nearest : format.IsNearest exact significand exponent)
      (within : exponent ≤ format.maxExponent) :
      RoundsTo format negative exact (.finite negative significand exponent)
  | infinite {significand : Nat} {exponent : Int}
      (nearest : format.IsNearest exact significand exponent)
      (beyond : format.maxExponent < exponent) :
      RoundsTo format negative exact (.infinite negative)

end Format

section Magnitude

variable {format : Format} {significand other whole : Nat} {exponent otherExponent : Int}
  {exact : ℚ}

theorem magnitude_lt_magnitude_iff :
    magnitude significand exponent < magnitude other exponent ↔ significand < other := by
  have positive : (0 : ℚ) < 2 ^ exponent := by positivity
  rw [magnitude, magnitude, mul_lt_mul_iff_of_pos_right positive, Nat.cast_lt]

theorem magnitude_le_magnitude_iff :
    magnitude significand exponent ≤ magnitude other exponent ↔ significand ≤ other := by
  rw [← not_lt, magnitude_lt_magnitude_iff, not_lt]

theorem magnitude_double (significand : Nat) (exponent : Int) :
    magnitude (2 * significand) exponent = magnitude significand (exponent + 1) := by
  rw [magnitude, magnitude, zpow_add_one₀ (by norm_num)]
  push_cast
  ring

/-- A number with a greater exponent is a multiple of the smaller power of two. -/
theorem magnitude_shift (le : exponent ≤ otherExponent) : magnitude other otherExponent =
    magnitude (other * 2 ^ (otherExponent - exponent).toNat) exponent := by
  obtain ⟨shift, rfl⟩ := Int.le.dest le
  rw [magnitude, magnitude, add_sub_cancel_left, Int.toNat_natCast, zpow_add₀ (by norm_num),
    zpow_natCast]
  push_cast
  ring

theorem sub_magnitude (exact : ℚ) (significand : Nat) (exponent : Int) :
    exact - magnitude significand exponent =
      (exact / 2 ^ exponent - significand) * 2 ^ exponent := by
  have nonzero : (2 : ℚ) ^ exponent ≠ 0 := by positivity
  rw [sub_mul, div_mul_cancel₀ _ nonzero, magnitude]

theorem abs_sub_magnitude (exact : ℚ) (significand : Nat) (exponent : Int) :
    |exact - magnitude significand exponent| =
      |exact / 2 ^ exponent - significand| * 2 ^ exponent := by
  rw [sub_magnitude, abs_mul, abs_of_pos (by positivity : (0 : ℚ) < 2 ^ exponent)]

namespace Format

/-- A further bit is a greater exponent. -/
theorem magnitude_full (positive : 0 < format.precision) (exponent : Int) :
    magnitude (2 ^ (format.precision - 1)) (exponent + 1) =
      magnitude (2 ^ format.precision) exponent := by
  rw [← magnitude_double, mul_pow_sub_one positive.ne']

/-- A number is smaller than all numbers of full precision with a greater exponent. -/
theorem Holds.lt_full (holds : format.Holds significand exponent) (positive : 0 < format.precision)
    (lt : exponent < otherExponent) : magnitude significand exponent <
      magnitude (2 ^ (format.precision - 1)) otherExponent := by
  have grows : magnitude (2 ^ (format.precision - 1)) (exponent + 1) ≤
      magnitude (2 ^ (format.precision - 1)) otherExponent := by
    unfold magnitude
    gcongr
    · norm_num
    · omega
  have short : magnitude significand exponent < magnitude (2 ^ format.precision) exponent :=
    magnitude_lt_magnitude_iff.mpr holds.short
  rw [magnitude_full positive] at grows
  exact short.trans_le grows

theorem Holds.full_of_lt (holds : format.Holds significand exponent)
    (lt : format.minExponent < exponent) : 2 ^ (format.precision - 1) ≤ significand :=
  holds.full.resolve_right lt.ne'

theorem Holds.lt_of_exponent_lt (holds : format.Holds significand exponent)
    (otherHolds : format.Holds other otherExponent) (positive : 0 < format.precision)
    (lt : exponent < otherExponent) :
    magnitude significand exponent < magnitude other otherExponent := by
  have full := otherHolds.full_of_lt (holds.least.trans_lt lt)
  exact (holds.lt_full positive lt).trans_le (magnitude_le_magnitude_iff.mpr full)

/-- A number has one significand and one exponent. -/
theorem Holds.unique (holds : format.Holds significand exponent)
    (otherHolds : format.Holds other otherExponent) (positive : 0 < format.precision)
    (same : magnitude significand exponent = magnitude other otherExponent) :
    significand = other ∧ exponent = otherExponent := by
  have exponents : exponent = otherExponent := by
    apply le_antisymm
    · by_contra greater
      rw [not_le] at greater
      exact (otherHolds.lt_of_exponent_lt holds positive greater).ne' same
    · by_contra smaller
      rw [not_le] at smaller
      exact (holds.lt_of_exponent_lt otherHolds positive smaller).ne same
  subst exponents
  refine ⟨le_antisymm ?_ ?_, rfl⟩
  · exact magnitude_le_magnitude_iff.mp same.le
  · exact magnitude_le_magnitude_iff.mp same.ge

/-- The next greater significand is passed by no greater number. -/
theorem Holds.next_le (holds : format.Holds significand exponent)
    (otherHolds : format.Holds other otherExponent) (positive : 0 < format.precision)
    (lt : magnitude significand exponent < magnitude other otherExponent) :
    magnitude (significand + 1) exponent ≤ magnitude other otherExponent := by
  have exponents : exponent ≤ otherExponent := by
    by_contra greater
    rw [not_le] at greater
    exact lt.not_gt (otherHolds.lt_of_exponent_lt holds positive greater)
  rw [magnitude_shift exponents] at lt ⊢
  rw [magnitude_lt_magnitude_iff] at lt
  rwa [magnitude_le_magnitude_iff]

end Format

/-! ### The nearest number -/

namespace Format

/-- The exponent gives a magnitude the precision of the format, or less if it is the least one. -/
structure IsExponentFor (format : Format) (exact : ℚ) (exponent : Int) : Prop where
  least : format.minExponent ≤ exponent
  below : exact < magnitude (2 ^ format.precision) exponent
  above : magnitude (2 ^ (format.precision - 1)) exponent ≤ exact ∨ exponent = format.minExponent

section Nearest

variable (isExponent : format.IsExponentFor exact exponent)
  (isNearest : IsNearestWhole (exact / 2 ^ exponent) whole)

include isNearest in
theorem nearest_multiple (other : Nat) :
    |exact - magnitude whole exponent| ≤ |exact - magnitude other exponent| := by
  rw [abs_sub_magnitude, abs_sub_magnitude]
  exact mul_le_mul_of_nonneg_right (isNearest.le other) (by positivity)

include isNearest in
theorem even_of_tied_multiple
    (tie : |exact - magnitude other exponent| = |exact - magnitude whole exponent|)
    (distinct : magnitude other exponent ≠ magnitude whole exponent) : Even whole := by
  rw [abs_sub_magnitude, abs_sub_magnitude] at tie
  refine isNearest.even_of_tie ?_ (mul_right_cancel₀ (by positivity) tie)
  intro same
  rw [same] at distinct
  exact distinct rfl

include isExponent isNearest

/-- Numbers with a smaller exponent are farther than the least number of full precision. -/
theorem lt_of_exponent_lt (positive : 0 < format.precision)
    (otherHolds : format.Holds other otherExponent) (lt : otherExponent < exponent) :
    |exact - magnitude whole exponent| < |exact - magnitude other otherExponent| := by
  have full := isExponent.above.resolve_right (otherHolds.least.trans_lt lt).ne'
  have smaller := otherHolds.lt_full positive lt
  have atMost := nearest_multiple isNearest (2 ^ (format.precision - 1))
  rw [abs_of_nonneg (sub_nonneg.mpr full)] at atMost
  rw [abs_of_pos (sub_pos.mpr (smaller.trans_le full))]
  linarith

theorem nearest_of_holds (positive : 0 < format.precision)
    (otherHolds : format.Holds other otherExponent) :
    |exact - magnitude whole exponent| ≤ |exact - magnitude other otherExponent| := by
  rcases lt_or_ge otherExponent exponent with lt | le
  · exact (lt_of_exponent_lt isExponent isNearest positive otherHolds lt).le
  · rw [magnitude_shift le]
    exact nearest_multiple isNearest _

theorem even_of_tie (positive : 0 < format.precision)
    (otherHolds : format.Holds other otherExponent)
    (tie : |exact - magnitude other otherExponent| = |exact - magnitude whole exponent|)
    (distinct : magnitude other otherExponent ≠ magnitude whole exponent) : Even whole := by
  rcases lt_or_ge otherExponent exponent with lt | le
  · exact absurd tie (lt_of_exponent_lt isExponent isNearest positive otherHolds lt).ne'
  · rw [magnitude_shift le] at tie distinct
    exact even_of_tied_multiple isNearest tie distinct

theorem isNearest_of_short (positive : 0 < format.precision)
    (short : whole < 2 ^ format.precision) : format.IsNearest exact whole exponent where
  holds := by
    refine ⟨short, isExponent.least, isExponent.above.imp_left fun full => ?_⟩
    apply isNearest.le_whole
    rwa [le_div_iff₀ (by positivity)]
  nearest _ _ := nearest_of_holds isExponent isNearest positive
  even _ _ := even_of_tie isExponent isNearest positive

/-- What is rounded up to a further bit is the least number of full precision of the next exponent. -/
theorem isNearest_of_carry (enough : 2 ≤ format.precision) (carry : whole = 2 ^ format.precision) :
    format.IsNearest exact (2 ^ (format.precision - 1)) (exponent + 1) := by
  have positive : 0 < format.precision := by omega
  subst carry
  constructor
  · refine ⟨?_, isExponent.least.trans (by omega), .inl le_rfl⟩
    exact Nat.pow_lt_pow_right (by omega) (by omega)
  · intro other otherExponent
    rw [magnitude_full positive]
    exact nearest_of_holds isExponent isNearest positive
  · intro other otherExponent _ _ _
    exact Nat.even_pow.mpr ⟨even_two, by omega⟩

theorem isNearest_carried (enough : 2 ≤ format.precision) {carried : Nat × Int}
    (carry : carried = if whole = 2 ^ format.precision then
      (2 ^ (format.precision - 1), exponent + 1) else (whole, exponent)) :
    format.IsNearest exact carried.1 carried.2 := by
  subst carry
  split
  · rename_i carry
    exact isNearest_of_carry isExponent isNearest enough carry
  · rename_i other
    apply isNearest_of_short isExponent isNearest (by omega)
    apply lt_of_le_of_ne _ other
    apply isNearest.whole_le
    rw [div_le_iff₀ (by positivity)]
    exact isExponent.below.le

end Nearest

theorem abs_sub_lt_of_between {first between last : ℚ} (tie : |exact - first| = |exact - last|)
    (above : first < between) (below : between < last) : |exact - between| < |exact - first| := by
  have middle : exact - first = last - exact := by
    rcases abs_eq_abs.mp tie with same | opposite
    · linarith
    · linarith
  have apart : 0 < exact - first := by linarith
  rw [abs_of_pos apart, abs_lt]
  constructor <;> linarith

/-- Of two neighbours only one has an even significand. -/
theorem IsNearest.magnitude_le (positive : 0 < format.precision)
    (first : format.IsNearest exact significand exponent)
    (second : format.IsNearest exact other otherExponent) :
    magnitude other otherExponent ≤ magnitude significand exponent := by
  by_contra lt
  rw [not_le] at lt
  have tie : |exact - magnitude significand exponent| = |exact - magnitude other otherExponent| :=
    le_antisymm (first.nearest _ _ second.holds) (second.nearest _ _ first.holds)
  -- Both significands are even, so the one between them is that of a nearer number.
  have even := first.even _ _ second.holds tie.symm lt.ne'
  have otherEven := second.even _ _ first.holds tie lt.ne
  have power : Even (2 ^ format.precision) := Nat.even_pow.mpr ⟨even_two, positive.ne'⟩
  have short : significand + 1 < 2 ^ format.precision := by
    apply lt_of_le_of_ne first.holds.short
    intro full
    rw [← full] at power
    exact Nat.not_even_iff_odd.mpr even.add_one power
  have next : format.Holds (significand + 1) exponent :=
    ⟨short, first.holds.least, first.holds.full.imp_left Nat.le_succ_of_le⟩
  rcases (first.holds.next_le second.holds positive lt).lt_or_eq with between | same
  · have step : magnitude significand exponent < magnitude (significand + 1) exponent :=
      magnitude_lt_magnitude_iff.mpr significand.lt_succ_self
    exact (first.nearest _ _ next).not_gt (abs_sub_lt_of_between tie step between)
  · rw [← (next.unique second.holds positive same).1] at otherEven
    exact Nat.not_even_iff_odd.mpr even.add_one otherEven

theorem IsNearest.unique (positive : 0 < format.precision)
    (first : format.IsNearest exact significand exponent)
    (second : format.IsNearest exact other otherExponent) :
    significand = other ∧ exponent = otherExponent := by
  apply first.holds.unique second.holds positive
  apply le_antisymm
  · exact second.magnitude_le positive first
  · exact first.magnitude_le positive second

theorem RoundsTo.unique {negative : Bool} {number otherNumber : Number}
    (positive : 0 < format.precision) (first : format.RoundsTo negative exact number)
    (second : format.RoundsTo negative exact otherNumber) : number = otherNumber := by
  cases first with
  | finite nearest within =>
      cases second with
      | finite otherNearest =>
          obtain ⟨rfl, rfl⟩ := nearest.unique positive otherNearest
          rfl
      | infinite otherNearest beyond =>
          obtain ⟨rfl, rfl⟩ := nearest.unique positive otherNearest
          exact absurd within beyond.not_ge
  | infinite nearest beyond =>
      cases second with
      | finite otherNearest within =>
          obtain ⟨rfl, rfl⟩ := nearest.unique positive otherNearest
          exact absurd within beyond.not_ge
      | infinite => rfl

end Format

end Magnitude

end CommandShell.Binary
