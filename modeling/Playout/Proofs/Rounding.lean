/-
**How far a rounded number is off, and where it lands.**

Near a value that is not too small, a binary format has the multiples of one unit, and the nearest
of them is at most half a unit away. A multiple stays as it is. Whether the rounded value gets as far
as some even multiple can be told from the value itself: it does once at most half a unit is
missing, since a tie goes to the even side. A rounded value does not leave its binade but for the
power of two at the upper end, so rounding keeps the order also where the unit changes.

* `binade_eq_log`: the binade of a value is its logarithm;
* `abs_roundEven_sub_le`, `le_roundEven_iff`, `roundEven_mono`: the same of integers;
* `BinaryFormat.abs_nearest_sub_le`: the error is at most half a unit;
* `BinaryFormat.abs_nearest_sub_le_mul`: and so at most a fixed part of the value;
* `BinaryFormat.nearest_eq_self`: a multiple of the unit is kept;
* `BinaryFormat.le_nearest_iff`: when a rounded value reaches an even multiple;
* `BinaryFormat.nearest_mono`: a larger value is not rounded to a smaller one.
-/
import Mathlib.Data.Int.Log
import Mathlib.Data.Rat.Floor
import Mathlib.Tactic.Linarith
import Mathlib.Tactic.Positivity
import Playout.Rounding

namespace Playout

/-! ### Powers and binades -/

theorem twoPow_eq_zpow (exponent : Int) : twoPow exponent = (2 : Rat) ^ exponent := by
  unfold twoPow
  split
  · next positive =>
    lift exponent to Nat using positive
    simp
  · next negative =>
    obtain ⟨size, rfl⟩ : ∃ size : Nat, exponent = -(size : Int) := ⟨(-exponent).toNat, by omega⟩
    simp

theorem Scaled.value_nonneg (number : Scaled) : 0 ≤ number.value := by
  rw [value, twoPow_eq_zpow]
  exact mul_nonneg (Nat.cast_nonneg _) (zpow_pos two_pos _).le

theorem log_eq_of_le_of_lt {value : Rat} {exponent : Int} (low : (2 : Rat) ^ exponent ≤ value)
    (high : value < 2 ^ (exponent + 1)) : Int.log 2 value = exponent := by
  have positive : 0 < value := lt_of_lt_of_le (zpow_pos two_pos exponent) low
  have reached := (Int.zpow_le_iff_le_log (b := 2) one_lt_two positive).1 (by simpa using low)
  have missed := (Int.lt_zpow_iff_log_lt (b := 2) one_lt_two positive).1 (by simpa using high)
  omega

/-- The logarithms of numerator and denominator tell that of a fraction, up to one. -/
theorem estimate_bounds {value : Rat} (positive : 0 < value) :
    (2 : Rat) ^ ((Nat.log2 value.num.toNat : Int) - Nat.log2 value.den - 1) ≤ value ∧
      value < (2 : Rat) ^ ((Nat.log2 value.num.toNat : Int) - Nat.log2 value.den + 1) := by
  have numerator : (0 : Int) < value.num := Rat.num_pos.2 positive
  have denominator : (0 : Rat) < value.den := by exact_mod_cast value.den_pos
  have quotient : value = (value.num.toNat : Rat) / value.den := by
    conv_lhs => rw [← Rat.num_div_den value]
    congr 1
    exact_mod_cast (Int.toNat_of_nonneg numerator.le).symm
  have num_low : (2 : Rat) ^ Nat.log2 value.num.toNat ≤ value.num.toNat := by
    exact_mod_cast Nat.log2_self_le (by omega : value.num.toNat ≠ 0)
  have num_high : (value.num.toNat : Rat) < 2 ^ (Nat.log2 value.num.toNat + 1) := by
    exact_mod_cast Nat.lt_log2_self
  have den_low : (2 : Rat) ^ Nat.log2 value.den ≤ value.den := by
    exact_mod_cast Nat.log2_self_le value.den_ne_zero
  have den_high : (value.den : Rat) < 2 ^ (Nat.log2 value.den + 1) := by
    exact_mod_cast Nat.lt_log2_self
  generalize Nat.log2 value.num.toNat = top, Nat.log2 value.den = bottom at *
  have positive_top : (0 : Rat) < 2 ^ top := by positivity
  have positive_bottom : (0 : Rat) < 2 ^ bottom := by positivity
  constructor
  · rw [show (top : Int) - bottom - 1 = top - ((bottom + 1 : Nat) : Int) by push_cast; ring,
      zpow_sub₀ two_ne_zero, zpow_natCast, zpow_natCast]
    conv_rhs => rw [quotient]
    exact div_le_div₀ (by positivity) num_low denominator den_high.le
  · rw [show (top : Int) - bottom + 1 = ((top + 1 : Nat) : Int) - bottom by push_cast; ring,
      zpow_sub₀ two_ne_zero, zpow_natCast, zpow_natCast]
    conv_lhs => rw [quotient]
    exact div_lt_div₀ num_high den_low (by positivity) positive_bottom

/-- The binade of a value is its logarithm, rounded down. -/
theorem binade_eq_log {value : Rat} (positive : 0 < value) : binade value = Int.log 2 value := by
  obtain ⟨low, high⟩ := estimate_bounds positive
  simp only [binade, twoPow_eq_zpow]
  split
  · next below => exact (log_eq_of_le_of_lt low (by rwa [sub_add_cancel])).symm
  · next reached => exact (log_eq_of_le_of_lt (not_lt.1 reached) high).symm

/-! ### Integers -/

theorem abs_roundEven_sub_le (value : Rat) : |(roundEven value : Rat) - value| ≤ 1 / 2 := by
  have low : (value.floor : Rat) ≤ value := Int.floor_le value
  have high : value < value.floor + 1 := Int.lt_floor_add_one value
  simp only [roundEven]
  split_ifs <;> rw [abs_le] <;> push_cast <;> constructor <;> linarith

@[simp] theorem roundEven_intCast (whole : Int) : roundEven (whole : Rat) = whole := by
  simp [roundEven]

/-- A rounded value reaches an even integer once at most a half is missing. -/
theorem le_roundEven_iff {whole : Int} (even : whole % 2 = 0) {value : Rat} :
    whole ≤ roundEven value ↔ (whole : Rat) - 1 / 2 ≤ value := by
  have low : (value.floor : Rat) ≤ value := Int.floor_le value
  have high : value < value.floor + 1 := Int.lt_floor_add_one value
  -- the floor of the value is not below the integer, or directly below it, or further below
  rcases lt_trichotomy (value.floor + 1) whole with far | near | reached
  · have below : (value.floor : Rat) + 1 + 1 ≤ whole := by exact_mod_cast far
    have bounded : roundEven value ≤ value.floor + 1 := by
      simp only [roundEven]
      split_ifs <;> omega
    constructor
    · intro reaches
      omega
    · intro close
      linarith
  · have next : (value.floor : Rat) + 1 = whole := by exact_mod_cast near
    have odd : ¬ value.floor % 2 = 0 := by omega
    simp only [roundEven, odd, if_false]
    split_ifs with down up
    · constructor
      · intro reaches
        omega
      · intro close
        linarith
    · exact iff_of_true near.ge (by linarith)
    · exact iff_of_true near.ge (by linarith)
  · have above : (whole : Rat) ≤ value.floor := by exact_mod_cast Int.lt_add_one_iff.1 reached
    have bounded : value.floor ≤ roundEven value := by
      simp only [roundEven]
      split_ifs <;> omega
    exact iff_of_true (by omega) (by linarith)

/-- Rounding keeps the order, ties included: if it did not, a tie would lie between the two results,
and both values would be that tie. -/
theorem roundEven_mono {first second : Rat} (ordered : first ≤ second) :
    roundEven first ≤ roundEven second := by
  by_contra reversed
  have passed : (roundEven second : Rat) + 1 ≤ roundEven first := by
    exact_mod_cast Int.add_one_le_of_lt (not_le.1 reversed)
  have above := (abs_le.1 (abs_roundEven_sub_le first)).2
  have below := (abs_le.1 (abs_roundEven_sub_le second)).1
  obtain rfl : first = second := by linarith
  exact reversed le_rfl

theorem roundHalfUp_mono {first second : Rat} (ordered : first ≤ second) :
    roundHalfUp first ≤ roundHalfUp second := by
  show ⌊first + 1 / 2⌋ ≤ ⌊second + 1 / 2⌋
  exact Int.floor_le_floor (add_le_add_left ordered _)

/-- Half a unit below an integer and half a unit above it are the bounds of what is rounded to it. -/
theorem roundHalfUp_eq_iff {value : Rat} {whole : Int} :
    roundHalfUp value = whole ↔ (whole : Rat) - 1 / 2 ≤ value ∧ value < whole + 1 / 2 := by
  have floor_eq : roundHalfUp value = ⌊value + 1 / 2⌋ := rfl
  rw [floor_eq, Int.floor_eq_iff, sub_le_iff_le_add, ← lt_sub_iff_add_lt, add_sub_assoc]
  norm_num

/-! ### Numbers of a format -/

namespace BinaryFormat

variable {format : BinaryFormat} {value : Rat}

/-- The unit in which a format counts near a positive value that is not too small. -/
def unit (format : BinaryFormat) (value : Rat) : Rat :=
  2 ^ (Int.log 2 value - (format.precision - 1))

/-- A positive value that keeps all bits of the format. -/
structure Normal (format : BinaryFormat) (value : Rat) : Prop where
  positive : 0 < value
  finest_le : format.finest ≤ Int.log 2 value - (format.precision - 1)

theorem unit_pos (format : BinaryFormat) (value : Rat) : 0 < format.unit value :=
  zpow_pos two_pos _

@[simp] theorem value_nearest_zero (format : BinaryFormat) : (format.nearest 0).value = 0 := by
  have zero : roundEven 0 = 0 := roundEven_intCast 0
  simp [nearest, Scaled.value, zero]

/-- A normal value is rounded to a multiple of its unit. -/
theorem Normal.value_nearest (normal : format.Normal value) :
    (format.nearest value).value = roundEven (value / format.unit value) * format.unit value := by
  have exponent_eq : format.unitExponent value = Int.log 2 value - (format.precision - 1) := by
    rw [unitExponent, binade_eq_log normal.positive, max_eq_left normal.finest_le]
  have fraction : 0 < value / format.unit value := div_pos normal.positive (format.unit_pos value)
  have counted : 0 ≤ roundEven (value / format.unit value) :=
    (le_roundEven_iff rfl).2 (by push_cast; linarith)
  simp only [nearest, Scaled.value, exponent_eq, twoPow_eq_zpow]
  rw [← unit, ← Int.cast_natCast, Int.toNat_of_nonneg counted]

/-- **The error is at most half a unit.** -/
theorem Normal.abs_nearest_sub_le (normal : format.Normal value) :
    |(format.nearest value).value - value| ≤ format.unit value / 2 := by
  have positive := format.unit_pos value
  have close := mul_le_mul_of_nonneg_right (abs_roundEven_sub_le (value / format.unit value))
    positive.le
  rw [← abs_of_pos positive, ← abs_mul, abs_of_pos positive, sub_mul,
    div_mul_cancel₀ value positive.ne'] at close
  rw [normal.value_nearest]
  linarith

/-- A unit is at most a fixed part of the value. -/
theorem Normal.unit_le (normal : format.Normal value) :
    format.unit value ≤ value * 2 ^ (1 - format.precision : Int) := by
  have reached : (2 : Rat) ^ Int.log 2 value ≤ value := by
    simpa using Int.zpow_log_le_self (b := 2) one_lt_two normal.positive
  rw [unit, show Int.log 2 value - (format.precision - 1 : Int) =
    Int.log 2 value + (1 - format.precision) by ring, zpow_add₀ two_ne_zero]
  exact mul_le_mul_of_nonneg_right reached (zpow_pos two_pos _).le

/-- **The error is at most a fixed part of the value.** -/
theorem Normal.abs_nearest_sub_le_mul (normal : format.Normal value) :
    |(format.nearest value).value - value| ≤ value * 2 ^ (-format.precision : Int) := by
  have half : (2 : Rat) ^ (1 - format.precision : Int) = 2 * 2 ^ (-format.precision : Int) := by
    rw [sub_eq_add_neg, zpow_add₀ two_ne_zero, zpow_one]
  have close := normal.abs_nearest_sub_le
  have small := normal.unit_le
  rw [half] at small
  linarith

/-- A multiple of a power of two that is not finer than the unit is a multiple of the unit. -/
theorem mul_zpow_eq (format : BinaryFormat) (value : Rat) (whole : Int) {exponent : Int}
    (coarse : Int.log 2 value - (format.precision - 1) ≤ exponent) :
    (whole : Rat) * 2 ^ exponent =
      ((whole * 2 ^ (exponent - (Int.log 2 value - (format.precision - 1))).toNat : Int) : Rat) *
        format.unit value := by
  obtain ⟨steps, rfl⟩ := Int.exists_add_of_le coarse
  rw [add_sub_cancel_left, Int.toNat_natCast, unit, zpow_add₀ two_ne_zero, zpow_natCast]
  push_cast
  ring

/-- **A multiple of the unit is kept.** -/
theorem Normal.nearest_eq_self (normal : format.Normal value) {whole exponent : Int}
    (value_eq : value = whole * 2 ^ exponent)
    (coarse : Int.log 2 value - (format.precision - 1) ≤ exponent) :
    (format.nearest value).value = value := by
  have multiple := value_eq.trans (format.mul_zpow_eq value whole coarse)
  have counted := (div_eq_iff (format.unit_pos value).ne').2 multiple
  rw [normal.value_nearest, counted, roundEven_intCast, ← multiple]

/-- **A rounded value reaches an even multiple** of the unit just if at most half a unit is
missing. -/
theorem Normal.le_nearest_iff (normal : format.Normal value) (whole : Int) {exponent : Int}
    (coarse : Int.log 2 value - (format.precision - 1) < exponent) :
    whole * 2 ^ exponent ≤ (format.nearest value).value ↔
      whole * 2 ^ exponent - format.unit value / 2 ≤ value := by
  have positive := format.unit_pos value
  rw [format.mul_zpow_eq value whole coarse.le]
  have even : whole * 2 ^ (exponent - (Int.log 2 value - (format.precision - 1))).toNat % 2 = 0 := by
    obtain ⟨steps, step⟩ := Nat.exists_eq_succ_of_ne_zero
      (by omega : (exponent - (Int.log 2 value - (format.precision - 1))).toNat ≠ 0)
    rw [step, Nat.succ_eq_add_one, pow_succ, ← mul_assoc, Int.mul_emod_left]
  generalize whole * 2 ^ (exponent - (Int.log 2 value - (format.precision - 1))).toNat = count
    at even ⊢
  rw [normal.value_nearest, mul_le_mul_iff_left₀ positive, Int.cast_le, le_roundEven_iff even,
    le_div_iff₀ positive, sub_mul, one_div_mul_eq_div]

/-! ### The order of rounded values -/

/-- A multiple of the unit that the value reaches is reached by the rounded value. -/
theorem Normal.le_nearest (normal : format.Normal value) (whole : Int) {exponent : Int}
    (coarse : Int.log 2 value - (format.precision - 1) ≤ exponent)
    (reached : whole * 2 ^ exponent ≤ value) :
    whole * 2 ^ exponent ≤ (format.nearest value).value := by
  have positive := format.unit_pos value
  rw [format.mul_zpow_eq value whole coarse] at reached ⊢
  rw [← le_div_iff₀ positive] at reached
  have kept := roundEven_mono reached
  rw [roundEven_intCast] at kept
  rw [normal.value_nearest]
  exact mul_le_mul_of_nonneg_right (by exact_mod_cast kept) positive.le

/-- A multiple of the unit that the value does not pass is not passed by the rounded value. -/
theorem Normal.nearest_le (normal : format.Normal value) (whole : Int) {exponent : Int}
    (coarse : Int.log 2 value - (format.precision - 1) ≤ exponent)
    (bounded : value ≤ whole * 2 ^ exponent) :
    (format.nearest value).value ≤ whole * 2 ^ exponent := by
  have positive := format.unit_pos value
  rw [format.mul_zpow_eq value whole coarse] at bounded ⊢
  rw [← div_le_iff₀ positive] at bounded
  have kept := roundEven_mono bounded
  rw [roundEven_intCast] at kept
  rw [normal.value_nearest]
  exact mul_le_mul_of_nonneg_right (by exact_mod_cast kept) positive.le

/-- A rounded value stays in its binade, or comes to the power of two behind it. -/
theorem Normal.nearest_mem_binade (normal : format.Normal value) (bits : 1 ≤ format.precision) :
    (2 : Rat) ^ Int.log 2 value ≤ (format.nearest value).value ∧
      (format.nearest value).value ≤ 2 ^ (Int.log 2 value + 1) := by
  have low : (2 : Rat) ^ Int.log 2 value ≤ value := by
    simpa using Int.zpow_log_le_self (b := 2) one_lt_two normal.positive
  have high : value < (2 : Rat) ^ (Int.log 2 value + 1) := by
    simpa using Int.lt_zpow_succ_log_self (b := 2) one_lt_two value
  constructor
  · simpa using normal.le_nearest 1 (by omega) (by simpa using low)
  · simpa using normal.nearest_le 1 (by omega) (by simpa using high.le)

/-- What is not below a normal value is normal. -/
theorem Normal.of_le {first second : Rat} (normal : format.Normal first)
    (ordered : first ≤ second) : format.Normal second :=
  ⟨normal.positive.trans_le ordered,
    normal.finest_le.trans (sub_le_sub_right (Int.log_mono_right normal.positive ordered) _)⟩

/-- **Rounding keeps the order**: in one binade since integers keep theirs, and from one binade to
another since a power of two lies between the results. -/
theorem Normal.nearest_mono {first second : Rat} (normal : format.Normal first)
    (bits : 1 ≤ format.precision) (ordered : first ≤ second) :
    (format.nearest first).value ≤ (format.nearest second).value := by
  have larger := normal.of_le ordered
  rcases (Int.log_mono_right (b := 2) normal.positive ordered).eq_or_lt with same | crossed
  · have unit_eq : format.unit second = format.unit first := by rw [unit, unit, same]
    have positive := format.unit_pos first
    have rounded := roundEven_mono (div_le_div_of_nonneg_right ordered positive.le)
    rw [normal.value_nearest, larger.value_nearest, unit_eq]
    exact mul_le_mul_of_nonneg_right (by exact_mod_cast rounded) positive.le
  · calc (format.nearest first).value
        ≤ 2 ^ (Int.log 2 first + 1) := (normal.nearest_mem_binade bits).2
      _ ≤ 2 ^ Int.log 2 second := zpow_le_zpow_right₀ one_le_two (Int.add_one_le_of_lt crossed)
      _ ≤ (format.nearest second).value := (larger.nearest_mem_binade bits).1

end BinaryFormat

end Playout
