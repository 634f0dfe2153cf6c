/-
**Milliseconds are rounded, but for a tie that slips.**

A frame count is divided by the frames of a millisecond, and both that rate and the quotient are
rounded to 53 bits before the last rounding, which takes a half up. These two errors are too small to
matter, unless the exact duration lies halfway between two milliseconds. Then it is lost if the rate
was rounded up by so much that the quotient falls short of the half by more than half a unit, and the
result is one too small.

* `abs_computedMs_sub_lt`: both errors together are less than what a duration that is not a tie is
  away from one;
* `le_computedMs_iff`: when a tie is kept;
* `roundHalfUp_computedMs`: what the last rounding makes of the quotient;
* `not_tieSlips`: where no tie slips;
* `Ring.milliseconds_are_rounded`: **the durations that rings tell**.
-/
import Mathlib.Data.Nat.Prime.Basic
import Playout.Proofs.Ring.Renewal
import Playout.Proofs.Rounding

namespace Playout

/-! ### Exact durations -/

/-- The duration of a frame count in milliseconds, rounded to nearest, a half going up. -/
def roundedMs (rate frames : Nat) : Nat := (2000 * frames + rate) / (2 * rate)

/-- The duration before its last rounding. -/
def computedMs (rate frames : Nat) : Rat :=
  (binary64.nearest ((frames : Rat) / exactFramesPerMs rate)).value

/-- The rate in frames per millisecond was rounded up by so much that an odd number of half
milliseconds falls short of itself. -/
def FallsShort (rate odd : Nat) : Prop :=
  (2 : Rat) ^ Nat.log2 odd * exactFramesPerMs rate <
    odd * 2 ^ 53 * (exactFramesPerMs rate - rate / 1000)

instance (rate odd : Nat) : Decidable (FallsShort rate odd) := inferInstanceAs (Decidable (_ < _))

/-- The exact duration lies halfway between two milliseconds, and falls short of the upper one. -/
def TieSlips (rate frames : Nat) : Prop :=
  (2000 * frames + rate) % (2 * rate) = 0 ∧ FallsShort rate (2 * roundedMs rate frames - 1)

instance (rate frames : Nat) : Decidable (TieSlips rate frames) :=
  inferInstanceAs (Decidable (_ ∧ _))

/-- The milliseconds that are told: the rounded duration, or one less where a tie slips. -/
def toldMs (rate frames : Nat) : Nat :=
  saturate (roundedMs rate frames - if TieSlips rate frames then 1 else 0)

theorem roundedMs_mul_add (rate frames : Nat) :
    2 * (rate : Int) * roundedMs rate frames + ((2000 * frames + rate) % (2 * rate) : Nat) =
      2000 * frames + rate := by
  exact_mod_cast Nat.div_add_mod (2000 * frames + rate) (2 * rate)

/-- A tie is an odd number of halves. -/
theorem halves_of_tie {rate frames : Nat} (positive : 0 < rate)
    (tie : (2000 * frames + rate) % (2 * rate) = 0) :
    1 ≤ roundedMs rate frames ∧ 2000 * frames = (2 * roundedMs rate frames - 1) * rate := by
  have division := roundedMs_mul_add rate frames
  rw [tie, Nat.cast_zero] at division
  have some : 1 ≤ roundedMs rate frames := by
    refine Nat.one_le_iff_ne_zero.2 fun none => ?_
    rw [none] at division
    omega
  refine ⟨some, ?_⟩
  zify [show 1 ≤ 2 * roundedMs rate frames by omega]
  linarith

/-- An odd number other than one is no power of two. -/
theorem succ_two_pow_log2_le {odd : Nat} (isOdd : odd % 2 = 1) (not_one : odd ≠ 1) :
    2 ^ Nat.log2 odd + 1 ≤ odd := by
  refine lt_of_le_of_ne (Nat.log2_self_le (by omega)) fun power => ?_
  cases exponent : Nat.log2 odd with
  | zero =>
    rw [exponent, pow_zero] at power
    exact not_one power.symm
  | succ below =>
    rw [exponent, pow_succ] at power
    omega

/-! ### The rate in frames per millisecond -/

theorem cast_le_of_le_wordMax {count : Nat} (within : count ≤ wordMax) :
    (count : Rat) ≤ 4294967295 := by
  exact_mod_cast within

theorem normal_of_le {value : Rat} (large : (2 : Rat) ^ (-64 : Int) ≤ value) :
    binary64.Normal value := by
  have positive : 0 < value := lt_of_lt_of_le (zpow_pos two_pos _) large
  have reached : -64 ≤ Int.log 2 value :=
    (Int.zpow_le_iff_le_log one_lt_two positive).1 (by exact_mod_cast large)
  refine ⟨positive, ?_⟩
  simp only [binary64]
  omega

section Rates

variable {rate : Nat} (positive : 0 < rate)

include positive

theorem normal_rate : binary64.Normal ((rate : Rat) / 1000) := by
  apply normal_of_le
  have one : (1 : Rat) ≤ rate := by exact_mod_cast positive
  norm_num
  linarith

/-- The rounded rate is off by at most a 53rd power of one half, compared with itself. -/
theorem abs_exactFramesPerMs_sub_le :
    |exactFramesPerMs rate - rate / 1000| ≤ rate / 1000 / 2 ^ 53 := by
  have close := (normal_rate positive).abs_nearest_sub_le_mul
  have part : (2 : Rat) ^ (-binary64.precision : Int) = 1 / 2 ^ 53 := by norm_num [binary64]
  rwa [part, mul_one_div] at close

theorem exactFramesPerMs_pos : 0 < exactFramesPerMs rate := by
  have above : (0 : Rat) < rate / 1000 := (normal_rate positive).positive
  have close := (abs_le.1 (abs_exactFramesPerMs_sub_le positive)).1
  norm_num at close
  linarith

/-- A rate of a whole number of eighths per millisecond is exact. -/
theorem exactFramesPerMs_eq_of_dvd (within : rate ≤ wordMax) (eighths : 125 ∣ rate) :
    exactFramesPerMs rate = rate / 1000 := by
  obtain ⟨count, rfl⟩ := eighths
  have value_eq : ((125 * count : Nat) : Rat) / 1000 = (count : Int) * 2 ^ (-3 : Int) := by
    norm_num
    ring
  have small : ((125 * count : Nat) : Rat) / 1000 < ((2 : Nat) : Rat) ^ (40 : Int) := by
    have bound := cast_le_of_le_wordMax within
    norm_num at bound ⊢
    linarith
  have bounded := (Int.lt_zpow_iff_log_lt one_lt_two (normal_rate positive).positive).1 small
  refine (normal_rate positive).nearest_eq_self value_eq ?_
  simp only [binary64]
  omega

end Rates

/-! ### The quotient -/

section Quotients

variable {rate frames : Nat} (positive : 0 < rate) (within : rate ≤ wordMax)
  (counted : frames ≤ wordMax)

include positive in
/-- The quotient is not so large that it would lose a bit of a half. -/
theorem log_duration_lt (some : 0 < frames) (counted : frames ≤ wordMax) :
    Int.log 2 ((frames : Rat) / exactFramesPerMs rate) < 44 := by
  have rate_pos := exactFramesPerMs_pos positive
  have one : (1 : Rat) ≤ rate := by exact_mod_cast positive
  have bound := cast_le_of_le_wordMax counted
  have close := (abs_le.1 (abs_exactFramesPerMs_sub_le positive)).1
  refine (Int.lt_zpow_iff_log_lt one_lt_two (div_pos (by exact_mod_cast some) rate_pos)).1 ?_
  rw [div_lt_iff₀ rate_pos]
  norm_num at close ⊢
  linarith

include positive within

theorem normal_duration (some : 0 < frames) :
    binary64.Normal ((frames : Rat) / exactFramesPerMs rate) := by
  have rate_pos := exactFramesPerMs_pos positive
  have one : (1 : Rat) ≤ frames := by exact_mod_cast some
  have bound := cast_le_of_le_wordMax within
  have close := (abs_le.1 (abs_exactFramesPerMs_sub_le positive)).2
  apply normal_of_le
  rw [le_div_iff₀ rate_pos]
  norm_num at close ⊢
  linarith

include counted

/-- **Both errors together are less than the distance** of a duration from the middle between two
milliseconds, unless it lies there. -/
theorem abs_computedMs_sub_lt :
    |computedMs rate frames * (2 * rate) - 2000 * frames| < 1 := by
  rcases Nat.eq_zero_or_pos frames with rfl | some
  · simp [computedMs]
  have rate_pos : (0 : Rat) < rate := by exact_mod_cast positive
  have framesPerMs_pos := exactFramesPerMs_pos positive
  have bound := cast_le_of_le_wordMax counted
  obtain ⟨rate_low, rate_high⟩ := abs_le.1 (abs_exactFramesPerMs_sub_le positive)
  have normal := normal_duration positive within some
  have part : (2 : Rat) ^ (-binary64.precision : Int) = 1 / 2 ^ 53 := by norm_num [binary64]
  obtain ⟨low, high⟩ := abs_le.1 normal.abs_nearest_sub_le_mul
  rw [part] at low high
  have whole : (frames : Rat) / exactFramesPerMs rate * exactFramesPerMs rate = frames :=
    div_mul_cancel₀ _ framesPerMs_pos.ne'
  have quotient_pos := normal.positive
  simp only [computedMs]
  generalize (binary64.nearest ((frames : Rat) / exactFramesPerMs rate)).value = told at *
  generalize (frames : Rat) / exactFramesPerMs rate = quotient at *
  have above : quotient * (rate / 1000 - rate / 1000 / 2 ^ 53) ≤ frames :=
    whole ▸ mul_le_mul_of_nonneg_left (by linarith) quotient_pos.le
  have below : frames ≤ quotient * (rate / 1000 + rate / 1000 / 2 ^ 53) :=
    whole ▸ mul_le_mul_of_nonneg_left (by linarith) quotient_pos.le
  have scaled_low := mul_le_mul_of_nonneg_right low rate_pos.le
  have scaled_high := mul_le_mul_of_nonneg_right high rate_pos.le
  have scaled_pos := mul_pos quotient_pos rate_pos
  rw [abs_lt]
  constructor <;> linarith

/-- A duration of an odd number of half milliseconds whose rate was rounded up keeps its binade. -/
theorem log_duration_eq {odd : Nat} (halves : 2000 * frames = odd * rate) (isOdd : odd % 2 = 1)
    (up : (rate : Rat) / 1000 < exactFramesPerMs rate) :
    Int.log 2 ((frames : Rat) / exactFramesPerMs rate) = (Nat.log2 odd : Int) - 1 := by
  have rate_pos : (0 : Rat) < rate := by exact_mod_cast positive
  have framesPerMs_pos := exactFramesPerMs_pos positive
  have close := (abs_le.1 (abs_exactFramesPerMs_sub_le positive)).2
  have halves_eq : (2000 : Rat) * frames = odd * rate := by exact_mod_cast halves
  -- a single half would be the rate of an exact number of frames
  have not_one : odd ≠ 1 := by
    rintro rfl
    exact up.ne' (exactFramesPerMs_eq_of_dvd positive within (by omega))
  have odd_le : odd ≤ 2000 * frames :=
    halves ▸ Nat.le_mul_of_pos_right odd positive
  have bounded : Nat.log2 odd < 53 :=
    (Nat.log2_lt (by omega)).2 (by simp only [wordMax] at counted; omega)
  have small : (2 : Rat) ^ Nat.log2 odd ≤ 2 ^ 53 := pow_le_pow_right₀ one_le_two bounded.le
  have reached := succ_two_pow_log2_le isOdd not_one
  have reached_cast : (2 : Rat) ^ Nat.log2 odd + 1 ≤ odd := by exact_mod_cast reached
  have missed : (odd : Rat) < 2 ^ (Nat.log2 odd + 1) := by exact_mod_cast Nat.lt_log2_self
  have power_pos : (0 : Rat) < 2 ^ Nat.log2 odd := by positivity
  refine log_eq_of_le_of_lt ?_ ?_
  · rw [zpow_sub₀ two_ne_zero, zpow_natCast, zpow_one, le_div_iff₀ framesPerMs_pos]
    have scaled := mul_le_mul_of_nonneg_right reached_cast rate_pos.le
    have upper := mul_le_mul_of_nonneg_left close power_pos.le
    have part := mul_le_mul_of_nonneg_right small rate_pos.le
    linarith
  · rw [sub_add_cancel, zpow_natCast, div_lt_iff₀ framesPerMs_pos]
    have upper := mul_lt_mul_of_pos_left up power_pos
    have scaled := mul_lt_mul_of_pos_right missed rate_pos
    rw [pow_succ] at scaled
    linarith

/-- **A duration between two milliseconds reaches the half** unless it falls short of it. -/
theorem le_computedMs_iff {odd : Nat} (halves : 2000 * frames = odd * rate)
    (isOdd : odd % 2 = 1) :
    (odd : Rat) / 2 ≤ computedMs rate frames ↔ ¬ FallsShort rate odd := by
  have framesPerMs_pos := exactFramesPerMs_pos positive
  have halves_eq : (2000 : Rat) * frames = odd * rate := by exact_mod_cast halves
  have some : 0 < frames := by
    have factor := Nat.mul_pos (by omega : 0 < odd) positive
    omega
  have normal := normal_duration positive within some
  have bounded := log_duration_lt positive some counted
  have coarse : Int.log 2 ((frames : Rat) / exactFramesPerMs rate) - (binary64.precision - 1) < -1 := by
    simp only [binary64]
    omega
  have reaches := normal.le_nearest_iff (odd : Int) coarse
  rw [zpow_neg_one, Int.cast_natCast, ← div_eq_mul_inv, ← computedMs, le_div_iff₀ framesPerMs_pos]
    at reaches
  rw [reaches, FallsShort, not_lt]
  have unit_pos := binary64.unit_pos ((frames : Rat) / exactFramesPerMs rate)
  have scaled_pos := mul_pos unit_pos framesPerMs_pos
  rcases le_or_gt (exactFramesPerMs rate) ((rate : Rat) / 1000) with down | up
  · have down_odd := mul_le_mul_of_nonneg_left down (Nat.cast_nonneg (α := Rat) odd)
    have power_pos : (0 : Rat) < 2 ^ Nat.log2 odd * exactFramesPerMs rate := by positivity
    exact iff_of_true (by linarith) (by linarith)
  · have unit_eq : binary64.unit ((frames : Rat) / exactFramesPerMs rate) =
        2 ^ Nat.log2 odd / 2 ^ 53 := by
      rw [BinaryFormat.unit, log_duration_eq positive within counted halves isOdd up]
      simp only [binary64]
      rw [show (Nat.log2 odd : Int) - 1 - ((53 : Nat) - 1) = Nat.log2 odd - (53 : Nat) by
        push_cast; ring, zpow_sub₀ two_ne_zero, zpow_natCast, zpow_natCast]
    rw [unit_eq]
    constructor <;> intro bound <;> linarith

/-- A half that the exact duration passes is passed. -/
theorem lt_computedMs {halves : Int} (passed : halves * rate < 2000 * frames) :
    (halves : Rat) / 2 < computedMs rate frames := by
  have rate_pos : (0 : Rat) < rate := by exact_mod_cast positive
  have passed_cast : (halves : Rat) * rate + 1 ≤ 2000 * frames := by exact_mod_cast passed
  have low := (abs_lt.1 (abs_computedMs_sub_lt positive within counted)).1
  refine lt_of_mul_lt_mul_right ?_ rate_pos.le
  linarith

/-- A half that the exact duration misses is missed. -/
theorem computedMs_lt {halves : Int} (missed : 2000 * frames < halves * rate) :
    computedMs rate frames < (halves : Rat) / 2 := by
  have rate_pos : (0 : Rat) < rate := by exact_mod_cast positive
  have missed_cast : (2000 : Rat) * frames + 1 ≤ halves * rate := by exact_mod_cast missed
  have high := (abs_lt.1 (abs_computedMs_sub_lt positive within counted)).2
  refine lt_of_mul_lt_mul_right ?_ rate_pos.le
  linarith

/-- **What the last rounding makes of the quotient**: the rounded duration, or one less where a tie
slips. -/
theorem roundHalfUp_computedMs :
    roundHalfUp (computedMs rate frames) =
      ((roundedMs rate frames - if TieSlips rate frames then 1 else 0 : Nat) : Int) := by
  have division := roundedMs_mul_add rate frames
  have rest_lt : (((2000 * frames + rate) % (2 * rate) : Nat) : Int) < 2 * rate := by
    exact_mod_cast Nat.mod_lt (2000 * frames + rate) (by omega : 0 < 2 * rate)
  rw [roundHalfUp_eq_iff]
  have missed : computedMs rate frames < ((2 * roundedMs rate frames + 1 : Int) : Rat) / 2 :=
    computedMs_lt positive within counted (by linarith)
  push_cast at missed
  by_cases tie : (2000 * frames + rate) % (2 * rate) = 0
  · obtain ⟨some, halves⟩ := halves_of_tie positive tie
    have reaches := le_computedMs_iff positive within counted halves (by omega)
    push_cast [show 1 ≤ 2 * roundedMs rate frames by omega] at reaches
    by_cases short : FallsShort rate (2 * roundedMs rate frames - 1)
    · have below := not_le.1 fun reached => reaches.1 reached short
      have passed : ((2 * roundedMs rate frames - 3 : Int) : Rat) / 2 < computedMs rate frames :=
        lt_computedMs positive within counted (by rw [tie, Nat.cast_zero] at division; linarith)
      push_cast at passed
      rw [if_pos ⟨tie, short⟩]
      push_cast [some]
      constructor <;> linarith
    · have reached := reaches.2 short
      rw [if_neg fun slips => short slips.2, Nat.sub_zero]
      push_cast
      constructor <;> linarith
  · have passed : ((2 * roundedMs rate frames - 1 : Int) : Rat) / 2 < computedMs rate frames := by
      refine lt_computedMs positive within counted ?_
      have some : (1 : Int) ≤ ((2000 * frames + rate) % (2 * rate) : Nat) := by omega
      linarith
    push_cast at passed
    rw [if_neg fun slips => tie slips.1, Nat.sub_zero]
    push_cast
    constructor <;> linarith

end Quotients

/-! ### Where no tie slips -/

/-- Nothing slips where the rate is exact, or where no duration is a tie. -/
theorem not_tieSlips {rate : Nat} (positive : 0 < rate) (within : rate ≤ wordMax)
    (even : 125 ∣ rate ∨ ¬ 16 ∣ rate) (frames : Nat) : ¬ TieSlips rate frames := by
  rintro ⟨tie, short⟩
  rcases even with eighths | odd
  · have framesPerMs_pos := exactFramesPerMs_pos positive
    rw [FallsShort, exactFramesPerMs_eq_of_dvd positive within eighths, sub_self, mul_zero] at short
    rw [exactFramesPerMs_eq_of_dvd positive within eighths] at framesPerMs_pos
    exact short.not_gt (mul_pos (pow_pos two_pos _) framesPerMs_pos)
  · obtain ⟨some, halves⟩ := halves_of_tie positive tie
    have coprime : Nat.Coprime (2 ^ 4) (2 * roundedMs rate frames - 1) :=
      Nat.Coprime.pow_left 4 (Nat.coprime_two_left.2 (by rw [Nat.odd_iff]; omega))
    exact odd (coprime.dvd_of_dvd_mul_left (halves ▸ ⟨125 * frames, by ring⟩))

/-! ### Durations -/

/-- The duration of a frame count. -/
theorem Geometry.framesToMs_eq {geometry : Geometry} (positive : 0 < geometry.sampleRate)
    (within : geometry.sampleRate ≤ wordMax) {frames : Nat} (counted : frames ≤ wordMax) :
    geometry.framesToMs frames = toldMs geometry.sampleRate frames := by
  have rounded := roundHalfUp_computedMs positive within counted
  rw [computedMs] at rounded
  simp only [framesToMs, rounded, Int.toNat_natCast, toldMs]

namespace Ring

/-- **Milliseconds are rounded, but for a tie that slips.** A ring of any format takes any frame
count, and so the frames that are queued after any operations, to the exact duration in
milliseconds, rounded to nearest, a half going up, and cut off at the largest 32-bit word. It tells
one less just where the duration lies halfway between two milliseconds and the error in the rate
makes it fall short. Where the rate is a multiple of 125, or not one of 16, nothing slips. -/
theorem milliseconds_are_rounded {format : Format} {lowMs highMs : Nat} {new : Ring}
    (created : create format lowMs highMs = .ok new) :
    (∀ frames ≤ wordMax,
      new.geometry.framesToMs frames = toldMs format.sampleRate.toNat frames) ∧
      (∀ (δ : Type) [Device δ] (feed : Feed δ), feed.ReachedFrom new →
        feed.ring.queuedMs = toldMs format.sampleRate.toNat feed.ring.queuedFrames) ∧
      (125 ∣ format.sampleRate.toNat ∨ ¬ 16 ∣ format.sampleRate.toNat → ∀ frames,
        toldMs format.sampleRate.toNat frames =
          saturate ((2000 * frames + format.sampleRate.toNat) / (2 * format.sampleRate.toNat))) := by
  have consistent := consistent_create created
  obtain ⟨rfl, -⟩ := of_create_eq_ok created
  have rated : 0 < format.sampleRate.toNat := consistent.capacityFrames_pos
  have within : format.sampleRate.toNat ≤ wordMax := consistent.capacityFrames_le
  refine ⟨fun frames counted => Geometry.framesToMs_eq rated within counted, ?_, ?_⟩
  · intro δ _ feed reached
    obtain ⟨moves, made⟩ := reached.makes
    have later := made.consistent consistent
    have counted := later.queuedFrames_le.trans later.capacityFrames_le
    have same : feed.ring.geometry = (ofFormat format lowMs highMs).geometry := made.geometry_eq
    rw [queuedMs, same]
    exact Geometry.framesToMs_eq rated within counted
  · intro even frames
    rw [toldMs, if_neg (not_tieSlips rated within even frames), Nat.sub_zero, roundedMs]

/-- At 272 frames per second, 17 frames are a tie that slips, and 48 frames are not. -/
theorem milliseconds_are_rounded_at_272_hertz :
    ∃ new, create ⟨.i16, 1, 272, none⟩ 0 0 = .ok new ∧
      TieSlips 272 17 ∧ ¬ TieSlips 272 48 ∧
      new.geometry.framesToMs 17 = toldMs 272 17 ∧ new.geometry.framesToMs 48 = toldMs 272 48 :=
  have created : create ⟨.i16, 1, 272, none⟩ 0 0 = .ok (ofFormat ⟨.i16, 1, 272, none⟩ 0 0) := rfl
  have rounded := milliseconds_are_rounded created
  ⟨_, created, by decide +kernel, by decide +kernel, rounded.1 17 (by decide),
    rounded.1 48 (by decide)⟩

/-- Rounded to nearest, 17 frames at 272 frames per second are 63 milliseconds. The ring tells 62. -/
theorem tie_slips_at_272_hertz :
    ∃ new, create ⟨.i16, 1, 272, none⟩ 0 0 = .ok new ∧
      new.geometry.framesToMs 17 = 62 ∧ (2000 * 17 + 272) / (2 * 272) = 63 :=
  ⟨ofFormat ⟨.i16, 1, 272, none⟩ 0 0, rfl, by decide +kernel, by decide⟩

end Ring

end Playout
