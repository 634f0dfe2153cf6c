/-
**The geometry of a ring is exact.**

The frames of a millisecond are a quotient that is rounded twice, first to 53 bits and then to a
whole number. The first error is much smaller than the distance of the quotient from a half, unless
the quotient is a half, and then it is kept as it is; so the result is the rounded quotient. What is
counted in frames is cut off at the largest 32-bit word, which keeps the order of the watermarks, and
what is counted in bytes is so far below 64 bits that the sum of any two places in the storage is too.

* `roundHalfUp_exactFramesPerMs`: the two roundings are one;
* `Geometry.Exact`: all numbers of a geometry;
* `Ring.geometry_is_exact`: **the geometry of every ring**, with the cursors in all its states.
-/
import Playout.Proofs.Milliseconds

namespace Playout

/-! ### The frames of one millisecond -/

/-- The frames of one millisecond, rounded to nearest, a half going up. -/
def roundedFramesPerMs (rate : Nat) : Nat := (rate + 500) / 1000

/-- **The rounded rate is rounded to the same whole number** as the exact one. -/
theorem roundHalfUp_exactFramesPerMs {rate : Nat} (positive : 0 < rate) (within : rate ≤ wordMax) :
    roundHalfUp (exactFramesPerMs rate) = roundedFramesPerMs rate := by
  have bound := cast_le_of_le_wordMax within
  obtain ⟨low, high⟩ := abs_le.1 (abs_exactFramesPerMs_sub_le positive)
  obtain ⟨below, above⟩ : roundedFramesPerMs rate * 1000 ≤ rate + 500 ∧
      rate + 500 ≤ roundedFramesPerMs rate * 1000 + 999 := by
    simp only [roundedFramesPerMs]
    omega
  have above_cast : (rate : Rat) + 500 ≤ roundedFramesPerMs rate * 1000 + 999 := by
    exact_mod_cast above
  rw [roundHalfUp_eq_iff, Int.cast_natCast]
  constructor
  · by_cases half : roundedFramesPerMs rate * 1000 = rate + 500
    · -- a rate of a whole number of half frames per millisecond is not rounded at all
      have half_cast : (roundedFramesPerMs rate : Rat) * 1000 = rate + 500 := by exact_mod_cast half
      rw [exactFramesPerMs_eq_of_dvd positive within (by omega)]
      linarith
    · have more : roundedFramesPerMs rate * 1000 + 1 ≤ rate + 500 := lt_of_le_of_ne below half
      have more_cast : (roundedFramesPerMs rate : Rat) * 1000 + 1 ≤ rate + 500 := by
        exact_mod_cast more
      norm_num at low
      linarith
  · norm_num at high
    linarith

/-! ### All numbers of a geometry -/

theorem Format.frameSize_le (format : Format) : format.frameSize ≤ 262140 := by
  have channels : format.channels.toNat < UInt16.size := format.channels.toNat_lt
  have bytes : format.sampleFormat.bytes ≤ 4 := by cases format.sampleFormat <;> decide
  exact Nat.mul_le_mul (Nat.le_pred_of_lt channels) bytes

namespace Geometry

/-- The numbers of a geometry are those of its format and watermarks, and leave no word. -/
structure Exact (geometry : Geometry) (format : Format) (lowMs highMs : Nat) : Prop where
  sampleRate_eq : geometry.sampleRate = format.sampleRate.toNat
  capacityFrames_eq : geometry.capacityFrames = format.sampleRate.toNat
  framesPerMs_eq : geometry.framesPerMs = (format.sampleRate.toNat + 500) / 1000
  lowFrames_eq :
    geometry.lowFrames = min (lowMs * ((format.sampleRate.toNat + 500) / 1000)) (2 ^ 32 - 1)
  highFrames_eq :
    geometry.highFrames = min (highMs * ((format.sampleRate.toNat + 500) / 1000)) (2 ^ 32 - 1)
  frameSize_eq : geometry.frameSize = format.channels.toNat * format.sampleFormat.bytes
  frameSize_lt : geometry.frameSize < 2 ^ 32
  capacityBytes_eq : geometry.capacityBytes =
    format.sampleRate.toNat * (format.channels.toNat * format.sampleFormat.bytes)
  capacityBytes_pos : 0 < geometry.capacityBytes
  capacityBytes_lt : geometry.capacityBytes < 2 ^ 64
  frameSize_dvd : geometry.frameSize ∣ geometry.capacityBytes

theorem framesPerMs_ofFormat {format : Format} (rated : format.sampleRate ≠ 0)
    (lowMs highMs : Nat) : (ofFormat format lowMs highMs).framesPerMs =
      roundedFramesPerMs format.sampleRate.toNat := by
  have positive : 0 < format.sampleRate.toNat :=
    Nat.pos_of_ne_zero fun zero => rated (UInt32.toNat_inj.1 zero)
  have within : format.sampleRate.toNat ≤ wordMax := Nat.le_of_lt_succ format.sampleRate.toNat_lt
  have small : roundedFramesPerMs format.sampleRate.toNat ≤ wordMax := by
    simp only [roundedFramesPerMs, wordMax] at within ⊢
    omega
  simp only [ofFormat]
  rw [roundHalfUp_exactFramesPerMs positive within, Int.toNat_natCast, saturate_of_le small]

/-- The storage of a ring is far smaller than the address space. -/
theorem capacityBytes_ofFormat_le (format : Format) (lowMs highMs : Nat) :
    (ofFormat format lowMs highMs).capacityBytes ≤ wordMax * 262140 :=
  Nat.mul_le_mul (Nat.le_of_lt_succ format.sampleRate.toNat_lt) format.frameSize_le

theorem exact_ofFormat {format : Format} (hasChannels : format.channels ≠ 0)
    (rated : format.sampleRate ≠ 0) (lowMs highMs : Nat) :
    (ofFormat format lowMs highMs).Exact format lowMs highMs where
  sampleRate_eq := rfl
  capacityFrames_eq := rfl
  framesPerMs_eq := framesPerMs_ofFormat rated lowMs highMs
  lowFrames_eq := congrArg (fun frames => saturate (lowMs * frames))
    (framesPerMs_ofFormat rated lowMs highMs)
  highFrames_eq := congrArg (fun frames => saturate (highMs * frames))
    (framesPerMs_ofFormat rated lowMs highMs)
  frameSize_eq := rfl
  frameSize_lt := Nat.lt_of_le_of_lt format.frameSize_le (by decide)
  capacityBytes_eq := rfl
  capacityBytes_pos :=
    Nat.mul_pos (Nat.pos_of_ne_zero fun zero => rated (UInt32.toNat_inj.1 zero))
      (Format.frameSize_pos hasChannels)
  capacityBytes_lt :=
    Nat.lt_of_le_of_lt (capacityBytes_ofFormat_le format lowMs highMs) (by decide)
  frameSize_dvd := ⟨format.sampleRate.toNat, Nat.mul_comm ..⟩

end Geometry

/-! ### The cursors of its storage -/

namespace ByteRing

/-- The sums of cursors that a ring forms stay below 64 bits: the place behind the last unread byte,
before it is taken round the storage, that of the oldest one once some are skipped, and the number of
unread bytes once some are written. -/
structure SumsFit (ring : ByteRing) : Prop where
  stop_lt : ring.position + ring.length < 2 ^ 64
  skip_lt : ∀ count, ring.position + (ring.skip count).2 < 2 ^ 64
  write_lt : ∀ bytes, ring.length + (ring.write bytes).2 < 2 ^ 64

/-- Where two places of the storage add up to less than 64 bits, all cursors do. -/
theorem sumsFit_of_capacity_lt {ring : ByteRing} (filled : 0 < ring.capacity)
    (small : ring.capacity + ring.capacity < 2 ^ 64) : ring.SumsFit := by
  have position : ring.position < max 1 ring.capacity := ring.position_lt
  have length : ring.length ≤ ring.capacity := ring.length_le
  have free : ring.free = ring.capacity - ring.length := rfl
  refine ⟨by omega, fun count => ?_, fun bytes => ?_⟩
  · have skipped : (ring.skip count).2 ≤ ring.length := Nat.min_le_right ..
    omega
  · have written : (ring.write bytes).2 ≤ ring.free := Nat.min_le_right ..
    omega

end ByteRing

namespace Ring

/-- **The geometry of a ring is exact.** For every format with a channel and a rate there is a ring.
Its frames per millisecond are the exact quotient, rounded to nearest, its watermarks are cut off at
the largest 32-bit word and keep their order, and its storage is a positive number of whole frames.
After any operations, whether on the ring or through a session, all sums of its cursors fit 64 bits,
as does the sum of any two places of its storage. -/
theorem geometry_is_exact {format : Format} (hasChannels : format.channels ≠ 0)
    (rated : format.sampleRate ≠ 0) (lowMs highMs : UInt32) :
    ∃ new, create format lowMs.toNat highMs.toNat = .ok new ∧
      new.geometry.Exact format lowMs.toNat highMs.toNat ∧
      (lowMs ≤ highMs → new.geometry.lowFrames ≤ new.geometry.highFrames) ∧
      (∀ first ≤ new.geometry.capacityBytes, ∀ second ≤ new.geometry.capacityBytes,
        first + second < 2 ^ 64) ∧
      ∀ (δ : Type) [Device δ] (feed : Feed δ), feed.ReachedFrom new → feed.ring.storage.SumsFit := by
  have valid : format.validate = .ok () :=
    (Format.validate_eq_ok_iff format).2 ⟨hasChannels, rated⟩
  have created : create format lowMs.toNat highMs.toNat =
      .ok (ofFormat format lowMs.toNat highMs.toNat) := by
    rw [create, (Geometry.check_eq_ok_iff format).2 valid]
    rfl
  have small := Geometry.capacityBytes_ofFormat_le format lowMs.toNat highMs.toNat
  refine ⟨_, created, Geometry.exact_ofFormat hasChannels rated _ _,
    fun ordered => Geometry.lowFrames_le_highFrames (UInt32.le_iff_toNat_le.1 ordered), ?_, ?_⟩
  · intro first inside second there
    have sum := Nat.add_le_add (inside.trans small) (there.trans small)
    exact Nat.lt_of_le_of_lt sum (by decide)
  · intro δ _ feed reached
    obtain ⟨moves, made⟩ := reached.makes
    have later := made.consistent (consistent_create created)
    have capacity := later.capacity_eq
    rw [made.geometry_eq] at capacity
    refine ByteRing.sumsFit_of_capacity_lt (Nat.zero_lt_of_lt later.position_lt) ?_
    rw [capacity]
    exact Nat.lt_of_le_of_lt (Nat.add_le_add small small) (by decide)

/-- The largest format, with watermarks that are both cut off. -/
theorem geometry_is_exact_of_largest_format :
    let format : Format := ⟨.f32, 65535, 4294967295, none⟩
    let lowMs : UInt32 := 4294967294
    let highMs : UInt32 := 4294967295
    let operations : List (Operation PlainDevice) := [.queue ⟨#[]⟩, .drain ⟨#[1, 2, 3]⟩]
    format.channels ≠ 0 ∧ format.sampleRate ≠ 0 ∧ lowMs ≤ highMs ∧
      ∃ new, create format lowMs.toNat highMs.toNat = .ok new ∧
        new.geometry.Exact format lowMs.toNat highMs.toNat ∧
        new.geometry.lowFrames ≤ new.geometry.highFrames ∧
        new.geometry.capacityBytes + new.geometry.capacityBytes < 2 ^ 64 ∧
        ((Feed.mk new PlainDevice.mk #[]).run operations).ReachedFrom new ∧
        ((Feed.mk new PlainDevice.mk #[]).run operations).ring.storage.SumsFit := by
  intro format lowMs highMs operations
  have hasChannels : format.channels ≠ 0 := by decide
  have rated : format.sampleRate ≠ 0 := by decide
  have ordered : lowMs ≤ highMs := by decide
  obtain ⟨new, created, exact, keeps, sums, cursors⟩ :=
    geometry_is_exact hasChannels rated lowMs highMs
  have reached : ((Feed.mk new PlainDevice.mk #[]).run operations).ReachedFrom new :=
    ⟨⟨⟩, #[], operations, .inl rfl⟩
  exact ⟨hasChannels, rated, ordered, new, created, exact, keeps ordered,
    sums _ le_rfl _ le_rfl, reached, cursors _ _ reached⟩

end Ring

end Playout
