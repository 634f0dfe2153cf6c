/-
**The frame counts of a ring.**

A ring holds one second of audio. Its watermarks are given in milliseconds and counted in frames,
at a whole number of frames per millisecond. Milliseconds are read off a frame count through the
rate in frames per millisecond as a 53-bit binary number, and then rounded, a half going up.
-/
import Playout.Fault
import Playout.Rounding
import Playout.Saturating

namespace Playout

/-- How many frames a ring holds, and at which counts it starts and flushes. -/
structure Geometry where
  frameSize : Nat
  capacityFrames : Nat
  /-- Frames that have to be queued before playback starts. -/
  lowFrames : Nat
  /-- Queued frames above which a playing ring is flushed. -/
  highFrames : Nat
  /-- Frames of one millisecond, rounded to nearest. -/
  framesPerMs : Nat
  sampleRate : Nat
deriving DecidableEq, Repr

/-- The frames of one millisecond as a 53-bit binary number. -/
def exactFramesPerMs (sampleRate : Nat) : Rat :=
  (binary64.nearest ((sampleRate : Rat) / 1000)).value

namespace Geometry

/-- The geometry for a stream with watermarks in milliseconds. -/
def ofFormat (format : Format) (lowMs highMs : Nat) : Geometry :=
  let rate := format.sampleRate.toNat
  let framesPerMs := saturate (roundHalfUp (exactFramesPerMs rate)).toNat
  { frameSize := format.frameSize
    capacityFrames := rate
    lowFrames := saturate (lowMs * framesPerMs)
    highFrames := saturate (highMs * framesPerMs)
    framesPerMs := framesPerMs
    sampleRate := rate }

/-- Storage in bytes. -/
def capacityBytes (geometry : Geometry) : Nat :=
  geometry.capacityFrames * geometry.frameSize

/-- The duration of a frame count in milliseconds, rounded to nearest. -/
def framesToMs (geometry : Geometry) (frames : Nat) : Nat :=
  let quotient := binary64.nearest ((frames : Rat) / exactFramesPerMs geometry.sampleRate)
  saturate (roundHalfUp quotient.value).toNat

/-- Refuse a format for which there is no ring. -/
def check (format : Format) : Except Fault Unit :=
  if format.channels = 0 then .error .noChannels
  else if format.sampleRate = 0 then .error .zeroSampleRate
  else .ok ()

/-- The formats for which there is a ring are those that describe a stream. -/
theorem check_eq_ok_iff (format : Format) :
    check format = .ok () ↔ format.validate = .ok () := by
  rw [Format.validate_eq_ok_iff]
  unfold check
  split
  · simp_all
  · split <;> simp_all

theorem lowFrames_le_highFrames {format : Format} {lowMs highMs : Nat}
    (ordered : lowMs ≤ highMs) :
    (ofFormat format lowMs highMs).lowFrames ≤ (ofFormat format lowMs highMs).highFrames :=
  saturate_mono (Nat.mul_le_mul_right _ ordered)

end Geometry

end Playout
