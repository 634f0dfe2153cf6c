/-
**Calls that are refused outright.**

A `Fault` is a mistake of the caller, not a failure of the device: the call is refused before it
changes anything or reaches the device, so a function that can be misused returns
`Except Fault` and no new state. `Fault.message` is the only place where the wording lives.
-/
import Playout.Format

namespace Playout

/-- The ways in which a caller can break a precondition. -/
inductive Fault where
  /-- A ring needs a format with at least one channel. -/
  | noChannels
  /-- A ring needs a format with a rate above zero. -/
  | zeroSampleRate
  /-- A write-through device needs frames of at least one byte. -/
  | zeroFrameSize
  /-- The payload ends inside a frame. -/
  | partialFrame (bytes frameSize : Nat)
  /-- The samples are of another type than the ring's. -/
  | sampleMismatch (given expected : SampleFormat)
  /-- The bytes end inside a sample. -/
  | partialSample (length : Nat)
  /-- Doubling a duration in milliseconds leaves 32 bits, where overflow is checked. -/
  | durationOverflow
  /-- A part of a log directive ends inside a character. -/
  | cutCharacter
deriving DecidableEq, Repr

/-- The wording of a fault. -/
def Fault.message : Fault → String
  | .noChannels => "audio format has no channels"
  | .zeroSampleRate => "audio format has a zero sample rate"
  | .zeroFrameSize => "frame size must be non-zero"
  | .partialFrame bytes frameSize =>
    s!"{bytes} bytes is not a whole number of {frameSize}-byte frames"
  | .sampleMismatch given expected =>
    "assertion `left == right` failed: sample type does not match the ring's format\n" ++
      s!"  left: {given.tag}\n right: {expected.tag}"
  | .partialSample length =>
    s!"index out of bounds: the len is {length} but the index is {length}"
  | .durationOverflow => "attempt to multiply with overflow"
  | .cutCharacter => "a log directive is cut inside a character"

end Playout
