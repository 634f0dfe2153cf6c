/-
**PCM stream formats.**

A `Format` says how a stream is stored: the type of one sample, how many samples make a frame, and
how many frames make a second. `Format.validate` accepts exactly the formats that can describe a
stream (`validate_eq_ok_iff`): at least one channel and a rate above zero. A missing channel is
reported first.
-/
import Playout.Error
import Playout.Text.Lowercase

namespace Playout

/-- The storage type of one sample. -/
inductive SampleFormat where
  | i16
  | f32
deriving DecidableEq, Repr

namespace SampleFormat

/-- Bytes of one sample of one channel. -/
def bytes : SampleFormat → Nat
  | .i16 => 2
  | .f32 => 4

/-- The tag of the format in messages. -/
def tag : SampleFormat → String
  | .i16 => "I16"
  | .f32 => "F32"

/-- The name of the format in documents. -/
def name : SampleFormat → String
  | .i16 => "i16"
  | .f32 => "f32"

/-- The format with this exact name. -/
def ofName? (name : String) : Option SampleFormat :=
  if name = "i16" then some .i16 else if name = "f32" then some .f32 else none

/-- The format meant by a short name in any case, such as `S16` or `float`. -/
def parse (name : String) : Except Error SampleFormat :=
  let lowered := Text.lowercase name
  if lowered ∈ ["i16", "s16", "int16"] then .ok .i16
  else if lowered ∈ ["f32", "float", "float32"] then .ok .f32
  else .error (.unsupportedFormat s!"unknown sample format '{lowered}'")

theorem bytes_pos (format : SampleFormat) : 0 < format.bytes := by
  cases format <;> decide

end SampleFormat

/-- The interleaved PCM format of a stream. -/
structure Format where
  sampleFormat : SampleFormat := .i16
  channels : UInt16 := 2
  sampleRate : UInt32 := 48000
  /-- Speaker positions as a bit mask, where the caller cares about them. -/
  channelMask : Option UInt32 := none
deriving DecidableEq, Repr

namespace Format

/-- Bytes of one frame: one sample of every channel. -/
def frameSize (format : Format) : Nat :=
  format.channels.toNat * format.sampleFormat.bytes

/-- Refuse a format that cannot describe a stream. -/
def validate (format : Format) : Except Error Unit :=
  if format.channels = 0 then
    .error (.invalidArgument "audio format needs at least one channel")
  else if format.sampleRate = 0 then
    .error (.invalidArgument "audio format needs a non-zero sample rate")
  else .ok ()

theorem validate_eq_ok_iff (format : Format) :
    format.validate = .ok () ↔ format.channels ≠ 0 ∧ format.sampleRate ≠ 0 := by
  unfold validate
  split
  · simp_all
  · split <;> simp_all

theorem frameSize_pos {format : Format} (hasChannels : format.channels ≠ 0) :
    0 < format.frameSize := by
  have channels : 0 < format.channels.toNat :=
    Nat.pos_of_ne_zero fun zero => hasChannels (UInt16.toNat_inj.1 zero)
  exact Nat.mul_pos channels format.sampleFormat.bytes_pos

end Format

end Playout
