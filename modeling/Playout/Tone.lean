/-
**A sine tone, block by block.**

A tone is a phase that advances by the same step from frame to frame. Every channel of a frame gets
the same sample. The phase is all that goes from one block to the next, so it does not matter how
the frames are cut into blocks, whatever the operations on numbers are; these are the parameter
`Arithmetic`.
-/
import Playout.Binary32
import Playout.Sample

namespace Playout

/-- The operations by which a tone is computed. -/
structure Arithmetic where
  sine : Float32 → Float32
  multiply : Float32 → Float32 → Float32
  add : Float32 → Float32 → Float32
  remainder : Float32 → Float32 → Float32

/-- The operations on 32-bit binary numbers, each rounded once. -/
def Arithmetic.standard : Arithmetic where
  sine x := (Float.sin x.toFloat).toFloat32
  multiply x y := x * y
  add x y := x + y
  remainder := Binary32.remainder

/-- A number, brought between two bounds. What is not a number stays so. -/
def clamp (low high x : Float32) : Float32 :=
  if x < low then low else if high < x then high else x

/-- A sample type that a tone can be written in. -/
class ToneSample (σ : Type) extends Sample σ where
  /-- The sample for a level between -1 and 1. -/
  ofLevel : Float32 → σ

instance : ToneSample Int16 where
  ofLevel level := (clamp (-1) 1 level * 32767).toInt16

instance : ToneSample FloatSample where
  ofLevel level := ⟨(clamp (-1) 1 level).toBits⟩

/-- A tone at some point of its course. -/
structure Tone where
  phase : Float32
  step : Float32
  volume : Float32
  channels : Nat

namespace Tone

/-- The length of a full turn of the phase. -/
def fullTurn : Float32 := Float32.ofBits 0x40c90fdb

/-- A tone at its beginning. -/
def start (frequency : Float32) (sampleRate : UInt32) (channels : UInt16) (volume : Float32) :
    Tone where
  phase := 0
  step := fullTurn * frequency / sampleRate.toFloat32
  volume := clamp 0 1 volume
  channels := channels.toNat

/-- The level of the next frame. -/
def level (arithmetic : Arithmetic) (tone : Tone) : Float32 :=
  arithmetic.multiply (arithmetic.sine tone.phase) tone.volume

/-- The tone after one frame. -/
def advance (arithmetic : Arithmetic) (tone : Tone) : Tone :=
  { tone with
    phase := arithmetic.remainder (arithmetic.add tone.phase tone.step) fullTurn }

/-- Append frames to samples. -/
def fillOnto {σ : Type} [ToneSample σ] (arithmetic : Arithmetic) (tone : Tone)
    (samples : Array σ) : Nat → Tone × Array σ
  | 0 => (tone, samples)
  | frames + 1 =>
    fillOnto arithmetic (tone.advance arithmetic)
      (samples ++ Array.replicate tone.channels (ToneSample.ofLevel (tone.level arithmetic)))
      frames

/-- Replace what a buffer holds by the next frames of a tone. -/
def fillInto {σ : Type} [ToneSample σ] (arithmetic : Arithmetic) (tone : Tone) (buffer : Array σ)
    (frames : Nat) : Tone × Array σ :=
  fillOnto arithmetic tone (buffer.shrink 0) frames

/-- The next frames of a tone. -/
def fill {σ : Type} [ToneSample σ] (arithmetic : Arithmetic) (tone : Tone) (frames : Nat) :
    Tone × List σ :=
  let (after, samples) := fillOnto arithmetic tone #[] frames
  (after, samples.toList)

end Tone

end Playout
