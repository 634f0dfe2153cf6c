/-
**The ring of queued frames.**

A ring holds at most one second of audio. While it is not playing nothing leaves it; playback is
due to start once the low watermark is reached, and a playing ring that runs dry or passes the high
watermark is reset. The functions here change the ring alone; what they mean for a device is in
`Feed`.

The counter `queuedFrames` and the unread bytes of `storage` are kept side by side: a block is
taken in as a whole or not at all (`Ring.accept`), and frames leave as a whole (`Ring.consume`,
`Ring.drain`).
-/
import Playout.ByteRing
import Playout.Geometry
import Playout.Stats

namespace Playout

/-- A ring of queued frames. -/
structure Ring where
  format : Format
  geometry : Geometry
  storage : ByteRing
  /-- Frames queued and not yet consumed. -/
  queuedFrames : Nat := 0
  playing : Bool := false
  /-- Frames that have left the ring to be played. -/
  framesConsumed : Nat := 0
  stats : Stats := {}

namespace Ring

/-- A ring for a format, with watermarks in milliseconds. -/
def ofFormat (format : Format) (lowMs highMs : Nat) : Ring :=
  let geometry := Geometry.ofFormat format lowMs highMs
  { format := format
    geometry := geometry
    storage := .empty geometry.capacityBytes }

/-- A ring for a format that has one. -/
def create (format : Format) (lowMs highMs : Nat) : Except Fault Ring :=
  (Geometry.check format).map fun _ => ofFormat format lowMs highMs

/-- The duration of the queued frames in milliseconds. -/
def queuedMs (ring : Ring) : Nat :=
  ring.geometry.framesToMs ring.queuedFrames

/-- The number of whole frames in a payload, as a 32-bit word. -/
def frameCount (ring : Ring) (frames : ByteArray) : Nat :=
  frames.size / ring.geometry.frameSize % UInt32.size

/-- Refuse a payload that ends inside a frame. -/
def checkFrames (ring : Ring) (frames : ByteArray) : Except Fault Unit :=
  if frames.size % ring.geometry.frameSize = 0 then .ok ()
  else .error (.partialFrame frames.size ring.geometry.frameSize)

/-- Refuse samples of another type than the ring's. -/
def checkSamples (ring : Ring) (given : SampleFormat) : Except Fault Unit :=
  if given = ring.format.sampleFormat then .ok ()
  else .error (.sampleMismatch given ring.format.sampleFormat)

/-- A payload fits if it is not larger than the whole ring and the free part. -/
def fits (ring : Ring) (frames : ByteArray) : Bool :=
  frames.size ≤ ring.geometry.capacityBytes && frames.size ≤ ring.storage.free

/-- Take a payload in as a whole, or count it as dropped. -/
def accept (ring : Ring) (frames : ByteArray) : Ring × Outcome :=
  let count := ring.frameCount frames
  if ring.fits frames then
    ({ ring with
        storage := (ring.storage.write frames).1
        queuedFrames := ring.queuedFrames + count
        stats.queuedFramesTotal := ring.stats.queuedFramesTotal + count },
      .queued)
  else
    ({ ring with stats.droppedFrames := ring.stats.droppedFrames + count }, .dropped)

/-- Remove the oldest frames as played. -/
def consume (ring : Ring) (frames : Nat) : Ring :=
  { ring with
    storage := (ring.storage.skip (frames * ring.geometry.frameSize)).1
    queuedFrames := ring.queuedFrames - frames
    framesConsumed := ring.framesConsumed + frames }

/-- Nothing leaves a ring where no frame does. -/
@[simp] theorem consume_zero (ring : Ring) : ring.consume 0 = ring := by
  simp only [consume, Nat.zero_mul, ByteRing.skip_zero, Nat.sub_zero, Nat.add_zero]

/-- Begin to play. -/
def begin (ring : Ring) : Ring :=
  { ring with playing := true, stats.starts := ring.stats.starts + 1 }

/-- Stop playing and discard everything queued. Only a stop of playback is counted. -/
def reset (ring : Ring) : Ring :=
  { ring with
    storage := ring.storage.clear
    queuedFrames := 0
    playing := false
    stats.resets := if ring.playing then ring.stats.resets + 1 else ring.stats.resets }

def countUnderrun (ring : Ring) : Ring :=
  { ring with stats.underruns := ring.stats.underruns + 1 }

def countOverrun (ring : Ring) : Ring :=
  { ring with stats.overruns := ring.stats.overruns + 1 }

/-- So many zero bytes. -/
def silence (count : Nat) : ByteArray := ⟨Array.replicate count 0⟩

/-- Fill a buffer with the oldest whole frames, as far as the ring is playing and has them, and
with silence after them; tell how many bytes were frames. -/
def drain (ring : Ring) (buffer : ByteArray) : Ring × ByteArray × Nat :=
  let whole := buffer.size - buffer.size % ring.geometry.frameSize
  if ring.playing then
    let (storage, filled, count) := ring.storage.read (buffer.extract 0 whole)
    let frames := count / ring.geometry.frameSize
    ({ ring with
        storage := storage
        queuedFrames := ring.queuedFrames - frames
        framesConsumed := ring.framesConsumed + frames },
      filled.extract 0 count ++ silence (buffer.size - count),
      count)
  else (ring, silence buffer.size, 0)

end Ring

end Playout
