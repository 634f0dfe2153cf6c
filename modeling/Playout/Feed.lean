/-
**A ring that feeds a device.**

Offering a block goes through fixed stages:

1. the device is asked for its backlog (`askBacklog`);
2. a playing ring that ran dry or holds too much is reset (`relieve`);
3. the block is taken in as a whole, or dropped (`accept`);
4. a ring that is not playing starts the device once the low watermark is reached (`startIfDue`);
5. a write-through device that plays is handed all unread bytes (`flushIfDue`).

The first failure of the device ends the call, with the ring as the stages before it left it.
`enqueue` is the whole, for any payload; `queue` and `queueSamples` first refuse a payload that
is not made of whole frames or not of the ring's samples, before anything is changed.

A whole call is one step. Whoever drains the ring does so before a call or after it, never between
two stages of an offer, and never between a flush to the device and the removal of what it took;
such a drain is outside the model.
-/
import Playout.Journal
import Playout.Ring
import Playout.Sample

namespace Playout

/-- A ring, the device that it feeds, and the record of what happened. -/
structure Feed (δ : Type) where
  ring : Ring
  device : δ
  journal : Journal := #[]

namespace Feed

variable {δ : Type} [Device δ]

/-- Add a notice to the record. -/
def note (feed : Feed δ) (notice : Notice) : Feed δ :=
  { feed with journal := feed.journal.push (.notice notice) }

/-- The name of the device. -/
def deviceName (feed : Feed δ) : String := Device.name feed.device

/-! ### Device calls -/

/-- Go on with the device that a call leaves behind, and record the call. -/
def record {α : Type} (feed : Feed δ) (reply : Reply δ α) (call : Except Error α → Call) :
    Except Error α × Feed δ :=
  (reply.result,
    { feed with
      device := reply.device
      journal := feed.journal.push (.call (call reply.result)) ++
        reply.notices.toArray.map Event.notice })

def startDevice (feed : Feed δ) : Except Error Unit × Feed δ :=
  feed.record (Device.start feed.device) .start

def stopDevice (feed : Feed δ) : Except Error Unit × Feed δ :=
  feed.record (Device.stop feed.device) .stop

def askBacklog (feed : Feed δ) : Except Error Nat × Feed δ :=
  feed.record (Device.backlog feed.device) .backlog

def writeDevice (feed : Feed δ) (frames : ByteArray) : Except Error Nat × Feed δ :=
  feed.record (Device.write feed.device frames) (.write frames)

def reopenDevice (feed : Feed δ) : Except Error Unit × Feed δ :=
  feed.record (Device.reopen feed.device) .reopen

/-! ### The stages of an offer -/

/-- Stop playback and discard everything queued. The device is stopped if the ring was playing; a
device that cannot be stopped is only noted. -/
def reset (feed : Feed δ) : Feed δ :=
  let emptied := { feed with ring := feed.ring.reset }
  if feed.ring.playing then
    match emptied.stopDevice with
    | (.ok (), stopped) => stopped
    | (.error error, stopped) => stopped.note (.stopFailed stopped.deviceName error)
  else emptied

/-- The ring is reset whether or not the device stops. -/
@[simp] theorem ring_reset (feed : Feed δ) : feed.reset.ring = feed.ring.reset := by
  simp only [reset, stopDevice, record]
  split
  · cases (Device.stop feed.device).result <;> rfl
  · rfl

/-- Reset a playing ring that ran dry or holds more than its limit, counting what the device still
holds. The result is the number of frames that count as queued afterwards. -/
def relieve (feed : Feed δ) (backlog : Nat) : Nat × Feed δ :=
  let queued := saturate (feed.ring.queuedFrames + backlog)
  let limit := feed.ring.geometry.highFrames
  if feed.ring.playing ∧ queued = 0 then
    (0, ({ feed with ring := feed.ring.countUnderrun }.note .underrun).reset)
  else if feed.ring.playing ∧ limit < queued then
    (0, ({ feed with ring := feed.ring.countOverrun }.note (.overrun queued limit)).reset)
  else (queued, feed)

/-- Take a payload in as a whole, or drop it. -/
def accept (feed : Feed δ) (frames : ByteArray) : Outcome × Feed δ :=
  match feed.ring.accept frames with
  | (ring, .queued) => (.queued, { feed with ring := ring })
  | (ring, outcome) =>
    (outcome, { feed with ring := ring }.note (.framesDropped (feed.ring.frameCount frames)))

/-- Start the device if the ring is not playing and enough frames are queued. -/
def startIfDue (feed : Feed δ) (queued : Nat) : Except Error Unit × Feed δ :=
  if feed.ring.playing = false ∧ feed.ring.geometry.lowFrames ≤ queued then
    match feed.startDevice with
    | (.ok (), started) =>
      (.ok (), { started with ring := started.ring.begin }.note (.started started.deviceName))
    | (.error error, failed) => (.error error, failed)
  else (.ok (), feed)

/-- Hand all unread bytes to a write-through device that plays, and remove what it took. -/
def flushIfDue (feed : Feed δ) : Except Error Unit × Feed δ :=
  let staged := feed.ring.storage.contents
  if Device.delivery feed.device = .writeThrough ∧ feed.ring.playing ∧ staged.size ≠ 0 then
    match feed.writeDevice staged with
    | (.ok written, after) =>
      let frames := min written after.ring.queuedFrames
      if frames = 0 then (.ok (), after)
      else
        (.ok (), { after with ring := after.ring.consume frames }.note
          (.framesWritten frames after.deviceName))
    | (.error error, failed) => (.error error, failed)
  else (.ok (), feed)

/-! ### Offers -/

/-- Offer a payload. All stages are one step, between which nobody drains the ring. -/
def enqueue (feed : Feed δ) (frames : ByteArray) : Except Error Outcome × Feed δ :=
  match feed.askBacklog with
  | (.error error, asked) => (.error error, asked)
  | (.ok backlog, asked) =>
    let (queued, relieved) := asked.relieve backlog
    let (outcome, accepted) := relieved.accept frames
    let count := if outcome = .queued then feed.ring.frameCount frames else 0
    match accepted.startIfDue (saturate (queued + count)) with
    | (.error error, failed) => (.error error, failed)
    | (.ok (), started) =>
      match started.flushIfDue with
      | (.error error, failed) => (.error error, failed)
      | (.ok (), flushed) => (.ok outcome, flushed)

/-- Offer whole frames, given as bytes. -/
def queue (feed : Feed δ) (frames : ByteArray) : Except Fault (Except Error Outcome × Feed δ) :=
  (feed.ring.checkFrames frames).map fun _ => feed.enqueue frames

/-- Offer samples of the ring's type. -/
def queueSamples {σ : Type} [Sample σ] (feed : Feed δ) (samples : List σ) :
    Except Fault (Except Error Outcome × Feed δ) :=
  (feed.ring.checkSamples (Sample.format σ)).bind fun _ => feed.queue (Sample.encode samples)

/-- Let whoever plays the frames drain the ring into a buffer. -/
def drain (feed : Feed δ) (buffer : ByteArray) : Feed δ × ByteArray × Nat :=
  let (ring, filled, count) := feed.ring.drain buffer
  ({ feed with ring := ring }, filled, count)

end Feed

end Playout
