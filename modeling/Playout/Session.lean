/-
**An open session: a ring, its device, and what to do when the device fails.**

A failure of the device never reaches the caller of `offer`. The ring is reset, and then

* an underrun that the device reports is counted, and the block is dropped;
* a failure that opening the device anew can mend is answered by that, at most `maxTries` times;
  after the first success the block is offered once more;
* any other failure leaves the device unavailable.

So one call offers its block to the ring at most twice.
-/
import Playout.Feed

namespace Playout

/-- An open session. -/
structure Session (δ : Type) where
  feed : Feed δ
  recovery : RecoveryPolicy

namespace Session

variable {δ : Type} [Device δ]

/-! ### Opening and closing -/

/-- Open a session on the device that is made once the ring is there. -/
def openWith (format : Format) (config : Config) (connect : Ring → Except Error δ) :
    Except Error (Session δ) :=
  format.validate.bind fun _ =>
    config.validate.bind fun _ =>
      let ring :=
        Ring.ofFormat format config.lowWatermarkMs.toNat config.highWatermarkMs.toNat
      (connect ring).map fun device =>
        let feed : Feed δ := { ring := ring, device := device }
        { feed := (feed.note (.ringCreated ring.geometry)).note
            (.opened (Device.name device) format config)
          recovery := config.recovery }

/-- Open a session on a device. -/
def create (device : δ) (format : Format) (config : Config) : Except Error (Session δ) :=
  openWith format config fun _ => .ok device

/-- Stop playback and discard everything queued. -/
def reset (session : Session δ) : Session δ :=
  { session with feed := session.feed.reset }

/-- End a session. What is left is the stopped ring, for those who still drain it, and the
device. -/
def close (session : Session δ) : Feed δ := session.feed.reset

/-! ### Offering frames -/

/-- Try to open the device anew, up to the first success or until no try is left. -/
def reopen (feed : Feed δ) (attempt : Nat) (last : Error) :
    Nat → Except Error Unit × Feed δ
  | 0 => (.error last, feed)
  | left + 1 =>
    match feed.reopenDevice with
    | (.ok (), opened) => (.ok (), opened.note (.reopened opened.deviceName attempt))
    | (.error error, failed) =>
      reopen (failed.note (.reopenFailed attempt error)) (attempt + 1) error left

/-- Offer a block once more after the device was opened anew. -/
def retry (feed : Feed δ) (frames : ByteArray) : Outcome × Feed δ :=
  match feed.enqueue frames with
  | (.ok outcome, after) => (outcome, after)
  | (.error error, after) => (.deviceUnavailable, after.reset.note (.failedAgain error))

/-- Go on after a failure of the device, with the ring already reset. -/
def recover (policy : RecoveryPolicy) (feed : Feed δ) (frames : ByteArray) (error : Error) :
    Outcome × Feed δ :=
  if error.isUnderrun then
    (.dropped,
      { feed with ring := feed.ring.countUnderrun }.note (.deviceUnderrun feed.deviceName))
  else if error.needsReopen then
    match reopen (feed.note (.reopening error feed.deviceName)) 1
        (.deviceLost "no reopen attempts made") policy.maxTries.toNat with
    | (.ok (), opened) => retry opened frames
    | (.error last, failed) => (.deviceUnavailable, failed.note (.recoveryFailed last))
  else (.deviceUnavailable, feed.note (.deviceFailed error))

/-- Offer a payload. -/
def offer (session : Session δ) (frames : ByteArray) : Outcome × Session δ :=
  match session.feed.enqueue frames with
  | (.ok outcome, feed) => (outcome, { session with feed := feed })
  | (.error error, feed) =>
    let (outcome, recovered) := recover session.recovery feed.reset frames error
    (outcome, { session with feed := recovered })

/-- Offer whole frames, given as bytes. -/
def queue (session : Session δ) (frames : ByteArray) : Except Fault (Outcome × Session δ) :=
  (session.feed.ring.checkFrames frames).map fun _ => session.offer frames

/-- Offer samples of the ring's type. -/
def queueSamples {σ : Type} [Sample σ] (session : Session δ) (samples : List σ) :
    Except Fault (Outcome × Session δ) :=
  (session.feed.ring.checkSamples (Sample.format σ)).bind fun _ =>
    session.queue (Sample.encode samples)

/-! ### Observing -/

/-- The duration in milliseconds of what is queued and what the device still holds. A device that
does not tell its backlog is taken to hold nothing. -/
def queuedMs (session : Session δ) : Nat × Session δ :=
  let (answer, asked) := session.feed.askBacklog
  let (backlog, feed) :=
    match answer with
    | .ok backlog => (backlog, asked)
    | .error error => (0, asked.note (.backlogUnknown error))
  (feed.ring.geometry.framesToMs (saturate (feed.ring.queuedFrames + backlog)),
    { session with feed := feed })

/-- Whether frames leave the ring. -/
def isPlaying (session : Session δ) : Bool := session.feed.ring.playing

/-- Let whoever plays the frames drain the ring into a buffer. -/
def drain (session : Session δ) (buffer : ByteArray) : Session δ × ByteArray × Nat :=
  let (feed, filled, count) := session.feed.drain buffer
  ({ session with feed := feed }, filled, count)

end Session

end Playout
