/-
**Playing a tone through a session.**

The tone is offered block by block until the wanted number of frames has been sent, whatever
becomes of each block. After each block the player waits until no more than the target is queued,
and at the end until nothing is; a wait is a bounded number of looks at the queue, since a stalled
device would never end it. About once a second it reports how it is getting on, and for that it
looks at the queue once more.

Time is not part of a session. How many looks fit into a wait, and after which blocks a report is
due, is up to a `Clock`; what happens to the ring between two looks is up to its consumer.
-/
import Playout.Options
import Playout.Session
import Playout.Tone

namespace Playout

/-- How much time there is behind one block. -/
structure Pause where
  /-- How often the queue is looked at again. -/
  looks : Nat := 0
  /-- Whether a report is made: one is due, and the log would show it. A report that nobody sees is
  not made, so its look at the queue is not taken either. -/
  reports : Bool := false

/-- The course of time, as far as a player notices it. -/
structure Clock where
  /-- The pause behind a block, by the frames that have been sent with it. -/
  pause : Nat → Pause
  /-- How often the queue is looked at again after the last block. -/
  drainLooks : Nat

/-- How a player waits for the queue to become shorter. -/
structure Waiting extends Clock where
  /-- What happens to the ring between two looks. -/
  meanwhile : Ring → Ring := id

/-- The number of frames in so many milliseconds, at least one. -/
def framesForMs (sampleRate ms : Nat) : Nat :=
  max 1 (sampleRate * ms / 1000)

namespace Player

/-- Twice a duration in milliseconds, which has to fit 32 bits. Where overflow is not checked, the
product would be cut to 32 bits instead, and the player would go on with another target. -/
def double (ms : UInt32) : Except Fault Nat :=
  if wordMax < ms.toNat * 2 then .error .durationOverflow else .ok (ms.toNat * 2)

/-- How much the player keeps queued, in milliseconds: twice the low watermark or two blocks, but
not more than the high watermark. -/
def targetMs (config : Config) (blockMs : UInt32) : Except Fault Nat :=
  (double config.lowWatermarkMs).bind fun low =>
    (double blockMs).map fun block => min (max low block) config.highWatermarkMs.toNat

/-- The number of frames in a length in seconds. What is negative or not a number counts as none. -/
def totalFrames (seconds : Float32) (sampleRate : UInt32) : Nat :=
  let length := if 0 < seconds then seconds else 0
  (length * sampleRate.toFloat32).toUInt64.toNat

variable {δ : Type} [Device δ]

/-- Add a notice to the record of a session. -/
def note (session : Session δ) (notice : Notice) : Session δ :=
  { session with feed := session.feed.note notice }

/-- Look at the queue until it is no longer than the limit, or not playing, or no look is left. -/
def await (meanwhile : Ring → Ring) (limit : Nat) (session : Session δ) : Nat → Session δ
  | 0 => if session.isPlaying then session.queuedMs.2 else session
  | looks + 1 =>
    if session.isPlaying then
      let (queued, looked) := session.queuedMs
      if limit < queued then
        let feed := { looked.feed with ring := meanwhile looked.feed.ring }
        await meanwhile limit { looked with feed := feed } looks
      else looked
    else session

/-- What the player notes about the end of an offer. -/
def noteOutcome (session : Session δ) (blockMs : Nat) : Outcome → Session δ
  | .queued => session
  | .dropped => note session .blockDropped
  | .deviceUnavailable => note session (.retrying blockMs)

/-- Report how the playback is getting on. The device is asked for its backlog whether or not the
session is playing. -/
def report (session : Session δ) : Session δ :=
  let (queued, looked) := session.queuedMs
  note looked (.progress queued looked.isPlaying session.feed.ring.stats)

/-- Wait behind a block, and report if it is time. -/
def pace (meanwhile : Ring → Ring) (limit : Nat) (pause : Pause) (session : Session δ) :
    Session δ :=
  let waited := await meanwhile limit session pause.looks
  if pause.reports then report waited else waited

/-- The parts of a playback that stay the same from block to block. -/
structure Plan where
  blockMs : Nat
  /-- Frames of one block. -/
  blockFrames : Nat
  /-- Frames to send at least. -/
  total : Nat
  targetMs : Nat
  blockFrames_pos : 0 < blockFrames

/-- Send blocks until enough frames have been sent. All of them are filled into one buffer.

The frames that have been sent are counted without bound. In 64 bits the count is the same as long
as the total and one more block fit (`PlayedOnce.in_words`); longer playbacks are not meant. -/
def sendBlocks (σ : Type) [ToneSample σ] (arithmetic : Arithmetic) (plan : Plan) (waiting : Waiting)
    (session : Session δ) (tone : Tone) (buffer : Array σ) (sent : Nat) :
    Except Fault (Session δ) :=
  if _ : sent < plan.total then
    let (after, block) := tone.fillInto arithmetic buffer plan.blockFrames
    match session.queueSamples block.toList with
    | .error fault => .error fault
    | .ok (outcome, offered) =>
      let sentNow := sent + plan.blockFrames
      let noted := noteOutcome offered plan.blockMs outcome
      let paced := pace waiting.meanwhile plan.targetMs (waiting.pause sentNow) noted
      sendBlocks σ arithmetic plan waiting paced after block sentNow
  else .ok session
termination_by plan.total - sent
decreasing_by
  have positive := plan.blockFrames_pos
  omega

/-- Play a tone in samples of one type. -/
def playTone (σ : Type) [ToneSample σ] (arithmetic : Arithmetic) (options : Options)
    (config : Config) (waiting : Waiting) (session : Session δ) : Except Fault (Session δ) :=
  let format := session.feed.ring.format
  (targetMs config options.blockMs).bind fun target =>
    let plan : Plan :=
      { blockMs := options.blockMs.toNat
        blockFrames := framesForMs format.sampleRate.toNat options.blockMs.toNat
        total := totalFrames (Float32.ofBits options.seconds) format.sampleRate
        targetMs := target
        blockFrames_pos := Nat.lt_of_lt_of_le Nat.one_pos (Nat.le_max_left ..) }
    let tone :=
      Tone.start (Float32.ofBits options.frequency) format.sampleRate format.channels
        (Float32.ofBits options.volume)
    let announced :=
      note session (.playing options.frequency options.seconds plan.blockMs target)
    (sendBlocks σ arithmetic plan waiting announced tone #[] 0).map fun sent =>
      let ended := (await waiting.meanwhile 0 sent waiting.drainLooks).reset
      note ended (.done ended.feed.ring.stats)

/-- Play a tone in samples of the session's type. -/
def play (arithmetic : Arithmetic) (options : Options) (config : Config) (waiting : Waiting)
    (session : Session δ) : Except Fault (Session δ) :=
  match session.feed.ring.format.sampleFormat with
  | .i16 => playTone Int16 arithmetic options config waiting session
  | .f32 => playTone FloatSample arithmetic options config waiting session

end Player

end Playout
