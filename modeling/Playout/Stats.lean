/-
**What a ring counts over its life, and what becomes of an offered block.**
-/

namespace Playout

/-- What becomes of a block of frames that is offered to a ring. -/
inductive Outcome where
  /-- The ring holds the frames. -/
  | queued
  /-- The frames did not fit and were discarded. -/
  | dropped
  /-- The device could not be recovered; nothing is queued. -/
  | deviceUnavailable
deriving DecidableEq, Repr

/-- The counters of a ring. -/
structure Stats where
  /-- Successful starts of the device. -/
  starts : Nat := 0
  /-- Resets that stopped playback. -/
  resets : Nat := 0
  /-- Times the queue ran dry while playing. -/
  underruns : Nat := 0
  /-- Times the high watermark was passed while playing. -/
  overruns : Nat := 0
  /-- Frames discarded because they did not fit. -/
  droppedFrames : Nat := 0
  /-- Frames taken into the ring. -/
  queuedFramesTotal : Nat := 0
deriving DecidableEq, Repr

end Playout
