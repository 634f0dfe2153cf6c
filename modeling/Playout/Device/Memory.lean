/-
**A device without hardware.**

It keeps every byte it takes, plays frames when told to, and fails when told to. A lost device
refuses to tell its backlog and to take frames until it is opened anew.
-/
import Playout.Device

namespace Playout

/-- A device in memory. -/
structure MemoryDevice where
  delivery : Delivery
  frameSize : Nat
  /-- The most frames that wait to be played. -/
  capacityFrames : Nat
  running : Bool := false
  starts : Nat := 0
  stops : Nat := 0
  /-- Attempts to open the device anew. -/
  reopens : Nat := 0
  /-- Frames taken and not yet played. -/
  backlogFrames : Nat := 0
  /-- All bytes taken, in order. -/
  written : ByteArray := .empty
  lost : Bool := false
  /-- How many of the next attempts to open the device anew fail. -/
  failingReopens : Nat := 0
  startFailure : Option Error := none
  writeFailure : Option Error := none

namespace MemoryDevice

/-- A device that is drained by whoever plays the frames. -/
def callback : MemoryDevice where
  delivery := .callback
  frameSize := 1
  capacityFrames := 0

/-- A device that takes frames of one size as long as it has room for them. -/
def writeThrough (capacityFrames frameSize : Nat) : Except Fault MemoryDevice :=
  if frameSize = 0 then .error .zeroFrameSize
  else
    .ok
      { delivery := .writeThrough
        frameSize := frameSize
        capacityFrames := capacityFrames }

/-- The failure of a lost device. -/
def lostError : Error := .deviceLost "memory device marked lost"

def start (device : MemoryDevice) : Reply MemoryDevice Unit :=
  match device.startFailure with
  | some error => ⟨{ device with startFailure := none }, .error error, []⟩
  | none => ⟨{ device with running := true, starts := device.starts + 1 }, .ok (), []⟩

def stop (device : MemoryDevice) : Reply MemoryDevice Unit :=
  ⟨{ device with running := false, stops := device.stops + 1, backlogFrames := 0 }, .ok (), []⟩

def backlog (device : MemoryDevice) : Reply MemoryDevice Nat :=
  ⟨device, if device.lost then .error lostError else .ok device.backlogFrames, []⟩

/-- Take as many frames as there is room for. A failure that was asked for comes first, and loses
the device if it is a loss. -/
def write (device : MemoryDevice) (frames : ByteArray) : Reply MemoryDevice Nat :=
  match device.writeFailure with
  | some error =>
    let loses := match error with
      | .deviceLost _ => true
      | _ => device.lost
    ⟨{ device with writeFailure := none, lost := loses }, .error error, []⟩
  | none =>
    if device.lost then ⟨device, .error lostError, []⟩
    else
      let taken :=
        min (frames.size / device.frameSize) (device.capacityFrames - device.backlogFrames)
      ⟨{ device with
          backlogFrames := device.backlogFrames + taken
          written := device.written ++ frames.extract 0 (taken * device.frameSize) },
        .ok taken, []⟩

def reopen (device : MemoryDevice) : Reply MemoryDevice Unit :=
  let tried := { device with reopens := device.reopens + 1 }
  if 0 < device.failingReopens then
    ⟨{ tried with failingReopens := device.failingReopens - 1 },
      .error (.deviceLost "memory device still unavailable"), []⟩
  else
    ⟨{ tried with lost := false, running := false, backlogFrames := 0 }, .ok (),
      [.memoryReopened]⟩

instance : Device MemoryDevice where
  start := start
  stop := stop
  delivery := MemoryDevice.delivery
  backlog := backlog
  write := write
  reopen := reopen
  name _ := "memory"

/-! ### What a test does to the device -/

/-- Play at most so many waiting frames, and tell how many these were. -/
def playFrames (device : MemoryDevice) (limit : Nat) : MemoryDevice × Nat :=
  let played := min limit device.backlogFrames
  ({ device with backlogFrames := device.backlogFrames - played }, played)

/-- Let the next start fail. -/
def failStart (device : MemoryDevice) (error : Error) : MemoryDevice :=
  { device with startFailure := some error }

/-- Let the next write fail. -/
def failWrite (device : MemoryDevice) (error : Error) : MemoryDevice :=
  { device with writeFailure := some error }

/-- Lose the device until it is opened anew. -/
def lose (device : MemoryDevice) : MemoryDevice :=
  { device with lost := true }

/-- Let the next attempts to open the device anew fail. -/
def failReopens (device : MemoryDevice) (count : Nat) : MemoryDevice :=
  { device with failingReopens := count }

end MemoryDevice

end Playout
