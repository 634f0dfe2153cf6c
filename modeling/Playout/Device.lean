/-
**What a device has to offer.**

A device is started and stopped, tells how many frames it still holds, takes frames, and can be
opened anew after it was lost. Every call may change the device and may fail; `Reply` holds both
outcomes and the device afterwards. Of these calls only starting and stopping have no default.

Frames leave a ring in one of two ways: a `callback` device has them drained by whoever plays them,
a `writeThrough` device is handed all unread bytes and takes as many whole frames as it likes.
-/
import Playout.Notice

namespace Playout

/-- How queued frames leave the ring. -/
inductive Delivery where
  | callback
  | writeThrough
deriving DecidableEq, Repr

/-- The end of a device call: the device afterwards, the result, and what the device noted. -/
structure Reply (δ α : Type) where
  device : δ
  result : Except Error α
  notices : List Notice := []

/-- A reply with another way to hold the device. -/
def Reply.lift {δ ε α : Type} (hold : δ → ε) (reply : Reply δ α) : Reply ε α :=
  ⟨hold reply.device, reply.result, reply.notices⟩

/-- A type of devices that a ring can feed. -/
class Device (δ : Type) where
  /-- Begin to play. -/
  start : δ → Reply δ Unit
  /-- Stop playing and discard what is not yet played. -/
  stop : δ → Reply δ Unit
  delivery : δ → Delivery := fun _ => .callback
  /-- The number of frames taken and not yet played. -/
  backlog : δ → Reply δ Nat := fun device => ⟨device, .ok 0, []⟩
  /-- Offer whole frames. The result is the number of frames taken. -/
  write : δ → ByteArray → Reply δ Nat := fun device _ => ⟨device, .ok 0, []⟩
  /-- Open the device anew. -/
  reopen : δ → Reply δ Unit := fun device => ⟨device, .ok (), []⟩
  /-- The name of the device in the log. -/
  name : δ → String := fun _ => "audio device"

/-- A device chosen while the program runs behaves as the one chosen. -/
instance {δ ε : Type} [Device δ] [Device ε] : Device (δ ⊕ ε) where
  start
    | .inl device => (Device.start device).lift .inl
    | .inr device => (Device.start device).lift .inr
  stop
    | .inl device => (Device.stop device).lift .inl
    | .inr device => (Device.stop device).lift .inr
  delivery
    | .inl device => Device.delivery device
    | .inr device => Device.delivery device
  backlog
    | .inl device => (Device.backlog device).lift .inl
    | .inr device => (Device.backlog device).lift .inr
  write
    | .inl device, frames => (Device.write device frames).lift .inl
    | .inr device, frames => (Device.write device frames).lift .inr
  reopen
    | .inl device => (Device.reopen device).lift .inl
    | .inr device => (Device.reopen device).lift .inr
  name
    | .inl device => Device.name device
    | .inr device => Device.name device

/-- A device that starts and stops and leaves all else to the defaults. -/
structure PlainDevice where
deriving DecidableEq, Repr

instance : Device PlainDevice where
  start device := ⟨device, .ok (), []⟩
  stop device := ⟨device, .ok (), []⟩

end Playout
