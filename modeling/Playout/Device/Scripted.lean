/-
**A device that answers as it was told to.**

Each kind of call has a list of prepared answers and takes the next one. When the list is used up,
a call succeeds: the backlog is zero, and a write takes all whole frames.
-/
import Playout.Device

namespace Playout

/-- A device with prepared answers. For a backlog or a write, `none` is the answer that is given
once the list is used up. -/
structure ScriptedDevice where
  name : String
  delivery : Delivery
  frameSize : Nat
  startAnswers : List (Except Error Unit)
  stopAnswers : List (Except Error Unit)
  backlogAnswers : List (Except Error (Option Nat))
  writeAnswers : List (Except Error (Option Nat))
  reopenAnswers : List (Except Error Unit)

namespace ScriptedDevice

/-- The next prepared number, or the standard one. -/
def nextNumber (standard : Nat) : List (Except Error (Option Nat)) → Except Error Nat
  | [] => .ok standard
  | answer :: _ => answer.map fun number => number.getD standard

/-- The next prepared success or failure. -/
def next : List (Except Error Unit) → Except Error Unit
  | [] => .ok ()
  | answer :: _ => answer

instance : Device ScriptedDevice where
  start device :=
    ⟨{ device with startAnswers := device.startAnswers.tail }, next device.startAnswers, []⟩
  stop device :=
    ⟨{ device with stopAnswers := device.stopAnswers.tail }, next device.stopAnswers, []⟩
  delivery := ScriptedDevice.delivery
  backlog device :=
    ⟨{ device with backlogAnswers := device.backlogAnswers.tail },
      nextNumber 0 device.backlogAnswers, []⟩
  write device frames :=
    ⟨{ device with writeAnswers := device.writeAnswers.tail },
      nextNumber (frames.size / device.frameSize) device.writeAnswers, []⟩
  reopen device :=
    ⟨{ device with reopenAnswers := device.reopenAnswers.tail }, next device.reopenAnswers, []⟩
  name := ScriptedDevice.name

end ScriptedDevice

end Playout
