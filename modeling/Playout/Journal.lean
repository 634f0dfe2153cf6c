/-
**The record of what happened.**

A journal lists the calls that reached a device, with their answers, and the notices, in the order
in which they came. It is the one place where the dealings with a device can be read off
afterwards.
-/
import Playout.Device

namespace Playout

/-- A call that reached a device, with its answer. -/
inductive Call where
  | start (answer : Except Error Unit)
  | stop (answer : Except Error Unit)
  | backlog (answer : Except Error Nat)
  | write (offered : ByteArray) (answer : Except Error Nat)
  | reopen (answer : Except Error Unit)

/-- An entry of a journal. -/
inductive Event where
  | call (call : Call)
  | notice (notice : Notice)

/-- What happened, the oldest first. -/
abbrev Journal := Array Event

namespace Journal

/-- The device calls of a journal. -/
def calls (journal : Journal) : List Call :=
  journal.toList.filterMap fun
    | .call call => some call
    | .notice _ => none

/-- The notices of a journal. -/
def notices (journal : Journal) : List Notice :=
  journal.toList.filterMap fun
    | .call _ => none
    | .notice notice => some notice

@[simp] theorem calls_push_call (journal : Journal) (call : Call) :
    Journal.calls (journal.push (.call call)) = journal.calls ++ [call] := by
  simp [calls]

@[simp] theorem calls_push_notice (journal : Journal) (notice : Notice) :
    Journal.calls (journal.push (.notice notice)) = journal.calls := by
  simp [calls]

/-- Notices of a device are no calls. -/
@[simp] theorem calls_append_notices (journal : Journal) (notices : List Notice) :
    Journal.calls (journal ++ notices.toArray.map Event.notice) = journal.calls := by
  have silent : (notices.map Event.notice).filterMap (fun
      | .call call => some call
      | .notice _ => none) = [] := by
    rw [List.filterMap_map, List.filterMap_eq_nil_iff]
    exact fun _ _ => rfl
  simp only [calls, Array.toList_append, Array.toList_map, List.filterMap_append, silent,
    List.append_nil]

end Journal

end Playout
