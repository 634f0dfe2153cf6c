/-
**It does not matter how a ring is drained.**

A consumer that fills a buffer gets the oldest whole frames of a playing ring, as many as there are
and as fit, and silence after them. Just these frames leave the ring. So buffers that are filled one
after the other, by one consumer or by several, get together what one large buffer gets, and leave
the ring where it leaves it: only the whole frames that they have room for count.

* `Ring.Consistent.drains`: what a drain does, to the buffer and to the ring;
* `Ring.Consistent.consume_consume`: to consume twice is to consume once, wherever the bytes lie;
* `Ring.Consistent.drainAll_eq`: what a schedule of buffers comes to;
* `Ring.drained_alike_by_schedules`: **two schedules with room for as many frames come to the same**.
-/
import Mathlib.Algebra.Ring.Nat
import Playout.Proofs.Ring.Standing

namespace Playout

/-- To skip twice is to skip once. -/
theorem ByteRing.skip_skip (ring : ByteRing) {first second : Nat}
    (within : first + second ≤ ring.length) :
    ((ring.skip first).1.skip second).1 = (ring.skip (first + second)).1 := by
  have position := ring.position_lt
  have length := ring.length_le
  have early : min first ring.length = first := by omega
  have late : min second (ring.length - first) = second := by omega
  have both : min (first + second) ring.length = first + second := by omega
  have place : wrap ring.capacity (wrap ring.capacity (ring.position + first) + second) =
      wrap ring.capacity (ring.position + (first + second)) := by
    by_cases empty : ring.capacity = 0
    · have none : first = 0 ∧ second = 0 := by simp only [capacity] at empty; omega
      rw [none.1, none.2]
      simp [wrap, empty]
    · rw [wrap_wrap_add (by simp only [capacity] at empty ⊢; omega), Nat.add_assoc]
  have rest : ring.length - first - second = ring.length - (first + second) := by omega
  simp only [capacity] at place
  simp only [skip, capacity, early, late, both, place, rest]

namespace Ring

/-- What a drain of a buffer makes of a ring, what it puts into the buffer, and how much it drains. -/
structure Drains (ring : Ring) (buffer : ByteArray) (last : Ring) (filled : ByteArray)
    (count : Nat) : Prop where
  count_eq : count =
    if ring.playing then
      min ring.storage.toList.length (buffer.size - buffer.size % ring.geometry.frameSize)
    else 0
  whole : count % ring.geometry.frameSize = 0
  filled_eq : filled.data.toList =
    ring.storage.toList.take count ++ List.replicate (buffer.size - count) 0
  size_eq : filled.size = buffer.size
  toList_eq : last.storage.toList = ring.storage.toList.drop count
  queuedFrames_eq : last.queuedFrames + count / ring.geometry.frameSize = ring.queuedFrames
  framesConsumed_eq : last.framesConsumed = ring.framesConsumed + count / ring.geometry.frameSize
  /-- The cells of the storage keep their bytes. -/
  cells_eq : last.storage.storage = ring.storage.storage
  /-- Nothing else changes. -/
  others_eq : last =
    { ring with
      storage := last.storage
      queuedFrames := last.queuedFrames
      framesConsumed := last.framesConsumed }

/-- Fill buffers one after the other, and put together what is drained into them. -/
def drainAll (ring : Ring) : List ByteArray → Ring × List UInt8
  | [] => (ring, [])
  | buffer :: buffers =>
    let (next, filled, count) := ring.drain buffer
    let (last, drained) := next.drainAll buffers
    (last, (filled.extract 0 count).data.toList ++ drained)

/-- The whole frames that buffers have room for, all together. -/
def room (ring : Ring) (buffers : List ByteArray) : Nat := (buffers.map ring.framesOf).sum

variable {ring : Ring}

/-! ### One buffer -/

theorem drainable_le_framesOf (ring : Ring) (buffer : ByteArray) :
    ring.drainable buffer ≤ ring.framesOf buffer := by
  unfold drainable
  split
  · exact Nat.min_le_left ..
  · exact Nat.zero_le _

theorem Consistent.drains (consistent : ring.Consistent) (buffer : ByteArray) :
    ring.Drains buffer (ring.drain buffer).1 (ring.drain buffer).2.1 (ring.drain buffer).2.2 := by
  have counted := consistent.count_drain buffer
  have frames : (ring.drain buffer).2.2 / ring.geometry.frameSize = ring.drainable buffer := by
    rw [counted, Nat.mul_div_cancel _ consistent.frameSize_pos]
  have stored : ring.storage.toList.length = ring.queuedFrames * ring.geometry.frameSize := by
    rw [ByteRing.length_toList]
    exact consistent.available_eq
  refine ⟨?count, ?whole, ring.toList_filled buffer, ?size, ?toList, ?queued, ?consumed, ?cells,
    ?others⟩
  case count =>
    have wholeFrames : buffer.size - buffer.size % ring.geometry.frameSize =
        buffer.size / ring.geometry.frameSize * ring.geometry.frameSize := by
      have parts := Nat.div_add_mod' buffer.size ring.geometry.frameSize
      omega
    rw [counted, drainable, stored, wholeFrames, Nat.mul_min_mul_right, Nat.min_comm]
    split
    · rfl
    · exact Nat.zero_mul _
  case whole => rw [counted, Nat.mul_mod_left]
  case size =>
    have length := congrArg List.length (ring.toList_filled buffer)
    rw [List.length_append, List.length_take_of_le (ring.count_drain_le buffer),
      List.length_replicate] at length
    have bounded : (ring.drain buffer).2.2 ≤ buffer.size := by
      rw [counted]
      exact Nat.le_trans (Nat.mul_le_mul_right _ (ring.drainable_le_framesOf buffer))
        (Nat.div_mul_le_self ..)
    exact length.trans (Nat.add_sub_cancel' bounded)
  case toList =>
    rw [consistent.drain_eq_consume, counted]
    exact ring.storage.toList_skip _
  case queued =>
    rw [consistent.drain_eq_consume, frames]
    exact Nat.sub_add_cancel (ring.drainable_le buffer)
  case consumed =>
    rw [consistent.drain_eq_consume, frames]
    rfl
  case cells =>
    rw [consistent.drain_eq_consume]
    rfl
  case others =>
    rw [consistent.drain_eq_consume]
    rfl

/-! ### A schedule of buffers -/

/-- **To consume twice is to consume once**, wherever the bytes lie. -/
theorem Consistent.consume_consume (consistent : ring.Consistent) {first second : Nat}
    (queued : first + second ≤ ring.queuedFrames) :
    (ring.consume first).consume second = ring.consume (first + second) := by
  have within : first * ring.geometry.frameSize + second * ring.geometry.frameSize ≤
      ring.storage.length := by
    have stored : ring.storage.length = ring.queuedFrames * ring.geometry.frameSize :=
      consistent.available_eq
    rw [stored, ← Nat.add_mul]
    exact Nat.mul_le_mul_right _ queued
  have skipped := ring.storage.skip_skip within
  rw [← Nat.add_mul] at skipped
  simp only [Ring.consume, skipped, Nat.sub_sub, Nat.add_assoc]

/-- The frames that a playing ring hands out to buffers with room for so many. -/
def yield (ring : Ring) (room : Nat) : Nat := if ring.playing then min room ring.queuedFrames else 0

theorem yield_le (ring : Ring) (room : Nat) : ring.yield room ≤ ring.queuedFrames := by
  unfold yield
  split
  · exact Nat.min_le_right ..
  · exact Nat.zero_le _

/-- **What a schedule comes to**: the ring hands out as many frames as it has and the buffers have room
for, the oldest ones. -/
theorem Consistent.drainAll_eq (consistent : ring.Consistent) (buffers : List ByteArray) :
    ring.drainAll buffers =
      (ring.consume (ring.yield (ring.room buffers)),
        ring.storage.toList.take (ring.yield (ring.room buffers) * ring.geometry.frameSize)) := by
  induction buffers generalizing ring with
  | nil =>
    have none : ring.yield (ring.room []) = 0 := by
      simp [yield, room]
    rw [none, consume_zero, Nat.zero_mul, List.take_zero]
    rfl
  | cons buffer buffers ih =>
    have first := ring.drainable_le buffer
    have next := ih (consistent.consume first)
    have parts : ring.yield (ring.room (buffer :: buffers)) =
        ring.drainable buffer + (ring.consume (ring.drainable buffer)).yield
          ((ring.consume (ring.drainable buffer)).room buffers) := by
      have rest : ring.room (buffer :: buffers) = ring.framesOf buffer + ring.room buffers := by
        simp [room]
      show ring.yield _ = ring.drainable buffer +
        if ring.playing then min (ring.room buffers) (ring.queuedFrames - ring.drainable buffer)
        else 0
      rw [rest]
      unfold yield drainable framesOf
      split
      · omega
      · rfl
    have within : ring.drainable buffer + (ring.consume (ring.drainable buffer)).yield
        ((ring.consume (ring.drainable buffer)).room buffers) ≤ ring.queuedFrames := by
      rw [← parts]
      exact ring.yield_le _
    have behind : (ring.consume (ring.drainable buffer)).storage.toList =
        ring.storage.toList.drop (ring.drainable buffer * ring.geometry.frameSize) :=
      ring.storage.toList_skip _
    show (((ring.drain buffer).1.drainAll buffers).1,
      ((ring.drain buffer).2.1.extract 0 (ring.drain buffer).2.2).data.toList ++
        ((ring.drain buffer).1.drainAll buffers).2) = _
    rw [consistent.drain_eq_consume, next, toList_drained, consistent.count_drain, parts,
      consistent.consume_consume within, behind, Nat.add_mul, List.take_add]
    rfl

/-- **It does not matter how a ring is drained**, whatever ring was reached: each drain hands out what
there is and fits, and two schedules of buffers with room for as many whole frames hand out the same
bytes and leave the same ring. -/
theorem drained_alike_by_schedules (reachable : ring.Reachable) :
    (∀ buffer, ring.Drains buffer (ring.drain buffer).1 (ring.drain buffer).2.1
      (ring.drain buffer).2.2) ∧
      ∀ first second, ring.room first = ring.room second →
        ring.drainAll first = ring.drainAll second := by
  have consistent := reachable.consistent
  refine ⟨consistent.drains, fun first second same => ?_⟩
  rw [consistent.drainAll_eq, consistent.drainAll_eq, same]

/-- Two frames are drained by small buffers with stray bytes, and by a large one. -/
theorem drained_alike_by_stray_buffers :
    let format : Format := ⟨.i16, 1, 3, none⟩
    let history : List (Operation PlainDevice) :=
      [.queue ⟨#[1, 2, 3, 4, 5, 6]⟩, .drain ⟨#[0, 0, 0]⟩]
    let ring := ((Feed.mk (ofFormat format 0 9) PlainDevice.mk #[]).run history).ring
    let first : List ByteArray := [⟨#[9, 9, 9]⟩, ⟨#[9]⟩, .empty, ⟨#[9, 9]⟩]
    let second : List ByteArray := [⟨#[0, 0, 0, 0, 0]⟩]
    ring.Reachable ∧ ring.room first = ring.room second ∧
      (∀ buffer, ring.Drains buffer (ring.drain buffer).1 (ring.drain buffer).2.1
        (ring.drain buffer).2.2) ∧
      ring.drainAll first = ring.drainAll second ∧ (ring.drainAll second).2 = [3, 4, 5, 6] := by
  intro format history ring first second
  have created : create format 0 9 = .ok (ofFormat format 0 9) := rfl
  have reachable : ring.Reachable := reachable_run created PlainDevice.mk history
  have same : ring.room first = ring.room second := by decide +kernel
  obtain ⟨drains, alike⟩ := drained_alike_by_schedules reachable
  exact ⟨reachable, same, drains, alike first second same, by decide +kernel⟩

end Ring

end Playout
