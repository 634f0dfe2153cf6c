/-
**A bounded queue of bytes in one block of storage.**

The unread bytes start at `position` and run for `length` bytes, going on at the start of the
storage when they reach its end. Cells outside this stretch hold whatever was there before, and
nothing that a ring hands out depends on them. The view `toList` is the unread bytes, oldest first.

* `length_toList`: the view has `length` bytes;
* `available_add_free`: what is unread and what is free make up the capacity.
-/

namespace Playout

/-- A copy of bytes that fit into the target keeps the size of the target. -/
theorem size_copySlice {source target : ByteArray} {offset start count : Nat}
    (inSource : offset + count ≤ source.size) (inTarget : start + count ≤ target.size) :
    (source.copySlice offset target start count).size = target.size := by
  simp only [ByteArray.copySlice, ByteArray.size, Array.size_append, Array.size_extract] at *
  omega

/-- The place that is `index` steps after the start of the storage, going round at most once. -/
def wrap (capacity index : Nat) : Nat :=
  if index < capacity then index else index - capacity

theorem wrap_lt {capacity index : Nat} (once : index < max 1 (2 * capacity)) :
    wrap capacity index < max 1 capacity := by
  unfold wrap
  split <;> omega

/-- Storage for a bounded number of bytes, and the stretch of it that is unread. -/
structure ByteRing where
  storage : ByteArray
  /-- The place of the oldest unread byte. -/
  position : Nat
  /-- The number of unread bytes. -/
  length : Nat
  position_lt : position < max 1 storage.size
  length_le : length ≤ storage.size

namespace ByteRing

/-- A ring for so many bytes, all zero and none of them unread. -/
def empty (capacity : Nat) : ByteRing where
  storage := ⟨Array.replicate capacity 0⟩
  position := 0
  length := 0
  position_lt := by omega
  length_le := by omega

/-- The most bytes that the ring can hold. -/
def capacity (ring : ByteRing) : Nat := ring.storage.size

/-- Bytes that can be read. -/
def available (ring : ByteRing) : Nat := ring.length

/-- Bytes that can be written. -/
def free (ring : ByteRing) : Nat := ring.capacity - ring.length

def isEmpty (ring : ByteRing) : Bool := ring.length = 0

def isFull (ring : ByteRing) : Bool := ring.free = 0

/-- The place where the next byte is written. -/
def writePosition (ring : ByteRing) : Nat :=
  wrap ring.capacity (ring.position + ring.length)

theorem writePosition_lt (ring : ByteRing) : ring.writePosition < max 1 ring.storage.size := by
  have position := ring.position_lt
  have length := ring.length_le
  exact wrap_lt (by simp only [capacity]; omega)

/-- The storage with the first `count` of some bytes put where the next byte is written. -/
def overwrite (ring : ByteRing) (bytes : ByteArray) (count : Nat) : ByteArray :=
  let start := ring.writePosition
  let first := min count (ring.capacity - start)
  bytes.copySlice first (bytes.copySlice 0 ring.storage start first) 0 (count - first)

theorem size_overwrite (ring : ByteRing) {bytes : ByteArray} {count : Nat}
    (present : count ≤ bytes.size) (fits : count ≤ ring.free) :
    (ring.overwrite bytes count).size = ring.storage.size := by
  have inside := ring.writePosition_lt
  simp only [overwrite, free, capacity] at *
  rw [size_copySlice (by omega) (by rw [size_copySlice] <;> omega), size_copySlice] <;> omega

/-- Append the bytes that fit, and tell how many these were. -/
def write (ring : ByteRing) (bytes : ByteArray) : ByteRing × Nat :=
  let count := min bytes.size ring.free
  have kept : (ring.overwrite bytes count).size = ring.storage.size :=
    size_overwrite ring (Nat.min_le_left ..) (Nat.min_le_right ..)
  ({ storage := ring.overwrite bytes count
     position := ring.position
     length := ring.length + count
     position_lt := by rw [kept]; exact ring.position_lt
     length_le := by
       have length := ring.length_le
       rw [kept]
       simp only [count, free, capacity]
       omega },
    count)

/-- The unread bytes as at most two stretches of storage, oldest first. -/
def regions (ring : ByteRing) : ByteArray × ByteArray :=
  let stop := ring.position + ring.length
  if stop ≤ ring.capacity then (ring.storage.extract ring.position stop, .empty)
  else
    (ring.storage.extract ring.position ring.capacity,
      ring.storage.extract 0 (stop - ring.capacity))

/-- All unread bytes. -/
def contents (ring : ByteRing) : ByteArray :=
  ring.regions.1 ++ ring.regions.2

/-- The oldest unread bytes, at most `limit` of them. -/
def oldest (ring : ByteRing) (limit : Nat) : ByteArray :=
  ring.contents.extract 0 limit

/-- Put the oldest unread bytes at the front of a buffer, and tell how many these were. -/
def peek (ring : ByteRing) (buffer : ByteArray) : ByteArray × Nat :=
  let front := ring.oldest buffer.size
  (front ++ buffer.extract front.size buffer.size, front.size)

/-- Remove the oldest unread bytes, and tell how many these were. -/
def skip (ring : ByteRing) (count : Nat) : ByteRing × Nat :=
  let skipped := min count ring.length
  ({ storage := ring.storage
     position := wrap ring.capacity (ring.position + skipped)
     length := ring.length - skipped
     position_lt := by
       have position := ring.position_lt
       have length := ring.length_le
       exact wrap_lt (by simp only [capacity, skipped]; omega)
     length_le := Nat.le_trans (Nat.sub_le ..) ring.length_le },
    skipped)

@[simp] theorem skip_zero (ring : ByteRing) : (ring.skip 0).1 = ring := by
  obtain ⟨storage, position, length, position_lt, length_le⟩ := ring
  have same : wrap storage.size position = position := by
    unfold wrap
    split <;> omega
  simp only [skip, capacity, Nat.zero_min, Nat.add_zero, Nat.sub_zero, same]

/-- Move the oldest unread bytes to the front of a buffer, and tell how many these were. -/
def read (ring : ByteRing) (buffer : ByteArray) : ByteRing × ByteArray × Nat :=
  let (filled, count) := ring.peek buffer
  ((ring.skip count).1, filled, count)

/-- Drop all unread bytes and start again at the start of the storage. -/
def clear (ring : ByteRing) : ByteRing where
  storage := ring.storage
  position := 0
  length := 0
  position_lt := by omega
  length_le := by omega

/-- The unread bytes, oldest first. -/
def toList (ring : ByteRing) : List UInt8 :=
  (List.range ring.length).map fun index =>
    ring.storage.data.getD ((ring.position + index) % ring.capacity) 0

@[simp] theorem length_toList (ring : ByteRing) : ring.toList.length = ring.length := by
  simp [toList]

@[simp] theorem toList_empty (capacity : Nat) : (empty capacity).toList = [] := rfl

@[simp] theorem toList_clear (ring : ByteRing) : ring.clear.toList = [] := rfl

theorem available_add_free (ring : ByteRing) : ring.available + ring.free = ring.capacity := by
  have length := ring.length_le
  simp only [available, free, capacity]
  omega

end ByteRing

end Playout
