/-
**Every access of a byte ring lies within its bounds.**

`ByteRing.Cells` is the storage and the cursors of a ring without any promise about them. Its
operations check each access: a stretch of bytes that is not there, a remainder by zero and a
difference below zero have no result. On the cells of a ring they always have one, and it is that of
the operation of the ring; so nothing is ever cut off silently there.

* `ByteRing.write?_cells`, `ByteRing.skip?_cells`, `ByteRing.regions?_cells`,
  `ByteRing.peek?_cells`, `ByteRing.read?_cells`: the operations, one by one.
-/
import Playout.ByteRing.View

namespace Playout

/-! ### Checked accesses -/

/-- The bytes from `start` up to `stop`, if they are there. -/
def slice? (bytes : ByteArray) (start stop : Nat) : Option ByteArray :=
  if start ≤ stop ∧ stop ≤ bytes.size then some (bytes.extract start stop) else none

/-- The target with `count` bytes of the source put over it, if both have as many there. -/
def copy? (source : ByteArray) (offset : Nat) (target : ByteArray) (start count : Nat) :
    Option ByteArray :=
  if offset + count ≤ source.size ∧ start + count ≤ target.size then
    some (source.copySlice offset target start count)
  else none

/-- A difference that is not below zero. -/
def difference? (first second : Nat) : Option Nat :=
  if second ≤ first then some (first - second) else none

/-- A remainder by a number that is not zero. -/
def remainder? (dividend divisor : Nat) : Option Nat :=
  if divisor = 0 then none else some (dividend % divisor)

theorem slice?_of_le {bytes : ByteArray} {start stop : Nat} (ordered : start ≤ stop)
    (inside : stop ≤ bytes.size) : slice? bytes start stop = some (bytes.extract start stop) :=
  if_pos ⟨ordered, inside⟩

theorem copy?_of_le {source target : ByteArray} {offset start count : Nat}
    (inSource : offset + count ≤ source.size) (inTarget : start + count ≤ target.size) :
    copy? source offset target start count = some (source.copySlice offset target start count) :=
  if_pos ⟨inSource, inTarget⟩

theorem difference?_of_le {first second : Nat} (ordered : second ≤ first) :
    difference? first second = some (first - second) :=
  if_pos ordered

/-- A step round the storage is a remainder. -/
theorem remainder?_of_lt {capacity index : Nat} (filled : capacity ≠ 0)
    (once : index < 2 * capacity) : remainder? index capacity = some (wrap capacity index) := by
  rw [wrap_eq_mod once]
  exact if_neg filled

/-- To copy nothing leaves the target as it is. -/
theorem copySlice_zero {source target : ByteArray} {offset : Nat} (start : Nat)
    (inSource : offset ≤ source.size) : source.copySlice offset target start 0 = target := by
  apply ByteArray.ext
  apply Array.toList_inj.1
  rw [toList_copySlice inSource, List.take_zero, List.append_nil, Nat.add_zero,
    List.take_append_drop]

/-- Two pieces, one put behind the other, cover the front of the target. -/
theorem toList_copySlice_twice {first second target : ByteArray} {count : Nat}
    (present : count ≤ first.size + second.size) (more : first.size < count) :
    (second.copySlice 0 (first.copySlice 0 target 0 first.size) first.size
        (count - first.size)).data.toList =
      (first.data.toList ++ second.data.toList).take count ++ target.data.toList.drop count := by
  have size : first.data.toList.length = first.size := rfl
  have all : first.data.toList.take count = first.data.toList :=
    List.take_of_length_le (by omega)
  have front : (first.copySlice 0 target 0 first.size).data.toList =
      first.data.toList ++ target.data.toList.drop first.size := by
    rw [toList_copySlice (by omega), List.take_zero, List.nil_append, List.drop_zero, ← size,
      List.take_length, Nat.zero_add]
  rw [toList_copySlice (by omega), front, List.take_left' size, List.drop_zero,
    List.take_append, size, all, ← List.drop_drop, List.drop_left' size, List.drop_drop,
    Nat.add_sub_cancel' (Nat.le_of_lt more)]

namespace ByteRing

/-! ### Checked operations -/

/-- The storage and the cursors of a ring, which may be anything. -/
structure Cells where
  storage : ByteArray
  position : Nat
  length : Nat

namespace Cells

/-- The place where the next byte is written. -/
def writePosition? (cells : Cells) : Option Nat :=
  if cells.storage.size = 0 then some 0
  else remainder? (cells.position + cells.length) cells.storage.size

/-- The storage with the first `count` of some bytes written. -/
def overwrite? (cells : Cells) (bytes : ByteArray) (count : Nat) : Option ByteArray := do
  let start ← cells.writePosition?
  let first := min count (← difference? cells.storage.size start)
  let storage ← copy? bytes 0 cells.storage start first
  if first < count then copy? bytes first storage 0 (count - first) else some storage

def write? (cells : Cells) (bytes : ByteArray) : Option (Cells × Nat) := do
  let count := min bytes.size (← difference? cells.storage.size cells.length)
  if count = 0 then some (cells, 0)
  else
    let storage ← cells.overwrite? bytes count
    some ({ cells with storage := storage, length := cells.length + count }, count)

def skip? (cells : Cells) (count : Nat) : Option (Cells × Nat) :=
  let skipped := min count cells.length
  if skipped = 0 then some (cells, 0)
  else do
    let position ← remainder? (cells.position + skipped) cells.storage.size
    some ({ cells with position := position, length := cells.length - skipped }, skipped)

def regions? (cells : Cells) : Option (ByteArray × ByteArray) :=
  let stop := cells.position + cells.length
  if stop ≤ cells.storage.size then do
    let first ← slice? cells.storage cells.position stop
    some (first, .empty)
  else do
    let first ← slice? cells.storage cells.position cells.storage.size
    let second ← slice? cells.storage 0 (← difference? stop cells.storage.size)
    some (first, second)

def peek? (cells : Cells) (buffer : ByteArray) : Option (ByteArray × Nat) := do
  let (first, second) ← cells.regions?
  let count := min buffer.size cells.length
  let straight := min count first.size
  let filled ← copy? first 0 buffer 0 straight
  if straight < count then
    let filled ← copy? second 0 filled straight (count - straight)
    some (filled, count)
  else some (filled, count)

def read? (cells : Cells) (buffer : ByteArray) : Option (Cells × ByteArray × Nat) := do
  let (filled, seen) ← cells.peek? buffer
  let (after, count) ← cells.skip? seen
  some (after, filled, count)

def clear (cells : Cells) : Cells :=
  { cells with position := 0, length := 0 }

end Cells

/-- The storage and the cursors of a ring. -/
def cells (ring : ByteRing) : Cells := ⟨ring.storage, ring.position, ring.length⟩

variable (ring : ByteRing)

/-! ### Writing -/

theorem writePosition?_cells : ring.cells.writePosition? = some ring.writePosition := by
  have position := ring.position_lt
  have length := ring.length_le
  unfold Cells.writePosition? writePosition
  by_cases none : ring.storage.size = 0
  · have first : ring.position + ring.length = 0 := by omega
    rw [first]
    unfold wrap
    rw [Nat.zero_sub, ite_self]
    exact if_pos none
  · have once : ring.position + ring.length < 2 * ring.storage.size := by omega
    exact (if_neg none).trans (remainder?_of_lt none once)

theorem overwrite?_cells {bytes : ByteArray} {count : Nat} (present : count ≤ bytes.size)
    (fits : count ≤ ring.free) :
    ring.cells.overwrite? bytes count = some (ring.overwrite bytes count) := by
  have inside := ring.writePosition_lt
  have whole : ring.capacity = ring.storage.size := rfl
  have room : ring.free = ring.capacity - ring.length := rfl
  have storage : ring.cells.storage = ring.storage := rfl
  have start : ring.writePosition ≤ ring.storage.size := by omega
  simp only [Cells.overwrite?, overwrite, writePosition?_cells, storage, whole,
    difference?_of_le start, Option.bind_eq_bind, Option.bind_some]
  generalize first_eq : min count (ring.storage.size - ring.writePosition) = first
  rw [copy?_of_le (by omega) (by omega), Option.bind_some]
  have kept : (bytes.copySlice 0 ring.storage ring.writePosition first).size =
      ring.storage.size := size_copySlice (by omega) (by omega)
  split
  · exact copy?_of_le (by omega) (by omega)
  · have done : count - first = 0 := by omega
    rw [done, copySlice_zero 0 (by omega)]

/-- Where nothing is written, the storage stays. -/
theorem overwrite_zero (bytes : ByteArray) : ring.overwrite bytes 0 = ring.storage := by
  simp only [overwrite, Nat.zero_min, Nat.sub_zero]
  rw [copySlice_zero 0 (Nat.zero_le _), copySlice_zero _ (Nat.zero_le _)]

/-- **Writing stays within the bounds.** -/
theorem write?_cells (bytes : ByteArray) :
    ring.cells.write? bytes = some ((ring.write bytes).1.cells, (ring.write bytes).2) := by
  have fits : difference? ring.cells.storage.size ring.cells.length = some ring.free :=
    difference?_of_le ring.length_le
  have written := overwrite?_cells ring (Nat.min_le_left bytes.size ring.free)
    (Nat.min_le_right bytes.size ring.free)
  simp only [Cells.write?, fits, written, Option.bind_eq_bind, Option.bind_some, write]
  split
  · next none =>
    simp only [none, overwrite_zero]
    rfl
  · rfl

/-! ### Skipping -/

/-- **Skipping stays within the bounds.** -/
theorem skip?_cells (count : Nat) :
    ring.cells.skip? count = some ((ring.skip count).1.cells, (ring.skip count).2) := by
  have position := ring.position_lt
  have length := ring.length_le
  have held : ring.cells.length = ring.length := rfl
  simp only [Cells.skip?, held]
  split
  · next none =>
    have same : ring.skip count = ring.skip 0 := by simp only [skip, none, Nat.zero_min]
    rw [same, skip_zero]
    rfl
  · next moved =>
    have filled : ring.storage.size ≠ 0 := by omega
    have once : ring.position + min count ring.length < 2 * ring.storage.size := by omega
    have place : remainder? (ring.cells.position + min count ring.length)
        ring.cells.storage.size = some _ := remainder?_of_lt filled once
    rw [place]
    rfl

/-! ### Reading -/

/-- **The stretches of unread bytes lie within the bounds.** -/
theorem regions?_cells : ring.cells.regions? = some ring.regions := by
  have position : ring.cells.position < max 1 ring.cells.storage.size := ring.position_lt
  have length : ring.cells.length ≤ ring.cells.storage.size := ring.length_le
  simp only [Cells.regions?, Option.bind_eq_bind]
  by_cases straight : ring.cells.position + ring.cells.length ≤ ring.cells.storage.size
  · rw [if_pos straight, slice?_of_le (Nat.le_add_right ..) straight, Option.bind_some]
    exact congrArg some (if_pos straight).symm
  · rw [if_neg straight, slice?_of_le (by omega) (Nat.le_refl _), Option.bind_some,
      difference?_of_le (by omega), Option.bind_some, slice?_of_le (Nat.zero_le _) (by omega),
      Option.bind_some]
    exact congrArg some (if_neg straight).symm

theorem toList_regions :
    ring.regions.1.data.toList ++ ring.regions.2.data.toList = ring.toList := by
  rw [← toList_contents, contents, ByteArray.data_append, Array.toList_append]

/-- What is put at the front of a buffer, in one or two pieces, is what is peeked. -/
theorem eq_peek {buffer filled : ByteArray}
    (view : filled.data.toList = ring.toList.take (min buffer.size ring.length) ++
      buffer.data.toList.drop (min buffer.size ring.length)) :
    (filled, min buffer.size ring.length) = ring.peek buffer := by
  refine Prod.ext ?_ (ring.count_peek buffer).symm
  apply ByteArray.ext
  apply Array.toList_inj.1
  rw [toList_peek, count_peek, view, ← length_toList, ← List.take_take, List.take_length]

/-- **Peeking stays within the bounds.** -/
theorem peek?_cells (buffer : ByteArray) : ring.cells.peek? buffer = some (ring.peek buffer) := by
  have held : ring.cells.length = ring.length := rfl
  have length := ring.length_toList
  have told := @eq_peek ring buffer
  simp only [Cells.peek?, regions?_cells, held, Option.bind_eq_bind, Option.bind_some]
  rw [← toList_regions] at length told
  generalize ring.regions = regions at length told ⊢
  obtain ⟨first, second⟩ := regions
  have sizes : first.size + second.size = ring.length := (List.length_append ..).symm.trans length
  have room : min buffer.size ring.length ≤ buffer.size := Nat.min_le_left ..
  have there : min buffer.size ring.length ≤ ring.length := Nat.min_le_right ..
  dsimp only at told ⊢
  generalize min buffer.size ring.length = count at told room there ⊢
  by_cases wraps : first.size < count
  · have whole : min count first.size = first.size := by omega
    have kept : (first.copySlice 0 buffer 0 first.size).size = buffer.size :=
      size_copySlice (by omega) (by omega)
    rw [whole, copy?_of_le (by omega) (by omega), Option.bind_some, if_pos wraps,
      copy?_of_le (by omega) (by omega), Option.bind_some]
    exact congrArg some (told (toList_copySlice_twice (by omega) wraps))
  · have whole : min count first.size = count := by omega
    have front : (first.data.toList ++ second.data.toList).take count =
        first.data.toList.take count :=
      List.take_append_of_le_length (Nat.le_of_not_lt wraps)
    rw [whole, copy?_of_le (by omega) (by omega), Option.bind_some, if_neg (Nat.lt_irrefl count)]
    refine congrArg some (told ?_)
    rw [toList_copySlice (by omega), front, List.take_zero, List.nil_append, List.drop_zero,
      Nat.zero_add]

/-- **Reading stays within the bounds.** -/
theorem read?_cells (buffer : ByteArray) :
    ring.cells.read? buffer =
      some ((ring.read buffer).1.cells, (ring.read buffer).2.1, (ring.read buffer).2.2) := by
  have counted : (ring.skip (ring.peek buffer).2).2 = (ring.peek buffer).2 := by
    rw [count_peek]
    exact Nat.min_eq_left (Nat.min_le_right ..)
  simp only [Cells.read?, peek?_cells, skip?_cells, Option.bind_eq_bind, Option.bind_some]
  rw [counted]
  rfl

end ByteRing

end Playout
