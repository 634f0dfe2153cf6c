/-
**A byte ring is a list of unread bytes.**

Seen through `toList`, every operation of a ring is an operation of a bounded list, wherever the
unread bytes lie in the storage:

* `toList_write`: writing appends the bytes that fit;
* `toList_skip`: skipping drops from the front;
* `toList_contents`, `toList_oldest`: the stretches of storage, one after the other, are the list;
* `toList_peek`: peeking copies the front of the list over the front of the buffer.

All of them rest on `byteAt?`, the byte at a distance from the oldest unread one: a write changes it
exactly on the new bytes (`byteAt?_write`), and a skip moves it (`byteAt?_skip`).
-/
import Playout.ByteRing

namespace Playout

/-! ### Copies between byte arrays -/

/-- A copy replaces a stretch of the target and leaves what is before and after it. -/
theorem toList_copySlice {source target : ByteArray} {offset start count : Nat}
    (inSource : offset + count ≤ source.size) :
    (source.copySlice offset target start count).data.toList =
      target.data.toList.take start ++ (source.data.toList.drop offset).take count ++
        target.data.toList.drop (start + count) := by
  have size : source.data.size = source.size := rfl
  have whole : min count (source.data.size - offset) = count := by omega
  have rest : (target.data.toList.drop (start + count)).take (target.data.size - (start + count)) =
      target.data.toList.drop (start + count) := List.take_of_length_le (by simp)
  simp only [ByteArray.copySlice, Array.toList_append, Array.toList_extract, whole,
    List.extract_eq_take_drop, List.drop_zero, Nat.sub_zero, Nat.add_sub_cancel_left, rest]

/-- The front of a byte array. -/
theorem toList_extract_zero (bytes : ByteArray) (count : Nat) :
    (bytes.extract 0 count).data.toList = bytes.data.toList.take count := by
  rw [ByteArray.data_extract, Array.toList_extract, List.extract_eq_take_drop, List.drop_zero,
    Nat.sub_zero]

theorem getElem?_copySlice {source target : ByteArray} {offset start count index : Nat}
    (inSource : offset + count ≤ source.size) (inTarget : start + count ≤ target.size) :
    (source.copySlice offset target start count).data[index]? =
      if start ≤ index ∧ index < start + count then source.data[offset + (index - start)]?
      else target.data[index]? := by
  have sourceSize : source.data.toList.length = source.size := rfl
  have targetSize : target.data.toList.length = target.size := rfl
  rw [← Array.getElem?_toList, toList_copySlice inSource]
  simp only [List.getElem?_append, List.length_append, List.length_take, List.length_drop,
    List.getElem?_take, List.getElem?_drop, sourceSize, targetSize, Array.getElem?_toList]
  grind

/-! ### Places in the storage -/

theorem wrap_eq_mod {capacity index : Nat} (once : index < 2 * capacity) :
    wrap capacity index = index % capacity := by
  unfold wrap
  split
  · rw [Nat.mod_eq_of_lt ‹_›]
  · rw [Nat.mod_eq_sub_mod (by omega), Nat.mod_eq_of_lt (by omega)]

/-- Going on from a place is going on from the start. -/
theorem wrap_wrap_add {capacity first second : Nat} (once : first + second < 2 * capacity) :
    wrap capacity (wrap capacity first + second) = wrap capacity (first + second) := by
  by_cases within : first < capacity
  · have same : wrap capacity first = first := if_pos within
    rw [same]
  · have low : first - capacity + second < capacity := by omega
    have high : ¬ first + second < capacity := by omega
    simp only [wrap, within, low, high, if_true, if_false]
    omega

namespace ByteRing

/-- The byte `index` places after the oldest unread one, whether or not it is unread itself. -/
def byteAt? (ring : ByteRing) (index : Nat) : Option UInt8 :=
  ring.storage.data[wrap ring.capacity (ring.position + index)]?

theorem getElem?_toList (ring : ByteRing) (index : Nat) :
    ring.toList[index]? = if index < ring.length then ring.byteAt? index else none := by
  have position := ring.position_lt
  have length := ring.length_le
  by_cases within : index < ring.length
  · have bound : (ring.position + index) % ring.capacity < ring.storage.data.size :=
      Nat.mod_lt _ (by simp only [capacity]; omega)
    have place : wrap ring.capacity (ring.position + index) =
        (ring.position + index) % ring.capacity :=
      wrap_eq_mod (by simp only [capacity]; omega)
    rw [if_pos within, byteAt?, place, toList, List.getElem?_map, List.getElem?_range within,
      Array.getElem?_eq_getElem bound, Option.map_some, Array.getD, dif_pos bound]
    rfl
  · rw [if_neg within, List.getElem?_eq_none (by rw [length_toList]; omega)]

/-! ### Skipping -/

theorem byteAt?_skip (ring : ByteRing) {count index : Nat}
    (within : count + index < ring.length) :
    (ring.skip count).1.byteAt? index = ring.byteAt? (count + index) := by
  have position := ring.position_lt
  have length := ring.length_le
  have least : min count ring.length = count := by omega
  have place : wrap ring.capacity (wrap ring.capacity (ring.position + count) + index) =
      wrap ring.capacity (ring.position + (count + index)) := by
    rw [wrap_wrap_add (by simp only [capacity]; omega), Nat.add_assoc]
  simp only [skip, byteAt?, least]
  exact congrArg (ring.storage.data[·]?) place

/-- Skipping drops the oldest bytes. -/
theorem toList_skip (ring : ByteRing) (count : Nat) :
    (ring.skip count).1.toList = ring.toList.drop count := by
  apply List.ext_getElem?
  intro index
  have rest : (ring.skip count).1.length = ring.length - min count ring.length := rfl
  rw [List.getElem?_drop, getElem?_toList, getElem?_toList, rest]
  by_cases within : count + index < ring.length
  · rw [if_pos (by omega), if_pos within, byteAt?_skip ring within]
  · rw [if_neg (by omega), if_neg within]

/-! ### Writing -/

@[simp] theorem capacity_write (ring : ByteRing) (bytes : ByteArray) :
    (ring.write bytes).1.capacity = ring.capacity :=
  size_overwrite ring (Nat.min_le_left ..) (Nat.min_le_right ..)

theorem byteAt?_write (ring : ByteRing) (bytes : ByteArray) {index : Nat}
    (within : index < ring.capacity) :
    (ring.write bytes).1.byteAt? index =
      if ring.length ≤ index ∧ index < ring.length + (ring.write bytes).2 then
        bytes.data[index - ring.length]?
      else ring.byteAt? index := by
  have position := ring.position_lt
  have length := ring.length_le
  have start := ring.writePosition_lt
  have count : (ring.write bytes).2 = min bytes.size ring.free := rfl
  have room : ring.free = ring.capacity - ring.length := rfl
  have first : (ring.write bytes).1.position = ring.position := rfl
  have place : ring.writePosition = wrap ring.capacity (ring.position + ring.length) := rfl
  have size : ring.capacity = ring.storage.size := rfl
  rw [byteAt?, capacity_write, first, count]
  simp only [write, overwrite]
  rw [getElem?_copySlice (by omega) (by rw [size_copySlice] <;> omega),
    getElem?_copySlice (by omega) (by omega)]
  unfold wrap at place
  unfold byteAt? wrap
  split at place <;> grind

/-- Writing appends the bytes that fit. -/
theorem toList_write (ring : ByteRing) (bytes : ByteArray) :
    (ring.write bytes).1.toList = ring.toList ++ bytes.data.toList.take ring.free := by
  apply List.ext_getElem?
  intro index
  have length := ring.length_le
  have size : bytes.data.toList.length = bytes.size := rfl
  have room : ring.free = ring.capacity - ring.length := rfl
  have whole : ring.capacity = ring.storage.size := rfl
  have count : (ring.write bytes).2 = min bytes.size ring.free := rfl
  have written : (ring.write bytes).1.length = ring.length + min bytes.size ring.free := rfl
  rw [List.getElem?_append, length_toList, getElem?_toList, getElem?_toList, written,
    List.getElem?_take, Array.getElem?_toList]
  by_cases old : index < ring.length
  · rw [if_pos (by omega), if_pos old, if_pos old, byteAt?_write ring bytes (by omega),
      if_neg (by omega)]
  · by_cases fresh : index < ring.length + min bytes.size ring.free
    · rw [if_pos fresh, if_neg old, if_pos (by omega), byteAt?_write ring bytes (by omega),
        if_pos (by omega)]
    · rw [if_neg fresh, if_neg old]
      split
      · rw [Array.getElem?_eq_none (by simp only [← Array.length_toList]; omega)]
      · rfl

/-! ### Reading -/

/-- The stretches of storage, one after the other, are the unread bytes. -/
theorem toList_contents (ring : ByteRing) : ring.contents.data.toList = ring.toList := by
  apply List.ext_getElem?
  intro index
  have position := ring.position_lt
  have length := ring.length_le
  have size : ring.storage.data.toList.length = ring.storage.size := rfl
  have whole : ring.capacity = ring.storage.size := rfl
  rw [getElem?_toList]
  by_cases straight : ring.position + ring.length ≤ ring.capacity
  · simp only [contents, regions, straight, if_true, ByteArray.append_empty,
      ByteArray.data_extract, Array.toList_extract, List.extract_eq_take_drop,
      List.getElem?_take, List.getElem?_drop, Array.getElem?_toList, Nat.add_sub_cancel_left]
    by_cases within : index < ring.length
    · have place : wrap ring.capacity (ring.position + index) = ring.position + index :=
        if_pos (by omega)
      rw [if_pos within, if_pos within, byteAt?, place]
    · rw [if_neg within, if_neg within]
  · simp only [contents, regions, straight, if_false, ByteArray.data_append,
      ByteArray.data_extract, Array.toList_append, Array.toList_extract,
      List.extract_eq_take_drop, List.getElem?_append, List.length_take, List.length_drop,
      List.getElem?_take, List.getElem?_drop, size, Array.getElem?_toList]
    unfold byteAt? wrap
    grind

/-- The oldest bytes are the front of the list. -/
theorem toList_oldest (ring : ByteRing) (limit : Nat) :
    (ring.oldest limit).data.toList = ring.toList.take limit := by
  rw [oldest, toList_extract_zero, toList_contents]

theorem size_oldest (ring : ByteRing) (limit : Nat) :
    (ring.oldest limit).size = min limit ring.length := by
  have list := congrArg List.length (toList_oldest ring limit)
  rwa [List.length_take, length_toList] at list

theorem count_peek (ring : ByteRing) (buffer : ByteArray) :
    (ring.peek buffer).2 = min buffer.size ring.length :=
  size_oldest ..

/-- Peeking copies the front of the list over the front of the buffer. -/
theorem toList_peek (ring : ByteRing) (buffer : ByteArray) :
    (ring.peek buffer).1.data.toList =
      ring.toList.take buffer.size ++ buffer.data.toList.drop (ring.peek buffer).2 := by
  have rest : (buffer.data.toList.drop (ring.peek buffer).2).take
      (buffer.size - (ring.peek buffer).2) = buffer.data.toList.drop (ring.peek buffer).2 :=
    List.take_of_length_le (by rw [List.length_drop]; exact Nat.le_refl _)
  rw [← toList_oldest, ← rest]
  simp only [peek, ByteArray.data_append, ByteArray.data_extract, Array.toList_append,
    Array.toList_extract, List.extract_eq_take_drop]

theorem count_read (ring : ByteRing) (buffer : ByteArray) :
    (ring.read buffer).2.2 = min buffer.size ring.length :=
  count_peek ..

/-- What a reader gets is the front of the list. -/
theorem toList_extract_read (ring : ByteRing) (buffer : ByteArray) :
    ((ring.read buffer).2.1.extract 0 (ring.read buffer).2.2).data.toList =
      ring.toList.take (ring.read buffer).2.2 := by
  have front : (ring.read buffer).2.1.data.toList =
      ring.toList.take buffer.size ++ buffer.data.toList.drop (ring.peek buffer).2 :=
    toList_peek ring buffer
  have short : (ring.toList.take buffer.size).length = min buffer.size ring.length := by
    rw [List.length_take, length_toList]
  rw [toList_extract_zero, front, count_read, ← short, List.take_left, short, ← List.take_take,
    ← length_toList, List.take_length]

end ByteRing

end Playout
