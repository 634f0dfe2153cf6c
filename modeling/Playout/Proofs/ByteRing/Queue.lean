/-
**A byte ring is a bounded queue of bytes.**

A `BoundedQueue` is a list of at most so many bytes. It takes in the longest part of its input that
there is room for, and gives its oldest bytes first. A ring, wherever its unread bytes lie in the
storage, serves every request just as the queue of its unread bytes does.

* `ByteRing.serve_queue`: one request;
* `ByteRing.serve?_cells`: and no access that it makes is out of bounds;
* `ByteRing.refines_bounded_queue`: so it is for all requests, one after the other, to a new ring.
-/
import Playout.Proofs.ByteRing.Checked

namespace Playout

/-! ### Bounded queues -/

/-- What can be asked of a queue of bytes. -/
inductive ByteRing.Request where
  /-- Bytes are to be taken in, as far as there is room. -/
  | write (bytes : ByteArray)
  /-- The oldest bytes are to be moved to the front of a buffer. -/
  | read (buffer : ByteArray)
  /-- The oldest bytes are to be copied to the front of a buffer. -/
  | peek (buffer : ByteArray)
  /-- The oldest bytes are to be removed, so many of them. -/
  | skip (count : Nat)
  /-- All bytes are to be removed. -/
  | clear

/-- What a queue of bytes tells: how many bytes a request came to, with the buffer as it is then. -/
inductive ByteRing.Response where
  | counted (count : Nat)
  | filled (buffer : List UInt8) (count : Nat)
  | cleared

open ByteRing (Request Response)

/-- A list of bytes, the oldest first, that stays within a capacity. -/
@[ext]
structure BoundedQueue where
  capacity : Nat
  bytes : List UInt8
  length_le : bytes.length ≤ capacity

namespace BoundedQueue

def empty (capacity : Nat) : BoundedQueue := ⟨capacity, [], Nat.zero_le _⟩

def free (queue : BoundedQueue) : Nat := queue.capacity - queue.bytes.length

/-- Append the longest part of the input that fits. -/
def push (queue : BoundedQueue) (input : List UInt8) : BoundedQueue where
  capacity := queue.capacity
  bytes := queue.bytes ++ input.take queue.free
  length_le := by
    have inside := queue.length_le
    rw [List.length_append, List.length_take, free]
    omega

/-- Remove the oldest bytes. -/
def pop (queue : BoundedQueue) (count : Nat) : BoundedQueue where
  capacity := queue.capacity
  bytes := queue.bytes.drop count
  length_le := by
    have inside := queue.length_le
    rw [List.length_drop]
    omega

/-- A buffer with the oldest bytes at its front. -/
def fill (queue : BoundedQueue) (buffer : List UInt8) : List UInt8 :=
  let count := min buffer.length queue.bytes.length
  queue.bytes.take count ++ buffer.drop count

def serve (queue : BoundedQueue) : Request → BoundedQueue × Response
  | .write input =>
    (queue.push input.data.toList, .counted (min input.size queue.free))
  | .read buffer =>
    let count := min buffer.size queue.bytes.length
    (queue.pop count, .filled (queue.fill buffer.data.toList) count)
  | .peek buffer =>
    (queue, .filled (queue.fill buffer.data.toList) (min buffer.size queue.bytes.length))
  | .skip count =>
    let skipped := min count queue.bytes.length
    (queue.pop skipped, .counted skipped)
  | .clear => (.empty queue.capacity, .cleared)

/-- Requests, served one after the other. -/
def serveAll (queue : BoundedQueue) : List Request → BoundedQueue × List Response
  | [] => (queue, [])
  | request :: others =>
    let (next, response) := queue.serve request
    let (last, responses) := next.serveAll others
    (last, response :: responses)

theorem capacity_serve (queue : BoundedQueue) (request : Request) :
    (queue.serve request).1.capacity = queue.capacity := by
  cases request <;> rfl

theorem capacity_serveAll (queue : BoundedQueue) (requests : List Request) :
    (queue.serveAll requests).1.capacity = queue.capacity := by
  induction requests generalizing queue with
  | nil => rfl
  | cons request others ih => exact (ih _).trans (queue.capacity_serve request)

end BoundedQueue

namespace ByteRing

def serve (ring : ByteRing) : Request → ByteRing × Response
  | .write bytes => ((ring.write bytes).1, .counted (ring.write bytes).2)
  | .read buffer =>
    ((ring.read buffer).1, .filled (ring.read buffer).2.1.data.toList (ring.read buffer).2.2)
  | .peek buffer => (ring, .filled (ring.peek buffer).1.data.toList (ring.peek buffer).2)
  | .skip count => ((ring.skip count).1, .counted (ring.skip count).2)
  | .clear => (ring.clear, .cleared)

/-- Requests, served one after the other. -/
def serveAll (ring : ByteRing) : List Request → ByteRing × List Response
  | [] => (ring, [])
  | request :: others =>
    let (next, response) := ring.serve request
    let (last, responses) := next.serveAll others
    (last, response :: responses)

/-- A request, served with every access checked. -/
def Cells.serve? (cells : Cells) : Request → Option (Cells × Response)
  | .write bytes => (cells.write? bytes).map fun (after, count) => (after, .counted count)
  | .read buffer =>
    (cells.read? buffer).map fun (after, filled, count) => (after, .filled filled.data.toList count)
  | .peek buffer =>
    (cells.peek? buffer).map fun (filled, count) => (cells, .filled filled.data.toList count)
  | .skip count => (cells.skip? count).map fun (after, skipped) => (after, .counted skipped)
  | .clear => some (cells.clear, .cleared)

/-- Requests, served one after the other with every access checked. -/
def Cells.serveAll? (cells : Cells) : List Request → Option (Cells × List Response)
  | [] => some (cells, [])
  | request :: others => do
    let (next, response) ← cells.serve? request
    let (last, responses) ← next.serveAll? others
    some (last, response :: responses)

/-- The unread bytes of a ring as a queue. -/
def queue (ring : ByteRing) : BoundedQueue where
  capacity := ring.capacity
  bytes := ring.toList
  length_le := Nat.le_trans (Nat.le_of_eq ring.length_toList) ring.length_le

variable (ring : ByteRing)

theorem length_queue : ring.queue.bytes.length = ring.length := ring.length_toList

theorem free_queue : ring.queue.free = ring.free := by
  rw [BoundedQueue.free, length_queue]
  rfl

/-! ### One request -/

theorem queue_write (bytes : ByteArray) :
    (ring.write bytes).1.queue = ring.queue.push bytes.data.toList := by
  apply BoundedQueue.ext
  · exact ring.capacity_write bytes
  · refine (ring.toList_write bytes).trans ?_
    rw [← free_queue]
    rfl

theorem queue_skip (count : Nat) :
    (ring.skip count).1.queue = ring.queue.pop (min count ring.queue.bytes.length) := by
  apply BoundedQueue.ext
  · rfl
  · refine (ring.toList_skip count).trans ?_
    show ring.toList.drop count = ring.toList.drop (min count ring.toList.length)
    by_cases short : count ≤ ring.toList.length
    · rw [Nat.min_eq_left short]
    · have none := Nat.le_of_lt (Nat.lt_of_not_le short)
      rw [Nat.min_eq_right none, List.drop_of_length_le none, List.drop_length]

theorem fill_peek (buffer : ByteArray) :
    (ring.peek buffer).1.data.toList = ring.queue.fill buffer.data.toList := by
  have held : ring.queue.bytes = ring.toList := rfl
  rw [toList_peek, count_peek, BoundedQueue.fill, held, ← ring.length_toList, ← List.take_take,
    List.take_length]
  rfl

/-- To read is to peek, and to skip what was seen. -/
theorem queue_read (buffer : ByteArray) :
    (ring.read buffer).1.queue = ring.queue.pop (min buffer.size ring.queue.bytes.length) := by
  have skipped : (ring.read buffer).1 = (ring.skip (ring.peek buffer).2).1 := rfl
  rw [skipped, queue_skip, count_peek, length_queue, Nat.min_assoc, Nat.min_self]

/-- **A ring serves a request as the queue of its unread bytes does.** -/
theorem serve_queue (request : Request) :
    ((ring.serve request).1.queue, (ring.serve request).2) = ring.queue.serve request := by
  cases request with
  | write bytes =>
    have count : (ring.write bytes).2 = min bytes.size ring.queue.free := by
      rw [free_queue]
      rfl
    simp only [serve, BoundedQueue.serve, queue_write, count]
  | read buffer =>
    have filled : (ring.read buffer).2.1 = (ring.peek buffer).1 := rfl
    simp only [serve, BoundedQueue.serve, queue_read, filled, fill_peek, count_read, length_queue]
  | peek buffer => simp only [serve, BoundedQueue.serve, fill_peek, count_peek, length_queue]
  | skip count =>
    have skipped : (ring.skip count).2 = min count ring.length := rfl
    simp only [serve, BoundedQueue.serve, queue_skip, skipped, length_queue]
  | clear => rfl

/-- **No access that serves a request is out of bounds.** -/
theorem serve?_cells (request : Request) :
    ring.cells.serve? request = some ((ring.serve request).1.cells, (ring.serve request).2) := by
  cases request with
  | write bytes => rw [Cells.serve?, write?_cells]; rfl
  | read buffer => rw [Cells.serve?, read?_cells]; rfl
  | peek buffer => rw [Cells.serve?, peek?_cells]; rfl
  | skip count => rw [Cells.serve?, skip?_cells]; rfl
  | clear => rfl

/-! ### All requests -/

theorem serveAll_queue (requests : List Request) :
    ((ring.serveAll requests).1.queue, (ring.serveAll requests).2) =
      ring.queue.serveAll requests := by
  induction requests generalizing ring with
  | nil => rfl
  | cons request others ih =>
    have first := ring.serve_queue request
    have rest := ih (ring.serve request).1
    simp only [serveAll, BoundedQueue.serveAll, ← first, ← rest]

theorem serveAll?_cells (requests : List Request) :
    ring.cells.serveAll? requests =
      some ((ring.serveAll requests).1.cells, (ring.serveAll requests).2) := by
  induction requests generalizing ring with
  | nil => rfl
  | cons request others ih =>
    have first := ring.serve?_cells request
    have rest := ih (ring.serve request).1
    simp only [Cells.serveAll?, first, rest, Option.bind_eq_bind, Option.bind_some]
    rfl

/-- The unread bytes of a ring as it shows them: at most two stretches of its storage, both within
it, and only one unless the bytes wrap. -/
structure ShowsQueue (ring : ByteRing) (queue : BoundedQueue) : Prop where
  regions_eq : ring.regions.1.data.toList ++ ring.regions.2.data.toList = queue.bytes
  second_eq_nil_iff : ring.regions.2.data.toList = [] ↔
    ring.position + ring.length ≤ ring.capacity
  checked : ring.cells.regions? = some ring.regions
  available_eq : ring.available = queue.bytes.length
  capacity_eq : ring.capacity = queue.capacity
  available_add_free : ring.available + ring.free = queue.capacity

/-- There is a second stretch if the unread bytes wrap. -/
theorem second_region_eq_nil_iff :
    ring.regions.2.data.toList = [] ↔ ring.position + ring.length ≤ ring.capacity := by
  have position := ring.position_lt
  have length := ring.length_le
  have whole : ring.capacity = ring.storage.size := rfl
  have storage : ring.storage.data.toList.length = ring.storage.size := rfl
  simp only [regions]
  split
  · next straight => exact iff_of_true rfl straight
  · next wraps =>
    refine iff_of_false ?_ wraps
    rw [toList_extract_zero, ← List.length_eq_zero_iff, List.length_take]
    omega

theorem showsQueue : ring.ShowsQueue ring.queue :=
  ⟨ring.toList_regions, ring.second_region_eq_nil_iff, ring.regions?_cells,
    ring.length_queue.symm, rfl, ring.available_add_free⟩

theorem queue_empty (capacity : Nat) : (empty capacity).queue = .empty capacity :=
  BoundedQueue.ext Array.size_replicate (toList_empty capacity)

/-- **A new ring and an empty queue give the same answers to all requests**, whatever the capacity,
and no access of the ring is out of its bounds. The ring then holds and shows what the queue holds,
within its capacity. -/
theorem refines_bounded_queue (capacity : Nat) (requests : List Request) :
    let served := (empty capacity).serveAll requests
    let expected := (BoundedQueue.empty capacity).serveAll requests
    served.2 = expected.2 ∧ served.1.queue = expected.1 ∧ served.1.ShowsQueue expected.1 ∧
      expected.1.capacity = capacity ∧
      (empty capacity).cells.serveAll? requests = some (served.1.cells, served.2) := by
  intro served expected
  have same : (served.1.queue, served.2) = expected := by
    have all := (empty capacity).serveAll_queue requests
    rwa [queue_empty] at all
  have queue_eq : served.1.queue = expected.1 := congrArg Prod.fst same
  have shown := served.1.showsQueue
  rw [queue_eq] at shown
  refine ⟨congrArg Prod.snd same, queue_eq, shown, ?_, serveAll?_cells _ requests⟩
  exact BoundedQueue.capacity_serveAll (.empty capacity) requests

/-- Bytes that wrap are shown in two stretches. -/
example :
    ((empty 3).serveAll [.write ⟨#[1, 2, 3]⟩, .skip 2, .write ⟨#[4, 5, 6]⟩]).1.regions.2.data =
      #[4, 5] := by
  decide +kernel

end ByteRing

end Playout
