/-
**What happens to a ring, move by move.**

Whatever is done with a ring, by itself or through a session, is a chain of a few kinds of moves.
What a move does to the ring (`Ring.after`), and on which rings it is made (`Move.Allowed`), is said
here once; what holds of every run of operations is derived from that, one kind of move at a time
(`Ring.Makes.invariant`).

What a device answers is a part of the move. So a chain of moves leaves the device open: it stands
for any device that gives these answers.

* `Ring.observe_accept`, `Ring.observe_drain`: what payloads and drains leave as it is;
* `Ring.makes_append_iff`: a chain can be cut anywhere;
* `Ring.Makes.foldl_after`: the moves of a chain determine where it ends;
* `Ring.Makes.at_prefix`: each move of a chain is allowed where it is made;
* `Ring.Throughout.append`: what holds all the way can be shown one stretch after the other.
-/
import Playout.Journal
import Playout.Ring

namespace Playout

/-- A thing that happens to a ring, or between its device and those who feed it. -/
inductive Move where
  /-- The device is asked for its backlog. -/
  | ask (answer : Except Error Nat)
  /-- A playing ring is found to have run dry. -/
  | runDry
  /-- A playing ring is found to hold more than its limit. -/
  | runOver
  /-- An underrun that the device reported is counted. -/
  | blameDevice
  /-- A ring that does not play is emptied. -/
  | clear
  /-- A playing ring is emptied, and its device stopped. -/
  | stop (answer : Except Error Unit)
  /-- A payload is taken in. -/
  | take (frames : ByteArray)
  /-- A payload is dropped. -/
  | drop (frames : ByteArray)
  /-- The device is started. If it does start, the ring plays. -/
  | start (answer : Except Error Unit)
  /-- A device of some delivery is offered frames. What it takes is removed from the ring. -/
  | write (delivery : Delivery) (offered : ByteArray) (answer : Except Error Nat)
  /-- The device is opened anew. -/
  | reopen (answer : Except Error Unit)
  /-- A buffer is filled from the ring. -/
  | drain (buffer : ByteArray)

/-- A move by which a dry or overfull ring is relieved. -/
def Move.Relieves : Move → Prop
  | .runDry | .runOver | .clear | .stop _ => True
  | _ => False

/-- A move by which a device is made to play. -/
def Move.Plays : Move → Prop
  | .start _ | .write .. => True
  | _ => False

/-- The call that reaches the device in a move. -/
def Move.call? : Move → Option Call
  | .ask answer => some (.backlog answer)
  | .stop answer => some (.stop answer)
  | .start answer => some (.start answer)
  | .write _ offered answer => some (.write offered answer)
  | .reopen answer => some (.reopen answer)
  | .runDry | .runOver | .blameDevice | .clear | .take _ | .drop _ | .drain _ => none

/-- The device calls of moves, in order. -/
def Move.calls (moves : List Move) : List Call := moves.filterMap Move.call?

@[simp] theorem Move.calls_nil : Move.calls [] = [] := rfl

@[simp] theorem Move.calls_append (first second : List Move) :
    Move.calls (first ++ second) = Move.calls first ++ Move.calls second :=
  List.filterMap_append

@[simp] theorem Move.calls_cons (move : Move) (moves : List Move) :
    Move.calls (move :: moves) = move.call?.toList ++ Move.calls moves := by
  unfold Move.calls
  cases called : move.call? with
  | none => rw [List.filterMap_cons_none called]; rfl
  | some call => rw [List.filterMap_cons_some called]; rfl

namespace Ring

/-- The ring after a move. -/
def after (ring : Ring) : Move → Ring
  | .ask _ => ring
  | .runDry => ring.countUnderrun
  | .runOver => ring.countOverrun
  | .blameDevice => ring.countUnderrun
  | .clear => ring.reset
  | .stop _ => ring.reset
  | .take frames => (ring.accept frames).1
  | .drop frames => (ring.accept frames).1
  | .start (.ok ()) => ring.begin
  | .start (.error _) => ring
  | .write _ _ (.ok taken) => ring.consume (min taken ring.queuedFrames)
  | .write _ _ (.error _) => ring
  | .reopen _ => ring
  | .drain buffer => (ring.drain buffer).1

end Ring

/-- The rings on which a move is made. -/
def Move.Allowed (ring : Ring) : Move → Prop
  | .ask _ => True
  | .runDry => ring.playing = true
  | .runOver => ring.playing = true
  | .blameDevice => ring.playing = false
  | .clear => ring.playing = false
  | .stop _ => ring.playing = true
  | .take frames => frames.size % ring.geometry.frameSize = 0 ∧ ring.fits frames = true
  | .drop frames => frames.size % ring.geometry.frameSize = 0 ∧ ring.fits frames = false
  | .start _ => ring.playing = false
  | .write delivery offered _ =>
    delivery = .writeThrough ∧ ring.playing = true ∧ offered = ring.storage.contents ∧
      offered.size ≠ 0
  | .reopen _ => ring.playing = false
  | .drain _ => True

namespace Ring

/-! ### What a part of the moves leaves as it is -/

/-- A payload changes the storage, what is queued, and the counts of what was offered. Whoever does
not look at these sees no change. -/
theorem observe_accept {α : Type} (observe : Ring → α)
    (blind : ∀ (ring : Ring) (storage : ByteRing) (queued total dropped : Nat),
      observe
        { ring with
          storage := storage
          queuedFrames := queued
          stats := { ring.stats with queuedFramesTotal := total, droppedFrames := dropped } } =
        observe ring)
    (ring : Ring) (frames : ByteArray) : observe (ring.accept frames).1 = observe ring := by
  unfold accept
  split
  · exact blind ring _ _ _ _
  · exact blind ring _ _ _ _

/-- A drain changes the storage, what is queued, and what was consumed. Whoever does not look at
these sees no change. -/
theorem observe_drain {α : Type} (observe : Ring → α)
    (blind : ∀ (ring : Ring) (storage : ByteRing) (queued consumed : Nat),
      observe
        { ring with
          storage := storage
          queuedFrames := queued
          framesConsumed := consumed } = observe ring)
    (ring : Ring) (buffer : ByteArray) : observe (ring.drain buffer).1 = observe ring := by
  simp only [drain]
  split
  · exact blind ring _ _ _
  · rfl

theorem geometry_accept (ring : Ring) (frames : ByteArray) :
    (ring.accept frames).1.geometry = ring.geometry :=
  observe_accept Ring.geometry (fun _ _ _ _ _ => rfl) ring frames

theorem geometry_drain (ring : Ring) (buffer : ByteArray) :
    (ring.drain buffer).1.geometry = ring.geometry :=
  observe_drain Ring.geometry (fun _ _ _ _ => rfl) ring buffer

/-- No move changes the geometry. -/
@[simp] theorem geometry_after (ring : Ring) (move : Move) :
    (ring.after move).geometry = ring.geometry := by
  cases move with
  | take frames => exact geometry_accept ring frames
  | drop frames => exact geometry_accept ring frames
  | start answer => cases answer <;> rfl
  | write delivery offered answer => cases answer <;> rfl
  | drain buffer => exact geometry_drain ring buffer
  | _ => rfl

theorem format_accept (ring : Ring) (frames : ByteArray) :
    (ring.accept frames).1.format = ring.format :=
  observe_accept Ring.format (fun _ _ _ _ _ => rfl) ring frames

theorem format_drain (ring : Ring) (buffer : ByteArray) :
    (ring.drain buffer).1.format = ring.format :=
  observe_drain Ring.format (fun _ _ _ _ => rfl) ring buffer

/-- No move changes the format. -/
@[simp] theorem format_after (ring : Ring) (move : Move) :
    (ring.after move).format = ring.format := by
  cases move with
  | take frames => exact format_accept ring frames
  | drop frames => exact format_accept ring frames
  | start answer => cases answer <;> rfl
  | write delivery offered answer => cases answer <;> rfl
  | drain buffer => exact format_drain ring buffer
  | _ => rfl

/-! ### Chains of moves -/

/-- Moves that are made one after the other, each where it is allowed. -/
inductive Makes : Ring → List Move → Ring → Prop
  | nil (ring : Ring) : Makes ring [] ring
  | cons {ring last : Ring} {move : Move} {moves : List Move} (allowed : move.Allowed ring)
      (rest : Makes (ring.after move) moves last) : Makes ring (move :: moves) last

variable {ring last : Ring} {first second moves : List Move}

theorem Makes.single {move : Move} (allowed : move.Allowed ring) :
    Makes ring [move] (ring.after move) :=
  .cons allowed (.nil _)

theorem Makes.append {middle : Ring} (before : Makes ring first middle)
    (behind : Makes middle second last) : Makes ring (first ++ second) last := by
  induction before with
  | nil => exact behind
  | cons allowed _ ih => exact .cons allowed (ih behind)

theorem Makes.foldl_after (made : Makes ring moves last) : moves.foldl Ring.after ring = last := by
  induction made with
  | nil => rfl
  | cons _ _ ih => exact ih

/-- A chain can be cut anywhere. -/
theorem makes_append_iff :
    Makes ring (first ++ second) last ↔
      Makes ring first (first.foldl Ring.after ring) ∧
        Makes (first.foldl Ring.after ring) second last := by
  constructor
  · intro made
    induction first generalizing ring with
    | nil => exact ⟨.nil _, made⟩
    | cons move first ih =>
      cases made with
      | cons allowed rest =>
        obtain ⟨before, behind⟩ := ih rest
        exact ⟨.cons allowed before, behind⟩
  · rintro ⟨before, behind⟩
    exact before.append behind

/-- The start of a chain is a chain. -/
theorem Makes.of_prefix (made : Makes ring moves last) (front : first <+: moves) :
    Makes ring first (first.foldl Ring.after ring) := by
  obtain ⟨second, rfl⟩ := front
  exact (makes_append_iff.1 made).1

/-- Each move of a chain is made where it is allowed, and after a chain. -/
theorem Makes.at_prefix {move : Move} (made : Makes ring moves last)
    (front : first ++ [move] <+: moves) :
    Makes ring first (first.foldl Ring.after ring) ∧
      move.Allowed (first.foldl Ring.after ring) := by
  obtain ⟨before, behind⟩ := makes_append_iff.1 (made.of_prefix front)
  refine ⟨before, ?_⟩
  cases behind with
  | cons allowed _ => exact allowed

/-- What every allowed move keeps, a chain keeps. -/
theorem Makes.invariant (kept : Ring → Prop) (made : Makes ring moves last)
    (step : ∀ (now : Ring) (move : Move), kept now → move.Allowed now → kept (now.after move))
    (start : kept ring) : kept last := by
  induction made with
  | nil => exact start
  | cons allowed _ ih => exact ih (step _ _ start allowed)

theorem Makes.geometry_eq (made : Makes ring moves last) : last.geometry = ring.geometry :=
  made.invariant (fun now => now.geometry = ring.geometry)
    (fun now move same _ => (geometry_after now move).trans same) rfl

theorem Makes.format_eq (made : Makes ring moves last) : last.format = ring.format :=
  made.invariant (fun now => now.format = ring.format)
    (fun now move same _ => (format_after now move).trans same) rfl

/-! ### What holds all the way -/

variable {kept : Ring → Prop}

/-- Every ring that moves pass through has a property, the first and the last one included. -/
def Throughout (kept : Ring → Prop) (ring : Ring) (moves : List Move) : Prop :=
  ∀ before, before <+: moves → kept (before.foldl Ring.after ring)

theorem Throughout.at_first (all : ring.Throughout kept moves) : kept ring :=
  all [] List.nil_prefix

theorem Throughout.at_last (all : ring.Throughout kept moves) : kept (moves.foldl Ring.after ring) :=
  all moves List.prefix_rfl

theorem throughout_nil (start : kept ring) : ring.Throughout kept [] := by
  intro before front
  rw [List.prefix_nil.1 front]
  exact start

theorem throughout_cons {move : Move} (start : kept ring)
    (rest : (ring.after move).Throughout kept moves) : ring.Throughout kept (move :: moves) := by
  intro before front
  rcases List.prefix_cons_iff.1 front with rfl | ⟨behind, rfl, later⟩
  · exact start
  · exact rest behind later

theorem Throughout.imp {weaker : Ring → Prop} (all : ring.Throughout kept moves)
    (weakens : ∀ now, kept now → weaker now) : ring.Throughout weaker moves :=
  fun before front => weakens _ (all before front)

/-- What holds all the way on two stretches holds on both together. -/
theorem Throughout.append (before : ring.Throughout kept first)
    (behind : (first.foldl Ring.after ring).Throughout kept second) :
    ring.Throughout kept (first ++ second) := by
  induction first generalizing ring with
  | nil => exact behind
  | cons move first ih =>
    have rest : (ring.after move).Throughout kept first := fun early front =>
      before (move :: early) ((List.prefix_cons_inj move).2 front)
    exact throughout_cons before.at_first (ih rest behind)

/-- What every move of some kind keeps holds all the way along such moves. -/
theorem throughout_of_forall {kind : Move → Prop}
    (step : ∀ (now : Ring) (move : Move), kept now → kind move → kept (now.after move))
    (all : ∀ move ∈ moves, kind move) (start : kept ring) : ring.Throughout kept moves := by
  induction moves generalizing ring with
  | nil => exact throughout_nil start
  | cons move moves ih =>
    obtain ⟨here, behind⟩ := List.forall_mem_cons.1 all
    exact throughout_cons start (ih behind (step ring move start here))

/-- What no move of some kind changes is the same after such moves. -/
theorem foldl_after_eq {α : Type} {kind : Move → Prop} (observe : Ring → α)
    (step : ∀ (now : Ring) (move : Move), kind move → observe (now.after move) = observe now)
    (all : ∀ move ∈ moves, kind move) : observe (moves.foldl Ring.after ring) = observe ring :=
  have throughout : ring.Throughout (fun now => observe now = observe ring) moves :=
    throughout_of_forall (fun now move same known => (step now move known).trans same) all rfl
  throughout.at_last

end Ring

end Playout
