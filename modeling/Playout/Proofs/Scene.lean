/-
**A ring and the device in memory that it feeds, side by side.**

A device in memory changes in two ways: it is called, or a test probes it, that is, lets it play or
makes it fail. A `Deed` is a probe, or an operation in which the device is only called. What comes
of deeds is a chain of `Happening`s, each a move of the ring or a probe, and a move has the answer
that the device gives where it is made. So ring and device can be followed together, one happening
after the other.

* `Scene.Makes.invariant`: what every happening keeps, a chain keeps;
* `Scene.makes_of_answers`: the moves of a ring and the answers of its device, put together;
* `Feed.makes_run`, `Session.makes_run`: deeds are a chain of happenings.
-/
import Playout.Device.Memory
import Playout.Proofs.Move.Answers

namespace Playout

/-! ### Probes -/

/-- What a test does to a device in memory. -/
inductive Probe where
  /-- Waiting frames are played, at most so many. -/
  | play (limit : Nat)
  /-- The device is lost until it is opened anew. -/
  | lose
  /-- The next start fails. -/
  | failStart (error : Error)
  /-- The next write fails. -/
  | failWrite (error : Error)
  /-- The next attempts to open the device anew fail, so many of them. -/
  | failReopens (count : Nat)

/-- A device in memory after a probe. -/
def MemoryDevice.probed (device : MemoryDevice) : Probe → MemoryDevice
  | .play limit => (device.playFrames limit).1
  | .lose => device.lose
  | .failStart error => device.failStart error
  | .failWrite error => device.failWrite error
  | .failReopens count => device.failReopens count

/-! ### How a device in memory answers -/

namespace MemoryDevice

/-- What is known of a write-through device that was just made. -/
theorem of_writeThrough_eq_ok {capacityFrames frameSize : Nat} {device : MemoryDevice}
    (made : writeThrough capacityFrames frameSize = .ok device) :
    0 < frameSize ∧
      device =
        { delivery := .writeThrough
          frameSize := frameSize
          capacityFrames := capacityFrames } := by
  unfold writeThrough at made
  split at made
  · cases made
  · next nonzero =>
    cases made
    exact ⟨Nat.pos_of_ne_zero nonzero, rfl⟩

variable (device : MemoryDevice)

/-- A start succeeds, or fails once and leaves the device as it was. -/
theorem start_cases :
    ((Device.start device).result = .ok () ∧
        (Device.start device).device =
          { device with running := true, starts := device.starts + 1 }) ∨
      ∃ error, (Device.start device).result = .error error ∧
        (Device.start device).device = { device with startFailure := none } := by
  have called : Device.start device = device.start := rfl
  rw [called]
  unfold start
  split
  · exact .inr ⟨_, rfl, rfl⟩
  · exact .inl ⟨rfl, rfl⟩

/-- A write takes as many frames as there is room for, or fails and takes none. -/
theorem write_cases (frames : ByteArray) :
    (∃ taken, taken =
          min (frames.size / device.frameSize) (device.capacityFrames - device.backlogFrames) ∧
        (Device.write device frames).result = .ok taken ∧
        (Device.write device frames).device =
          { device with
            backlogFrames := device.backlogFrames + taken
            written := device.written ++ frames.extract 0 (taken * device.frameSize) }) ∨
      ∃ error lost, (Device.write device frames).result = .error error ∧
        (Device.write device frames).device =
          { device with writeFailure := none, lost := lost } := by
  have called : Device.write device frames = device.write frames := rfl
  rw [called]
  unfold write
  split
  · exact .inr ⟨_, _, rfl, rfl⟩
  · next ready =>
    split
    · refine .inr ⟨lostError, device.lost, rfl, ?_⟩
      rw [← ready]
    · exact .inl ⟨_, rfl, rfl, rfl⟩

/-- A device that is opened anew is empty and does not run; one that is not is as it was. -/
theorem reopen_cases :
    ((Device.reopen device).result = .ok () ∧
        (Device.reopen device).device =
          { device with
            reopens := device.reopens + 1
            lost := false
            running := false
            backlogFrames := 0 }) ∨
      ∃ error failing, (Device.reopen device).result = .error error ∧
        (Device.reopen device).device =
          { device with reopens := device.reopens + 1, failingReopens := failing } := by
  have called : Device.reopen device = device.reopen := rfl
  rw [called]
  simp only [reopen]
  split
  · exact .inr ⟨_, _, rfl, rfl⟩
  · exact .inl ⟨rfl, rfl⟩

end MemoryDevice

/-! ### Deeds and happenings -/

/-- What is done with a ring or a session over a device in memory, which nobody else calls. -/
inductive Deed : Type 1 where
  | operate (operation : Operation MemoryDevice) (called : operation.changes = false)
  | probe (probe : Probe)

/-- A probe is a change of the device by itself. -/
def Deed.operation : Deed → Operation MemoryDevice
  | .operate operation _ => operation
  | .probe probing => .change fun device => device.probed probing

/-- A thing that happens to a ring or to its device. -/
inductive Happening where
  | move (move : Move)
  | probe (probe : Probe)

/-- The move that a happening is, if it is one. -/
def Happening.move? : Happening → Option Move
  | .move made => some made
  | .probe _ => none

/-- What happens in a deed whose operation makes such moves: these, or a probe. -/
def Deed.happenings (deed : Deed) (moves : List Move) : List Happening :=
  match deed with
  | .operate _ _ => moves.map .move
  | .probe probing => [.probe probing]

/-- The moves among happenings, in order. -/
def Happening.moves (happenings : List Happening) : List Move := happenings.filterMap move?

@[simp] theorem Happening.moves_append (first second : List Happening) :
    moves (first ++ second) = moves first ++ moves second :=
  List.filterMap_append

@[simp] theorem Happening.moves_map (moves : List Move) :
    Happening.moves (moves.map .move) = moves := by
  rw [Happening.moves, List.filterMap_map]
  exact List.filterMap_some

/-! ### Chains of happenings -/

/-- A ring, and the device in memory that it feeds. -/
structure Scene where
  ring : Ring
  device : MemoryDevice

namespace Scene

/-- A scene after a happening. -/
def after (scene : Scene) : Happening → Scene
  | .move move => ⟨scene.ring.after move, move.call?.elim scene.device (Device.after scene.device)⟩
  | .probe probe => ⟨scene.ring, scene.device.probed probe⟩

/-- The scenes in which a happening is possible: a move has to be allowed, and answered as the
device answers it. -/
def Allows (scene : Scene) : Happening → Prop
  | .move move => move.Allowed scene.ring ∧ ∀ call ∈ move.call?, Device.Answers scene.device call
  | .probe _ => True

/-- Happenings one after the other, each where it is possible. -/
inductive Makes : Scene → List Happening → Scene → Prop
  | nil (scene : Scene) : Makes scene [] scene
  | cons {scene last : Scene} {happening : Happening} {happenings : List Happening}
      (allows : scene.Allows happening) (rest : Makes (scene.after happening) happenings last) :
      Makes scene (happening :: happenings) last

variable {scene last : Scene} {happenings first second : List Happening}

theorem Makes.append {middle : Scene} (before : Makes scene first middle)
    (behind : Makes middle second last) : Makes scene (first ++ second) last := by
  induction before with
  | nil => exact behind
  | cons allows _ ih => exact .cons allows (ih behind)

theorem Makes.foldl_after (made : Makes scene happenings last) :
    happenings.foldl after scene = last := by
  induction made with
  | nil => rfl
  | cons _ _ ih => exact ih

/-- What every happening of some kind keeps, a chain of them keeps, all the way. -/
theorem Makes.invariant {kept : Scene → Prop} {kind : Happening → Prop}
    (made : Makes scene happenings last)
    (step : ∀ now happening, kept now → kind happening → now.Allows happening →
      kept (now.after happening))
    (all : ∀ happening ∈ happenings, kind happening) (start : kept scene) :
    ∀ before, before <+: happenings → kept (before.foldl after scene) := by
  induction made with
  | nil =>
    intro before front
    rw [List.prefix_nil.1 front]
    exact start
  | cons allows _ ih =>
    intro before front
    obtain ⟨here, others⟩ := List.forall_mem_cons.1 all
    rcases List.prefix_cons_iff.1 front with rfl | ⟨behind, rfl, later⟩
    · exact start
    · exact ih others (step _ _ start here allows) behind later

/-- How often or how much of something there is in happenings, all together. -/
def total (count : Scene → Happening → Nat) : Scene → List Happening → Nat
  | _, [] => 0
  | scene, happening :: rest => count scene happening + (scene.after happening).total count rest

/-- **The moves of a ring, answered by its device, are happenings.** -/
theorem makes_of_answers {ring last : Ring} {device final : MemoryDevice} {moves : List Move}
    (made : ring.Makes moves last) (answers : Device.AnswersAll device (Move.calls moves) final) :
    Makes ⟨ring, device⟩ (moves.map .move) ⟨last, final⟩ := by
  -- along the moves: only one that calls the device uses up an answer
  induction made generalizing device with
  | nil ring =>
    cases answers
    exact .nil _
  | @cons ring last move moves allowed _ ih =>
    rw [Move.calls_cons] at answers
    cases called : move.call? with
    | none =>
      rw [called] at answers
      refine .cons ⟨allowed, fun call member => ?_⟩ ?_
      · rw [called] at member
        cases member
      · simp only [after, called]
        exact ih answers
    | some call =>
      rw [called] at answers
      cases answers with
      | cons answered rest =>
        refine .cons ⟨allowed, fun other member => ?_⟩ ?_
        · rw [called] at member
          cases member
          exact answered
        · simp only [after, called]
          exact ih rest

end Scene

/-! ### Deeds are chains of happenings -/

namespace Feed

/-- The ring of a feed and its device. -/
def scene (feed : Feed MemoryDevice) : Scene := ⟨feed.ring, feed.device⟩

/-- What happens in a run of deeds. -/
def runHappenings : Feed MemoryDevice → List Deed → List Happening
  | _, [] => []
  | feed, deed :: rest =>
    deed.happenings (feed.moves deed.operation) ++
      (feed.perform deed.operation).runHappenings rest

theorem makes_perform (feed : Feed MemoryDevice) (deed : Deed) :
    feed.scene.Makes (deed.happenings (feed.moves deed.operation))
      (feed.perform deed.operation).scene := by
  cases deed with
  | operate operation called =>
    exact Scene.makes_of_answers (feed.follows_perform operation).makes
      (feed.answers_perform called)
  | probe probe => exact .cons trivial (.nil _)

/-- **Deeds on a ring are a chain of happenings.** -/
theorem makes_run (feed : Feed MemoryDevice) (deeds : List Deed) :
    feed.scene.Makes (feed.runHappenings deeds)
      (feed.run (deeds.map Deed.operation)).scene := by
  induction deeds generalizing feed with
  | nil => exact .nil _
  | cons deed rest ih => exact (feed.makes_perform deed).append (ih _)

theorem moves_happenings (feed : Feed MemoryDevice) (deed : Deed) :
    Happening.moves (deed.happenings (feed.moves deed.operation)) =
      feed.moves deed.operation := by
  cases deed with
  | operate operation _ => exact Happening.moves_map _
  | probe probe => rfl

/-- The moves among the happenings are those of the run. -/
theorem moves_runHappenings (feed : Feed MemoryDevice) (deeds : List Deed) :
    Happening.moves (feed.runHappenings deeds) = feed.runMoves (deeds.map Deed.operation) := by
  induction deeds generalizing feed with
  | nil => rfl
  | cons deed rest ih =>
    rw [runHappenings, Happening.moves_append, moves_happenings, ih]
    rfl

end Feed

namespace Session

/-- What happens in a run of deeds. -/
def runHappenings : Session MemoryDevice → List Deed → List Happening
  | _, [] => []
  | session, deed :: rest =>
    deed.happenings (session.moves deed.operation) ++
      (session.perform deed.operation).runHappenings rest

theorem makes_perform (session : Session MemoryDevice) (deed : Deed) :
    session.feed.scene.Makes (deed.happenings (session.moves deed.operation))
      (session.perform deed.operation).feed.scene := by
  cases deed with
  | operate operation called =>
    exact Scene.makes_of_answers (session.follows_perform operation).makes
      (session.answers_perform called)
  | probe probe => exact .cons trivial (.nil _)

/-- **Deeds through a session are a chain of happenings.** -/
theorem makes_run (session : Session MemoryDevice) (deeds : List Deed) :
    session.feed.scene.Makes (session.runHappenings deeds)
      (session.run (deeds.map Deed.operation)).feed.scene := by
  induction deeds generalizing session with
  | nil => exact .nil _
  | cons deed rest ih => exact (session.makes_perform deed).append (ih _)

theorem moves_happenings (session : Session MemoryDevice) (deed : Deed) :
    Happening.moves (deed.happenings (session.moves deed.operation)) =
      session.moves deed.operation := by
  cases deed with
  | operate operation _ => exact Happening.moves_map _
  | probe probe => rfl

/-- The moves among the happenings are those of the run. -/
theorem moves_runHappenings (session : Session MemoryDevice) (deeds : List Deed) :
    Happening.moves (session.runHappenings deeds) =
      session.runMoves (deeds.map Deed.operation) := by
  induction deeds generalizing session with
  | nil => rfl
  | cons deed rest ih =>
    rw [runHappenings, Happening.moves_append, moves_happenings, ih]
    rfl

end Session

end Playout
