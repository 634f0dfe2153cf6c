/-
**The stages of an offer.**

An offer asks its device for the backlog, and may then stop it, start it, and write to it. Each of
these calls may fail, and a failure other than that of a stop ends the offer. With what the frames
decide about the ring, this leaves five ways for an offer to go.

* `Feed.relieve_eq`, `Feed.started_startIfDue`, `Feed.written_flushIfDue`: the stages, with the calls
  that they make;
* `Feed.staged_enqueue`: **the five ways an offer can go**, with its calls, its result and its ring;
* `Feed.staged_queue`: so it is with every ring that can be reached.
-/
import Playout.Proofs.Move.Answers
import Playout.Proofs.Ring.Standing
import Playout.Proofs.Ring.Tally

namespace Playout

/-- Whether a call fails that ends its offer. A stop that fails does not. -/
def Call.endsOffer : Call → Bool
  | .backlog (.error _) => true
  | call => call.failsLate

theorem Device.AnswersAll.foldl_after {δ : Type} [Device δ] {device last : δ} {calls : List Call}
    (answered : Device.AnswersAll device calls last) :
    calls.foldl Device.after device = last := by
  induction answered with
  | nil => rfl
  | cons _ _ ih => exact ih

namespace Feed

variable {δ : Type}

/-- The calls that were recorded since an earlier feed. -/
def callsSince (after feed : Feed δ) : List Call :=
  after.journal.calls.drop feed.journal.calls.length

theorem Follows.callsSince_eq {feed after : Feed δ} {moves : List Move}
    (followed : Follows feed moves after) : after.callsSince feed = Move.calls moves := by
  rw [callsSince, followed.calls, List.drop_left]

variable [Device δ] {feed : Feed δ} {frames : ByteArray}

/-- The check of a ring, told by its standing. -/
theorem relieve_eq (feed : Feed δ) (backlog : Nat) :
    (feed.relieve backlog).1 = (feed.ring.standing backlog).counted ∧
      (feed.relieve backlog).2.ring = feed.ring.relieved backlog := by
  have checked : feed.relieve backlog = if (feed.ring.standing backlog).Flushes then _ else _ :=
    (feed.ring.standing backlog).ite_ite_eq _ _ _
  rw [checked]
  unfold Standing.counted Ring.relieved
  split
  · split
    · exact ⟨rfl, ring_reset _⟩
    · exact ⟨rfl, ring_reset _⟩
  · exact ⟨rfl, rfl⟩

theorem calls_relieveMoves (feed : Feed δ) (backlog : Nat) :
    Move.calls (feed.relieveMoves backlog) =
      if (feed.ring.standing backlog).Flushes then [.stop (Device.stop feed.device).result]
      else [] := by
  have checked : feed.relieveMoves backlog =
      if (feed.ring.standing backlog).Flushes then _ else _ :=
    (feed.ring.standing backlog).ite_ite_eq _ _ _
  rw [checked]
  split
  · next flushes =>
    have playing : feed.ring.playing = true := flushes.1
    split <;> simp [resetMoves, playing, Move.call?]
  · rfl

/-! ### Starts and writes -/

/-- **How a start can go**: none is due, the device starts, or it fails to. -/
inductive Started (feed : Feed δ) (due : Nat) :
    List Call → Except Error Unit → Ring → Prop
  | idle (undue : ¬ (feed.ring.playing = false ∧ feed.ring.geometry.lowFrames ≤ due)) :
      Started feed due [] (.ok ()) feed.ring
  | begun (starts : feed.ring.playing = false ∧ feed.ring.geometry.lowFrames ≤ due) :
      Started feed due [.start (.ok ())] (.ok ()) feed.ring.begin
  | failed (starts : feed.ring.playing = false ∧ feed.ring.geometry.lowFrames ≤ due)
      (error : Error) : Started feed due [.start (.error error)] (.error error) feed.ring

theorem started_startIfDue (feed : Feed δ) (due : Nat) :
    Started feed due (Move.calls (feed.startMoves due)) (feed.startIfDue due).1
      (feed.startIfDue due).2.ring := by
  unfold startMoves startIfDue startDevice record
  split
  · next starts =>
    cases (Device.start feed.device).result with
    | ok _ => exact .begun starts
    | error error => exact .failed starts error
  · next undue => exact .idle undue

/-- The device is to be handed what is unread. -/
def Writes (feed : Feed δ) : Prop :=
  Device.delivery feed.device = .writeThrough ∧ feed.ring.playing = true ∧
    feed.ring.storage.contents.size ≠ 0

/-- **How a write can go**: none is due, the device takes some frames, or it fails to. -/
inductive Written (feed : Feed δ) : List Call → Except Error Unit → Ring → Prop
  | idle (undue : ¬ feed.Writes) : Written feed [] (.ok ()) feed.ring
  | taken (writes : feed.Writes) (written : Nat) :
      Written feed [.write feed.ring.storage.contents (.ok written)] (.ok ())
        (feed.ring.consume (min written feed.ring.queuedFrames))
  | failed (writes : feed.Writes) (error : Error) :
      Written feed [.write feed.ring.storage.contents (.error error)] (.error error) feed.ring

theorem written_flushIfDue (feed : Feed δ) :
    Written feed (Move.calls feed.flushMoves) feed.flushIfDue.1 feed.flushIfDue.2.ring := by
  simp only [flushMoves, flushIfDue, writeDevice, record]
  split
  · next writes =>
    cases (Device.write feed.device feed.ring.storage.contents).result with
    | error error => exact .failed writes error
    | ok written =>
      have taken := Written.taken writes written
      dsimp only
      split
      · next none =>
        rw [none, Ring.consume_zero] at taken
        exact taken
      · exact taken
  · next undue => exact .idle undue

/-! ### The ways an offer can go -/

namespace Admission

variable (admission : Admission feed frames)

theorem queued_eq : admission.queued = (feed.ring.standing admission.backlog).counted := by
  have relieving := (admission.asked.relieve_eq admission.backlog).1
  rwa [admission.relieve_eq, admission.ring_asked] at relieving

theorem ring_relieved : admission.relieved.ring = feed.ring.relieved admission.backlog := by
  have relieving := (admission.asked.relieve_eq admission.backlog).2
  rwa [admission.relieve_eq, admission.ring_asked] at relieving

theorem ring_admitted : admission.accepted.ring = feed.ring.admitted admission.backlog frames := by
  rw [admission.ring_accepted, admission.ring_relieved]
  rfl

theorem calls_moves : ∃ stopped,
    Move.calls admission.moves = (feed.ring.standing admission.backlog).earlyCalls stopped := by
  have accepting : Move.calls (admission.relieved.acceptMoves frames) = [] := by
    unfold acceptMoves
    split <;> rfl
  refine ⟨(Device.stop admission.asked.device).result, ?_⟩
  rw [moves, Move.calls_append, Move.calls_append, accepting, calls_relieveMoves,
    admission.ring_asked, List.append_nil]
  rfl

variable (consistent : feed.ring.Consistent)
  (whole : frames.size % feed.ring.geometry.frameSize = 0)

include consistent whole

theorem outcome_of_frames : admission.outcome =
    (feed.ring.standing admission.backlog).outcome (feed.ring.framesOf frames) := by
  have decided := outcome_accept admission.relieved frames
  rw [admission.accept_eq, admission.ring_relieved] at decided
  unfold Standing.outcome
  simpa only [consistent.fits_relieved_iff admission.backlog whole] using decided

/-- A start is due where the frames say so. -/
theorem starts_iff (little : feed.ring.geometry.lowFrames ≤ wordMax) :
    admission.accepted.ring.playing = false ∧
        admission.accepted.ring.geometry.lowFrames ≤ admission.due ↔
      (feed.ring.standing admission.backlog).Starts (feed.ring.framesOf frames) := by
  have silent : admission.accepted.ring.playing = false ↔
      ¬ (feed.ring.standing admission.backlog).GoesOn := by
    rw [← feed.ring.playing_admitted_iff admission.backlog frames, ← admission.ring_admitted,
      Bool.not_eq_true]
  have reached : feed.ring.geometry.lowFrames ≤ admission.due ↔
      feed.ring.geometry.lowFrames ≤ (feed.ring.standing admission.backlog).counted +
        (feed.ring.standing admission.backlog).taken (feed.ring.framesOf frames) := by
    rw [admission.due_eq, admission.queued_eq, admission.ring_relieved,
      consistent.gain_relieved admission.backlog whole, saturate]
    omega
  rw [silent, admission.geometry_accepted, reached]
  rfl

/-- What a start that does not fail leaves, with the calls up to there. -/
theorem of_started {started : Feed δ} (little : feed.ring.geometry.lowFrames ≤ wordMax)
    (start_eq : admission.accepted.startIfDue admission.due = (.ok (), started)) :
    started.ring = feed.ring.readied admission.backlog frames ∧
      ∃ stopped,
        Move.calls (admission.moves ++ admission.accepted.startMoves admission.due) =
            (feed.ring.standing admission.backlog).readyCalls stopped (feed.ring.framesOf frames) ∧
          started.device =
            ((feed.ring.standing admission.backlog).readyCalls stopped
              (feed.ring.framesOf frames)).foldl Device.after feed.device := by
  have starting := started_startIfDue admission.accepted admission.due
  have recorded := admission.recorded.trans
    (recorded_startIfDue admission.accepted admission.due)
  have followed := (admission.follows whole).append
    (follows_startIfDue admission.accepted admission.due)
  have starts := admission.starts_iff consistent whole little
  obtain ⟨stopped, early⟩ := admission.calls_moves
  rw [start_eq] at starting recorded followed
  have leads := (recorded.answers followed).foldl_after.symm
  have readied : started.ring = feed.ring.readied admission.backlog frames ∧
      Move.calls (admission.moves ++ admission.accepted.startMoves admission.due) =
        (feed.ring.standing admission.backlog).readyCalls stopped
          (feed.ring.framesOf frames) := by
    rw [Move.calls_append, early, Ring.readied, Standing.readyCalls, ← admission.ring_admitted]
    dsimp only at starting
    generalize Move.calls (admission.accepted.startMoves admission.due) = calls,
      started.ring = ring at starting ⊢
    cases starting with
    | idle undue =>
      rw [if_neg (mt starts.2 undue), if_neg (mt starts.2 undue)]
      exact ⟨rfl, rfl⟩
    | begun due =>
      rw [if_pos (starts.1 due), if_pos (starts.1 due)]
      exact ⟨rfl, rfl⟩
  rw [readied.2] at leads
  exact ⟨readied.1, stopped, readied.2, leads⟩

end Admission

/-- How a device takes frames once so many calls were made. -/
def deliveryAfter (feed : Feed δ) (calls : List Call) : Delivery :=
  Device.delivery (calls.foldl Device.after feed.device)

/-- **The five ways an offer can go**, with its calls, its result, and the ring that it leaves. -/
inductive Staged (feed : Feed δ) (frames : ByteArray) :
    List Call → Except Error Outcome → Ring → Prop
  | unasked (error : Error) :
      Staged feed frames [.backlog (.error error)] (.error error) feed.ring
  | unstarted (backlog : Nat) (stopped : Except Error Unit) (error : Error)
      (starts : (feed.ring.standing backlog).Starts (feed.ring.framesOf frames)) :
      Staged feed frames
        ((feed.ring.standing backlog).earlyCalls stopped ++ [.start (.error error)])
        (.error error) (feed.ring.admitted backlog frames)
  | unwritten (backlog : Nat) (stopped : Except Error Unit) (error : Error) (ready : List Call)
      (ready_eq : ready =
        (feed.ring.standing backlog).readyCalls stopped (feed.ring.framesOf frames))
      (writes : (feed.ring.standing backlog).Writes (feed.ring.framesOf frames)
        (feed.deliveryAfter ready)) :
      Staged feed frames
        (ready ++ [.write ⟨(feed.ring.unreadAfter backlog frames).toArray⟩ (.error error)])
        (.error error) (feed.ring.readied backlog frames)
  | written (backlog : Nat) (stopped : Except Error Unit) (taken : Nat) (ready : List Call)
      (ready_eq : ready =
        (feed.ring.standing backlog).readyCalls stopped (feed.ring.framesOf frames))
      (writes : (feed.ring.standing backlog).Writes (feed.ring.framesOf frames)
        (feed.deliveryAfter ready)) :
      Staged feed frames
        (ready ++ [.write ⟨(feed.ring.unreadAfter backlog frames).toArray⟩ (.ok taken)])
        (.ok ((feed.ring.standing backlog).outcome (feed.ring.framesOf frames)))
        ((feed.ring.readied backlog frames).consume
          (min taken ((feed.ring.standing backlog).held (feed.ring.framesOf frames))))
  | silent (backlog : Nat) (stopped : Except Error Unit) (ready : List Call)
      (ready_eq : ready =
        (feed.ring.standing backlog).readyCalls stopped (feed.ring.framesOf frames))
      (idle : ¬ (feed.ring.standing backlog).Writes (feed.ring.framesOf frames)
        (feed.deliveryAfter ready)) :
      Staged feed frames ready
        (.ok ((feed.ring.standing backlog).outcome (feed.ring.framesOf frames)))
        (feed.ring.readied backlog frames)

namespace Admission

variable {started flushed : Feed δ} {answer : Except Error Unit}
  (admission : Admission feed frames) (consistent : feed.ring.Consistent)
  (whole : frames.size % feed.ring.geometry.frameSize = 0)
  (little : feed.ring.geometry.lowFrames ≤ wordMax)
  (start_eq : admission.accepted.startIfDue admission.due = (.ok (), started))

include consistent whole little start_eq

theorem writes_iff (ready : List Call)
    (leads : started.device = ready.foldl Device.after feed.device) :
    started.Writes ↔ (feed.ring.standing admission.backlog).Writes (feed.ring.framesOf frames)
      (feed.deliveryAfter ready) := by
  obtain ⟨ring_eq, -⟩ := admission.of_started consistent whole little start_eq
  have readied := consistent.readied admission.backlog whole
  rw [Feed.Writes, Standing.Writes, deliveryAfter, ← leads, ring_eq, Ring.playing_readied_iff,
    readied.size_contents_ne_zero_iff, consistent.queuedFrames_readied admission.backlog whole]

/-- Once the device has started, or does not have to, there may be a write. -/
theorem staged (flush_eq : started.flushIfDue = (answer, flushed)) :
    Staged feed frames
      (Move.calls (admission.moves ++ admission.accepted.startMoves admission.due ++
        started.flushMoves))
      (answer.map fun _ => admission.outcome) flushed.ring := by
  obtain ⟨ring_eq, stopped, calls_eq, leads⟩ :=
    admission.of_started consistent whole little start_eq
  have writes := admission.writes_iff consistent whole little start_eq _ leads
  have writing := written_flushIfDue started
  have contents := consistent.contents_readied admission.backlog whole
  have queued := consistent.queuedFrames_readied admission.backlog whole
  rw [flush_eq] at writing
  rw [Move.calls_append, calls_eq, admission.outcome_of_frames consistent whole]
  dsimp only at writing
  generalize Move.calls started.flushMoves = calls, flushed.ring = ring at writing ⊢
  cases writing with
  | idle undue =>
    rw [ring_eq, List.append_nil]
    exact .silent admission.backlog stopped _ rfl (mt writes.2 undue)
  | taken due written =>
    rw [ring_eq, contents, queued]
    exact .written admission.backlog stopped written _ rfl (writes.1 due)
  | failed due error =>
    rw [ring_eq, contents]
    exact .unwritten admission.backlog stopped error _ rfl (writes.1 due)

end Admission

/-- An offer of whole frames goes one of the five ways. -/
theorem staged_enqueue (consistent : feed.ring.Consistent)
    (little : feed.ring.geometry.lowFrames ≤ wordMax)
    (whole : frames.size % feed.ring.geometry.frameSize = 0) :
    Staged feed frames (Move.calls (feed.enqueueMoves frames)) (feed.enqueue frames).1
      (feed.enqueue frames).2.ring := by
  have way := offered_enqueue feed frames
  generalize feed.enqueueMoves frames = moves, (feed.enqueue frames).1 = result,
    (feed.enqueue frames).2 = after at way ⊢
  cases way with
  | @unasked error _ ask_eq =>
    have kept : after.ring = feed.ring := (congrArg (·.2.ring) ask_eq).symm
    rw [kept]
    exact .unasked error
  | @unstarted admission error _ start_eq =>
    have starting := started_startIfDue admission.accepted admission.due
    have starts := admission.starts_iff consistent whole little
    obtain ⟨stopped, early⟩ := admission.calls_moves
    rw [start_eq] at starting
    rw [Move.calls_append, early]
    dsimp only at starting
    generalize Move.calls (admission.accepted.startMoves admission.due) = calls,
      ring_eq : after.ring = ring at starting ⊢
    cases starting with
    | failed due =>
      rw [admission.ring_admitted]
      exact .unstarted admission.backlog stopped error (starts.1 due)
  | unflushed admission start_eq flush_eq =>
    exact admission.staged consistent whole little start_eq flush_eq
  | completed admission start_eq flush_eq =>
    exact admission.staged consistent whole little start_eq flush_eq

/-- **An offer of whole frames is made**, to every ring that can be reached: it goes one of the five
ways, with calls that the device answers. -/
theorem staged_queue (reachable : feed.ring.Reachable)
    (whole : frames.size % feed.ring.geometry.frameSize = 0) :
    ∃ result after,
      feed.queue frames = .ok (result, after) ∧ feed.perform (.queue frames) = after ∧
        Staged feed frames (after.callsSince feed) result after.ring ∧
        Device.AnswersAll feed.device (after.callsSince feed) after.device := by
  have queued := queue_of_whole whole
  have followed := follows_enqueue whole
  have way := staged_enqueue reachable.consistent reachable.lowFrames_le whole
  have answered := (feed.recorded_enqueue frames).answers followed
  rw [← followed.callsSince_eq] at way answered
  refine ⟨_, _, queued, ?_, way, answered⟩
  rw [perform, queued]
  rfl

end Feed

end Playout
