/-
**How an offer is counted.**

A ring counts a payload as queued or as dropped as soon as its device has told its backlog. What
fails after that, in a start or a write, is not taken back.

* `Call.told`, `Call.late`: how often calls tell a backlog, and how often they fail after that;
* `Ring.offeredAs`: what the counters have to be by what became of a payload;
* `Feed.counted_enqueue`: the three ways an offer is counted, with its calls;
* `Feed.result_enqueue_of_succeeds`: where no call fails, an offer does not, and is counted once.
-/
import Playout.Proofs.Ring.Balance

namespace Playout

/-! ### Calls that count, and calls that fail late -/

namespace Call

/-- Whether the device tells its backlog. -/
def tellsBacklog : Call → Bool
  | .backlog (.ok _) => true
  | _ => false

/-- Whether a call fails that comes after its payload was counted. -/
def failsLate : Call → Bool
  | .start (.error _) => true
  | .write _ (.error _) => true
  | _ => false

/-- Whether a call succeeds. -/
def succeeds : Call → Bool
  | .start (.error _) => false
  | .stop (.error _) => false
  | .backlog (.error _) => false
  | .write _ (.error _) => false
  | .reopen (.error _) => false
  | _ => true

/-- How often the device tells its backlog. -/
def told (calls : List Call) : Nat := calls.countP tellsBacklog

/-- How often calls fail late. -/
def late (calls : List Call) : Nat := calls.countP failsLate

@[simp] theorem told_append (first second : List Call) :
    told (first ++ second) = told first + told second :=
  List.countP_append

@[simp] theorem late_append (first second : List Call) :
    late (first ++ second) = late first + late second :=
  List.countP_append

/-- Where no call fails, none fails late. -/
theorem late_eq_zero_of_succeeds {calls : List Call} (all : ∀ call ∈ calls, call.succeeds = true) :
    late calls = 0 := by
  refine List.countP_eq_zero.2 fun call member fails => ?_
  have success := all call member
  cases call with
  | start answer => cases answer <;> contradiction
  | write _ answer => cases answer <;> contradiction
  | _ => cases fails

/-- Calls that neither tell a backlog nor fail late. -/
structure Idle (calls : List Call) : Prop where
  told_eq : told calls = 0
  late_eq : late calls = 0

theorem Idle.append {first second : List Call} (before : Idle first) (behind : Idle second) :
    Idle (first ++ second) := by
  refine ⟨?_, ?_⟩
  · rw [told_append, before.told_eq, behind.told_eq]
  · rw [late_append, before.late_eq, behind.late_eq]

end Call

namespace Move

theorem idle_of_forall {moves : List Move}
    (all : ∀ move ∈ moves, Call.Idle (Move.calls [move])) : Call.Idle (Move.calls moves) := by
  induction moves with
  | nil => exact ⟨rfl, rfl⟩
  | cons move moves ih =>
    obtain ⟨here, behind⟩ := List.forall_mem_cons.1 all
    rw [← List.singleton_append, Move.calls_append]
    exact here.append (ih behind)

theorem Relieves.idle {move : Move} (relieves : move.Relieves) :
    Call.Idle (Move.calls [move]) := by
  cases move <;> first | exact ⟨rfl, rfl⟩ | cases relieves

theorem told_of_plays {moves : List Move} (plays : ∀ move ∈ moves, move.Plays) :
    Call.told (Move.calls moves) = 0 := by
  induction moves with
  | nil => rfl
  | cons move moves ih =>
    obtain ⟨here, behind⟩ := List.forall_mem_cons.1 plays
    have silent : Call.told (Move.calls [move]) = 0 := by
      cases move <;> first | rfl | cases here
    rw [← List.singleton_append, Move.calls_append, Call.told_append, silent, ih behind]

end Move

/-! ### What an outcome says of the counters -/

namespace Outcome

/-- How often a payload was counted, if its outcome tells the truth. -/
def times : Outcome → Nat
  | .queued => 1
  | .dropped => 1
  | .deviceUnavailable => 0

end Outcome

namespace Ring

/-- All frames that a ring has counted, as queued or as dropped. -/
def offeredFrames (ring : Ring) : Nat := ring.offered.1 + ring.offered.2

/-- What the counters of a ring have to be after a payload of so many frames had an outcome. -/
def offeredAs (ring : Ring) (count : Nat) : Outcome → Nat × Nat
  | .queued => (ring.offered.1 + count, ring.offered.2)
  | .dropped => (ring.offered.1, ring.offered.2 + count)
  | .deviceUnavailable => ring.offered

variable {ring last : Ring} {count : Nat}

theorem offeredFrames_of_offeredAs {outcome : Outcome}
    (same : last.offered = ring.offeredAs count outcome) :
    last.offeredFrames = ring.offeredFrames + count * outcome.times := by
  rw [offeredFrames, offeredFrames, same]
  cases outcome <;> simp only [offeredAs, Outcome.times] <;> omega

theorem offeredAs_congr (same : last.offered = ring.offered) :
    last.offeredAs count = ring.offeredAs count := by
  funext outcome
  unfold offeredAs
  rw [same]

theorem offeredAs_zero (ring : Ring) (outcome : Outcome) :
    ring.offeredAs 0 outcome = ring.offered := by
  cases outcome <;> rfl

theorem frameCount_of_geometry (frames : ByteArray)
    (same : last.geometry = ring.geometry) : last.frameCount frames = ring.frameCount frames := by
  unfold frameCount
  rw [same]

/-- Different outcomes say different things of a payload that has frames. -/
theorem offeredAs_eq_iff (ring : Ring) (count : Nat) (first second : Outcome) :
    ring.offeredAs count first = ring.offeredAs count second ↔ count = 0 ∨ first = second := by
  cases first <;> cases second <;> simp only [offeredAs, Prod.ext_iff] <;> grind

end Ring

/-! ### The ways an offer is counted -/

namespace Feed

variable {δ : Type} [Device δ] {feed : Feed δ} {frames : ByteArray}

theorem idle_resetMoves (feed : Feed δ) : Call.Idle (Move.calls feed.resetMoves) :=
  Move.idle_of_forall fun move member => (feed.relieves_resetMoves move member).idle

theorem offered_reset (feed : Feed δ) : feed.reset.ring.offered = feed.ring.offered := by
  rw [ring_reset]
  rfl

/-- A start that fails is a call that fails late. -/
theorem late_startMoves_eq_zero_iff (feed : Feed δ) (due : Nat) :
    Call.late (Move.calls (feed.startMoves due)) = 0 ↔ (feed.startIfDue due).1 = .ok () := by
  unfold startMoves startIfDue startDevice record
  split
  · cases (Device.start feed.device).result <;> simp [Call.late, Move.call?, Call.failsLate]
  · simp [Call.late]

/-- So is a write that fails. -/
theorem late_flushMoves_eq_zero_iff (feed : Feed δ) :
    Call.late (Move.calls feed.flushMoves) = 0 ↔ feed.flushIfDue.1 = .ok () := by
  simp only [flushMoves, flushIfDue, writeDevice, record]
  split
  · cases (Device.write feed.device feed.ring.storage.contents).result with
    | error _ => simp [Call.late, Move.call?, Call.failsLate]
    | ok _ =>
      dsimp only
      split <;> simp [Call.late, Move.call?, Call.failsLate]
  · simp [Call.late]

/-- What becomes of a payload once the device has told its backlog. -/
def verdict (feed : Feed δ) (frames : ByteArray) : Outcome :=
  if feed.admits frames then .queued else .dropped

theorem times_verdict (feed : Feed δ) (frames : ByteArray) :
    (feed.verdict frames).times = 1 := by
  unfold verdict
  split <;> rfl

theorem verdict_ne_deviceUnavailable (feed : Feed δ) (frames : ByteArray) :
    feed.verdict frames ≠ .deviceUnavailable := by
  unfold verdict
  split <;> exact fun same => nomatch same

namespace Admission

variable (admission : Admission feed frames)

theorem answer_eq : (Device.backlog feed.device).result = .ok admission.backlog :=
  congrArg Prod.fst admission.ask_eq

/-- Up to the fate of the payload the backlog is told once, and nothing fails late. -/
theorem told_moves :
    Call.told (Move.calls admission.moves) = 1 ∧ Call.late (Move.calls admission.moves) = 0 := by
  have relieving : Call.Idle (Move.calls (admission.asked.relieveMoves admission.backlog)) :=
    Move.idle_of_forall fun move member => (relieves_relieveMoves _ _ move member).idle
  have accepting : Call.Idle (Move.calls (admission.relieved.acceptMoves frames)) := by
    unfold acceptMoves
    split <;> exact ⟨rfl, rfl⟩
  have idle := relieving.append accepting
  rw [moves, List.append_assoc, Move.calls_append, Move.calls_append, Call.told_append,
    Call.late_append, idle.told_eq, idle.late_eq]
  exact ⟨rfl, rfl⟩

end Admission

/-- **The three ways an offer is counted**, with its calls and its result: not at all, since its
device does not tell the backlog; once, although the offer fails late; or once, and as its outcome
says. -/
inductive Counted (feed : Feed δ) (frames : ByteArray) (calls : List Call) :
    Except Error Outcome → Ring → Prop
  | untold {error : Error} {last : Ring}
      (answer : (Device.backlog feed.device).result = .error error)
      (idle : Call.Idle calls) (offered_eq : last.offered = feed.ring.offered) :
      Counted feed frames calls (.error error) last
  | spoiled {backlog : Nat} {error : Error} {last : Ring}
      (answer : (Device.backlog feed.device).result = .ok backlog)
      (told_eq : Call.told calls = 1) (late_pos : 0 < Call.late calls)
      (offered_eq : last.offered =
        feed.ring.offeredAs (feed.ring.frameCount frames) (feed.verdict frames)) :
      Counted feed frames calls (.error error) last
  | done {backlog : Nat} {last : Ring}
      (answer : (Device.backlog feed.device).result = .ok backlog)
      (told_eq : Call.told calls = 1) (late_eq : Call.late calls = 0)
      (offered_eq : last.offered =
        feed.ring.offeredAs (feed.ring.frameCount frames) (feed.verdict frames)) :
      Counted feed frames calls (.ok (feed.verdict frames)) last

/-- Idle calls behind an offer do not change how it is counted. -/
theorem Counted.append {calls idling : List Call} {result : Except Error Outcome}
    {last final : Ring} (counted : Counted feed frames calls result last)
    (idle : Call.Idle idling) (same : final.offered = last.offered) :
    Counted feed frames (calls ++ idling) result final := by
  have told : Call.told (calls ++ idling) = Call.told calls := by
    rw [Call.told_append, idle.told_eq, Nat.add_zero]
  have late : Call.late (calls ++ idling) = Call.late calls := by
    rw [Call.late_append, idle.late_eq, Nat.add_zero]
  cases counted with
  | untold answer early offered_eq =>
    exact .untold answer (early.append idle) (same.trans offered_eq)
  | spoiled answer told_eq late_pos offered_eq =>
    exact .spoiled answer (told.trans told_eq) (late ▸ late_pos) (same.trans offered_eq)
  | done answer told_eq late_eq offered_eq =>
    exact .done answer (told.trans told_eq) (late.trans late_eq) (same.trans offered_eq)

theorem result_enqueue_of_untold {error : Error} (frames : ByteArray)
    (untold : (Device.backlog feed.device).result = .error error) :
    (feed.enqueue frames).1 = .error error := by
  have asked : feed.askBacklog = (.error error, feed.askBacklog.2) := Prod.ext untold rfl
  unfold enqueue
  rw [asked]

theorem offered_enqueue_of_told {backlog : Nat}
    (told : (Device.backlog feed.device).result = .ok backlog)
    (whole : frames.size % feed.ring.geometry.frameSize = 0) :
    (feed.enqueue frames).2.ring.offered =
      feed.ring.offeredAs (feed.ring.frameCount frames) (feed.verdict frames) := by
  rcases (offered_enqueue feed frames).relieved whole with
    ⟨error, asked, ask_eq, _⟩ | ⟨_, _, made, plays⟩
  · have untold : (Device.backlog feed.device).result = .error error := congrArg Prod.fst ask_eq
    cases told.symm.trans untold
  · rw [offered_enqueue_eq made plays, verdict]
    split <;> rfl

namespace Admission

variable (admission : Admission feed frames) {late : List Move} {last : Ring}
  (plays : ∀ move ∈ late, move.Plays)
  (offered_eq : last.offered =
    feed.ring.offeredAs (feed.ring.frameCount frames) (feed.verdict frames))

theorem late_append (late : List Move) :
    Call.late (Move.calls (admission.moves ++ late)) = Call.late (Move.calls late) := by
  rw [Move.calls_append, Call.late_append, admission.told_moves.2, Nat.zero_add]

include plays in
theorem told_append : Call.told (Move.calls (admission.moves ++ late)) = 1 := by
  rw [Move.calls_append, Call.told_append, admission.told_moves.1, Move.told_of_plays plays]

include plays offered_eq

theorem spoiled (error : Error) (failed : Call.late (Move.calls late) ≠ 0) :
    Counted feed frames (Move.calls (admission.moves ++ late)) (.error error) last := by
  refine .spoiled admission.answer_eq (admission.told_append plays) ?_ offered_eq
  rw [admission.late_append]
  exact Nat.pos_of_ne_zero failed

theorem done (punctual : Call.late (Move.calls late) = 0) :
    Counted feed frames (Move.calls (admission.moves ++ late)) (.ok admission.outcome) last := by
  have decided : admission.outcome = feed.verdict frames := admission.outcome_eq
  rw [decided]
  refine .done admission.answer_eq (admission.told_append plays) ?_ offered_eq
  rw [admission.late_append]
  exact punctual

end Admission

/-- **An offer of whole frames is counted in one of the three ways.** -/
theorem counted_enqueue (whole : frames.size % feed.ring.geometry.frameSize = 0) :
    Counted feed frames (Move.calls (feed.enqueueMoves frames)) (feed.enqueue frames).1
      (feed.enqueue frames).2.ring := by
  have way := offered_enqueue feed frames
  have tally := fun backlog (told : (Device.backlog feed.device).result = .ok backlog) =>
    offered_enqueue_of_told told whole
  generalize feed.enqueueMoves frames = moves, (feed.enqueue frames).1 = result,
    (feed.enqueue frames).2 = after at way tally ⊢
  cases way with
  | unasked ask_eq =>
    exact .untold (congrArg Prod.fst ask_eq) ⟨rfl, rfl⟩ (congrArg (·.2.ring.offered) ask_eq).symm
  | unstarted admission start_eq =>
    refine admission.spoiled (plays_startMoves _ _) (tally _ admission.answer_eq) _ ?_
    rw [ne_eq, late_startMoves_eq_zero_iff, start_eq]
    exact fun same => nomatch same
  | @unflushed admission started _ _ start_eq flush_eq =>
    have plays := List.forall_mem_append.2
      ⟨plays_startMoves admission.accepted admission.due, plays_flushMoves started⟩
    rw [List.append_assoc]
    refine admission.spoiled plays (tally _ admission.answer_eq) _ ?_
    rw [Move.calls_append, Call.late_append, ne_eq, Nat.add_eq_zero_iff,
      late_flushMoves_eq_zero_iff, flush_eq]
    exact fun same => nomatch same.2
  | @completed admission started _ start_eq flush_eq =>
    have plays := List.forall_mem_append.2
      ⟨plays_startMoves admission.accepted admission.due, plays_flushMoves started⟩
    rw [List.append_assoc]
    refine admission.done plays (tally _ admission.answer_eq) ?_
    rw [Move.calls_append, Call.late_append, Nat.add_eq_zero_iff, late_startMoves_eq_zero_iff,
      late_flushMoves_eq_zero_iff, start_eq, flush_eq]
    exact ⟨rfl, rfl⟩

/-- Where no call fails, an offer does not, and is counted once. -/
theorem result_enqueue_of_succeeds (whole : frames.size % feed.ring.geometry.frameSize = 0)
    (all : ∀ call ∈ Move.calls (feed.enqueueMoves frames), call.succeeds = true) :
    (feed.enqueue frames).1 = .ok (feed.verdict frames) ∧
      Call.told (Move.calls (feed.enqueueMoves frames)) = 1 := by
  have counted := counted_enqueue whole
  have punctual := Call.late_eq_zero_of_succeeds all
  have asked : (Call.backlog feed.askBacklog.1).succeeds = true := by
    refine all _ ?_
    rw [enqueueMoves, Move.calls_cons]
    exact List.mem_cons_self
  generalize (feed.enqueue frames).1 = result at counted ⊢
  cases counted with
  | untold answer _ _ =>
    rw [show feed.askBacklog.1 = .error _ from answer] at asked
    cases asked
  | spoiled _ _ late_pos _ => exact absurd punctual (Nat.ne_of_gt late_pos)
  | done _ told_eq _ _ => exact ⟨rfl, told_eq⟩

end Feed

end Playout
