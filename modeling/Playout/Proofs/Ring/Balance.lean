/-
**Where the frames of a ring have gone.**

Of each payload that is offered, the frames are counted once: as queued if the ring takes them in,
and as dropped if not; whether the device starts and takes them afterwards does not matter. What was
ever queued has been consumed, is still there, or was discarded when the ring was emptied.

* `Ring.Consistent.accounts`: what a move does to this balance;
* `Ring.Makes.accounts`: and what a chain of moves does;
* `Feed.tallied_enqueue`: how an offer is counted;
* `Feed.excused_perform`: a ring is reset when it is asked to, or was found dry or overfull;
* `Feed.frames_accounted_for`: all of this along every run.
-/
import Playout.Proofs.Ring.Order

namespace Playout

namespace Ring

variable {ring last : Ring} {moves : List Move}

/-! ### Frames that were queued -/

/-- The frames that are discarded in a move. -/
def discarding (ring : Ring) (move : Move) : Nat :=
  if move.empties then ring.queuedFrames else 0

/-- The frames that are discarded in moves, all together. -/
def discardingAll : Ring → List Move → Nat
  | _, [] => 0
  | ring, move :: moves => ring.discarding move + (ring.after move).discardingAll moves

/-- The frames that went from one ring into a later one and out of it, if so many were discarded on
the way: those that were queued on the way have been consumed or are still there. -/
def Accounts (ring last : Ring) (discarded : Nat) : Prop :=
  last.stats.queuedFramesTotal + (ring.framesConsumed + ring.queuedFrames) =
    ring.stats.queuedFramesTotal + (last.framesConsumed + last.queuedFrames + discarded)

theorem Accounts.trans {middle : Ring} {first second : Nat} (before : Accounts ring middle first)
    (behind : Accounts middle last second) : Accounts ring last (first + second) := by
  unfold Accounts at before behind ⊢
  omega

theorem accounts_consume {frames : Nat} (queued : frames ≤ ring.queuedFrames) :
    Accounts ring (ring.consume frames) 0 := by
  simp only [Accounts, consume]
  omega

theorem accounts_accept (ring : Ring) (frames : ByteArray) :
    Accounts ring (ring.accept frames).1 0 := by
  unfold accept
  split
  · simp only [Accounts]
    omega
  · simp only [Accounts, Nat.add_zero]

theorem accounts_reset (ring : Ring) : Accounts ring ring.reset ring.queuedFrames := by
  simp only [Accounts, reset]
  omega

/-- **What a move does to the balance**: only those frames are lost to it that it discards. -/
theorem Consistent.accounts (consistent : ring.Consistent) (move : Move) :
    Accounts ring (ring.after move) (ring.discarding move) := by
  cases move with
  | clear => exact ring.accounts_reset
  | stop _ => exact ring.accounts_reset
  | take frames => exact ring.accounts_accept frames
  | drop frames => exact ring.accounts_accept frames
  | start answer => cases answer <;> rfl
  | write _ _ answer =>
    cases answer with
    | ok taken => exact accounts_consume (Nat.min_le_right taken ring.queuedFrames)
    | error _ => rfl
  | drain buffer =>
    have drained := accounts_consume (ring.drainable_le buffer)
    rw [← consistent.drain_eq_consume] at drained
    exact drained
  | _ => rfl

/-- **What a chain of moves does to the balance.** -/
theorem Makes.accounts (made : Makes ring moves last) (start : ring.Consistent) :
    Accounts ring last (ring.discardingAll moves) := by
  induction made with
  | nil ring => rfl
  | cons allowed _ ih => exact (start.accounts _).trans (ih (start.after allowed))

/-- Moves lead from a new ring to another one. All the way, what was queued since the ring was made
has been consumed, is still there, or was discarded by a reset. -/
structure KeepsBalance (ring : Ring) (moves : List Move) (last : Ring) : Prop where
  reaches : moves.foldl Ring.after ring = last
  balanced : ∀ before, before <+: moves →
    (before.foldl Ring.after ring).stats.queuedFramesTotal =
      (before.foldl Ring.after ring).framesConsumed +
        (before.foldl Ring.after ring).queuedFrames + ring.discardingAll before

theorem Makes.keepsBalance {format : Format} {lowMs highMs : Nat} (made : Makes ring moves last)
    (created : create format lowMs highMs = .ok ring) : ring.KeepsBalance moves last := by
  refine ⟨made.foldl_after, fun before front => ?_⟩
  have balance := (made.of_prefix front).accounts (consistent_create created)
  obtain ⟨rfl, _⟩ := of_create_eq_ok created
  simpa only [Accounts, ofFormat, Nat.add_zero, Nat.zero_add] using balance

end Ring

/-! ### How an offer is counted -/

/-- A move that settles what becomes of a payload. -/
def Move.Settles : Move → Prop
  | .take _ | .drop _ => True
  | _ => False

theorem Move.Relieves.not_settles {move : Move} (relieves : move.Relieves) : ¬ move.Settles := by
  cases move <;> first | exact id | cases relieves

theorem Move.Plays.not_settles {move : Move} (plays : move.Plays) : ¬ move.Settles := by
  cases move <;> first | exact id | cases plays

namespace Ring

/-- The frames that were offered: those that were queued, and those that were dropped. -/
def offered (ring : Ring) : Nat × Nat :=
  (ring.stats.queuedFramesTotal, ring.stats.droppedFrames)

/-- Nothing else counts as an offer. -/
theorem offered_after (ring : Ring) (move : Move) (other : ¬ move.Settles) :
    (ring.after move).offered = ring.offered := by
  cases move with
  | take _ => exact absurd trivial other
  | drop _ => exact absurd trivial other
  | start answer => cases answer <;> rfl
  | write _ _ answer => cases answer <;> rfl
  | drain buffer => exact observe_drain offered (fun _ _ _ _ => rfl) ring buffer
  | _ => rfl

theorem offered_take {ring : Ring} {frames : ByteArray} (fits : ring.fits frames = true) :
    (ring.after (.take frames)).offered =
      (ring.offered.1 + ring.frameCount frames, ring.offered.2) := by
  simp only [after, accept, fits, if_true, offered]

theorem offered_drop {ring : Ring} {frames : ByteArray} (full : ring.fits frames = false) :
    (ring.after (.drop frames)).offered =
      (ring.offered.1, ring.offered.2 + ring.frameCount frames) := by
  simp only [after, accept, full, Bool.false_eq_true, if_false, offered]

end Ring

namespace Feed

variable {δ : Type} [Device δ] {feed : Feed δ} {frames : ByteArray}

/-- **How an offer is counted**, of a payload of so many frames: once, as queued or as dropped, if
the device tells its backlog, and not at all if it does not. The outcome, if any, says which. -/
structure Tallied (feed : Feed δ) (count : Nat) (result : Except Error Outcome) (after : Feed δ) :
    Prop where
  counted : ∀ backlog, (Device.backlog feed.device).result = .ok backlog →
    (after.ring.stats.queuedFramesTotal = feed.ring.stats.queuedFramesTotal + count ∧
        after.ring.stats.droppedFrames = feed.ring.stats.droppedFrames ∧
        ∀ outcome, result = .ok outcome → outcome = .queued) ∨
      (after.ring.stats.queuedFramesTotal = feed.ring.stats.queuedFramesTotal ∧
        after.ring.stats.droppedFrames = feed.ring.stats.droppedFrames + count ∧
        ∀ outcome, result = .ok outcome → outcome = .dropped)
  uncounted : ∀ error, (Device.backlog feed.device).result = .error error →
    after.ring.stats.queuedFramesTotal = feed.ring.stats.queuedFramesTotal ∧
      after.ring.stats.droppedFrames = feed.ring.stats.droppedFrames ∧ result = .error error

/-- To relieve the ring counts no offer. -/
theorem Admission.offered_relieved (admission : Admission feed frames) :
    admission.relieved.ring.offered = feed.ring.offered := by
  rw [← admission.follows_relieved.makes.foldl_after]
  refine Ring.foldl_after_eq Ring.offered Ring.offered_after ?_
  exact List.forall_mem_cons.2
    ⟨id, fun move member => (relieves_relieveMoves _ _ move member).not_settles⟩

/-- What becomes of a payload is all that an offer counts. -/
theorem offered_enqueue_eq {admission : Admission feed frames} {late : List Move} {last : Ring}
    (made : admission.relieved.ring.Makes (admission.relieved.acceptMoves frames ++ late) last)
    (plays : ∀ move ∈ late, move.Plays) :
    last.offered =
      if feed.admits frames then
        (feed.ring.offered.1 + feed.ring.frameCount frames, feed.ring.offered.2)
      else (feed.ring.offered.1, feed.ring.offered.2 + feed.ring.frameCount frames) := by
  have count : admission.relieved.ring.frameCount frames = feed.ring.frameCount frames := by
    rw [Ring.frameCount, admission.follows_relieved.makes.geometry_eq]
    rfl
  rw [← made.foldl_after, List.foldl_append, Ring.foldl_after_eq Ring.offered Ring.offered_after
    fun move member => (plays move member).not_settles, ← admission.fits_eq, acceptMoves]
  by_cases fits : admission.relieved.ring.fits frames = true
  · rw [if_pos fits, if_pos fits, ← admission.offered_relieved, ← count]
    exact Ring.offered_take fits
  · rw [if_neg fits, if_neg fits, ← admission.offered_relieved, ← count]
    exact Ring.offered_drop (by simpa using fits)

/-- **An offer is counted once, whatever fails after the device has told its backlog.** -/
theorem tallied_enqueue (whole : frames.size % feed.ring.geometry.frameSize = 0)
    (small : frames.size / feed.ring.geometry.frameSize < UInt32.size) :
    Tallied feed (frames.size / feed.ring.geometry.frameSize) (feed.enqueue frames).1
      (feed.enqueue frames).2 := by
  have count : feed.ring.frameCount frames = frames.size / feed.ring.geometry.frameSize :=
    Nat.mod_eq_of_lt small
  rcases (offered_enqueue feed frames).relieved whole with
    ⟨error, asked, ask_eq, same⟩ | ⟨admission, late, made, plays⟩
  · have failed : (Device.backlog feed.device).result = .error error := congrArg Prod.fst ask_eq
    refine ⟨fun _ answer => (nomatch failed.symm.trans answer), fun other answer => ?_⟩
    obtain rfl := Except.error.inj (failed.symm.trans answer)
    rw [same, enqueue, ask_eq]
    exact ⟨rfl, rfl, rfl⟩
  · have told := @outcome_enqueue _ _ feed frames
    have tally := offered_enqueue_eq made plays
    have answered : (Device.backlog feed.device).result = .ok admission.backlog :=
      congrArg Prod.fst admission.ask_eq
    refine ⟨fun _ _ => ?_, fun _ answer => (nomatch answered.symm.trans answer)⟩
    rw [count] at tally
    by_cases admitted : feed.admits frames = true
    · obtain ⟨queued, dropped⟩ := Prod.mk.inj (tally.trans (if_pos admitted))
      exact .inl ⟨queued, dropped, fun _ done => (told done).trans (if_pos admitted)⟩
    · obtain ⟨queued, dropped⟩ := Prod.mk.inj (tally.trans (if_neg admitted))
      exact .inr ⟨queued, dropped, fun _ done => (told done).trans (if_neg admitted)⟩

end Feed

/-! ### Why a ring was reset -/

namespace Ring

variable {ring last : Ring}

/-- From one ring to a later one, each reset was asked for, `asked` of them in all, or the ring was
found dry or overfull. -/
def Excused (ring last : Ring) (asked : Nat) : Prop :=
  last.stats.resets + (ring.stats.underruns + ring.stats.overruns) =
    ring.stats.resets + (last.stats.underruns + last.stats.overruns + asked)

theorem Excused.trans {middle : Ring} {first second : Nat} (before : Excused ring middle first)
    (behind : Excused middle last second) : Excused ring last (first + second) := by
  unfold Excused at before behind ⊢
  omega

/-- What a ring tells of its resets and of the reasons for them. -/
def excuses (ring : Ring) : Nat × Nat × Nat :=
  (ring.stats.resets, ring.stats.underruns, ring.stats.overruns)

theorem Excused.of_eq (same : last.excuses = ring.excuses) : Excused ring last 0 := by
  obtain ⟨resets, same⟩ := Prod.mk.inj same
  obtain ⟨underruns, overruns⟩ := Prod.mk.inj same
  rw [Excused, resets, underruns, overruns]
  rfl

theorem excuses_after (ring : Ring) (move : Move)
    (other : ¬ move.Relieves ∧ move ≠ .blameDevice) : (ring.after move).excuses = ring.excuses := by
  cases move with
  | blameDevice => exact absurd rfl other.2
  | take frames => exact observe_accept excuses (fun _ _ _ _ _ => rfl) ring frames
  | drop frames => exact observe_accept excuses (fun _ _ _ _ _ => rfl) ring frames
  | start answer => cases answer <;> rfl
  | write _ _ answer => cases answer <;> rfl
  | drain buffer => exact observe_drain excuses (fun _ _ _ _ => rfl) ring buffer
  | ask _ => rfl
  | reopen _ => rfl
  | _ => exact absurd trivial other.1

theorem excused_reset (ring : Ring) :
    Excused ring ring.reset (if ring.playing then 1 else 0) := by
  simp only [Excused, reset]
  split <;> omega

end Ring

theorem Move.Plays.not_relieves {move : Move} (plays : move.Plays) : ¬ move.Relieves := by
  cases move <;> first | exact id | cases plays

theorem Move.Plays.ne_blameDevice {move : Move} (plays : move.Plays) : move ≠ .blameDevice := by
  rintro rfl
  cases plays

namespace Feed

variable {δ : Type} [Device δ] {feed : Feed δ} {frames : ByteArray}

/-- A dry or overfull ring is counted as such, and reset. -/
theorem excused_relieve (feed : Feed δ) (backlog : Nat) :
    Ring.Excused feed.ring (feed.relieve backlog).2.ring 0 := by
  simp only [relieve]
  split
  · next dry =>
    rw [ring_reset]
    simp only [Ring.Excused, note, Ring.reset, Ring.countUnderrun, dry.1, if_true]
    omega
  · split
    · next above =>
      rw [ring_reset]
      simp only [Ring.Excused, note, Ring.reset, Ring.countOverrun, above.1, if_true]
      omega
    · rfl

theorem excused_enqueue (whole : frames.size % feed.ring.geometry.frameSize = 0) :
    Ring.Excused feed.ring (feed.enqueue frames).2.ring 0 := by
  rcases (offered_enqueue feed frames).relieved whole with
    ⟨_, _, _, same⟩ | ⟨admission, late, made, plays⟩
  · rw [same]
    rfl
  · have relieving := admission.asked.excused_relieve admission.backlog
    have asked : admission.asked.ring = feed.ring := (congrArg (·.2.ring) admission.ask_eq).symm
    rw [admission.relieve_eq, asked] at relieving
    refine relieving.trans (.of_eq ?_)
    rw [← made.foldl_after]
    refine Ring.foldl_after_eq Ring.excuses Ring.excuses_after (List.forall_mem_append.2 ⟨?_, ?_⟩)
    · unfold acceptMoves
      split <;> simp [Move.Relieves]
    · intro move member
      have playing := plays move member
      exact ⟨playing.not_relieves, playing.ne_blameDevice⟩

/-- Whether an operation asks for a reset while the ring plays, as a number. -/
def resetsAsked (feed : Feed δ) : Operation δ → Nat
  | .reset => if feed.ring.playing then 1 else 0
  | _ => 0

/-- How often operations ask for a reset while the ring plays. -/
def resetsAskedAll : Feed δ → List (Operation δ) → Nat
  | _, [] => 0
  | feed, operation :: rest =>
    feed.resetsAsked operation + (feed.perform operation).resetsAskedAll rest

theorem excused_settle {taken : Except Fault (Except Error Outcome × Feed δ)}
    (accepted : ∀ reply, taken = .ok reply → feed.queue frames = .ok reply) :
    Ring.Excused feed.ring (settle feed taken).ring 0 := by
  cases taken with
  | error fault => rfl
  | ok reply =>
    obtain ⟨whole, rfl⟩ := of_queue_eq_ok (accepted reply rfl)
    exact excused_enqueue whole

/-- **A ring is reset because it is asked to be, or was found dry or overfull.** -/
theorem excused_perform (feed : Feed δ) (operation : Operation δ) :
    Ring.Excused feed.ring (feed.perform operation).ring (feed.resetsAsked operation) := by
  cases operation with
  | queue frames => exact excused_settle fun _ taken => taken
  | queueSamples _ samples => exact excused_settle fun _ taken => of_queueSamples_eq_ok taken
  | reset =>
    show Ring.Excused feed.ring feed.reset.ring _
    rw [ring_reset]
    exact feed.ring.excused_reset
  | drain buffer => exact .of_eq (Ring.excuses_after _ (.drain buffer) ⟨id, nofun⟩)
  | queuedMs => rfl
  | change change => rfl

theorem excused_run (feed : Feed δ) (operations : List (Operation δ)) :
    Ring.Excused feed.ring (feed.run operations).ring (feed.resetsAskedAll operations) := by
  induction operations generalizing feed with
  | nil => rfl
  | cons operation rest ih => exact (feed.excused_perform operation).trans (ih _)

/-! ### Runs -/

/-- **What is known of the frames after operations on a ring of some format**. What was queued is
balanced on the ring itself and through a session with any policy. On the ring itself, each offer
that comes next is counted once, and each reset has its reason. -/
structure AccountedFor (feed : Feed δ) (format : Format) (operations : List (Operation δ)) : Prop
    where
  balanced : feed.ring.KeepsBalance (feed.runMoves operations) (feed.run operations).ring
  balanced_in_session : ∀ policy : RecoveryPolicy,
    feed.ring.KeepsBalance ((Session.mk feed policy).runMoves operations)
      ((Session.mk feed policy).run operations).feed.ring
  tallied : ∀ frames : ByteArray, frames.size % format.frameSize = 0 →
    frames.size / format.frameSize < UInt32.size →
      ∃ result after, (feed.run operations).queue frames = .ok (result, after) ∧
        Tallied (feed.run operations) (frames.size / format.frameSize) result after
  samples_tallied : ∀ (σ : Type) [Sample σ] (samples : List σ),
    Sample.format σ = format.sampleFormat →
      (Sample.encode samples).size % format.frameSize = 0 →
        (Sample.encode samples).size / format.frameSize < UInt32.size →
          ∃ result after, (feed.run operations).queueSamples samples = .ok (result, after) ∧
            Tallied (feed.run operations) ((Sample.encode samples).size / format.frameSize) result
              after
  resets_eq : (feed.run operations).ring.stats.resets =
    (feed.run operations).ring.stats.underruns + (feed.run operations).ring.stats.overruns +
      feed.resetsAskedAll operations

/-- **The frames of a new ring are accounted for along every run**, whatever its device answers. -/
theorem frames_accounted_for {format : Format} {lowMs highMs : Nat}
    (created : Ring.create format lowMs highMs = .ok feed.ring) (operations : List (Operation δ)) :
    feed.AccountedFor format operations := by
  have ran := (follows_run feed operations).makes
  have start := (Ring.of_create_eq_ok created).1
  have frameSize : (feed.run operations).ring.geometry.frameSize = format.frameSize := by
    rw [ran.geometry_eq, start]
    rfl
  have sampleFormat : (feed.run operations).ring.format.sampleFormat = format.sampleFormat := by
    rw [ran.format_eq, start]
    rfl
  have counted : ∀ frames : ByteArray, frames.size % format.frameSize = 0 →
      frames.size / format.frameSize < UInt32.size →
        ∃ result after, (feed.run operations).queue frames = .ok (result, after) ∧
          Tallied (feed.run operations) (frames.size / format.frameSize) result after := by
    intro frames whole small
    rw [← frameSize] at whole small ⊢
    exact ⟨_, _, queue_of_whole whole, tallied_enqueue whole small⟩
  refine ⟨ran.keepsBalance created, ?_, counted, ?_, ?_⟩
  · intro policy
    exact (Session.follows_run (Session.mk feed policy) operations).makes.keepsBalance created
  · intro σ _ samples same whole small
    rw [queueSamples_of_format samples (same.trans sampleFormat.symm)]
    exact counted _ whole small
  · have excused := feed.excused_run operations
    rw [Ring.Excused, start] at excused
    simpa only [Ring.ofFormat, Nat.zero_add, Nat.add_zero] using excused

/-- A device that does not start, does not tell its backlog, and takes a part before it fails again;
the ring overruns, and is reset while it plays and while it does not. -/
theorem frames_accounted_for_with_failing_device :
    let format : Format := ⟨.i16, 1, 500, none⟩
    let device : ScriptedDevice :=
      ⟨"failing", .writeThrough, 2, [.error .underrun], [], [.ok none, .error .underrun],
        [.ok (some 1), .error (.audioOutput ""), .ok (some 0)], []⟩
    let feed : Feed ScriptedDevice := ⟨Ring.ofFormat format 1 2, device, #[]⟩
    let operations : List (Operation ScriptedDevice) :=
      [.queue ⟨#[1, 2]⟩, .queue ⟨#[3, 4]⟩, .queueSamples Int16 [5, 6], .drain ⟨#[0, 0, 0]⟩,
        .queue ⟨#[7, 8]⟩, .queue ⟨#[9, 10, 11, 12, 13, 14]⟩, .queue ⟨#[15]⟩, .reset, .reset]
    Ring.create format 1 2 = .ok feed.ring ∧ feed.AccountedFor format operations := by
  intro format device feed operations
  have created : Ring.create format 1 2 = .ok feed.ring := rfl
  exact ⟨created, frames_accounted_for created operations⟩

end Feed

end Playout
