/-
**What the watermarks of a session say about its ring.**

A silent ring starts its device once the low watermark is reached, and a playing one is checked
against the high watermark when the next payload comes. Neither check is a limit in itself. But
whatever fails on the way is answered by a reset, and so both watermarks bound what is queued:

* `Feed.settled_of_enqueue`: an offer that does not fail leaves a playing ring, or less than the low
  watermark;
* `Session.silent_session_holds_little`: so it is in a session after every run, whatever fails;
* `Feed.throughout_enqueueMoves`: an offer finds at most the high watermark when it adds its payload;
* `Session.queued_within_watermark_and_block`: so a session never has more queued than the high
  watermark and one payload.
-/
import Playout.Proofs.Session.Attempts

namespace Playout

/-! ### Settled rings -/

namespace Ring

/-- A ring that does not play is empty, or has less queued than it takes to start. -/
def Settled (ring : Ring) : Prop :=
  ring.playing = false → ring.queuedFrames = 0 ∨ ring.queuedFrames < ring.geometry.lowFrames

theorem Emptied.settled {ring : Ring} (emptied : ring.Emptied) : ring.Settled :=
  fun _ => .inl emptied.queuedFrames_eq

theorem Settled.drain {ring : Ring} (settled : ring.Settled) (buffer : ByteArray) :
    (ring.drain buffer).1.Settled := by
  by_cases playing : ring.playing = true
  · obtain ⟨count, filled, _, drained⟩ := drain_of_playing playing buffer
    rw [drained]
    intro silent
    cases playing.symm.trans silent
  · unfold Ring.drain
    rw [if_neg playing]
    exact settled

/-- The frames of a payload that a ring takes in as it is. -/
def gain (ring : Ring) (frames : ByteArray) : Nat :=
  if ring.fits frames then ring.frameCount frames else 0

theorem queuedFrames_accept (ring : Ring) (frames : ByteArray) :
    (ring.accept frames).1.queuedFrames = ring.queuedFrames + ring.gain frames := by
  unfold accept gain
  split <;> rfl

end Ring

namespace Feed

/-! ### What the stages of an offer leave -/

variable {δ : Type}

theorem ring_accept (feed : Feed δ) (frames : ByteArray) :
    (feed.accept frames).2.ring = (feed.ring.accept frames).1 := by
  unfold accept
  rcases feed.ring.accept frames with ⟨ring, _ | _ | _⟩ <;> rfl

variable [Device δ] {feed : Feed δ} {frames : ByteArray}

/-- A check for a dry or overfull ring empties it, or has found no reason to. -/
theorem relieve_cases (feed : Feed δ) (backlog : Nat) :
    (feed.relieve backlog).2.ring.Emptied ∨
      feed.relieve backlog = (saturate (feed.ring.queuedFrames + backlog), feed) ∧
        (feed.ring.playing = true →
          saturate (feed.ring.queuedFrames + backlog) ≤ feed.ring.geometry.highFrames) := by
  simp only [relieve]
  split
  · exact .inl (emptied_reset _)
  · split
    · exact .inl (emptied_reset _)
    · next below =>
      refine .inr ⟨rfl, fun playing => ?_⟩
      exact Nat.le_of_not_lt fun above => below ⟨playing, above⟩

/-- A start that does not fail leaves a playing ring, or there is too little to start with. -/
theorem startIfDue_cases {started : Feed δ} {due : Nat}
    (start_eq : feed.startIfDue due = (.ok (), started)) :
    feed.ring.geometry.lowFrames ≤ due ∧ started.ring.playing = true ∨
      due < feed.ring.geometry.lowFrames ∧ started = feed := by
  unfold startIfDue startDevice record at start_eq
  split at start_eq
  · next starts =>
    generalize Device.start feed.device = reply at start_eq
    obtain ⟨device, _ | _, notices⟩ := reply
    · cases start_eq
    · cases start_eq
      exact .inl ⟨starts.2, rfl⟩
  · next idle =>
    cases start_eq
    by_cases enough : feed.ring.geometry.lowFrames ≤ due
    · refine .inl ⟨enough, Decidable.byContradiction fun silent => ?_⟩
      exact idle ⟨by simpa using silent, enough⟩
    · exact .inr ⟨Nat.lt_of_not_le enough, rfl⟩

theorem flushIfDue_of_silent (silent : feed.ring.playing = false) :
    feed.flushIfDue = (.ok (), feed) := by
  simp only [flushIfDue, silent, Bool.false_eq_true, false_and, and_false, if_false]

theorem playing_flushIfDue (feed : Feed δ) :
    feed.flushIfDue.2.ring.playing = feed.ring.playing := by
  simp only [flushIfDue, writeDevice, record]
  split
  · generalize Device.write feed.device feed.ring.storage.contents = reply
    obtain ⟨device, _ | taken, notices⟩ := reply
    · rfl
    · dsimp only
      split <;> rfl
  · rfl

namespace Admission

theorem geometry_relieved (admission : Admission feed frames) :
    admission.relieved.ring.geometry = feed.ring.geometry := by
  have relieving := (admission.asked.follows_relieve admission.backlog).makes.geometry_eq
  rwa [admission.relieve_eq, admission.ring_asked] at relieving

theorem ring_accepted (admission : Admission feed frames) :
    admission.accepted.ring = (admission.relieved.ring.accept frames).1 := by
  have accepting := admission.relieved.ring_accept frames
  rwa [admission.accept_eq] at accepting

theorem geometry_accepted (admission : Admission feed frames) :
    admission.accepted.ring.geometry = feed.ring.geometry := by
  rw [admission.ring_accepted, Ring.geometry_accept, admission.geometry_relieved]

/-- A start is considered for what was found and what is taken in. -/
theorem due_eq (admission : Admission feed frames) :
    admission.due = saturate (admission.queued + admission.relieved.ring.gain frames) := by
  have decided := outcome_accept admission.relieved frames
  rw [admission.accept_eq] at decided
  have count : admission.relieved.ring.frameCount frames = feed.ring.frameCount frames := by
    rw [Ring.frameCount, admission.geometry_relieved]
    rfl
  dsimp only at decided
  rw [due, decided, Ring.gain, count]
  split <;> rfl

/-- What the ring was relieved of does not count, and what it holds does. -/
theorem saturate_relieved_le (admission : Admission feed frames) :
    saturate admission.relieved.ring.queuedFrames ≤ saturate admission.queued := by
  have relieving := admission.asked.relieve_cases admission.backlog
  rw [admission.relieve_eq] at relieving
  rcases relieving with emptied | ⟨kept, _⟩
  · rw [emptied.queuedFrames_eq, saturate_zero]
    exact Nat.zero_le _
  · obtain ⟨counted, same⟩ := Prod.mk.inj kept
    rw [counted, same]
    unfold saturate
    omega

/-- A start is considered for at least what is queued. -/
theorem saturate_accepted_le_due (admission : Admission feed frames) :
    saturate admission.accepted.ring.queuedFrames ≤ admission.due := by
  have before := admission.saturate_relieved_le
  rw [admission.due_eq, admission.ring_accepted, Ring.queuedFrames_accept]
  unfold saturate at before ⊢
  omega

end Admission

/-- **An offer that does not fail leaves a playing ring, or less than it takes to start.** -/
theorem settled_of_enqueue {outcome : Outcome} {after : Feed δ}
    (done : feed.enqueue frames = (.ok outcome, after))
    (fits : feed.ring.geometry.lowFrames ≤ wordMax) : after.ring.Settled := by
  have way := offered_enqueue feed frames
  rw [done] at way
  generalize feed.enqueueMoves frames = moves at way
  intro silent
  cases way with
  | @completed admission started _ start_eq flush_eq =>
    have kept := playing_flushIfDue started
    rw [flush_eq, silent] at kept
    rw [flushIfDue_of_silent kept.symm] at flush_eq
    obtain ⟨-, rfl⟩ := Prod.mk.inj flush_eq
    rcases startIfDue_cases start_eq with ⟨-, playing⟩ | ⟨little, rfl⟩
    · cases playing.symm.trans silent
    · right
      have below := Nat.lt_of_le_of_lt admission.saturate_accepted_le_due little
      rw [admission.geometry_accepted] at below ⊢
      exact lt_of_saturate_lt below fits

end Feed

namespace Session

/-! ### A silent session holds little -/

variable {δ : Type}

theorem Opened.emptied {format : Format} {config : Config} {opened : Session δ}
    (known : Opened format config opened) : opened.feed.ring.Emptied := by
  rw [known.ring_eq]
  exact ⟨rfl, rfl, ByteRing.toList_empty _⟩

theorem Opened.lowFrames_le {format : Format} {config : Config} {opened : Session δ}
    (known : Opened format config opened) : opened.feed.ring.geometry.lowFrames ≤ wordMax := by
  rw [known.ring_eq]
  exact saturate_le _

variable [Device δ]

theorem settled_offer {session : Session δ} {frames : ByteArray}
    (whole : frames.size % session.feed.ring.geometry.frameSize = 0)
    (fits : session.feed.ring.geometry.lowFrames ≤ wordMax) :
    (session.offer frames).2.feed.ring.Settled := by
  have way := session.attempted_offer frames
  generalize session.offerMoves frames = moves, (session.offer frames).1 = outcome,
    (session.offer frames).2.feed = after at way ⊢
  cases way with
  | answered first => exact Feed.settled_of_enqueue first fits
  | abandoned _ mended _ => exact mended.emptied.settled
  | retried first _ mended _ second =>
    refine Feed.settled_of_enqueue second ?_
    rw [(mended.leads whole first).makes.geometry_eq]
    exact fits
  | @failedAgain _ _ _ _ refused => exact refused.emptied_reset.settled

/-- Whatever an operation meets with, it leaves a settled ring. -/
theorem settled_perform {session : Session δ} (settled : session.feed.ring.Settled)
    (fits : session.feed.ring.geometry.lowFrames ≤ wordMax) (operation : Operation δ) :
    (session.perform operation).feed.ring.Settled := by
  have done := performed session operation
  generalize session.moves operation = moves, session.perform operation = after at done ⊢
  cases done with
  | offered _ whole => exact settled_offer whole fits
  | reset => exact session.feed.emptied_reset.settled
  | drained buffer => exact settled.drain buffer
  | asked =>
    rw [ring_queuedMs]
    exact settled
  | unmoved ring_eq _ _ =>
    rw [ring_eq]
    exact settled

theorem settled_run {session : Session δ} (settled : session.feed.ring.Settled)
    (fits : session.feed.ring.geometry.lowFrames ≤ wordMax) (operations : List (Operation δ)) :
    (session.run operations).feed.ring.Settled := by
  induction operations generalizing session with
  | nil => exact settled
  | cons operation rest ih =>
    refine ih (settled_perform settled fits operation) ?_
    rw [(follows_perform session operation).makes.geometry_eq]
    exact fits

/-- **A silent session holds little**: after every run from its opening, whatever its device answers,
a session that does not play has nothing queued, or less than the low watermark. -/
theorem silent_session_holds_little {format : Format} {config : Config}
    {connect : Ring → Except Error δ} {opened : Session δ}
    (opening : openWith format config connect = .ok opened) (operations : List (Operation δ))
    (silent : (opened.run operations).isPlaying = false) :
    (opened.run operations).feed.ring.queuedFrames = 0 ∨
      (opened.run operations).feed.ring.queuedFrames <
        (Geometry.ofFormat format config.lowWatermarkMs.toNat
          config.highWatermarkMs.toNat).lowFrames := by
  have known := of_openWith_eq_ok opening
  have settled := settled_run known.emptied.settled known.lowFrames_le operations
  rw [← (known.ring_run operations).2]
  exact settled silent

/-- A device does not start although the low watermark is reached. -/
theorem silent_session_holds_little_with_failing_start :
    let format : Format := ⟨.i16, 1, 500, none⟩
    let device : ScriptedDevice :=
      ⟨"failing", .callback, 2, [.error .underrun], [], [], [], []⟩
    let config : Config := { lowWatermarkMs := 2, highWatermarkMs := 3 }
    let operations : List (Operation ScriptedDevice) :=
      [.queue ⟨#[1, 2, 3, 4]⟩, .drain ⟨#[0, 0]⟩]
    ∃ opened, create device format config = .ok opened ∧
      (opened.run operations).isPlaying = false ∧
        ((opened.run operations).feed.ring.queuedFrames = 0 ∨
          (opened.run operations).feed.ring.queuedFrames <
            (Geometry.ofFormat format config.lowWatermarkMs.toNat
              config.highWatermarkMs.toNat).lowFrames) := by
  intro format device config operations
  have opening : openWith format config (fun _ => .ok device) = .ok _ := rfl
  have silent : ∀ {opened}, create device format config = .ok opened →
      (opened.run operations).isPlaying = false := by
    intro opened same
    cases same
    decide +kernel
  exact ⟨_, opening, silent opening, silent_session_holds_little opening operations (silent opening)⟩

end Session

/-! ### The room that an offer finds -/

namespace Ring

/-- No more is queued than a limit. -/
def Within (limit : Nat) (ring : Ring) : Prop := ring.queuedFrames ≤ limit

/-- A ring that keeps to its watermarks, up to a payload of so many frames. -/
structure Moderate (block : Nat) (ring : Ring) : Prop where
  consistent : ring.Consistent
  settled : ring.Settled
  ordered : ring.geometry.lowFrames ≤ ring.geometry.highFrames
  within : ring.Within (ring.geometry.highFrames + block)

variable {ring : Ring} {limit : Nat}

theorem Emptied.within (emptied : ring.Emptied) (limit : Nat) : ring.Within limit :=
  Nat.le_trans (Nat.le_of_eq emptied.queuedFrames_eq) (Nat.zero_le limit)

/-- Nothing but a payload that is taken in adds to what is queued. -/
theorem Within.after {move : Move} (within : ring.Within limit)
    (kind : move.Relieves ∨ move.Plays) : (ring.after move).Within limit := by
  cases move with
  | runDry => exact within
  | runOver => exact within
  | clear => exact Nat.zero_le _
  | stop _ => exact Nat.zero_le _
  | start answer => cases answer <;> exact within
  | write _ _ answer =>
    cases answer with
    | ok taken => exact Nat.le_trans (Nat.sub_le ..) within
    | error _ => exact within
  | _ => rcases kind with relieves | plays <;> contradiction

theorem Within.throughout {moves : List Move} (within : ring.Within limit)
    (kind : ∀ move ∈ moves, move.Relieves ∨ move.Plays) :
    ring.Throughout (Within limit) moves :=
  throughout_of_forall (fun _ _ within kind => within.after kind) kind within

end Ring

namespace Feed

variable {δ : Type} {feed : Feed δ} {frames : ByteArray} {block : Nat}

/-- A payload adds its frames at most. -/
theorem throughout_acceptMoves {limit : Nat} (within : feed.ring.Within limit)
    (small : frames.size / feed.ring.geometry.frameSize ≤ block) :
    feed.ring.Throughout (Ring.Within (limit + block)) (feed.acceptMoves frames) := by
  have start : feed.ring.Within (limit + block) := Nat.le_trans within (Nat.le_add_right ..)
  unfold acceptMoves
  split
  · next fits =>
    refine Ring.throughout_cons start (Ring.throughout_nil ?_)
    show (feed.ring.accept frames).1.queuedFrames ≤ limit + block
    rw [Ring.accept, if_pos fits]
    exact Nat.add_le_add within (Nat.le_trans (Nat.mod_le ..) small)
  · next full =>
    refine Ring.throughout_cons start (Ring.throughout_nil ?_)
    show (feed.ring.accept frames).1.queuedFrames ≤ limit + block
    rw [Ring.accept, if_neg full]
    exact start

variable [Device δ]

/-- **A payload finds at most the high watermark**: a playing ring above it was emptied, and a silent
one is below the low watermark. -/
theorem Admission.within_relieved (admission : Admission feed frames)
    (moderate : feed.ring.Moderate block) :
    admission.relieved.ring.Within feed.ring.geometry.highFrames := by
  have relieving := admission.asked.relieve_cases admission.backlog
  rw [admission.relieve_eq, admission.ring_asked] at relieving
  rcases relieving with emptied | ⟨kept, below⟩
  · exact emptied.within _
  · obtain ⟨-, same⟩ := Prod.mk.inj kept
    rw [same, admission.ring_asked]
    by_cases playing : feed.ring.playing = true
    · have stored := Nat.le_trans moderate.consistent.queuedFrames_le
        moderate.consistent.capacityFrames_le
      calc feed.ring.queuedFrames = saturate feed.ring.queuedFrames :=
            (saturate_of_le stored).symm
        _ ≤ saturate (feed.ring.queuedFrames + admission.backlog) :=
            saturate_mono (Nat.le_add_right ..)
        _ ≤ feed.ring.geometry.highFrames := below playing
    · have silent : feed.ring.playing = false := by simpa using playing
      have ordered := moderate.ordered
      rcases moderate.settled silent with none | little
      · exact Nat.le_trans (Nat.le_of_eq none) (Nat.zero_le _)
      · exact Nat.le_trans (Nat.le_of_lt little) ordered

theorem Admission.throughout (admission : Admission feed frames)
    (moderate : feed.ring.Moderate block)
    (small : frames.size / feed.ring.geometry.frameSize ≤ block) :
    feed.ring.Throughout (Ring.Within (feed.ring.geometry.highFrames + block))
      admission.moves := by
  have relieving := (admission.asked.follows_relieve admission.backlog).makes.foldl_after
  rw [admission.relieve_eq, admission.ring_asked] at relieving
  have early : ∀ move ∈ admission.asked.relieveMoves admission.backlog,
      move.Relieves ∨ move.Plays :=
    fun move member => .inl (relieves_relieveMoves _ _ move member)
  have fed : frames.size / admission.relieved.ring.geometry.frameSize ≤ block := by
    rw [admission.geometry_relieved]
    exact small
  refine Ring.Throughout.append (Ring.throughout_cons moderate.within
    (moderate.within.throughout early)) ?_
  show ((admission.asked.relieveMoves admission.backlog).foldl Ring.after feed.ring).Throughout _ _
  rw [relieving]
  exact throughout_acceptMoves (admission.within_relieved moderate) fed

/-- **An offer keeps a moderate ring within its high watermark and one payload**, all the way. -/
theorem throughout_enqueueMoves (moderate : feed.ring.Moderate block)
    (small : frames.size / feed.ring.geometry.frameSize ≤ block) :
    feed.ring.Throughout (Ring.Within (feed.ring.geometry.highFrames + block))
      (feed.enqueueMoves frames) := by
  rcases (offered_enqueue feed frames).stages with ⟨_, _, _, asked⟩ | ⟨admission, late, shape, plays⟩
  · rw [asked]
    exact Ring.throughout_cons moderate.within (Ring.throughout_nil moderate.within)
  · have early := admission.throughout moderate small
    rw [shape]
    exact early.append (early.at_last.throughout fun move member => .inr (plays move member))

end Feed

namespace Session

variable {δ : Type} [Device δ] {block : Nat}

/-- A reset takes away, and mending finds nothing left. -/
theorem Mended.throughout_leads {feed failed again : Feed δ} {frames : ByteArray} {error : Error}
    {mends : List Move} {limit : Nat} (mended : Mended failed mends again)
    (whole : frames.size % feed.ring.geometry.frameSize = 0)
    (first : feed.enqueue frames = (.error error, failed))
    (offered : feed.ring.Throughout (Ring.Within limit) (feed.enqueueMoves frames)) :
    feed.ring.Throughout (Ring.Within limit)
      (feed.enqueueMoves frames ++ (failed.resetMoves ++ mends)) := by
  have offering := Feed.follows_enqueue whole
  rw [first] at offering
  have reached := offering.makes.foldl_after
  have held := offered.at_last
  refine offered.append ?_
  rw [reached] at held ⊢
  have resetting := failed.follows_reset.makes.foldl_after
  have emptying : failed.ring.Throughout (Ring.Within limit) failed.resetMoves :=
    held.throughout fun move member => .inl (failed.relieves_resetMoves move member)
  refine emptying.append ?_
  rw [resetting]
  exact mended.throughout.imp fun _ emptied => emptied.within limit

theorem throughout_offerMoves {session : Session δ} {frames : ByteArray}
    (moderate : session.feed.ring.Moderate block)
    (whole : frames.size % session.feed.ring.geometry.frameSize = 0)
    (small : frames.size / session.feed.ring.geometry.frameSize ≤ block) :
    session.feed.ring.Throughout
      (Ring.Within (session.feed.ring.geometry.highFrames + block))
      (session.offerMoves frames) := by
  have way := session.attempted_offer frames
  have offered := Feed.throughout_enqueueMoves moderate small
  -- a second offer finds an empty ring, which is moderate like the one before the call
  have second : ∀ {error failed again mends},
      session.feed.enqueue frames = (.error error, failed) → Mended failed mends again →
        session.feed.ring.Throughout
          (Ring.Within (session.feed.ring.geometry.highFrames + block))
          (session.feed.enqueueMoves frames ++ (failed.resetMoves ++ mends) ++
            again.enqueueMoves frames) := by
    intro error failed again mends first mended
    have leading := (mended.leads whole first).makes
    refine (mended.throughout_leads whole first offered).append ?_
    have again_moderate : again.ring.Moderate block := by
      refine ⟨leading.consistent moderate.consistent, mended.emptied.settled, ?_,
        mended.emptied.within _⟩
      rw [leading.geometry_eq]
      exact moderate.ordered
    have again_small : frames.size / again.ring.geometry.frameSize ≤ block := by
      rw [leading.geometry_eq]
      exact small
    rw [leading.foldl_after, ← leading.geometry_eq]
    exact Feed.throughout_enqueueMoves again_moderate again_small
  generalize session.offerMoves frames = moves, (session.offer frames).1 = outcome,
    (session.offer frames).2.feed = after at way ⊢
  cases way with
  | answered _ => exact offered
  | abandoned first mended _ => exact mended.throughout_leads whole first offered
  | retried first _ mended _ _ =>
    have all := second first mended
    simpa only [List.append_assoc] using all
  | @failedAgain _ _ _ _ refused _ first _ mended _ _ =>
    have all := second first mended
    have reset := all.at_last.throughout
      fun move member => .inl (refused.relieves_resetMoves move member)
    simpa only [List.append_assoc] using all.append reset

/-- What an operation does to a moderate ring, with payloads that are not too large. -/
theorem throughout_moves {session : Session δ} {operation : Operation δ}
    (moderate : session.feed.ring.Moderate block)
    (small : ∀ frames ∈ operation.payload?,
      frames.size / session.feed.ring.geometry.frameSize ≤ block) :
    session.feed.ring.Throughout
      (Ring.Within (session.feed.ring.geometry.highFrames + block))
      (session.moves operation) := by
  have done := performed session operation
  have held := moderate.within
  generalize session.moves operation = moves, session.perform operation = after at done ⊢
  cases done with
  | offered payload whole => exact throughout_offerMoves moderate whole (small _ payload)
  | reset =>
    exact held.throughout fun move member => .inl (session.feed.relieves_resetMoves move member)
  | drained buffer =>
    refine Ring.throughout_cons held (Ring.throughout_nil ?_)
    show (session.feed.ring.drain buffer).1.Within _
    rw [moderate.consistent.drain_eq_consume]
    exact Nat.le_trans (Nat.sub_le ..) held
  | asked => exact Ring.throughout_cons held (Ring.throughout_nil held)
  | unmoved => exact Ring.throughout_nil held

/-- An operation leaves a moderate ring moderate. -/
theorem moderate_perform {session : Session δ} {operation : Operation δ}
    (moderate : session.feed.ring.Moderate block)
    (fits : session.feed.ring.geometry.lowFrames ≤ wordMax)
    (small : ∀ frames ∈ operation.payload?,
      frames.size / session.feed.ring.geometry.frameSize ≤ block) :
    (session.perform operation).feed.ring.Moderate block := by
  have making := (follows_perform session operation).makes
  have held := (throughout_moves moderate small).at_last
  rw [making.foldl_after] at held
  refine ⟨making.consistent moderate.consistent, settled_perform moderate.settled fits operation,
    ?_, ?_⟩
  · rw [making.geometry_eq]
    exact moderate.ordered
  · rw [making.geometry_eq]
    exact held

theorem throughout_runMoves {session : Session δ} {operations : List (Operation δ)}
    (moderate : session.feed.ring.Moderate block)
    (fits : session.feed.ring.geometry.lowFrames ≤ wordMax)
    (small : ∀ operation ∈ operations, ∀ frames ∈ operation.payload?,
      frames.size / session.feed.ring.geometry.frameSize ≤ block) :
    session.feed.ring.Throughout
      (Ring.Within (session.feed.ring.geometry.highFrames + block))
      (session.runMoves operations) := by
  induction operations generalizing session with
  | nil => exact Ring.throughout_nil moderate.within
  | cons operation rest ih =>
    obtain ⟨here, behind⟩ := List.forall_mem_cons.1 small
    have making := (follows_perform session operation).makes
    have next := ih (moderate_perform moderate fits here) (by rw [making.geometry_eq]; exact fits)
      (by rw [making.geometry_eq]; exact behind)
    refine (throughout_moves moderate here).append ?_
    rw [making.foldl_after]
    rwa [making.geometry_eq] at next

/-- **A session never has more queued than its high watermark and one payload**, whatever its device
answers: neither after any run from its opening, nor at any time on the way. -/
theorem queued_within_watermark_and_block {format : Format} {config : Config}
    {connect : Ring → Except Error δ} {opened : Session δ}
    (opening : openWith format config connect = .ok opened) {operations : List (Operation δ)}
    (small : ∀ operation ∈ operations, ∀ frames ∈ operation.payload?,
      frames.size / format.frameSize ≤ block) :
    let geometry := Geometry.ofFormat format config.lowWatermarkMs.toNat
      config.highWatermarkMs.toNat
    (opened.run operations).feed.ring.queuedFrames ≤ geometry.highFrames + block ∧
      opened.feed.ring.Throughout (Ring.Within (geometry.highFrames + block))
        (opened.runMoves operations) := by
  intro geometry
  have known := of_openWith_eq_ok opening
  obtain ⟨consistent, given⟩ := known.ring_run []
  have shape : opened.feed.ring.geometry = geometry := given
  have ordered := ((Config.validate_eq_ok_iff config).1 known.config_valid).1
  have moderate : opened.feed.ring.Moderate block := by
    refine ⟨consistent, known.emptied.settled, ?_, known.emptied.within _⟩
    rw [shape]
    exact Geometry.lowFrames_le_highFrames (UInt32.le_iff_toNat_le.1 ordered)
  have all := throughout_runMoves moderate known.lowFrames_le (by rw [shape]; exact small)
  rw [shape] at all
  refine ⟨?_, all⟩
  rw [← (follows_run opened operations).makes.foldl_after]
  exact all.at_last

/-- A session is offered as much as its high watermark while its device takes little and fails. -/
theorem queued_within_watermark_and_block_with_slow_device :
    let format : Format := ⟨.i16, 1, 500, none⟩
    let device : ScriptedDevice :=
      ⟨"slow", .writeThrough, 2, [], [], [.ok (some 1)], [.ok (some 1), .error .underrun], []⟩
    let config : Config := { lowWatermarkMs := 1, highWatermarkMs := 2 }
    let operations : List (Operation ScriptedDevice) :=
      [.queue ⟨#[1, 2, 3, 4]⟩, .queueSamples Int16 [5], .queue ⟨#[6]⟩, .drain ⟨#[0, 0]⟩]
    let geometry := Geometry.ofFormat format config.lowWatermarkMs.toNat
      config.highWatermarkMs.toNat
    ∃ opened, create device format config = .ok opened ∧
      (∀ operation ∈ operations, ∀ frames ∈ operation.payload?,
        frames.size / format.frameSize ≤ 2) ∧
      (opened.run operations).feed.ring.queuedFrames ≤ geometry.highFrames + 2 ∧
        opened.feed.ring.Throughout (Ring.Within (geometry.highFrames + 2))
          (opened.runMoves operations) := by
  intro format device config operations geometry
  have opening : openWith format config (fun _ => .ok device) = .ok _ := rfl
  have small : ∀ operation ∈ operations, ∀ frames ∈ operation.payload?,
      frames.size / format.frameSize ≤ 2 := by
    simp only [operations, List.forall_mem_cons, Operation.payload?]
    decide
  exact ⟨_, opening, small, queued_within_watermark_and_block opening small⟩

end Session

end Playout
