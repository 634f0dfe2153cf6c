/-
**How a call to a session is counted.**

The counters belong to the ring, which counts a payload once for each offer whose backlog is told. A
call whose device is lost offers its payload twice, and what a call comes to is decided only when
all of this is over. So the outcome of a call and the counters agree as long as nothing fails late,
that is, in a start or a write.

* `Session.countedCall_offer`: what a call adds to the counters, and exactly when this is what its
  outcome says;
* `Session.countsWithin_run`: what a run adds to them;
* `Session.each_told_offer_is_counted`: both, in every state that a session reaches.
-/
import Playout.Proofs.Ring.Tally
import Playout.Proofs.Session.Attempts

namespace Playout

namespace Move

theorem Mends.idle {move : Move} (mends : move.Mends) : Call.Idle (Move.calls [move]) := by
  cases move <;> first | exact ⟨rfl, rfl⟩ | cases mends

theorem Mends.not_settles {move : Move} (mends : move.Mends) : ¬ move.Settles := by
  cases move <;> first | exact id | cases mends

end Move

namespace Session

variable {δ : Type} [Device δ]

/-- Where no call fails, an offer to a session is one to its ring. -/
theorem offer_of_succeeds {session : Session δ} {frames : ByteArray}
    (whole : frames.size % session.feed.ring.geometry.frameSize = 0)
    (all : ∀ call ∈ Move.calls (session.offerMoves frames), call.succeeds = true) :
    session.feed.enqueue frames = (.ok (session.offer frames).1, (session.offer frames).2.feed) ∧
      session.offerMoves frames = session.feed.enqueueMoves frames := by
  have early : ∀ call ∈ Move.calls (session.feed.enqueueMoves frames), call.succeeds = true := by
    intro call member
    refine all call ?_
    rw [offerMoves, Move.calls_append]
    exact List.mem_append_left _ member
  obtain ⟨result, -⟩ := Feed.result_enqueue_of_succeeds whole early
  unfold offer offerMoves
  rcases first : session.feed.enqueue frames with ⟨error | outcome, after⟩
  · rw [first] at result
    cases result
  · exact ⟨rfl, List.append_nil _⟩

/-! ### What a call adds to the counters -/

/-- The calls in which the outcome tells the truth: nothing fails late, and no underrun comes in
place of the backlog; or an underrun comes late, to a payload that was dropped already. -/
def Faithful (session : Session δ) (frames : ByteArray) (calls : List Call) : Prop :=
  (Call.late calls = 0 ∧ (Device.backlog session.feed.device).result ≠ .error .underrun) ∨
    (Call.late calls ≠ 0 ∧ (session.feed.enqueue frames).1 = .error .underrun ∧
      session.feed.verdict frames = .dropped)

/-- **How a call is counted**, of a payload of so many frames. Its frames are counted each time that
the device tells its backlog, which is at most twice, and at most once if nothing fails late. The
counters say what the outcome says just if the call is faithful, or there is no frame to count. -/
structure CountedCall (session : Session δ) (frames : ByteArray) (count : Nat) (outcome : Outcome)
    (after : Feed δ) (calls : List Call) : Prop where
  sum_eq : after.ring.offeredFrames = session.feed.ring.offeredFrames + count * Call.told calls
  told_le : Call.told calls ≤ 2
  told_le_one : Call.late calls = 0 → Call.told calls ≤ 1
  agrees_iff : after.ring.offered = session.feed.ring.offeredAs count outcome ↔
    count = 0 ∨ session.Faithful frames calls

section Counting

variable {session : Session δ} {frames : ByteArray} {count : Nat} {outcome : Outcome}
  {failed again after : Feed δ} {error : Error} {calls : List Call} {mends : List Move}

/-- A payload that is counted at most once, as some outcome says. -/
theorem CountedCall.of_once (given : Outcome)
    (offered_eq : after.ring.offered = session.feed.ring.offeredAs count given)
    (told_eq : Call.told calls = given.times)
    (same : given = outcome ↔ session.Faithful frames calls) :
    CountedCall session frames count outcome after calls := by
  have few : given.times ≤ 1 := by cases given <;> decide
  refine ⟨?_, by omega, fun _ => by omega, ?_⟩
  · rw [told_eq, Ring.offeredFrames_of_offeredAs offered_eq]
  · rw [offered_eq, Ring.offeredAs_eq_iff, same]

/-- A payload that is counted by two offers, which no outcome says. -/
theorem CountedCall.of_twice {first second : Feed δ}
    (first_eq : failed.ring.offered =
      session.feed.ring.offeredAs count (first.verdict frames))
    (second_eq : after.ring.offered = failed.ring.offeredAs count (second.verdict frames))
    (told_eq : Call.told calls = 2) (late_ne : Call.late calls ≠ 0)
    (unfaithful : ¬ session.Faithful frames calls) :
    CountedCall session frames count outcome after calls := by
  have sum_eq : after.ring.offeredFrames = session.feed.ring.offeredFrames + count * 2 := by
    rw [Ring.offeredFrames_of_offeredAs second_eq, Ring.offeredFrames_of_offeredAs first_eq,
      first.times_verdict, second.times_verdict]
    omega
  refine ⟨by rw [told_eq, sum_eq], by omega, fun punctual => absurd punctual late_ne, ?_⟩
  constructor
  · intro agrees
    have once := Ring.offeredFrames_of_offeredAs agrees
    cases outcome <;> simp only [Outcome.times] at once <;> exact .inl (by omega)
  · rintro (rfl | faithful)
    · rw [second_eq, Ring.offeredAs_zero, first_eq, Ring.offeredAs_zero, Ring.offeredAs_zero]
    · exact absurd faithful unfaithful

theorem Mended.idle (mended : Mended failed mends again) :
    Call.Idle (Move.calls (failed.resetMoves ++ mends)) := by
  rw [Move.calls_append]
  exact failed.idle_resetMoves.append
    (Move.idle_of_forall fun move member => (mended.all move member).idle)

/-- Between two offers of one call nothing is counted. -/
theorem Mended.offered_eq (mended : Mended failed mends again) :
    again.ring.offered = failed.ring.offered := by
  rw [← mended.follows.makes.foldl_after, ← failed.offered_reset]
  exact Ring.foldl_after_eq Ring.offered Ring.offered_after
    fun move member => (mended.all move member).not_settles

/-- Without an underrun a call is faithful just if nothing fails late. -/
theorem faithful_iff_of_ne_underrun (calls : List Call)
    (first : session.feed.enqueue frames = (.error error, failed)) (other : error ≠ .underrun) :
    session.Faithful frames calls ↔ Call.late calls = 0 := by
  have result : (session.feed.enqueue frames).1 = .error error := congrArg Prod.fst first
  constructor
  · rintro (⟨punctual, -⟩ | ⟨-, dry, -⟩)
    · exact punctual
    · exact absurd (Except.error.inj (result.symm.trans dry)) other
  · refine fun punctual => .inl ⟨punctual, fun dry => other ?_⟩
    have untold := Feed.result_enqueue_of_untold frames dry
    exact Except.error.inj (result.symm.trans untold)

/-- A call is faithful that offers its payload once and does not fail. -/
theorem countedCall_of_ok
    (counted : Feed.Counted session.feed frames calls (.ok outcome) after.ring) :
    CountedCall session frames (session.feed.ring.frameCount frames) outcome after calls := by
  cases counted with
  | done answer told_eq late_eq offered_eq =>
    refine .of_once _ offered_eq (told_eq.trans (Feed.times_verdict _ _).symm) ?_
    exact ⟨fun _ => .inl ⟨late_eq, fun dry => nomatch answer.symm.trans dry⟩, fun _ => rfl⟩

/-- A call that ends with an underrun is faithful if its payload was counted, and as dropped. -/
theorem countedCall_of_underrun
    (first : (session.feed.enqueue frames).1 = .error .underrun)
    (counted : Feed.Counted session.feed frames calls (.error .underrun) after.ring) :
    CountedCall session frames (session.feed.ring.frameCount frames) .dropped after calls := by
  cases counted with
  | untold answer idle offered_eq =>
    refine .of_once .deviceUnavailable offered_eq idle.told_eq ?_
    constructor
    · exact fun same => nomatch same
    · rintro (⟨-, told⟩ | ⟨failing, -⟩)
      · exact absurd answer told
      · exact absurd idle.late_eq failing
  | spoiled answer told_eq late_pos offered_eq =>
    refine .of_once _ offered_eq (told_eq.trans (Feed.times_verdict _ _).symm) ?_
    constructor
    · exact fun same => .inr ⟨Nat.ne_of_gt late_pos, first, same⟩
    · rintro (⟨punctual, -⟩ | ⟨-, -, same⟩)
      · exact absurd punctual (Nat.ne_of_gt late_pos)
      · exact same

/-- A call that gives up the device after one offer is faithful if its payload was not counted. -/
theorem countedCall_of_unavailable (first : session.feed.enqueue frames = (.error error, failed))
    (other : error ≠ .underrun)
    (counted : Feed.Counted session.feed frames calls (.error error) after.ring) :
    CountedCall session frames (session.feed.ring.frameCount frames) .deviceUnavailable after
      calls := by
  have faithful := faithful_iff_of_ne_underrun calls first other
  cases counted with
  | untold answer idle offered_eq =>
    refine .of_once .deviceUnavailable offered_eq idle.told_eq ?_
    exact ⟨fun _ => faithful.2 idle.late_eq, fun _ => rfl⟩
  | spoiled answer told_eq late_pos offered_eq =>
    refine .of_once _ offered_eq (told_eq.trans (Feed.times_verdict _ _).symm) ?_
    exact ⟨fun same => absurd same (Feed.verdict_ne_deviceUnavailable _ _),
      fun truthful => absurd (faithful.1 truthful) (Nat.ne_of_gt late_pos)⟩

/-- The outcome of a call whose second offer has this result. -/
def secondOutcome : Except Error Outcome → Outcome
  | .ok outcome => outcome
  | .error _ => .deviceUnavailable

section Again

variable {result : Except Error Outcome} {behind : List Call}
  (first : session.feed.enqueue frames = (.error error, failed)) (other : error ≠ .underrun)
  (same : again.ring.geometry = session.feed.ring.geometry)
  (second : Feed.Counted again frames behind result after.ring)

include first other same second

/-- If the first offer was not counted, the second one decides. -/
theorem countedCall_of_again_untold (idle : Call.Idle calls)
    (offered_eq : again.ring.offered = session.feed.ring.offered) :
    CountedCall session frames (session.feed.ring.frameCount frames) (secondOutcome result) after
      (calls ++ behind) := by
  have faithful := faithful_iff_of_ne_underrun (calls ++ behind) first other
  have told : Call.told (calls ++ behind) = Call.told behind := by
    rw [Call.told_append, idle.told_eq, Nat.zero_add]
  have late : Call.late (calls ++ behind) = Call.late behind := by
    rw [Call.late_append, idle.late_eq, Nat.zero_add]
  have size := Ring.frameCount_of_geometry frames same
  cases second with
  | untold _ quiet after_eq =>
    refine .of_once .deviceUnavailable (after_eq.trans offered_eq)
      (told.trans quiet.told_eq) ?_
    exact ⟨fun _ => faithful.2 (late.trans quiet.late_eq), fun _ => rfl⟩
  | spoiled _ told_eq late_pos after_eq =>
    rw [size, Ring.offeredAs_congr offered_eq] at after_eq
    refine .of_once _ after_eq ((told.trans told_eq).trans (Feed.times_verdict _ _).symm) ?_
    exact ⟨fun alike => absurd alike (Feed.verdict_ne_deviceUnavailable _ _),
      fun truthful => absurd (late.symm.trans (faithful.1 truthful)) (Nat.ne_of_gt late_pos)⟩
  | done _ told_eq late_eq after_eq =>
    rw [size, Ring.offeredAs_congr offered_eq] at after_eq
    refine .of_once _ after_eq ((told.trans told_eq).trans (Feed.times_verdict _ _).symm) ?_
    exact ⟨fun _ => faithful.2 (late.trans late_eq), fun _ => rfl⟩

/-- If the first offer was counted, what its outcome says is not what the counters say, whatever the
second one comes to. -/
theorem countedCall_of_again_spoiled (told_eq : Call.told calls = 1)
    (late_pos : 0 < Call.late calls)
    (offered_eq : again.ring.offered = session.feed.ring.offeredAs
      (session.feed.ring.frameCount frames) (session.feed.verdict frames)) :
    CountedCall session frames (session.feed.ring.frameCount frames) (secondOutcome result) after
      (calls ++ behind) := by
  have told := Call.told_append calls behind
  have late_ne : Call.late (calls ++ behind) ≠ 0 := by
    rw [Call.late_append]
    omega
  have unfaithful : ¬ session.Faithful frames (calls ++ behind) := fun truthful =>
    late_ne ((faithful_iff_of_ne_underrun _ first other).1 truthful)
  have size := Ring.frameCount_of_geometry frames same
  cases second with
  | untold _ quiet after_eq =>
    refine .of_once _ (after_eq.trans offered_eq) ?_ ?_
    · rw [told, told_eq, quiet.told_eq, Feed.times_verdict]
    · exact ⟨fun alike => absurd alike (Feed.verdict_ne_deviceUnavailable _ _),
        fun truthful => absurd truthful unfaithful⟩
  | spoiled _ told_again _ after_eq =>
    rw [size] at after_eq
    exact .of_twice offered_eq after_eq (by rw [told, told_eq, told_again]) late_ne unfaithful
  | done _ told_again _ after_eq =>
    rw [size] at after_eq
    exact .of_twice offered_eq after_eq (by rw [told, told_eq, told_again]) late_ne unfaithful

/-- A call that offers its payload to the ring twice is faithful if neither offer failed late. -/
theorem countedCall_of_again
    (counted : Feed.Counted session.feed frames calls (.error error) again.ring) :
    CountedCall session frames (session.feed.ring.frameCount frames) (secondOutcome result) after
      (calls ++ behind) := by
  cases counted with
  | untold _ idle offered_eq =>
    exact countedCall_of_again_untold first other same second idle offered_eq
  | spoiled _ told_eq late_pos offered_eq =>
    exact countedCall_of_again_spoiled first other same second told_eq late_pos offered_eq

end Again

end Counting

/-- **What a call with whole frames adds to the counters.** -/
theorem countedCall_offer {session : Session δ} {frames : ByteArray}
    (whole : frames.size % session.feed.ring.geometry.frameSize = 0) :
    CountedCall session frames (session.feed.ring.frameCount frames) (session.offer frames).1
      (session.offer frames).2.feed (Move.calls (session.offerMoves frames)) := by
  have counted := Feed.counted_enqueue whole
  have way := session.attempted_offer frames
  generalize session.offerMoves frames = moves, (session.offer frames).1 = outcome,
    (session.offer frames).2.feed = after at way ⊢
  -- how the first offer was counted does not change until there is a second one
  have mending : ∀ {error failed again mends},
      session.feed.enqueue frames = (.error error, failed) → Mended failed mends again →
        Feed.Counted session.feed frames
          (Move.calls (session.feed.enqueueMoves frames ++ (failed.resetMoves ++ mends)))
          (.error error) again.ring := by
    intro error failed again mends first mended
    rw [first] at counted
    rw [Move.calls_append]
    exact counted.append mended.idle mended.offered_eq
  cases way with
  | answered first =>
    rw [first] at counted
    exact countedCall_of_ok counted
  | @abandoned error failed _ _ first mended _ =>
    have tally := mending first mended
    by_cases dry : error = .underrun
    · subst dry
      exact countedCall_of_underrun (congrArg Prod.fst first) tally
    · have unavailable : ¬ error.isUnderrun = true := fun told => dry (Error.isUnderrun_iff.1 told)
      rw [if_neg unavailable]
      exact countedCall_of_unavailable first dry tally
  | @retried error failed again _ mends outcome first lost mended _ second =>
    have geometry := (mended.leads whole first).makes.geometry_eq
    have behind : Feed.Counted again frames _ _ _ := Feed.counted_enqueue (geometry ▸ whole)
    rw [second] at behind
    have call := countedCall_of_again first (ne_underrun_of_needsReopen lost) geometry behind
      (mending first mended)
    rw [← Move.calls_append, List.append_assoc, List.append_assoc] at call
    exact call
  | @failedAgain error last failed again refused mends first lost mended _ second =>
    have geometry := (mended.leads whole first).makes.geometry_eq
    have behind : Feed.Counted again frames _ _ _ := Feed.counted_enqueue (geometry ▸ whole)
    rw [second] at behind
    have resetting := behind.append refused.idle_resetMoves refused.offered_reset
    have call : CountedCall session frames _ _ (refused.reset.note (.failedAgain last)) _ :=
      countedCall_of_again first (ne_underrun_of_needsReopen lost) geometry resetting
        (mending first mended)
    rw [← Move.calls_append, ← Move.calls_append, List.append_assoc, List.append_assoc] at call
    exact call

/-! ### What a run adds to the counters -/

/-- The frames that an operation offers to a session, unless it is refused. -/
def framesOffered (session : Session δ) (operation : Operation δ) : Nat :=
  (session.taken? operation).elim 0 session.feed.ring.frameCount

/-- The frames that operations offer to a session, all together. -/
def framesOfferedAll : Session δ → List (Operation δ) → Nat
  | _, [] => 0
  | session, operation :: rest =>
    session.framesOffered operation + (session.perform operation).framesOfferedAll rest

/-- From one ring to a later one, so many frames were offered, and counted at most twice; at most
once, if none of the calls on the way failed late. -/
structure CountsWithin (ring last : Ring) (frames : Nat) (calls : List Call) : Prop where
  at_most_twice : last.offeredFrames ≤ ring.offeredFrames + 2 * frames
  at_most_once : Call.late calls = 0 → last.offeredFrames ≤ ring.offeredFrames + frames

theorem CountsWithin.append {ring middle last : Ring} {first second : Nat}
    {early behind : List Call} (before : CountsWithin ring middle first early)
    (after : CountsWithin middle last second behind) :
    CountsWithin ring last (first + second) (early ++ behind) := by
  refine ⟨?_, fun punctual => ?_⟩
  · have one := before.at_most_twice
    have two := after.at_most_twice
    omega
  · rw [Call.late_append, Nat.add_eq_zero_iff] at punctual
    have one := before.at_most_once punctual.1
    have two := after.at_most_once punctual.2
    omega

theorem CountsWithin.of_offered_eq {ring last : Ring} {calls : List Call}
    (same : last.offered = ring.offered) : CountsWithin ring last 0 calls := by
  have sum : last.offeredFrames = ring.offeredFrames := by
    rw [Ring.offeredFrames, same]
    rfl
  exact ⟨Nat.le_of_eq sum, fun _ => Nat.le_of_eq sum⟩

theorem CountedCall.within {session : Session δ} {frames : ByteArray} {count : Nat}
    {outcome : Outcome} {after : Feed δ} {calls : List Call}
    (counted : CountedCall session frames count outcome after calls) :
    CountsWithin session.feed.ring after.ring count calls := by
  refine ⟨?_, fun punctual => ?_⟩
  · rw [counted.sum_eq, Nat.mul_comm 2]
    exact Nat.add_le_add_left (Nat.mul_le_mul_left count counted.told_le) _
  · have once := Nat.mul_le_mul_left count (counted.told_le_one punctual)
    rw [Nat.mul_one] at once
    rw [counted.sum_eq]
    exact Nat.add_le_add_left once _

theorem countsWithin_perform (session : Session δ) (operation : Operation δ) :
    CountsWithin session.feed.ring (session.perform operation).feed.ring
      (session.framesOffered operation) (Move.calls (session.moves operation)) := by
  unfold framesOffered
  cases taken : session.taken? operation with
  | some frames =>
    obtain ⟨whole, performed, moves⟩ := of_taken taken
    rw [performed, moves]
    exact (countedCall_offer whole).within
  | none =>
    refine .of_offered_eq ?_
    rcases ring_perform_of_untaken taken with rfl | ⟨buffer, rfl⟩ | same
    · exact session.feed.offered_reset
    · exact Ring.offered_after _ (.drain buffer) id
    · rw [same]

/-- **What a run adds to the counters**: the frames that are offered, at most twice. -/
theorem countsWithin_run (session : Session δ) (operations : List (Operation δ)) :
    CountsWithin session.feed.ring (session.run operations).feed.ring
      (session.framesOfferedAll operations) (Move.calls (session.runMoves operations)) := by
  induction operations generalizing session with
  | nil => exact .of_offered_eq rfl
  | cons operation rest ih =>
    rw [runMoves, Move.calls_append]
    exact (session.countsWithin_perform operation).append (ih _)

/-- **What is known of the counters after operations on an opened session** of some format: how each
call that comes next is counted, and how often what was offered can have been counted so far. -/
structure CountsOffers (opened : Session δ) (format : Format) (operations : List (Operation δ)) :
    Prop where
  counted : ∀ frames : ByteArray, frames.size % format.frameSize = 0 →
    frames.size / format.frameSize < UInt32.size →
      ∃ outcome after calls, (opened.run operations).queue frames = .ok (outcome, after) ∧
        after.feed.journal.calls = (opened.run operations).feed.journal.calls ++ calls ∧
        CountedCall (opened.run operations) frames (frames.size / format.frameSize) outcome
          after.feed calls
  samples_counted : ∀ (σ : Type) [Sample σ] (samples : List σ),
    Sample.format σ = format.sampleFormat →
      (Sample.encode samples).size % format.frameSize = 0 →
        (Sample.encode samples).size / format.frameSize < UInt32.size →
          ∃ outcome after calls,
            (opened.run operations).queueSamples samples = .ok (outcome, after) ∧
              after.feed.journal.calls = (opened.run operations).feed.journal.calls ++ calls ∧
              CountedCall (opened.run operations) (Sample.encode samples)
                ((Sample.encode samples).size / format.frameSize) outcome after.feed calls
  at_most_twice : (opened.run operations).feed.ring.offeredFrames ≤
    2 * opened.framesOfferedAll operations
  at_most_once : Call.late (opened.run operations).feed.journal.calls = 0 →
    (opened.run operations).feed.ring.offeredFrames ≤ opened.framesOfferedAll operations

/-- **The counters count offers whose backlog is told, not outcomes**, in every state that an opened
session reaches, and whatever its device answers. A call says by its outcome what it adds to the
counters just if it is faithful, and a run counts what is offered at most once if nothing in it
fails late. -/
theorem each_told_offer_is_counted {format : Format} {config : Config}
    {connect : Ring → Except Error δ} {opened : Session δ}
    (opening : openWith format config connect = .ok opened) (operations : List (Operation δ)) :
    opened.CountsOffers format operations := by
  have known := of_openWith_eq_ok opening
  have followed := follows_run opened operations
  have within := opened.countsWithin_run operations
  have fresh : opened.feed.ring.offeredFrames = 0 := by
    rw [known.ring_eq]
    rfl
  have calls_eq : (opened.run operations).feed.journal.calls =
      Move.calls (opened.runMoves operations) := by
    rw [followed.calls, known.calls_eq, List.nil_append]
  have frameSize : (opened.run operations).feed.ring.geometry.frameSize = format.frameSize := by
    rw [followed.makes.geometry_eq, known.ring_eq]
    rfl
  have sampleFormat :
      (opened.run operations).feed.ring.format.sampleFormat = format.sampleFormat := by
    rw [followed.makes.format_eq, known.ring_eq]
    rfl
  have counted : ∀ frames : ByteArray, frames.size % format.frameSize = 0 →
      frames.size / format.frameSize < UInt32.size →
        ∃ outcome after calls, (opened.run operations).queue frames = .ok (outcome, after) ∧
          after.feed.journal.calls = (opened.run operations).feed.journal.calls ++ calls ∧
          CountedCall (opened.run operations) frames (frames.size / format.frameSize) outcome
            after.feed calls := by
    intro frames whole small
    have count : (opened.run operations).feed.ring.frameCount frames =
        frames.size / format.frameSize := by
      rw [Ring.frameCount, frameSize]
      exact Nat.mod_eq_of_lt small
    rw [← frameSize] at whole
    rw [← count]
    exact ⟨_, _, _, queue_of_whole whole, (follows_offer whole).calls, countedCall_offer whole⟩
  refine ⟨counted, fun σ _ samples same whole small => ?_, ?_, fun punctual => ?_⟩
  · rw [queueSamples_of_format samples (same.trans sampleFormat.symm)]
    exact counted _ whole small
  · have most := within.at_most_twice
    rwa [fresh, Nat.zero_add] at most
  · rw [calls_eq] at punctual
    have most := within.at_most_once punctual
    rwa [fresh, Nat.zero_add] at most

/-- A device that tells no backlog at first, and is then lost in the middle of a write. -/
theorem each_told_offer_is_counted_with_lost_device :
    let format : Format := ⟨.i16, 1, 8000, none⟩
    let device : ScriptedDevice :=
      ⟨"lost", .writeThrough, 2, [], [], [.error .underrun], [.error (.deviceLost "")],
        [.error (.audioOutput ""), .ok ()]⟩
    let config : Config := { lowWatermarkMs := 0, highWatermarkMs := 1 }
    let operations : List (Operation ScriptedDevice) :=
      [.queue ⟨#[1, 2]⟩, .queueSamples Int16 [3, 4], .queue ⟨#[5]⟩, .reset]
    ∃ opened, create device format config = .ok opened ∧
      opened.CountsOffers format operations := by
  intro format device config operations
  have opening : openWith format config (fun _ => .ok device) = .ok _ := rfl
  exact ⟨_, opening, each_told_offer_is_counted opening operations⟩

set_option maxRecDepth 1000 in
/-- An outcome can belie the counters in three ways: nothing is queued, but the frame is counted, as
the device does not start; a dropped frame is counted as queued, as the write runs dry; and a frame
that is queued is counted twice, as the device is lost and opened anew. -/
theorem outcomes_belie_counters :
    let format : Format := ⟨.i16, 1, 3, none⟩
    let device : ScriptedDevice :=
      ⟨"failing", .writeThrough, 2, [.error (.invalidArgument "")], [], [],
        [.error .underrun, .error (.deviceLost "")], []⟩
    let config : Config := { lowWatermarkMs := 0, highWatermarkMs := 1 }
    let frame : ByteArray := ⟨#[1, 2]⟩
    ∃ opened, create device format config = .ok opened ∧
      ((opened.queue frame).map Prod.fst = .ok .deviceUnavailable ∧
        (opened.run [.queue frame]).feed.ring.offered = (1, 0)) ∧
      (((opened.run [.queue frame]).queue frame).map Prod.fst = .ok .dropped ∧
        (opened.run [.queue frame, .queue frame]).feed.ring.offered = (2, 0)) ∧
      (((opened.run [.queue frame, .queue frame]).queue frame).map Prod.fst = .ok .queued ∧
        (opened.run [.queue frame, .queue frame, .queue frame]).feed.ring.offered = (4, 0)) := by
  intro format device config frame
  have opening : openWith format config (fun _ => .ok device) = .ok _ := rfl
  exact ⟨_, opening, by decide +kernel, by decide +kernel, by decide +kernel⟩

end Session

end Playout
