/-
**How a call to a session can go, and what a failed one leaves behind.**

A call offers its payload to the ring. If that fails, the ring is emptied, and the device perhaps
opened anew; then the payload is offered to the empty ring once more. So of a failed call nothing
is left but its own payload, and that at most once.

* `Session.attempted_offer`: the four ways a call can go, with its moves;
* `Session.Mended.emptied`: between two offers of one call the ring is stopped and empty;
* `Feed.leavingAll_append_toList_enqueue`: an offer to an empty ring splits the payload that it takes
  in into what a flush consumes and what stays;
* `Session.nothing_stale_after_failure`: what is left in every state that a session reaches.
-/
import Playout.Proofs.Ring.Order
import Playout.Proofs.Session.Recovery

namespace Playout

/-! ### Empty rings -/

/-- A ring that is stopped and has nothing to read. -/
structure Ring.Emptied (ring : Ring) : Prop where
  playing_eq : ring.playing = false
  queuedFrames_eq : ring.queuedFrames = 0
  toList_eq : ring.storage.toList = []

theorem Ring.emptied_reset (ring : Ring) : ring.reset.Emptied :=
  ⟨rfl, rfl, ring.storage.toList_clear⟩

/-- A move by which a failure is dealt with, once the ring is empty. -/
def Move.Mends : Move → Prop
  | .blameDevice | .reopen _ => True
  | _ => False

theorem Ring.Emptied.after {ring : Ring} {move : Move} (emptied : ring.Emptied)
    (mends : move.Mends) : (ring.after move).Emptied := by
  cases move with
  | blameDevice => exact ⟨emptied.playing_eq, emptied.queuedFrames_eq, emptied.toList_eq⟩
  | reopen _ => exact emptied
  | _ => cases mends

/-! ### Offers to a ring that does not play -/

namespace Feed

variable {δ : Type} [Device δ] {feed : Feed δ} {frames : ByteArray}

theorem emptied_reset (feed : Feed δ) : feed.reset.ring.Emptied := by
  rw [ring_reset]
  exact feed.ring.emptied_reset

theorem Admission.ring_asked (admission : Admission feed frames) :
    admission.asked.ring = feed.ring :=
  (congrArg (·.2.ring) admission.ask_eq).symm

/-- A ring that does not play is not relieved. -/
theorem relieve_of_silent (silent : feed.ring.playing = false) (backlog : Nat) :
    feed.relieve backlog = (saturate (feed.ring.queuedFrames + backlog), feed) ∧
      feed.relieveMoves backlog = [] := by
  simp only [relieve, relieveMoves, silent, Bool.false_eq_true, false_and, if_false, and_self]

theorem Admission.stay (admission : Admission feed frames) (silent : feed.ring.playing = false) :
    ∀ move ∈ admission.moves, move.empties = false := by
  have still : admission.asked.ring.playing = false := by rw [admission.ring_asked, silent]
  rw [Admission.moves, (relieve_of_silent still _).2, List.append_nil]
  exact List.forall_mem_append.2 ⟨by simp [Move.empties], admission.fate.stay⟩

/-- An offer to a ring that does not play does not empty it. -/
theorem stay_enqueueMoves (silent : feed.ring.playing = false) (frames : ByteArray) :
    ∀ move ∈ feed.enqueueMoves frames, move.empties = false := by
  rcases (offered_enqueue feed frames).stages with ⟨_, _, _, asked⟩ | ⟨admission, late, shape, plays⟩
  · rw [asked]
    simp [Move.empties]
  · rw [shape]
    exact List.forall_mem_append.2
      ⟨admission.stay silent, fun move member => (plays move member).empties_eq⟩

/-- **An offer to an empty ring splits its payload**: what a flush consumes, and what can be read
afterwards, is the payload if the ring takes it in, and nothing if it does not. -/
theorem leavingAll_append_toList_enqueue (emptied : feed.ring.Emptied)
    (consistent : feed.ring.Consistent)
    (whole : frames.size % feed.ring.geometry.frameSize = 0) :
    feed.ring.leavingAll (feed.enqueueMoves frames) ++
        (feed.enqueue frames).2.ring.storage.toList =
      if feed.admits frames then frames.data.toList else [] := by
  have balance := (follows_enqueue whole).makes.conserves consistent
    (stay_enqueueMoves emptied.playing_eq frames)
  rw [emptied.toList_eq, List.nil_append, Move.entering, payloads_enqueueMoves] at balance
  rw [← balance]
  split
  · exact List.append_nil _
  · rfl

end Feed

/-! ### The ways a call can go -/

namespace Session

variable {δ : Type} [Device δ]

/-- After a failed offer the ring was emptied, and mending moves led on from there. -/
structure Mended (failed : Feed δ) (mends : List Move) (again : Feed δ) : Prop where
  all : ∀ move ∈ mends, move.Mends
  follows : failed.reset.Follows mends again

/-- Between two offers of one call the ring is stopped and empty. -/
theorem Mended.throughout {failed again : Feed δ} {mends : List Move}
    (mended : Mended failed mends again) :
    failed.reset.ring.Throughout Ring.Emptied mends := by
  exact Ring.throughout_of_forall (fun _ _ emptied mends => emptied.after mends) mended.all
    failed.emptied_reset

/-- From the call on, mending leads to the feed of a second offer. -/
theorem Mended.leads {feed failed again : Feed δ} {frames : ByteArray} {error : Error}
    {mends : List Move} (mended : Mended failed mends again)
    (whole : frames.size % feed.ring.geometry.frameSize = 0)
    (first : feed.enqueue frames = (.error error, failed)) :
    feed.Follows (feed.enqueueMoves frames ++ (failed.resetMoves ++ mends)) again := by
  have offering := Feed.follows_enqueue whole
  rw [first] at offering
  exact offering.append (failed.follows_reset.append mended.follows)

theorem Mended.emptied {failed again : Feed δ} {mends : List Move}
    (mended : Mended failed mends again) : again.ring.Emptied := by
  rw [← mended.follows.makes.foldl_after]
  exact mended.throughout.at_last

/-- **The four ways a call to a session can go**: with its moves, its outcome and the feed that it
leaves. -/
inductive Attempted (session : Session δ) (frames : ByteArray) :
    List Move → Outcome → Feed δ → Prop
  | answered {outcome : Outcome} {after : Feed δ}
      (first : session.feed.enqueue frames = (.ok outcome, after)) :
      Attempted session frames (session.feed.enqueueMoves frames) outcome after
  | abandoned {error : Error} {failed after : Feed δ} {mends : List Move}
      (first : session.feed.enqueue frames = (.error error, failed))
      (mended : Mended failed mends after) (unopened : .reopen (.ok ()) ∉ mends) :
      Attempted session frames
        (session.feed.enqueueMoves frames ++ (failed.resetMoves ++ mends))
        (if error.isUnderrun then .dropped else .deviceUnavailable) after
  | retried {error : Error} {failed again after : Feed δ} {mends : List Move} {outcome : Outcome}
      (first : session.feed.enqueue frames = (.error error, failed))
      (lost : error.needsReopen = true) (mended : Mended failed mends again)
      (opened : .reopen (.ok ()) ∈ mends) (second : again.enqueue frames = (.ok outcome, after)) :
      Attempted session frames
        (session.feed.enqueueMoves frames ++
          (failed.resetMoves ++ (mends ++ again.enqueueMoves frames))) outcome after
  | failedAgain {error last : Error} {failed again refused : Feed δ} {mends : List Move}
      (first : session.feed.enqueue frames = (.error error, failed))
      (lost : error.needsReopen = true) (mended : Mended failed mends again)
      (opened : .reopen (.ok ()) ∈ mends)
      (second : again.enqueue frames = (.error last, refused)) :
      Attempted session frames
        (session.feed.enqueueMoves frames ++
          (failed.resetMoves ++ (mends ++ (again.enqueueMoves frames ++ refused.resetMoves))))
        .deviceUnavailable (refused.reset.note (.failedAgain last))

theorem mends_reopenMoves (device : δ) (left : Nat) :
    ∀ move ∈ reopenMoves device left, move.Mends := by
  intro move member
  obtain ⟨answer, _, rfl⟩ := List.mem_map.1 member
  trivial

theorem opened_mem_reopenMoves_iff (device : δ) (left : Nat) :
    .reopen (.ok ()) ∈ reopenMoves device left ↔ .ok () ∈ reopenAnswers device left := by
  constructor
  · intro member
    obtain ⟨answer, given, same⟩ := List.mem_map.1 member
    rwa [← Move.reopen.inj same]
  · exact fun member => List.mem_map.2 ⟨_, member, rfl⟩

/-- The tries to open a device anew mend the feed, and come to success if one of them succeeds. -/
theorem mended_reopen {failed again : Feed δ} {error : Error} {left : Nat}
    {result : Except Error Unit}
    (tried : reopen (failed.reset.note (.reopening error failed.reset.deviceName)) 1
      (.deviceLost "no reopen attempts made") left = (result, again)) :
    Mended failed (reopenMoves failed.reset.device left) again ∧
      (result = .ok () ↔ .reopen (.ok ()) ∈ reopenMoves failed.reset.device left) := by
  have noted := (Feed.Follows.refl failed.reset).note (.reopening error failed.reset.deviceName)
  have opening := follows_reopen
    (failed.reset.note (.reopening error failed.reset.deviceName)) 1
    (.deviceLost "no reopen attempts made") left failed.silent_reset
  have answers : Tried _ (reopenAnswers failed.reset.device left) _ _ _ := tried_reopen
    (failed.reset.note (.reopening error failed.reset.deviceName)) 1
    (.deviceLost "no reopen attempts made") left
  rw [tried] at opening answers
  refine ⟨⟨mends_reopenMoves _ _, noted.append opening⟩, ?_⟩
  rw [opened_mem_reopenMoves_iff]
  exact answers.result_eq_ok_iff

section Recovering

variable {session : Session δ} {frames : ByteArray} {error : Error} {failed : Feed δ}

/-- Once its device was opened anew, a call offers its payload a second time. -/
theorem attempted_of_opened {again : Feed δ} {mends : List Move}
    (first : session.feed.enqueue frames = (.error error, failed))
    (lost : error.needsReopen = true) (mended : Mended failed mends again)
    (opened : .reopen (.ok ()) ∈ mends) :
    Attempted session frames
      (session.feed.enqueueMoves frames ++
        (failed.resetMoves ++ (mends ++ retryMoves again frames)))
      (retry again frames).1 (retry again frames).2 := by
  unfold retryMoves retry
  rcases second : again.enqueue frames with ⟨last | outcome, after⟩
  · exact .failedAgain first lost mended opened second
  · rw [List.append_nil]
    exact .retried first lost mended opened second

theorem attempted_of_failed (first : session.feed.enqueue frames = (.error error, failed)) :
    Attempted session frames
      (session.feed.enqueueMoves frames ++
        (failed.resetMoves ++ recoverMoves session.recovery failed.reset frames error))
      (recover session.recovery failed.reset frames error).1
      (recover session.recovery failed.reset frames error).2 := by
  unfold recoverMoves recover
  by_cases dry : error.isUnderrun = true
  · have blamed := (Feed.follows_silent (.blameDevice) failed.reset failed.silent_reset rfl).note
      (.deviceUnderrun failed.reset.deviceName)
    have mended : Mended failed [.blameDevice] _ := ⟨by simp [Move.Mends], blamed⟩
    have way := Attempted.abandoned first mended (by simp)
    rw [if_pos dry] at way
    rw [if_pos dry, if_pos dry]
    exact way
  by_cases lost : error.needsReopen = true
  · rw [if_neg dry, if_neg dry, if_pos lost, if_pos lost]
    rcases tried : reopen (failed.reset.note (.reopening error failed.reset.deviceName)) 1
      (.deviceLost "no reopen attempts made") session.recovery.maxTries.toNat with
      ⟨last | _, again⟩
    · obtain ⟨mended, opened⟩ := mended_reopen tried
      have unopened : .reopen (.ok ()) ∉ reopenMoves failed.reset.device _ :=
        fun member => by simpa using opened.2 member
      have way := Attempted.abandoned first
        ⟨mended.all, mended.follows.note (.recoveryFailed last)⟩ unopened
      rw [if_neg dry] at way
      rw [List.append_nil]
      exact way
    · obtain ⟨mended, opened⟩ := mended_reopen tried
      exact attempted_of_opened first lost mended (opened.1 rfl)
  · have quiet := (Feed.Follows.refl failed.reset).note (.deviceFailed error)
    have mended : Mended failed [] _ := ⟨by simp, quiet⟩
    have way := Attempted.abandoned first mended (by simp)
    rw [if_neg dry] at way
    rw [if_neg dry, if_neg dry, if_neg lost, if_neg lost]
    exact way

end Recovering

/-- **A call goes one of the four ways.** -/
theorem attempted_offer (session : Session δ) (frames : ByteArray) :
    Attempted session frames (session.offerMoves frames) (session.offer frames).1
      (session.offer frames).2.feed := by
  unfold offerMoves offer
  rcases first : session.feed.enqueue frames with ⟨error | outcome, failed⟩
  · exact attempted_of_failed first
  · rw [List.append_nil]
    exact .answered first

/-! ### What a failed call leaves behind -/

/-- After a failed offer the device was opened anew, and the payload was offered to the empty ring
a second time, with this outcome. -/
structure OfferedAgain (failed again : Feed δ) (frames : ByteArray) (outcome : Outcome)
    (after : Feed δ) : Prop where
  mended : ∃ mends, Mended failed mends again ∧ .reopen (.ok ()) ∈ mends
  emptied : again.ring.Emptied
  enqueue_eq : again.enqueue frames = (.ok outcome, after)
  follows : again.Follows (again.enqueueMoves frames) after

/-- **What a call leaves behind** whose first offer failed. A payload that is queued after all is
there once: what the flush of the second offer consumed, and what can be read, is just the payload. -/
structure NothingStale (failed : Feed δ) (error : Error) (frames : ByteArray) (outcome : Outcome)
    (after : Feed δ) : Prop where
  unavailable : outcome = .deviceUnavailable → after.ring.Emptied
  ranDry : error = .underrun → outcome = .dropped ∧ after.ring.Emptied
  queued : outcome = .queued →
    ∃ again, OfferedAgain failed again frames .queued after ∧
      again.ring.leavingAll (again.enqueueMoves frames) ++ after.ring.storage.toList =
        frames.data.toList
  dropped : outcome = .dropped → error ≠ .underrun →
    (∃ again, OfferedAgain failed again frames .dropped after) ∧ after.ring.storage.toList = []

theorem NothingStale.of_emptied {failed after : Feed δ} {error : Error} {frames : ByteArray}
    (emptied : after.ring.Emptied) :
    NothingStale failed error frames (if error.isUnderrun then .dropped else .deviceUnavailable)
      after := by
  by_cases dry : error = .underrun
  · have told : error.isUnderrun = true := Error.isUnderrun_iff.2 dry
    rw [if_pos told]
    exact ⟨fun _ => emptied, fun _ => ⟨rfl, emptied⟩, fun same => (nomatch same),
      fun _ other => absurd dry other⟩
  · have told : ¬ error.isUnderrun = true := fun told => dry (Error.isUnderrun_iff.1 told)
    rw [if_neg told]
    exact ⟨fun _ => emptied, fun same => absurd same dry, fun same => (nomatch same),
      fun same => (nomatch same)⟩

theorem ne_underrun_of_needsReopen {error : Error} (lost : error.needsReopen = true) :
    error ≠ .underrun := by
  rintro rfl
  cases lost

theorem NothingStale.of_offeredAgain {failed again after : Feed δ} {error : Error}
    {frames : ByteArray} {outcome : Outcome} (lost : error.needsReopen = true)
    (offered : OfferedAgain failed again frames outcome after)
    (consistent : again.ring.Consistent)
    (whole : frames.size % again.ring.geometry.frameSize = 0) :
    NothingStale failed error frames outcome after := by
  have told := Feed.outcome_enqueue (congrArg Prod.fst offered.enqueue_eq)
  have split := Feed.leavingAll_append_toList_enqueue offered.emptied consistent whole
  rw [offered.enqueue_eq] at split
  by_cases admitted : again.admits frames = true
  · rw [if_pos admitted] at told split
    subst told
    exact ⟨fun same => (nomatch same), fun same => absurd same (ne_underrun_of_needsReopen lost),
      fun _ => ⟨again, offered, split⟩, fun same => (nomatch same)⟩
  · rw [if_neg admitted] at told split
    subst told
    exact ⟨fun same => (nomatch same), fun same => absurd same (ne_underrun_of_needsReopen lost),
      fun same => (nomatch same), fun _ _ => ⟨⟨again, offered⟩, (List.append_eq_nil_iff.1 split).2⟩⟩

theorem nothingStale_offer {session : Session δ} {frames : ByteArray} {error : Error}
    {failed : Feed δ} (consistent : session.feed.ring.Consistent)
    (whole : frames.size % session.feed.ring.geometry.frameSize = 0)
    (first : session.feed.enqueue frames = (.error error, failed)) :
    NothingStale failed error frames (session.offer frames).1 (session.offer frames).2.feed := by
  have way := session.attempted_offer frames
  generalize session.offerMoves frames = moves, (session.offer frames).1 = outcome,
    (session.offer frames).2.feed = after at way ⊢
  cases way with
  | answered result =>
    rw [first] at result
    cases result
  | abandoned result mended _ =>
    rw [first] at result
    cases result
    exact .of_emptied mended.emptied
  | @retried _ _ again _ _ _ result lost mended opened second =>
    rw [first] at result
    cases result
    have leading := (mended.leads whole first).makes
    have again_whole : frames.size % again.ring.geometry.frameSize = 0 := by
      rw [leading.geometry_eq]
      exact whole
    have following := Feed.follows_enqueue again_whole
    rw [second] at following
    exact .of_offeredAgain lost ⟨⟨_, mended, opened⟩, mended.emptied, second, following⟩
      (leading.consistent consistent) again_whole
  | @failedAgain _ _ _ _ refused _ result lost mended _ _ =>
    rw [first] at result
    cases result
    exact ⟨fun _ => refused.emptied_reset, fun same => absurd same (ne_underrun_of_needsReopen lost),
      fun same => (nomatch same), fun same => (nomatch same)⟩

/-- **After a failure nothing stale survives**, in every state that an opened session reaches and
whatever its device answers: a call with whole frames whose first offer fails returns, and leaves
behind what `NothingStale` says. -/
theorem nothing_stale_after_failure {format : Format} {config : Config}
    {connect : Ring → Except Error δ} {opened : Session δ}
    (opening : openWith format config connect = .ok opened) (operations : List (Operation δ))
    {frames : ByteArray} {error : Error} {failed : Feed δ}
    (whole : frames.size % (opened.run operations).feed.ring.geometry.frameSize = 0)
    (first : (opened.run operations).feed.enqueue frames = (.error error, failed)) :
    ∃ outcome after, (opened.run operations).queue frames = .ok (outcome, after) ∧
      NothingStale failed error frames outcome after.feed := by
  have consistent := ((of_openWith_eq_ok opening).ring_run operations).1
  exact ⟨_, _, queue_of_whole whole, nothingStale_offer consistent whole first⟩

set_option maxRecDepth 1000 in
/-- A device is lost while an older payload waits in the ring, is opened anew at the second try, and
takes a part of the payload. -/
theorem nothing_stale_with_lost_device :
    let format : Format := ⟨.i16, 1, 3, none⟩
    let device : ScriptedDevice :=
      ⟨"lost", .writeThrough, 2, [], [], [.ok none, .error (.deviceLost "")],
        [.ok (some 0), .ok (some 1)], [.error (.audioOutput ""), .ok ()]⟩
    let config : Config := { lowWatermarkMs := 0, highWatermarkMs := 1 }
    let operations : List (Operation ScriptedDevice) := [.queue ⟨#[1, 2]⟩]
    let frames : ByteArray := ⟨#[3, 4, 5, 6]⟩
    ∃ opened failed, create device format config = .ok opened ∧
      frames.size % (opened.run operations).feed.ring.geometry.frameSize = 0 ∧
        (opened.run operations).feed.enqueue frames = (.error (.deviceLost ""), failed) ∧
          ∃ after, (opened.run operations).queue frames = .ok (.queued, after) ∧
            NothingStale failed (.deviceLost "") frames .queued after.feed := by
  intro format device config operations frames
  have opening : openWith format config (fun _ => .ok device) = .ok _ := rfl
  have lost : ∀ {opened}, create device format config = .ok opened →
      ((opened.run operations).feed.enqueue frames).1 = .error (.deviceLost "") := by
    intro opened same
    cases same
    decide +kernel
  have told : ∀ {opened}, create device format config = .ok opened →
      ((opened.run operations).offer frames).1 = .queued := by
    intro opened same
    cases same
    decide +kernel
  refine ⟨_, _, opening, by decide +kernel, Prod.ext (lost opening) rfl, ?_⟩
  obtain ⟨outcome, after, taken, left⟩ :=
    nothing_stale_after_failure opening operations (by decide +kernel) (Prod.ext (lost opening) rfl)
  have same : outcome = .queued := by
    rw [queue_of_whole (by decide +kernel)] at taken
    rw [← told opening]
    exact congrArg Prod.fst (Except.ok.inj taken).symm
  rw [same] at taken left
  exact ⟨after, taken, left⟩

end Session

end Playout
