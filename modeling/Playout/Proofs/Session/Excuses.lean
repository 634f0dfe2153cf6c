/-
**Which underruns stop playback.**

A ring that is found dry or overfull while it plays is counted as such and reset. A session counts
one more kind of underrun, namely what its device reports, and resets the ring before it does. That
reset is counted only if the ring was playing. So an underrun that is reported to a silent ring, by
a start or in place of the backlog, is the one that no reset covers.

* `Session.covered_offer_iff`: a call adds no more underruns and overruns than resets just if its
  underrun, if any, does not come to a silent ring;
* `Session.covered_run`: along a run, resets fall short by as many calls as are not like that;
* `Session.underruns_are_resets_or_idle`: this in every state that a session reaches.
-/
import Playout.Proofs.Ring.Balance
import Playout.Proofs.Session.Recovery

namespace Playout

namespace Ring

variable {ring last : Ring}

/-- From one ring to a later one, all underruns and overruns but so many have been resets. -/
def Covered (ring last : Ring) (idle : Nat) : Prop :=
  ring.stats.resets + (last.stats.underruns + last.stats.overruns) ≤
    last.stats.resets + (ring.stats.underruns + ring.stats.overruns + idle)

theorem Covered.trans {middle : Ring} {first second : Nat} (before : Covered ring middle first)
    (behind : Covered middle last second) : Covered ring last (first + second) := by
  unfold Covered at before behind ⊢
  omega

/-- A ring that is reset for a reason only has its underruns and overruns covered. -/
theorem Excused.covered {asked : Nat} (excused : Excused ring last asked) :
    Covered ring last 0 := by
  unfold Excused at excused
  unfold Covered
  omega

theorem Covered.of_eq (same : last.excuses = ring.excuses) : Covered ring last 0 :=
  (Excused.of_eq same).covered

theorem covered_reset (ring : Ring) : Covered ring ring.reset 0 :=
  ring.excused_reset.covered

end Ring

namespace Session

variable {δ : Type} [Device δ] {session : Session δ} {frames : ByteArray}

/-! ### Calls -/

/-- A call is stopped by an underrun that the device reports to a silent ring. -/
def RunsIdle (session : Session δ) (frames : ByteArray) : Prop :=
  (session.feed.enqueue frames).1 = .error .underrun ∧
    (session.feed.enqueue frames).2.ring.playing = false

instance (session : Session δ) (frames : ByteArray) : Decidable (session.RunsIdle frames) :=
  inferInstanceAs (Decidable (_ ∧ _))

theorem covered_retry {feed : Feed δ} (whole : frames.size % feed.ring.geometry.frameSize = 0) :
    feed.ring.Covered (retry feed frames).2.ring 0 := by
  have offering := (Feed.excused_enqueue whole).covered
  unfold retry
  rcases result : feed.enqueue frames with ⟨error | outcome, after⟩
  · rw [result] at offering
    have resetting := after.ring.covered_reset
    rw [← Feed.ring_reset] at resetting
    exact offering.trans resetting
  · rw [result] at offering
    exact offering

/-- What is done about a failure other than an underrun counts no underrun that is not a reset. -/
theorem covered_recover {feed : Feed δ} {error : Error} (policy : RecoveryPolicy)
    (other : error ≠ .underrun) (whole : frames.size % feed.ring.geometry.frameSize = 0) :
    feed.ring.Covered (recover policy feed frames error).2.ring 0 := by
  have dry : ¬ error.isUnderrun = true := fun told => other (Error.isUnderrun_iff.1 told)
  unfold recover
  rw [if_neg dry]
  split
  · have opening := (tried_reopen (feed.note (.reopening error feed.deviceName)) 1
      (.deviceLost "no reopen attempts made") policy.maxTries.toNat).ring_eq
    rcases opened : reopen (feed.note (.reopening error feed.deviceName)) 1
      (.deviceLost "no reopen attempts made") policy.maxTries.toNat with ⟨last | _, after⟩
    · rw [opened] at opening
      exact .of_eq (congrArg Ring.excuses opening)
    · rw [opened] at opening
      have same : after.ring = feed.ring := opening
      rw [← same] at whole ⊢
      exact covered_retry whole
  · exact .of_eq rfl

/-- Of an underrun that the device reports, the ring is reset and then blamed. -/
theorem ring_offer_of_underrun {failed : Feed δ}
    (first : session.feed.enqueue frames = (.error .underrun, failed)) :
    (session.offer frames).2.feed.ring = failed.ring.reset.countUnderrun := by
  rw [offer_of_error first, ← Feed.ring_reset]
  rfl

/-- An underrun that is reported to a silent ring is one that is not a reset. -/
theorem idle_offer (whole : frames.size % session.feed.ring.geometry.frameSize = 0)
    (idle : session.RunsIdle frames) :
    session.feed.ring.Covered (session.offer frames).2.feed.ring 1 ∧
      ¬ session.feed.ring.Covered (session.offer frames).2.feed.ring 0 := by
  have offering := Feed.excused_enqueue whole
  obtain ⟨dry, silent⟩ := idle
  rcases first : session.feed.enqueue frames with ⟨result, failed⟩
  rw [first] at offering dry
  have still : failed.ring.playing = false := by rwa [first] at silent
  subst dry
  have resetting := failed.ring.excused_reset
  rw [ring_offer_of_underrun first]
  simp only [Ring.Excused, Ring.Covered, Ring.countUnderrun, still, Bool.false_eq_true, if_false]
    at offering resetting ⊢
  omega

theorem covered_offer_of_not_idle
    (whole : frames.size % session.feed.ring.geometry.frameSize = 0)
    (busy : ¬ session.RunsIdle frames) :
    session.feed.ring.Covered (session.offer frames).2.feed.ring 0 := by
  have offering := Feed.excused_enqueue whole
  have following := (Feed.follows_enqueue whole).makes
  rcases first : session.feed.enqueue frames with ⟨error | outcome, failed⟩
  · rw [first] at offering following
    have resetting := failed.ring.excused_reset
    by_cases dry : error = .underrun
    · subst dry
      have playing : failed.ring.playing = true := by
        refine Decidable.byContradiction fun silent => busy ?_
        rw [RunsIdle, first]
        exact ⟨rfl, Bool.eq_false_iff.2 silent⟩
      rw [ring_offer_of_underrun first]
      simp only [Ring.Excused, Ring.Covered, Ring.countUnderrun, playing, if_true]
        at offering resetting ⊢
      omega
    · rw [offer_of_error first]
      have before := offering.covered.trans resetting.covered
      rw [← Feed.ring_reset] at before
      refine before.trans (covered_recover _ dry ?_)
      rw [Feed.ring_reset]
      exact (congrArg (frames.size % ·.frameSize) following.geometry_eq).trans whole
  · rw [first] at offering
    unfold offer
    rw [first]
    exact offering.covered

/-- **A call adds no more underruns and overruns than resets** just if no underrun is reported to a
silent ring in it. -/
theorem covered_offer_iff (whole : frames.size % session.feed.ring.geometry.frameSize = 0) :
    session.feed.ring.Covered (session.offer frames).2.feed.ring 0 ↔ ¬ session.RunsIdle frames := by
  constructor
  · exact fun covered idle => (idle_offer whole idle).2 covered
  · exact covered_offer_of_not_idle whole

/-! ### Runs -/

/-- Whether an underrun is reported to a silent ring in an operation, as a number. -/
def idleUnderruns (session : Session δ) (operation : Operation δ) : Nat :=
  (session.taken? operation).elim 0 fun frames => if session.RunsIdle frames then 1 else 0

/-- How many underruns are reported to a silent ring in operations. -/
def idleUnderrunsAll : Session δ → List (Operation δ) → Nat
  | _, [] => 0
  | session, operation :: rest =>
    session.idleUnderruns operation + (session.perform operation).idleUnderrunsAll rest

theorem covered_perform (session : Session δ) (operation : Operation δ) :
    session.feed.ring.Covered (session.perform operation).feed.ring
      (session.idleUnderruns operation) := by
  unfold idleUnderruns
  cases taken : session.taken? operation with
  | some frames =>
    obtain ⟨whole, performed, -⟩ := of_taken taken
    rw [performed]
    show Ring.Covered _ _ (if session.RunsIdle frames then 1 else 0)
    split
    · next idle => exact (idle_offer whole idle).1
    · next busy => exact covered_offer_of_not_idle whole busy
  | none =>
    rcases ring_perform_of_untaken taken with rfl | ⟨buffer, rfl⟩ | same
    · have resetting := session.feed.ring.covered_reset
      rw [← Feed.ring_reset] at resetting
      exact resetting
    · exact .of_eq (Ring.excuses_after _ (.drain buffer) ⟨id, nofun⟩)
    · exact .of_eq (congrArg Ring.excuses same)

/-- **Along a run all underruns and overruns are resets**, but those that are reported to a silent
ring. -/
theorem covered_run (session : Session δ) (operations : List (Operation δ)) :
    session.feed.ring.Covered (session.run operations).feed.ring
      (session.idleUnderrunsAll operations) := by
  induction operations generalizing session with
  | nil => exact .of_eq rfl
  | cons operation rest ih => exact (session.covered_perform operation).trans (ih _)

/-- **What is known of underruns after operations on an opened session**: which of them are resets
so far, and exactly when the next call adds one that is not. -/
structure CoversUnderruns (opened : Session δ) (operations : List (Operation δ)) : Prop where
  all_but_idle : (opened.run operations).feed.ring.stats.underruns +
      (opened.run operations).feed.ring.stats.overruns ≤
    (opened.run operations).feed.ring.stats.resets + opened.idleUnderrunsAll operations
  next : ∀ frames : ByteArray,
    frames.size % (opened.run operations).feed.ring.geometry.frameSize = 0 →
      ∃ outcome after, (opened.run operations).queue frames = .ok (outcome, after) ∧
        ((opened.run operations).feed.ring.Covered after.feed.ring 0 ↔
          ¬ (opened.run operations).RunsIdle frames)

/-- **Underruns and overruns are resets, or are reported to a silent ring**, in every state that an
opened session reaches, and whatever its device answers. -/
theorem underruns_are_resets_or_idle {format : Format} {config : Config}
    {connect : Ring → Except Error δ} {opened : Session δ}
    (opening : openWith format config connect = .ok opened) (operations : List (Operation δ)) :
    opened.CoversUnderruns operations := by
  have known := of_openWith_eq_ok opening
  refine ⟨?_, fun frames whole => ⟨_, _, queue_of_whole whole, covered_offer_iff whole⟩⟩
  have covered := opened.covered_run operations
  rw [Ring.Covered, known.ring_eq] at covered
  simpa only [Ring.ofFormat, Nat.zero_add] using covered

/-- A device that runs dry in a write, in a start and in place of its backlog. -/
theorem underruns_are_resets_or_idle_with_dry_device :
    let format : Format := ⟨.i16, 1, 3, none⟩
    let device : ScriptedDevice :=
      ⟨"dry", .writeThrough, 2, [.ok (), .error .underrun], [],
        [.ok none, .ok none, .error .underrun], [.error .underrun], []⟩
    let config : Config := { lowWatermarkMs := 0, highWatermarkMs := 1 }
    let operations : List (Operation ScriptedDevice) :=
      [.queue ⟨#[1, 2]⟩, .queueSamples Int16 [3], .queue ⟨#[5]⟩, .queue ⟨#[6, 7]⟩, .reset]
    ∃ opened, create device format config = .ok opened ∧ opened.CoversUnderruns operations := by
  intro format device config operations
  have opening : openWith format config (fun _ => .ok device) = .ok _ := rfl
  exact ⟨_, opening, underruns_are_resets_or_idle opening operations⟩

/-- A device that reports an underrun before it was ever started: there is an underrun, and no
reset. -/
theorem underrun_without_reset :
    let format : Format := ⟨.i16, 1, 3, none⟩
    let device : ScriptedDevice :=
      ⟨"dry", .writeThrough, 2, [], [], [.error .underrun], [], []⟩
    ∃ opened, create device format {} = .ok opened ∧
      ¬ ((opened.run [.queue ⟨#[1, 2]⟩]).feed.ring.stats.underruns +
          (opened.run [.queue ⟨#[1, 2]⟩]).feed.ring.stats.overruns ≤
        (opened.run [.queue ⟨#[1, 2]⟩]).feed.ring.stats.resets) := by
  intro format device
  have opening : openWith format {} (fun _ => .ok device) = .ok _ := rfl
  exact ⟨_, opening, by decide +kernel⟩

end Session

end Playout
