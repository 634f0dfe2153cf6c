/-
**How a session goes on when its device fails.**

The calls of a device tell the offers to its ring, each of which asks for the backlog once, and the
tries to open it anew.

* `Feed.calls_enqueueMoves`: an offer to a ring is one offer, and opens nothing;
* `Session.tried_reopen`: what comes of the tries to open a device anew is the last answer;
* `Session.recovered_of_needsReopen`: a lost device is opened anew at the last of its tries or not at
  all, and only in the first case is there a second offer;
* `Session.recovery_is_bounded`: in every state that a session reaches, a call makes at most two
  offers, and what it comes to depends on the first one alone unless the device was lost.
-/
import Mathlib.Tactic.SplitIfs
import Playout.Device.Scripted
import Playout.Proofs.Operation

namespace Playout

/-! ### Offers and tries among the calls of a device -/

namespace Call

/-- Whether a call asks for the backlog, which is how each offer to a ring begins. -/
def isBacklog : Call → Bool
  | .backlog _ => true
  | _ => false

/-- The answer to a call that opens the device anew. -/
def reopened? : Call → Option (Except Error Unit)
  | .reopen answer => some answer
  | _ => none

/-- The number of offers to a ring that calls belong to. -/
def offers (calls : List Call) : Nat := calls.countP isBacklog

/-- The answers to the calls that open the device anew. -/
def reopens (calls : List Call) : List (Except Error Unit) := calls.filterMap reopened?

@[simp] theorem offers_append (first second : List Call) :
    offers (first ++ second) = offers first + offers second :=
  List.countP_append

@[simp] theorem reopens_append (first second : List Call) :
    reopens (first ++ second) = reopens first ++ reopens second :=
  List.filterMap_append

end Call

/-- Moves that neither offer anything to a ring nor open its device anew. -/
structure Move.Quiet (moves : List Move) : Prop where
  offers_eq : Call.offers (Move.calls moves) = 0
  reopens_eq : Call.reopens (Move.calls moves) = []

theorem Move.Quiet.append {first second : List Move} (before : Move.Quiet first)
    (behind : Move.Quiet second) : Move.Quiet (first ++ second) := by
  refine ⟨?_, ?_⟩
  · rw [Move.calls_append, Call.offers_append, before.offers_eq, behind.offers_eq]
  · rw [Move.calls_append, Call.reopens_append, before.reopens_eq, behind.reopens_eq]
    rfl

theorem Move.quiet_of_forall {moves : List Move} (all : ∀ move ∈ moves, Move.Quiet [move]) :
    Move.Quiet moves := by
  induction moves with
  | nil => exact ⟨rfl, rfl⟩
  | cons move moves ih =>
    obtain ⟨here, behind⟩ := List.forall_mem_cons.1 all
    exact here.append (ih behind)

theorem Move.Relieves.quiet {move : Move} (relieves : move.Relieves) : Move.Quiet [move] := by
  cases move <;> first | exact ⟨rfl, rfl⟩ | cases relieves

theorem Move.Plays.quiet {move : Move} (plays : move.Plays) : Move.Quiet [move] := by
  cases move <;> first | exact ⟨rfl, rfl⟩ | cases plays

namespace Feed

variable {δ : Type} [Device δ]

theorem quiet_resetMoves (feed : Feed δ) : Move.Quiet feed.resetMoves :=
  Move.quiet_of_forall fun move member => (feed.relieves_resetMoves move member).quiet

theorem Fate.quiet {feed : Feed δ} {frames : ByteArray} {moves : List Move}
    (fate : Fate feed frames moves) : Move.Quiet moves := by
  cases fate <;> exact ⟨rfl, rfl⟩

/-- An offer to a ring is one offer, and opens nothing anew. -/
theorem calls_enqueueMoves (feed : Feed δ) (frames : ByteArray) :
    Call.offers (Move.calls (feed.enqueueMoves frames)) = 1 ∧
      Call.reopens (Move.calls (feed.enqueueMoves frames)) = [] := by
  obtain ⟨answer, early, fate, late, shape, relieves, decided, plays⟩ :=
    (offered_enqueue feed frames).shape
  have before := Move.quiet_of_forall fun move member => (relieves move member).quiet
  have behind := Move.quiet_of_forall fun move member => (plays move member).quiet
  have quiet := (before.append decided.quiet).append behind
  rw [shape, Move.calls_cons, Call.offers_append, Call.reopens_append, quiet.offers_eq,
    quiet.reopens_eq]
  exact ⟨rfl, rfl⟩

end Feed

namespace Session

variable {δ : Type} [Device δ]

/-! ### Tries to open a device anew -/

/-- A device after so many calls that open it anew. -/
def reopenTimes (device : δ) : Nat → δ
  | 0 => device
  | count + 1 => reopenTimes (Device.reopen device).device count

theorem calls_reopenMoves (device : δ) (left : Nat) :
    Move.calls (reopenMoves device left) = (reopenAnswers device left).map .reopen := by
  rw [reopenMoves, Move.calls, List.filterMap_map]
  exact congrFun List.filterMap_eq_map' _

theorem offers_reopenMoves (device : δ) (left : Nat) :
    Call.offers (Move.calls (reopenMoves device left)) = 0 := by
  rw [calls_reopenMoves, Call.offers, List.countP_map, List.countP_eq_zero]
  exact fun _ _ => Bool.false_ne_true

theorem reopens_reopenMoves (device : δ) (left : Nat) :
    Call.reopens (Move.calls (reopenMoves device left)) = reopenAnswers device left := by
  rw [calls_reopenMoves, Call.reopens, List.filterMap_map]
  exact List.filterMap_some

theorem length_reopenAnswers_le (device : δ) (left : Nat) :
    (reopenAnswers device left).length ≤ left := by
  induction left generalizing device with
  | zero => exact Nat.le_refl 0
  | succ left ih =>
    simp only [reopenAnswers]
    generalize Device.reopen device = reply
    obtain ⟨device, error | _, notices⟩ := reply
    · exact Nat.succ_le_succ (ih device)
    · exact Nat.succ_le_succ (Nat.zero_le left)

theorem reopenAnswers_ne_nil (device : δ) {left : Nat} (tries : left ≠ 0) :
    reopenAnswers device left ≠ [] := by
  cases left with
  | zero => exact absurd rfl tries
  | succ left => exact List.cons_ne_nil _ _

/-- The tries end with the first success. -/
theorem ne_ok_of_mem_dropLast (device : δ) (left : Nat) :
    ∀ answer ∈ (reopenAnswers device left).dropLast, answer ≠ .ok () := by
  induction left generalizing device with
  | zero => simp [reopenAnswers]
  | succ left ih =>
    simp only [reopenAnswers]
    generalize Device.reopen device = reply
    obtain ⟨device, error | _, notices⟩ := reply
    · dsimp only
      by_cases none : reopenAnswers device left = []
      · rw [none]
        simp
      · rw [List.dropLast_cons_of_ne_nil none, List.forall_mem_cons]
        refine ⟨?_, ih device⟩
        intro same
        cases same
    · simp

/-- Tries to open the device of a feed anew got these answers and came to a result. Nothing else
was done; `last` is the error to report if there was no answer. -/
structure Tried (feed : Feed δ) (answers : List (Except Error Unit)) (last : Error)
    (result : Except Error Unit) (after : Feed δ) : Prop where
  result_eq : result = answers.getLast?.getD (.error last)
  ring_eq : after.ring = feed.ring
  device_eq : after.device = reopenTimes feed.device answers.length
  calls_eq : after.journal.calls = feed.journal.calls ++ answers.map .reopen

/-- **What comes of the tries is the last answer.** -/
theorem tried_reopen (feed : Feed δ) (attempt : Nat) (last : Error) (left : Nat) :
    Tried feed (reopenAnswers feed.device left) last (reopen feed attempt last left).1
      (reopen feed attempt last left).2 := by
  induction left generalizing feed attempt last with
  | zero => exact ⟨rfl, rfl, rfl, (List.append_nil _).symm⟩
  | succ left ih =>
    have called := feed.calls_record (Device.reopen feed.device) .reopen
    have times : ∀ count, reopenTimes feed.device (count + 1) =
      reopenTimes (Device.reopen feed.device).device count := fun _ => rfl
    simp only [reopenAnswers, reopen, Feed.reopenDevice, Feed.record] at called ⊢
    generalize Device.reopen feed.device = reply at called times ⊢
    obtain ⟨device, error | _, notices⟩ := reply
    · obtain ⟨result_eq, ring_eq, device_eq, calls_eq⟩ := ih
        (Feed.note ⟨feed.ring, device, feed.journal.push (.call (.reopen (.error error))) ++
          notices.toArray.map Event.notice⟩ (.reopenFailed attempt error)) (attempt + 1) error
      refine ⟨?_, ring_eq, device_eq.trans (times _).symm, ?_⟩
      · rw [result_eq, List.getLast?_cons]
        rfl
      · refine calls_eq.trans ?_
        rw [Feed.note, Journal.calls_push_notice, called, List.append_assoc]
        rfl
    · exact ⟨rfl, rfl, (times 0).symm, (Journal.calls_push_notice ..).trans called⟩

/-- With a try left, the error to report if there is none is never reported. -/
theorem reopen_fallback (feed : Feed δ) (attempt : Nat) (last other : Error) {left : Nat}
    (tries : left ≠ 0) : reopen feed attempt last left = reopen feed attempt other left := by
  cases left with
  | zero => exact absurd rfl tries
  | succ left => rfl

/-- The tries end well if one of them does. -/
theorem Tried.result_eq_ok_iff {feed after : Feed δ} {device : δ} {left : Nat} {last : Error}
    {result : Except Error Unit} (tried : Tried feed (reopenAnswers device left) last result after) :
    result = .ok () ↔ .ok () ∈ reopenAnswers device left := by
  rw [tried.result_eq]
  constructor
  · intro opened
    cases final : (reopenAnswers device left).getLast? with
    | none =>
      rw [final] at opened
      cases opened
    | some answer =>
      have success : answer = .ok () := by rwa [final] at opened
      rw [← success]
      exact List.mem_of_getLast? final
  · intro member
    have filled : reopenAnswers device left ≠ [] := List.ne_nil_of_mem member
    rw [← List.dropLast_concat_getLast filled, List.mem_append, List.mem_singleton] at member
    rcases member with early | final
    · exact absurd rfl (ne_ok_of_mem_dropLast device left _ early)
    · rw [List.getLast?_eq_some_getLast filled, ← final]
      rfl

/-! ### What an offer to a session comes to -/

/-- **How a lost device is recovered**, in a call that left the ring and its device as `failed`. The
tries end with the first success and are as many as the policy allows at most. There is a second
offer if a try succeeded, and its outcome counts. -/
structure Recovered (policy : RecoveryPolicy) (failed : Feed δ) (frames : ByteArray)
    (outcome : Outcome) (after : Feed δ) (calls : List Call) : Prop where
  tried : Call.reopens calls ≠ []
  length_le : (Call.reopens calls).length ≤ policy.maxTries.toNat
  ne_ok : ∀ answer ∈ (Call.reopens calls).dropLast, answer ≠ .ok ()
  offers_eq_two_iff : Call.offers calls = 2 ↔ .ok () ∈ Call.reopens calls
  gaveUp : .ok () ∉ Call.reopens calls →
    outcome = .deviceUnavailable ∧
      ∃ last, (Call.reopens calls).getLast? = some (.error last) ∧
        after.journal.back? = some (.notice (.recoveryFailed last))
  offeredAgain : .ok () ∈ Call.reopens calls →
    ∃ again : Feed δ,
      again.ring = failed.ring.reset ∧
        again.device = reopenTimes failed.reset.device (Call.reopens calls).length ∧
        again.journal.calls = failed.reset.journal.calls ++ (Call.reopens calls).map .reopen ∧
        (outcome, after) = retry again frames ∧
        outcome = match (again.enqueue frames).1 with
          | .ok second => second
          | .error _ => .deviceUnavailable

/-- **What a call to a session comes to**, with the device calls that it makes. -/
structure BoundedRecovery (session : Session δ) (frames : ByteArray) (outcome : Outcome)
    (after : Session δ) (calls : List Call) : Prop where
  calls_eq : after.feed.journal.calls = session.feed.journal.calls ++ calls
  offers_le : Call.offers calls ≤ 2
  succeeded : ∀ first feed, session.feed.enqueue frames = (.ok first, feed) →
    outcome = first ∧ after.feed = feed ∧ Call.offers calls = 1 ∧ Call.reopens calls = []
  ranDry : ∀ failed, session.feed.enqueue frames = (.error .underrun, failed) →
    outcome = .dropped ∧
      after.feed.ring.stats.underruns = failed.ring.stats.underruns + 1 ∧
      Call.offers calls = 1 ∧ Call.reopens calls = []
  unavailable : ∀ error failed, session.feed.enqueue frames = (.error error, failed) →
    error ≠ .underrun → error.needsReopen = false →
      outcome = .deviceUnavailable ∧ Call.offers calls = 1 ∧ Call.reopens calls = []
  recovered : ∀ error failed, session.feed.enqueue frames = (.error error, failed) →
    error.needsReopen = true →
      Recovered session.recovery failed frames outcome after.feed calls
  fallback_unused : ∀ (feed : Feed δ) (attempt : Nat) (last other : Error),
    reopen feed attempt last session.recovery.maxTries.toNat =
      reopen feed attempt other session.recovery.maxTries.toNat

theorem outcome_retry (feed : Feed δ) (frames : ByteArray) :
    (retry feed frames).1 = match (feed.enqueue frames).1 with
      | .ok second => second
      | .error _ => .deviceUnavailable := by
  unfold retry
  rcases feed.enqueue frames with ⟨error | second, after⟩ <;> rfl

/-- A second offer is one offer, and opens nothing anew. -/
theorem calls_retryMoves (feed : Feed δ) (frames : ByteArray) :
    Call.offers (Move.calls (retryMoves feed frames)) = 1 ∧
      Call.reopens (Move.calls (retryMoves feed frames)) = [] := by
  obtain ⟨offers, reopens⟩ := feed.calls_enqueueMoves frames
  unfold retryMoves
  rcases feed.enqueue frames with ⟨error | second, after⟩
  · have quiet := after.quiet_resetMoves
    rw [Move.calls_append, Call.offers_append, Call.reopens_append, offers, reopens,
      quiet.offers_eq, quiet.reopens_eq]
    exact ⟨rfl, rfl⟩
  · rw [List.append_nil]
    exact ⟨offers, reopens⟩

theorem recovered_of_needsReopen {policy : RecoveryPolicy} {failed : Feed δ}
    {frames : ByteArray} {error : Error} {calls : List Call}
    (tries : policy.maxTries.toNat ≠ 0) (lost : error.needsReopen = true)
    (offers : Call.offers calls =
      1 + Call.offers (Move.calls (recoverMoves policy failed.reset frames error)))
    (reopens : Call.reopens calls =
      Call.reopens (Move.calls (recoverMoves policy failed.reset frames error))) :
    Recovered policy failed frames (recover policy failed.reset frames error).1
      (recover policy failed.reset frames error).2 calls := by
  have dry : ¬ error.isUnderrun = true := by
    intro dry
    rw [Error.not_needsReopen_of_isUnderrun dry] at lost
    cases lost
  have tried : Tried _ (reopenAnswers failed.reset.device policy.maxTries.toNat) _ _ _ :=
    tried_reopen (failed.reset.note (.reopening error failed.reset.deviceName)) 1
      (.deviceLost "no reopen attempts made") policy.maxTries.toNat
  rw [recoverMoves, if_neg dry, if_pos lost] at offers reopens
  rw [recover, if_neg dry, if_pos lost]
  generalize reopen (failed.reset.note (.reopening error failed.reset.deviceName)) 1
    (.deviceLost "no reopen attempts made") policy.maxTries.toNat = result at *
  rw [Move.calls_append, Call.offers_append, offers_reopenMoves, Nat.zero_add] at offers
  rw [Move.calls_append, Call.reopens_append, reopens_reopenMoves] at reopens
  have known : Call.reopens calls = reopenAnswers failed.reset.device policy.maxTries.toNat := by
    obtain ⟨last | _, opened⟩ := result
    · rw [reopens]
      exact List.append_nil _
    · rw [reopens, (calls_retryMoves opened frames).2, List.append_nil]
  have success := tried.result_eq_ok_iff
  obtain ⟨result_eq, ring_eq, device_eq, calls_eq⟩ := tried
  rw [← known] at success result_eq device_eq calls_eq
  have filled : Call.reopens calls ≠ [] := known ▸ reopenAnswers_ne_nil _ tries
  have bounded : (Call.reopens calls).length ≤ policy.maxTries.toNat :=
    known ▸ length_reopenAnswers_le _ _
  have early : ∀ answer ∈ (Call.reopens calls).dropLast, answer ≠ .ok () :=
    known ▸ ne_ok_of_mem_dropLast _ _
  obtain ⟨last | _, opened⟩ := result
  -- every try failed, and the last error is the one that is reported
  · have missed : .ok () ∉ Call.reopens calls := by
      intro member
      cases success.2 member
    refine ⟨filled, bounded, early, ?_, ?_, fun member => absurd member missed⟩
    · rw [offers]
      refine ⟨?_, fun member => absurd member missed⟩
      intro two
      cases two
    · rw [List.getLast?_eq_some_getLast filled] at result_eq ⊢
      refine fun _ => ⟨rfl, last, congrArg some result_eq.symm, ?_⟩
      exact Array.back?_push
  -- the last try succeeded, and the payload is offered to the ring as the reset left it
  · have member : .ok () ∈ Call.reopens calls := success.1 rfl
    refine ⟨filled, bounded, early, ?_, fun missed => absurd member missed, fun _ => ?_⟩
    · rw [offers, (calls_retryMoves opened frames).1]
      exact ⟨fun _ => member, fun _ => rfl⟩
    · refine ⟨opened, ring_eq.trans (Feed.ring_reset failed), device_eq, ?_, rfl,
        outcome_retry opened frames⟩
      rw [calls_eq, Feed.note, Journal.calls_push_notice]

/-- The device calls of an offer that fails at first: one offer, and those of the recovery. -/
theorem calls_offerMoves_of_error {session : Session δ} {frames : ByteArray} {error : Error}
    {failed : Feed δ} (result : session.feed.enqueue frames = (.error error, failed)) :
    Call.offers (Move.calls (session.offerMoves frames)) =
        1 + Call.offers (Move.calls (recoverMoves session.recovery failed.reset frames error)) ∧
      Call.reopens (Move.calls (session.offerMoves frames)) =
        Call.reopens (Move.calls (recoverMoves session.recovery failed.reset frames error)) := by
  obtain ⟨offers, reopens⟩ := session.feed.calls_enqueueMoves frames
  have quiet := failed.quiet_resetMoves
  unfold offerMoves
  rw [result]
  dsimp only
  rw [Move.calls_append, Move.calls_append, Call.offers_append, Call.offers_append,
    Call.reopens_append, Call.reopens_append, offers, reopens, quiet.offers_eq, quiet.reopens_eq,
    Nat.zero_add]
  exact ⟨rfl, rfl⟩

theorem offers_recoverMoves_le (policy : RecoveryPolicy) (feed : Feed δ) (frames : ByteArray)
    (error : Error) :
    Call.offers (Move.calls (recoverMoves policy feed frames error)) ≤ 1 := by
  unfold recoverMoves
  split_ifs
  · exact Nat.zero_le 1
  · rw [Move.calls_append, Call.offers_append, offers_reopenMoves, Nat.zero_add]
    rcases reopen (feed.note (.reopening error feed.deviceName)) 1
      (.deviceLost "no reopen attempts made") policy.maxTries.toNat with ⟨last | _, opened⟩
    · exact Nat.zero_le 1
    · exact Nat.le_of_eq (calls_retryMoves opened frames).1
  · exact Nat.zero_le 1

theorem offer_of_error {session : Session δ} {frames : ByteArray} {error : Error}
    {failed : Feed δ} (result : session.feed.enqueue frames = (.error error, failed)) :
    session.offer frames =
      ((recover session.recovery failed.reset frames error).1,
        { session with feed := (recover session.recovery failed.reset frames error).2 }) := by
  unfold offer
  rw [result]

/-- An offer of whole frames is bounded, if the policy allows a try. -/
theorem boundedRecovery_offer {session : Session δ} {frames : ByteArray}
    (tries : session.recovery.maxTries.toNat ≠ 0)
    (whole : frames.size % session.feed.ring.geometry.frameSize = 0) :
    BoundedRecovery session frames (session.offer frames).1 (session.offer frames).2
      (Move.calls (session.offerMoves frames)) := by
  have calls_eq := (follows_offer whole).calls
  have fallback : ∀ (feed : Feed δ) (attempt : Nat) (last other : Error),
      reopen feed attempt last session.recovery.maxTries.toNat =
        reopen feed attempt other session.recovery.maxTries.toNat :=
    fun feed attempt last other => reopen_fallback feed attempt last other tries
  rcases result : session.feed.enqueue frames with ⟨error | first, feed⟩
  · obtain ⟨offers, reopens⟩ := calls_offerMoves_of_error result
    have few := offers_recoverMoves_le session.recovery feed.reset frames error
    rw [offer_of_error result] at calls_eq ⊢
    refine ⟨calls_eq, by omega, ?_, ?_, ?_, ?_, fallback⟩
    · intro _ _ same
      rw [result] at same
      cases same
    · intro _ same
      rw [result] at same
      cases same
      refine ⟨rfl, ?_, offers, reopens⟩
      show feed.reset.ring.stats.underruns + 1 = feed.ring.stats.underruns + 1
      rw [Feed.ring_reset]
      rfl
    · intro _ _ same other keeps
      rw [result] at same
      cases same
      have dry : ¬ error.isUnderrun = true := fun dry => other (Error.isUnderrun_iff.1 dry)
      have lost : ¬ error.needsReopen = true := Bool.eq_false_iff.1 keeps
      rw [recoverMoves, if_neg dry, if_neg lost] at offers reopens
      rw [recover, if_neg dry, if_neg lost]
      exact ⟨rfl, offers, reopens⟩
    · intro _ _ same lost
      rw [result] at same
      cases same
      exact recovered_of_needsReopen tries lost offers reopens
  · obtain ⟨offers, reopens⟩ := session.feed.calls_enqueueMoves frames
    have moves : session.offerMoves frames = session.feed.enqueueMoves frames := by
      unfold offerMoves
      rw [result]
      exact List.append_nil _
    have done : session.offer frames = (first, { session with feed := feed }) := by
      unfold offer
      rw [result]
    rw [moves, done] at calls_eq ⊢
    refine ⟨calls_eq, by omega, ?_, ?_, ?_, ?_, fallback⟩
    · intro _ _ same
      rw [result] at same
      cases same
      exact ⟨rfl, rfl, offers, reopens⟩
    · intro _ same
      rw [result] at same
      cases same
    · intro _ _ same
      rw [result] at same
      cases same
    · intro _ _ same
      rw [result] at same
      cases same

/-- **Recovery is bounded** in every state that an opened session reaches, whatever its device
answers: a call with whole frames returns, and comes to what `BoundedRecovery` says. -/
theorem recovery_is_bounded {format : Format} {config : Config} {connect : Ring → Except Error δ}
    {opened : Session δ} (opening : openWith format config connect = .ok opened)
    (operations : List (Operation δ)) {frames : ByteArray}
    (whole : frames.size % (opened.run operations).feed.ring.geometry.frameSize = 0) :
    ∃ outcome after calls,
      (opened.run operations).queue frames = .ok (outcome, after) ∧
        BoundedRecovery (opened.run operations) frames outcome after calls := by
  have known := of_openWith_eq_ok opening
  have positive := ((Config.validate_eq_ok_iff config).1 known.config_valid).2
  have tries : (opened.run operations).recovery.maxTries.toNat ≠ 0 := by
    rw [recovery_run, known.recovery_eq]
    intro zero
    exact positive (UInt32.toNat_inj.1 zero)
  have taken : (opened.run operations).queue frames =
      .ok ((opened.run operations).offer frames) := by
    unfold queue
    rw [(Ring.checkFrames_eq_ok_iff _ _).2 whole]
    rfl
  exact ⟨_, _, _, taken, boundedRecovery_offer tries whole⟩

/-- A device that is lost, is opened anew at the second try, and then runs dry. -/
theorem recovery_is_bounded_with_lost_device :
    let format : Format := ⟨.i16, 1, 8000, none⟩
    let device : ScriptedDevice :=
      ⟨"lost", .writeThrough, 2, [], [], [], [.error (.deviceLost ""), .error .underrun],
        [.error (.audioOutput ""), .ok ()]⟩
    let config : Config := { lowWatermarkMs := 0, highWatermarkMs := 1 }
    let frames : ByteArray := ⟨#[1, 2, 3, 4]⟩
    ∃ opened, create device format config = .ok opened ∧
      frames.size % (opened.run [.drain ⟨#[0, 0]⟩]).feed.ring.geometry.frameSize = 0 ∧
        ∃ outcome after calls,
          (opened.run [.drain ⟨#[0, 0]⟩]).queue frames = .ok (outcome, after) ∧
            BoundedRecovery (opened.run [.drain ⟨#[0, 0]⟩]) frames outcome after calls := by
  intro format device config frames
  have opening : openWith format config (fun _ => .ok device) = .ok _ := rfl
  have whole : frames.size % 2 = 0 := by decide
  exact ⟨_, opening, whole, recovery_is_bounded opening [.drain ⟨#[0, 0]⟩] whole⟩

end Session

end Playout
