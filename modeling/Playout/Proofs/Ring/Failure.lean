/-
**A call that fails stops its offer in place.**

An offer changes its ring in stages, and calls its device in between. The first call that fails ends
the offer: its error is the result, no call comes after it, and the ring is left as the stages before
it made it. Nothing is undone, and nothing of what would have come next is done. A payload that is
refused does not get as far as to the first stage.

* `Standing.eq_of_endsOffer`: a call that ends an offer is its last one;
* `Ring.Consistent.leftUnstarted`, `Ring.Consistent.leftUnwritten`: what the ring is in frames when a
  start or a write fails;
* `Feed.failures_stop_in_place`: **each failure, with its error, its calls and its ring**.
-/
import Playout.Proofs.Ring.Stages

namespace Playout

namespace Standing

variable {standing : Standing} {stopped : Except Error Unit} {offered : Nat} {call last : Call}

theorem endsOffer_of_mem_earlyCalls (member : call ∈ standing.earlyCalls stopped) :
    call.endsOffer = false := by
  unfold earlyCalls at member
  split at member
  · simp only [List.mem_cons, List.not_mem_nil, or_false] at member
    rcases member with rfl | rfl <;> rfl
  · rw [List.mem_singleton.1 member]
    rfl

theorem endsOffer_of_mem_readyCalls (member : call ∈ standing.readyCalls stopped offered) :
    call.endsOffer = false := by
  rcases List.mem_append.1 member with early | start
  · exact endsOffer_of_mem_earlyCalls early
  · split at start
    · rw [List.mem_singleton.1 start]
      rfl
    · cases start

/-- A call that ends an offer is its last one. -/
theorem eq_of_endsOffer {before : List Call}
    (punctual : ∀ call ∈ before, call.endsOffer = false) (member : call ∈ before ++ [last])
    (ends : call.endsOffer = true) : call = last := by
  rcases List.mem_append.1 member with early | late
  · cases ends.symm.trans (punctual call early)
  · exact List.mem_singleton.1 late

end Standing

namespace Ring

/-- A ring whose device did not start: it was checked, and the payload was taken in or dropped. -/
structure LeftUnstarted (ring : Ring) (backlog : Nat) (frames : ByteArray) (last : Ring) : Prop where
  admitted_eq : last = ring.admitted backlog frames
  playing_eq : last.playing = false
  toList_eq : last.storage.toList = ring.unreadAfter backlog frames
  queuedFrames_eq : last.queuedFrames = (ring.standing backlog).held (ring.framesOf frames)
  framesConsumed_eq : last.framesConsumed = ring.framesConsumed
  starts_eq : last.stats.starts = ring.stats.starts
  stats_eq : last.stats = (ring.standing backlog).statsAfter (ring.framesOf frames) ring.stats

/-- A ring whose device did not take what it was offered, which is all that the ring holds. -/
structure LeftUnwritten (ring : Ring) (backlog : Nat) (frames offered : ByteArray) (last : Ring) :
    Prop where
  readied_eq : last = ring.readied backlog frames
  playing_eq : last.playing = true
  offered_eq : offered.data.toList = ring.unreadAfter backlog frames
  toList_eq : last.storage.toList = offered.data.toList
  queuedFrames_eq : last.queuedFrames = (ring.standing backlog).held (ring.framesOf frames)
  framesConsumed_eq : last.framesConsumed = ring.framesConsumed

variable {ring : Ring} {frames : ByteArray}

theorem Consistent.leftUnstarted (consistent : ring.Consistent) (backlog : Nat)
    (whole : frames.size % ring.geometry.frameSize = 0)
    (starts : (ring.standing backlog).Starts (ring.framesOf frames)) :
    ring.LeftUnstarted backlog frames (ring.admitted backlog frames) := by
  have stats := consistent.stats_admitted backlog whole
  refine ⟨rfl, ?_, consistent.toList_admitted backlog whole,
    consistent.queuedFrames_admitted backlog whole,
    observe_admitted Ring.framesConsumed (fun _ _ _ _ _ => rfl) ring backlog frames, ?_, stats⟩
  · have silent := mt (ring.playing_admitted_iff backlog frames).1 starts.1
    simpa using silent
  · rw [stats]
    rfl

theorem Consistent.leftUnwritten (consistent : ring.Consistent) (backlog : Nat)
    (whole : frames.size % ring.geometry.frameSize = 0)
    (plays : (ring.standing backlog).Plays (ring.framesOf frames)) :
    ring.LeftUnwritten backlog frames ⟨(ring.unreadAfter backlog frames).toArray⟩
      (ring.readied backlog frames) := by
  refine ⟨rfl, (ring.playing_readied_iff backlog frames).2 plays, List.toList_toArray,
    consistent.toList_readied backlog whole, consistent.queuedFrames_readied backlog whole,
    observe_offered Ring.framesConsumed (fun _ _ _ _ _ => rfl) ring backlog frames⟩

end Ring

namespace Feed

variable {δ : Type} [Device δ] {feed : Feed δ} {frames : ByteArray}

/-- What is left of an offer that a call ended: the calls, the result, and the ring. -/
inductive EndedBy (feed : Feed δ) (frames : ByteArray) :
    Call → List Call → Except Error Outcome → Ring → Prop
  | unasked (error : Error) :
      EndedBy feed frames (.backlog (.error error)) [.backlog (.error error)] (.error error)
        feed.ring
  | unstarted {backlog : Nat} {stopped : Except Error Unit} {error : Error} {last : Ring}
      (left : feed.ring.LeftUnstarted backlog frames last) :
      EndedBy feed frames (.start (.error error))
        ((feed.ring.standing backlog).earlyCalls stopped ++ [.start (.error error)])
        (.error error) last
  | unwritten {backlog : Nat} {stopped : Except Error Unit} {offered : ByteArray} {error : Error}
      {last : Ring} (left : feed.ring.LeftUnwritten backlog frames offered last) :
      EndedBy feed frames (.write offered (.error error))
        ((feed.ring.standing backlog).readyCalls stopped (feed.ring.framesOf frames) ++
          [.write offered (.error error)])
        (.error error) last

section Ended

variable {calls : List Call} {result : Except Error Outcome} {last : Ring} {call : Call}

/-- A call that ends an offer leaves it where it is. -/
theorem Staged.endedBy (staged : Staged feed frames calls result last)
    (consistent : feed.ring.Consistent)
    (whole : frames.size % feed.ring.geometry.frameSize = 0) (member : call ∈ calls)
    (ends : call.endsOffer = true) : EndedBy feed frames call calls result last := by
  cases staged with
  | unasked error =>
    rw [List.mem_singleton.1 member]
    exact .unasked error
  | unstarted backlog stopped error starts =>
    rw [Standing.eq_of_endsOffer (fun _ => Standing.endsOffer_of_mem_earlyCalls) member ends]
    exact .unstarted (consistent.leftUnstarted backlog whole starts)
  | unwritten backlog stopped error ready ready_eq writes =>
    subst ready_eq
    rw [Standing.eq_of_endsOffer (fun _ => Standing.endsOffer_of_mem_readyCalls) member ends]
    exact .unwritten (consistent.leftUnwritten backlog whole writes.2.1)
  | written backlog stopped taken ready ready_eq _ =>
    subst ready_eq
    rw [Standing.eq_of_endsOffer (fun _ => Standing.endsOffer_of_mem_readyCalls) member ends] at ends
    cases ends
  | silent backlog stopped ready ready_eq _ =>
    subst ready_eq
    cases ends.symm.trans (Standing.endsOffer_of_mem_readyCalls member)

/-- An offer fails through a call that ends it. -/
theorem Staged.exists_endsOffer {error : Error}
    (staged : Staged feed frames calls (.error error) last) :
    ∃ call ∈ calls, call.endsOffer = true := by
  cases staged with
  | unasked => exact ⟨_, List.mem_cons_self, rfl⟩
  | unstarted => exact ⟨_, List.mem_append_right _ List.mem_cons_self, rfl⟩
  | unwritten => exact ⟨_, List.mem_append_right _ List.mem_cons_self, rfl⟩

end Ended

/-- **What a failed call leaves of its offer**, and that an offer fails through such a call only. -/
structure StopsInPlace (feed : Feed δ) (frames : ByteArray) (result : Except Error Outcome)
    (after : Feed δ) : Prop where
  unasked : ∀ error, .backlog (.error error) ∈ after.callsSince feed →
    result = .error error ∧ after.callsSince feed = [.backlog (.error error)] ∧
      after.ring = feed.ring
  unstarted : ∀ error, .start (.error error) ∈ after.callsSince feed →
    result = .error error ∧ ∃ backlog stopped,
      after.callsSince feed =
          (feed.ring.standing backlog).earlyCalls stopped ++ [.start (.error error)] ∧
        feed.ring.LeftUnstarted backlog frames after.ring
  unwritten : ∀ offered error, .write offered (.error error) ∈ after.callsSince feed →
    result = .error error ∧ ∃ backlog stopped,
      after.callsSince feed =
          (feed.ring.standing backlog).readyCalls stopped (feed.ring.framesOf frames) ++
            [.write offered (.error error)] ∧
        feed.ring.LeftUnwritten backlog frames offered after.ring
  failed : ∀ error, result = .error error → ∃ call ∈ after.callsSince feed, call.endsOffer = true

theorem Staged.stopsInPlace {result : Except Error Outcome} {after : Feed δ}
    (staged : Staged feed frames (after.callsSince feed) result after.ring)
    (consistent : feed.ring.Consistent)
    (whole : frames.size % feed.ring.geometry.frameSize = 0) :
    feed.StopsInPlace frames result after := by
  have ended := fun call (member : call ∈ after.callsSince feed) =>
    staged.endedBy consistent whole member
  refine ⟨?unasked, ?unstarted, ?unwritten, ?failed⟩
  case failed =>
    rintro error rfl
    exact staged.exists_endsOffer
  all_goals generalize after.callsSince feed = calls, after.ring = last at ended ⊢
  case unasked =>
    intro error member
    cases ended _ member rfl with
    | unasked => exact ⟨rfl, rfl, rfl⟩
  case unstarted =>
    intro error member
    cases ended _ member rfl with
    | unstarted left => exact ⟨rfl, _, _, rfl, left⟩
  case unwritten =>
    intro offered error member
    cases ended _ member rfl with
    | unwritten left => exact ⟨rfl, _, _, rfl, left⟩

/-- A payload that is not made of whole frames is refused, and leaves all as it was. -/
theorem queue_of_partial (broken : frames.size % feed.ring.geometry.frameSize ≠ 0) :
    feed.queue frames = .error (.partialFrame frames.size feed.ring.geometry.frameSize) ∧
      feed.perform (.queue frames) = feed := by
  have refused : feed.queue frames =
      .error (.partialFrame frames.size feed.ring.geometry.frameSize) := by
    unfold queue Ring.checkFrames
    rw [if_neg broken]
    rfl
  refine ⟨refused, ?_⟩
  rw [perform, refused]
  rfl

/-- So are samples of another type than the ring's. -/
theorem queueSamples_of_mismatch {σ : Type} [Sample σ] (samples : List σ)
    (other : Sample.format σ ≠ feed.ring.format.sampleFormat) :
    feed.queueSamples samples =
        .error (.sampleMismatch (Sample.format σ) feed.ring.format.sampleFormat) ∧
      feed.perform (.queueSamples σ samples) = feed := by
  have refused : feed.queueSamples samples =
      .error (.sampleMismatch (Sample.format σ) feed.ring.format.sampleFormat) := by
    unfold queueSamples Ring.checkSamples
    rw [if_neg other]
    rfl
  refine ⟨refused, ?_⟩
  rw [perform, refused]
  rfl

/-- **A failure stops an offer in place**, to every ring that can be reached and with every device: a
payload that is refused changes nothing, a call that fails ends the offer where it is, and samples of
the ring's type are offered as their bytes. -/
theorem failures_stop_in_place (reachable : feed.ring.Reachable) (frames : ByteArray) :
    (frames.size % feed.ring.geometry.frameSize ≠ 0 →
      feed.queue frames = .error (.partialFrame frames.size feed.ring.geometry.frameSize) ∧
        feed.perform (.queue frames) = feed) ∧
      (frames.size % feed.ring.geometry.frameSize = 0 →
        ∃ result after, feed.queue frames = .ok (result, after) ∧
          feed.StopsInPlace frames result after) ∧
      ∀ (σ : Type) [Sample σ] (samples : List σ),
        (Sample.format σ ≠ feed.ring.format.sampleFormat →
          feed.queueSamples samples =
              .error (.sampleMismatch (Sample.format σ) feed.ring.format.sampleFormat) ∧
            feed.perform (.queueSamples σ samples) = feed) ∧
          (Sample.format σ = feed.ring.format.sampleFormat →
            feed.queueSamples samples = feed.queue (Sample.encode samples) ∧
              feed.perform (.queueSamples σ samples) =
                feed.perform (.queue (Sample.encode samples))) := by
  refine ⟨queue_of_partial, ?_, fun σ _ samples => ⟨queueSamples_of_mismatch samples, ?_⟩⟩
  · intro whole
    obtain ⟨result, after, queued, -, staged, -⟩ := staged_queue reachable whole
    exact ⟨result, after, queued, staged.stopsInPlace reachable.consistent whole⟩
  · intro same
    have offered := queueSamples_of_format samples same
    exact ⟨offered, congrArg (settle feed) offered⟩

/-- A playing ring runs over, and its new device does not start. -/
theorem failures_stop_in_place_with_failing_start :
    let format : Format := ⟨.i16, 1, 3, none⟩
    let history : List (Operation PlainDevice) := [.queue ⟨#[1, 2, 3, 4]⟩]
    let filled := (Feed.mk (Ring.ofFormat format 1 2) PlainDevice.mk #[]).run history
    let device : ScriptedDevice :=
      ⟨"failing", .writeThrough, 2, [.error .underrun], [], [.ok (some 4)], [], []⟩
    let feed : Feed ScriptedDevice := ⟨filled.ring, device, #[]⟩
    let frames : ByteArray := ⟨#[7, 8, 9, 10]⟩
    feed.ring.Reachable ∧ frames.size % feed.ring.geometry.frameSize = 0 ∧
      ∃ after, feed.queue frames = .ok (.error .underrun, after) ∧
        feed.StopsInPlace frames (.error .underrun) after := by
  intro format history filled device feed frames
  have created : Ring.create format 1 2 = .ok (Ring.ofFormat format 1 2) := rfl
  have reachable : feed.ring.Reachable := Ring.reachable_run created PlainDevice.mk history
  have whole : frames.size % feed.ring.geometry.frameSize = 0 := by decide +kernel
  have fails : (feed.enqueue frames).1 = .error .underrun := by decide +kernel
  obtain ⟨result, after, queued, stops⟩ := (failures_stop_in_place reachable frames).2.1 whole
  have same := Except.ok.inj ((queue_of_whole whole).symm.trans queued)
  rw [same] at fails
  subst fails
  exact ⟨reachable, whole, after, queued, stops⟩

end Feed

end Playout
