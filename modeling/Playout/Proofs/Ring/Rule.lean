/-
**The rule of an offer.**

Where no call of an offer fails but perhaps the stop, the offer does what a rule on frames demands: it
flushes a playing ring that ran dry or over, takes its payload in as a whole or drops it, starts the
device once the low watermark is reached, and hands what is unread to a device that is written to.
The ring decides all this on bytes, with sums that are cut off and a frame count that wraps.

* `Ring.Consistent.comesTo`: the ring that is left, in frames and in bytes;
* `Feed.offers_keep_rule`: **every offer to every ring that can be reached keeps the rule**.
-/
import Playout.Proofs.Ring.Stages

namespace Playout

/-- Frames that leave the ring, if the device reports so many as taken. -/
def Standing.leaves (standing : Standing) (offered : Nat) (delivery : Delivery)
    (reported : Nat) : Nat :=
  if standing.Writes offered delivery then min reported (standing.held offered) else 0

namespace Ring

/-- What an offer that started the device, if that was due, makes of a ring when so many frames have
left it since. -/
structure ComesTo (ring : Ring) (backlog : Nat) (frames : ByteArray) (left : Nat) (last : Ring) :
    Prop where
  toList_eq : last.storage.toList =
    (ring.unreadAfter backlog frames).drop (left * ring.geometry.frameSize)
  queuedFrames_eq : last.queuedFrames = (ring.standing backlog).held (ring.framesOf frames) - left
  framesConsumed_eq : last.framesConsumed = ring.framesConsumed + left
  playing_iff : last.playing = true ↔ (ring.standing backlog).Plays (ring.framesOf frames)
  stats_eq : last.stats =
    { (ring.standing backlog).statsAfter (ring.framesOf frames) ring.stats with
      starts := ring.stats.starts +
        if (ring.standing backlog).Starts (ring.framesOf frames) then 1 else 0 }
  format_eq : last.format = ring.format
  geometry_eq : last.geometry = ring.geometry

variable {ring : Ring} {frames : ByteArray}

theorem Consistent.stats_readied (consistent : ring.Consistent) (backlog : Nat)
    (whole : frames.size % ring.geometry.frameSize = 0) :
    (ring.readied backlog frames).stats =
      { (ring.standing backlog).statsAfter (ring.framesOf frames) ring.stats with
        starts := ring.stats.starts +
          if (ring.standing backlog).Starts (ring.framesOf frames) then 1 else 0 } := by
  have counted := consistent.stats_admitted backlog whole
  have starts : (ring.admitted backlog frames).stats.starts = ring.stats.starts := by
    rw [counted]
    rfl
  unfold Ring.readied
  split
  · rw [begin, starts, counted]
  · exact counted

theorem Consistent.comesTo (consistent : ring.Consistent) (backlog : Nat)
    (whole : frames.size % ring.geometry.frameSize = 0) (left : Nat) :
    ring.ComesTo backlog frames left ((ring.readied backlog frames).consume left) := by
  have geometry_eq := observe_offered Ring.geometry (fun _ _ _ _ _ => rfl) ring backlog frames
  have consumed_eq := observe_offered Ring.framesConsumed (fun _ _ _ _ _ => rfl) ring backlog frames
  refine ⟨?toList, ?queued, congrArg (· + left) consumed_eq, ring.playing_readied_iff backlog frames,
    consistent.stats_readied backlog whole,
    observe_offered Ring.format (fun _ _ _ _ _ => rfl) ring backlog frames, geometry_eq⟩
  case toList =>
    show ((ring.readied backlog frames).storage.skip _).1.toList = _
    rw [ByteRing.toList_skip, geometry_eq, consistent.toList_readied backlog whole]
  case queued =>
    show (ring.readied backlog frames).queuedFrames - left = _
    rw [consistent.queuedFrames_readied backlog whole]

end Ring

namespace Feed

variable {δ : Type} [Device δ]

/-- **The rule of an offer** to a ring whose device has told a backlog, and would answer a stop, take
frames, and report some of them as taken in this way: the calls that the device answers, the outcome,
and the ring. -/
structure KeepsRule (feed : Feed δ) (frames : ByteArray) (backlog : Nat)
    (stopped : Except Error Unit) (delivery : Delivery) (reported : Nat) (outcome : Outcome)
    (after : Feed δ) : Prop where
  calls_eq : after.callsSince feed =
    (feed.ring.standing backlog).readyCalls stopped (feed.ring.framesOf frames) ++
      if (feed.ring.standing backlog).Writes (feed.ring.framesOf frames) delivery then
        [.write ⟨(feed.ring.unreadAfter backlog frames).toArray⟩ (.ok reported)] else []
  delivery_eq : delivery = feed.deliveryAfter
    ((feed.ring.standing backlog).readyCalls stopped (feed.ring.framesOf frames))
  answered : Device.AnswersAll feed.device (after.callsSince feed) after.device
  outcome_eq : outcome = (feed.ring.standing backlog).outcome (feed.ring.framesOf frames)
  comesTo : feed.ring.ComesTo backlog frames
    ((feed.ring.standing backlog).leaves (feed.ring.framesOf frames) delivery reported) after.ring

variable {feed : Feed δ} {frames : ByteArray}

/-- **Every offer keeps the rule**, to every ring that can be reached, with every device whose calls
do not fail in this offer; a stop may. -/
theorem offers_keep_rule (reachable : feed.ring.Reachable)
    (whole : frames.size % feed.ring.geometry.frameSize = 0)
    (succeed : ∀ call ∈ (feed.perform (.queue frames)).callsSince feed, call.endsOffer = false) :
    ∃ backlog stopped delivery reported outcome after,
      feed.queue frames = .ok (.ok outcome, after) ∧
        feed.KeepsRule frames backlog stopped delivery reported outcome after := by
  have consistent := reachable.consistent
  obtain ⟨result, after, queued, performed, way, answered⟩ := staged_queue reachable whole
  rw [performed] at succeed
  generalize made : after.callsSince feed = calls, left : after.ring = last at succeed way
  cases way with
  | unasked error => cases succeed _ List.mem_cons_self
  | unstarted => cases succeed _ (List.mem_append_right _ List.mem_cons_self)
  | unwritten => cases succeed _ (List.mem_append_right _ List.mem_cons_self)
  | written backlog stopped reported ready ready_eq writes =>
    subst ready_eq
    refine ⟨backlog, stopped, _, reported, _, after, queued, ?_, rfl, answered, rfl, ?_⟩
    · rw [made, if_pos writes]
    · rw [left, Standing.leaves, if_pos writes]
      exact consistent.comesTo backlog whole _
  | silent backlog stopped ready ready_eq idle =>
    subst ready_eq
    have kept := consistent.comesTo backlog whole 0
    rw [Ring.consume_zero] at kept
    refine ⟨backlog, stopped, _, 0, _, after, queued, ?_, rfl, answered, rfl, ?_⟩
    · rw [made, if_neg idle, List.append_nil]
    · rw [left, Standing.leaves, if_neg idle]
      exact kept

/-- A playing ring runs over; its new device cannot be stopped, but it starts, and takes a part. -/
theorem offers_keep_rule_with_stubborn_device :
    let format : Format := ⟨.i16, 1, 3, none⟩
    let history : List (Operation PlainDevice) := [.queue ⟨#[1, 2, 3, 4]⟩]
    let filled := (Feed.mk (Ring.ofFormat format 1 2) PlainDevice.mk #[]).run history
    let device : ScriptedDevice :=
      ⟨"stubborn", .writeThrough, 2, [], [.error .underrun], [.ok (some 4)], [.ok (some 1)], []⟩
    let feed : Feed ScriptedDevice := ⟨filled.ring, device, #[]⟩
    let frames : ByteArray := ⟨#[7, 8, 9, 10]⟩
    feed.ring.Reachable ∧ frames.size % feed.ring.geometry.frameSize = 0 ∧
      (∀ call ∈ (feed.perform (.queue frames)).callsSince feed, call.endsOffer = false) ∧
      ∃ backlog stopped delivery reported outcome after,
        feed.queue frames = .ok (.ok outcome, after) ∧
          feed.KeepsRule frames backlog stopped delivery reported outcome after := by
  intro format history filled device feed frames
  have created : Ring.create format 1 2 = .ok (Ring.ofFormat format 1 2) := rfl
  have reachable : feed.ring.Reachable := Ring.reachable_run created PlainDevice.mk history
  have whole : frames.size % feed.ring.geometry.frameSize = 0 := by decide +kernel
  have succeed : ∀ call ∈ (feed.perform (.queue frames)).callsSince feed,
      call.endsOffer = false := by decide +kernel
  exact ⟨reachable, whole, succeed, offers_keep_rule reachable whole succeed⟩

end Feed

end Playout
