/-
**Below the watermark it does not matter how frames are cut into blocks.**

A device that never fails, holds nothing and has its frames drained sees only starts and stops, and
an offer to its ring is decided by the frames alone. If all of the frames fit and stay within the high
watermark, two blocks do what one block does that has both. The second block finds frames in the ring
and not too many, so it flushes nothing, and the device starts at the block that reaches the low
watermark.

* `ByteRing.write_write`: to write twice is to write once, into the same cells;
* `Ring.Consistent.accept_accept`: to take in two payloads is to take in one;
* `Standing.starts_or_starts_iff`: one of two blocks starts the device if both together do;
* `Ring.Consistent.readied_readied`: so the ring comes to the same;
* `Feed.queued_readily`: what an offer to such a device does;
* `Feed.blocks_do_what_one_does`: **two blocks do what one does**.
-/
import Playout.Proofs.Ring.Stages
import Playout.Proofs.Session.Threshold

namespace Playout

/-! ### Writing twice -/

namespace ByteRing

/-- Every place of the storage is at some distance from the oldest unread byte. -/
theorem exists_wrap_eq (ring : ByteRing) {place : Nat} (inside : place < ring.capacity) :
    ∃ index < ring.capacity, wrap ring.capacity (ring.position + index) = place := by
  have position := ring.position_lt
  simp only [capacity] at inside ⊢
  by_cases ahead : ring.position ≤ place
  · refine ⟨place - ring.position, by omega, ?_⟩
    rw [Nat.add_sub_cancel' ahead, wrap, if_pos inside]
  · refine ⟨place + ring.storage.size - ring.position, by omega, ?_⟩
    rw [wrap, if_neg (by omega)]
    omega

/-- Rings with the same cells, seen from the same place, are the same. -/
theorem eq_of_byteAt? {first second : ByteRing} (position_eq : first.position = second.position)
    (length_eq : first.length = second.length) (capacity_eq : first.capacity = second.capacity)
    (cells : ∀ index < first.capacity, first.byteAt? index = second.byteAt? index) :
    first = second := by
  have storage_eq : first.storage = second.storage := by
    refine ByteArray.ext (Array.ext_getElem? fun place => ?_)
    by_cases inside : place < first.capacity
    · obtain ⟨index, within, there⟩ := first.exists_wrap_eq inside
      have seen := cells index within
      rwa [byteAt?, byteAt?, ← capacity_eq, ← position_eq, there] at seen
    · have outside : ¬ place < second.capacity := by rwa [← capacity_eq]
      rw [Array.getElem?_eq_none (Nat.le_of_not_lt inside),
        Array.getElem?_eq_none (Nat.le_of_not_lt outside)]
  cases first
  cases second
  simp only at position_eq length_eq storage_eq
  subst position_eq length_eq storage_eq
  rfl

@[simp] theorem position_write (ring : ByteRing) (bytes : ByteArray) :
    (ring.write bytes).1.position = ring.position := by
  simp only [write]

theorem length_write (ring : ByteRing) (bytes : ByteArray) :
    (ring.write bytes).1.length = ring.length + (ring.write bytes).2 := by
  simp only [write]

theorem count_write (ring : ByteRing) {bytes : ByteArray} (fits : bytes.size ≤ ring.free) :
    (ring.write bytes).2 = bytes.size :=
  Nat.min_eq_left fits

/-- **To write twice is to write once**, into the same cells. -/
theorem write_write (ring : ByteRing) {first second : ByteArray}
    (fits : first.size + second.size ≤ ring.free) :
    ((ring.write first).1.write second).1 = (ring.write (first ++ second)).1 := by
  have early : (ring.write first).2 = first.size := ring.count_write (by omega)
  have length := ring.length_write first
  rw [early] at length
  have late : ((ring.write first).1.write second).2 = second.size := by
    refine count_write _ ?_
    rw [free, length, capacity_write]
    simp only [free] at fits
    omega
  have both : (ring.write (first ++ second)).2 = first.size + second.size := by
    rw [count_write _ (by rwa [ByteArray.size_append]), ByteArray.size_append]
  refine eq_of_byteAt? ?position ?length ?capacity fun index within => ?cells
  case position => rw [position_write, position_write, position_write]
  case length => rw [length_write, length_write, length_write, early, late, both, Nat.add_assoc]
  case capacity => rw [capacity_write, capacity_write, capacity_write]
  case cells =>
    rw [capacity_write, capacity_write] at within
    rw [byteAt?_write _ _ (by rwa [capacity_write]), byteAt?_write _ _ within,
      byteAt?_write _ _ within, early, late, both, length]
    have size : first.data.size = first.size := rfl
    simp only [ByteArray.data_append, Array.getElem?_append, size]
    grind

end ByteRing

/-! ### Two blocks, in frames -/

namespace Standing

/-- How a ring stands behind a block, with a device that holds nothing. -/
def behind (standing : Standing) (offered : Nat) : Standing where
  geometry := standing.geometry
  queued := standing.held offered
  playing := decide (standing.Plays offered)
  backlog := 0

/-- Two blocks, of which the first is not empty, that have room together and stay within the high
watermark, before a device that holds nothing. -/
structure Modest (standing : Standing) (first second : Nat) : Prop where
  idle : standing.backlog = 0
  some : 0 < first
  within : standing.queued + first + second ≤ standing.geometry.highFrames
  fits : standing.queued + first + second ≤ standing.geometry.capacityFrames
  bounded : standing.geometry.capacityFrames ≤ wordMax

namespace Modest

variable {standing : Standing} {first second : Nat} (modest : standing.Modest first second)

include modest

theorem waiting_eq : standing.waiting = standing.queued := by
  obtain ⟨idle, -, -, fits, bounded⟩ := modest
  rw [waiting, idle]
  omega

/-- A flush finds nothing to discard. -/
theorem queued_eq_zero_of_flushes (flushes : standing.Flushes) : standing.queued = 0 := by
  have waits := modest.waiting_eq
  have within := modest.within
  rcases flushes.2 with dry | spilt
  · omega
  · omega

theorem kept_eq : standing.kept = standing.queued := by
  unfold kept
  split
  · next flushes => exact (modest.queued_eq_zero_of_flushes flushes).symm
  · rfl

theorem counted_eq : standing.counted = standing.queued := by
  unfold counted
  split
  · next flushes => exact (modest.queued_eq_zero_of_flushes flushes).symm
  · exact modest.waiting_eq

theorem admits_first : standing.Admits first := by
  have fits := modest.fits
  rw [Admits, modest.kept_eq]
  omega

theorem admits_both : standing.Admits (first + second) := by
  have fits := modest.fits
  rw [Admits, modest.kept_eq]
  omega

theorem held_first : standing.held first = standing.queued + first := by
  rw [held, taken, if_pos modest.admits_first, modest.kept_eq]

/-- Behind the first block the ring is neither dry nor too full. -/
theorem not_flushes_behind : ¬ (standing.behind first).Flushes := by
  have held := modest.held_first
  obtain ⟨-, some, within, fits, bounded⟩ := modest
  rintro ⟨-, dry | spilt⟩
  · simp only [waiting, behind, held] at dry
    omega
  · simp only [waiting, behind, held] at spilt
    omega

theorem kept_behind : (standing.behind first).kept = standing.queued + first := by
  rw [kept, if_neg modest.not_flushes_behind]
  exact modest.held_first

theorem counted_behind : (standing.behind first).counted = standing.queued + first := by
  have held := modest.held_first
  have fits := modest.fits
  have bounded := modest.bounded
  rw [counted, if_neg modest.not_flushes_behind]
  simp only [waiting, behind, held]
  omega

theorem admits_behind : (standing.behind first).Admits second := by
  rw [Admits, modest.kept_behind]
  exact modest.fits

theorem goesOn_behind_iff : (standing.behind first).GoesOn ↔ standing.Plays first :=
  ⟨fun goesOn => of_decide_eq_true goesOn.1,
    fun plays => ⟨decide_eq_true plays, modest.not_flushes_behind⟩⟩

/-- **One of two blocks starts the device if both together do.** -/
theorem starts_or_starts_iff :
    standing.Starts first ∨ (standing.behind first).Starts second ↔
      standing.Starts (first + second) := by
  have geometry : (standing.behind first).geometry = standing.geometry := rfl
  unfold Starts
  rw [modest.goesOn_behind_iff, modest.counted_behind, modest.counted_eq, geometry, taken, taken,
    taken, if_pos modest.admits_first, if_pos modest.admits_both, if_pos modest.admits_behind,
    Plays, Starts, modest.counted_eq, taken, if_pos modest.admits_first]
  by_cases goesOn : standing.GoesOn
  · simp only [goesOn, not_true_eq_false, false_and, true_or, or_self]
  · simp only [goesOn, not_false_eq_true, true_and, false_or]
    omega

/-- Only one of two blocks starts the device. -/
theorem not_starts_behind (starts : standing.Starts first) :
    ¬ (standing.behind first).Starts second := fun again =>
  again.1 (modest.goesOn_behind_iff.2 (.inr starts))

/-- The second block starts what the first one does not, if both together do. -/
theorem starts_behind_iff (later : ¬ standing.Starts first) :
    (standing.behind first).Starts second ↔ standing.Starts (first + second) := by
  rw [← modest.starts_or_starts_iff]
  exact (or_iff_right later).symm

end Modest

end Standing

/-! ### Two blocks, in the ring -/

namespace Ring

variable {ring : Ring} {first second : ByteArray}

/-- A ring takes the same in whether or not it has begun to play. -/
theorem accept_begin (ring : Ring) (frames : ByteArray) :
    (ring.begin.accept frames).1 = (ring.accept frames).1.begin := by
  have fits : ring.begin.fits frames = ring.fits frames := rfl
  unfold accept
  rw [fits]
  split <;> rfl

/-- What taking in a payload does if there is room for its frames. -/
theorem Consistent.accept_of_room {frames : ByteArray} (consistent : ring.Consistent)
    (whole : frames.size % ring.geometry.frameSize = 0)
    (room : ring.queuedFrames + ring.framesOf frames ≤ ring.geometry.capacityFrames) :
    (ring.accept frames).1 =
      { ring with
        storage := (ring.storage.write frames).1
        queuedFrames := ring.queuedFrames + ring.framesOf frames
        stats.queuedFramesTotal := ring.stats.queuedFramesTotal + ring.framesOf frames } := by
  have fits := (consistent.fits_iff whole).2 room
  simp only [Ring.accept, fits, if_true, consistent.frameCount_of_fits whole fits]

/-- How a ring stands behind a block. -/
theorem Consistent.standing_readied {frames : ByteArray} (consistent : ring.Consistent)
    (whole : frames.size % ring.geometry.frameSize = 0) :
    (ring.readied 0 frames).standing 0 = (ring.standing 0).behind (ring.framesOf frames) := by
  have geometry := observe_offered Ring.geometry (fun _ _ _ _ _ => rfl) ring 0 frames
  have plays := ring.playing_readied_iff 0 frames
  have playing : (ring.readied 0 frames).playing =
      decide ((ring.standing 0).Plays (ring.framesOf frames)) := by
    rw [← Bool.decide_coe (ring.readied 0 frames).playing]
    exact decide_eq_decide.2 plays
  rw [Ring.standing, geometry, consistent.queuedFrames_readied 0 whole, playing]
  rfl

theorem readied_eq (ring : Ring) (backlog : Nat) (frames : ByteArray) :
    ring.readied backlog frames =
      if (ring.standing backlog).Starts (ring.framesOf frames) then
        (ring.admitted backlog frames).begin
      else ring.admitted backlog frames := rfl

theorem framesOf_of_geometry {last : Ring} (frames : ByteArray)
    (same : last.geometry = ring.geometry) : last.framesOf frames = ring.framesOf frames := by
  rw [framesOf, same]
  rfl

variable (consistent : ring.Consistent)
  (wholeFirst : first.size % ring.geometry.frameSize = 0)
  (wholeSecond : second.size % ring.geometry.frameSize = 0)

theorem whole_append (wholeFirst : first.size % ring.geometry.frameSize = 0)
    (wholeSecond : second.size % ring.geometry.frameSize = 0) :
    (first ++ second).size % ring.geometry.frameSize = 0 := by
  rw [ByteArray.size_append, Nat.add_mod, wholeFirst, wholeSecond, Nat.zero_add, Nat.zero_mod]

include consistent wholeFirst

theorem Consistent.framesOf_append (second : ByteArray) :
    ring.framesOf (first ++ second) = ring.framesOf first + ring.framesOf second := by
  obtain ⟨count, size⟩ := Nat.dvd_of_mod_eq_zero wholeFirst
  have positive := consistent.frameSize_pos
  rw [framesOf, framesOf, framesOf, ByteArray.size_append, size, Nat.mul_add_div positive,
    Nat.mul_div_cancel_left _ positive]

include wholeSecond

/-- **To take in two payloads is to take in one**, if there is room for both. -/
theorem Consistent.accept_accept (room : ring.queuedFrames + ring.framesOf first +
    ring.framesOf second ≤ ring.geometry.capacityFrames) :
    ((ring.accept first).1.accept second).1 = (ring.accept (first ++ second)).1 := by
  have added := consistent.framesOf_append wholeFirst second
  have taken := consistent.accept_of_room wholeFirst (by omega)
  have middle := consistent.accept wholeFirst
  have fits := (consistent.fits_iff (whole_append wholeFirst wholeSecond)).2 (by omega)
  have written : first.size + second.size ≤ ring.storage.free := by
    simp only [Ring.fits, Bool.and_eq_true, decide_eq_true_eq, ByteArray.size_append] at fits
    exact fits.2
  have geometry := geometry_accept ring first
  have queued : (ring.accept first).1.queuedFrames = ring.queuedFrames + ring.framesOf first := by
    rw [taken]
  have late := middle.accept_of_room (by rwa [geometry]) (by
    rwa [queued, framesOf_of_geometry second geometry, geometry])
  rw [late, framesOf_of_geometry second geometry, taken,
    consistent.accept_of_room (whole_append wholeFirst wholeSecond) (by omega), added]
  simp only [ByteRing.write_write _ written, Nat.add_assoc]

/-- **Two offers leave the ring that one leaves**, where the device holds nothing. -/
theorem Consistent.readied_readied
    (modest : (ring.standing 0).Modest (ring.framesOf first) (ring.framesOf second)) :
    (ring.readied 0 first).readied 0 second = ring.readied 0 (first ++ second) := by
  have stands := consistent.standing_readied wholeFirst
  have same := framesOf_of_geometry second
    (observe_offered Ring.geometry (fun _ _ _ _ _ => rfl) ring 0 first)
  have both := consistent.framesOf_append wholeFirst second
  have quiet : (ring.readied 0 first).relieved 0 = ring.readied 0 first := by
    rw [Ring.relieved, stands, if_neg modest.not_flushes_behind]
  have joined : ((ring.admitted 0 first).accept second).1 = ring.admitted 0 (first ++ second) := by
    have geometry := ring.geometry_relieved 0
    refine (consistent.relieved 0).accept_accept (by rwa [geometry]) (by rwa [geometry]) ?_
    rw [queuedFrames_relieved, modest.kept_eq, framesOf_of_geometry first geometry,
      framesOf_of_geometry second geometry, geometry]
    exact modest.fits
  rw [readied_eq (ring.readied 0 first), readied_eq ring 0 (first ++ second), Ring.admitted, quiet,
    stands, same, both]
  by_cases early : (ring.standing 0).Starts (ring.framesOf first)
  · rw [if_neg (modest.not_starts_behind early),
      if_pos (modest.starts_or_starts_iff.1 (.inl early)), readied_eq, if_pos early, accept_begin,
      joined]
  · rw [readied_eq ring 0 first, if_neg early, joined]
    simp only [modest.starts_behind_iff early]

end Ring

/-! ### Two blocks, with a device -/

/-- Whether a call starts or stops its device. -/
def Call.switches : Call → Bool
  | .start _ => true
  | .stop _ => true
  | _ => false

namespace Standing

/-- The starts and stops up to where a device that is to start has started. -/
theorem switches_readyCalls (standing : Standing) (stopped : Except Error Unit) (offered : Nat) :
    (standing.readyCalls stopped offered).filter Call.switches =
      (if standing.Flushes then [.stop stopped] else []) ++
        if standing.Starts offered then [.start (.ok ())] else [] := by
  unfold readyCalls earlyCalls
  split <;> split <;> rfl

/-- **Two blocks start and stop a device as one does.** -/
theorem Modest.switches_eq {standing : Standing} {first second : Nat}
    (modest : standing.Modest first second) (stopped : Except Error Unit) :
    (standing.readyCalls stopped first ++
        (standing.behind first).readyCalls stopped second).filter Call.switches =
      (standing.readyCalls stopped (first + second)).filter Call.switches := by
  rw [List.filter_append, switches_readyCalls, switches_readyCalls, switches_readyCalls,
    if_neg modest.not_flushes_behind, List.nil_append, List.append_assoc]
  congr 1
  by_cases early : standing.Starts first
  · rw [if_pos early, if_neg (modest.not_starts_behind early),
      if_pos (modest.starts_or_starts_iff.1 (.inl early)), List.append_nil]
  · rw [if_neg early, List.nil_append]
    simp only [modest.starts_behind_iff early]

end Standing

namespace Device

variable {δ : Type} [Device δ] {device last : δ} {first second : List Call}

/-- Whatever is answered behind some calls, they are answered first. -/
theorem AnswersAll.of_append (answers : AnswersAll device (first ++ second) last) :
    ∃ middle, AnswersAll device first middle ∧ AnswersAll middle second last := by
  induction first generalizing device with
  | nil => exact ⟨device, .nil device, answers⟩
  | cons call calls ih =>
    cases answers with
    | cons here rest =>
      obtain ⟨middle, before, behind⟩ := ih rest
      exact ⟨middle, .cons here before, behind⟩

/-- A device whose frames are drained, whatever calls it has to answer. -/
def StaysCallback (device : δ) : Prop :=
  ∀ calls last, AnswersAll device calls last → delivery last = .callback

/-- A device that never fails and holds nothing, and whose frames are drained. -/
structure Easy (device : δ) : Prop where
  never : NeverFails device
  nothing : HoldsNothing device
  callback : StaysCallback device

theorem Easy.after {calls : List Call} (easy : Easy device)
    (answers : AnswersAll device calls last) : Easy last :=
  ⟨Always.after easy.never answers, Always.after easy.nothing answers,
    fun _ _ behind => easy.callback _ _ (answers.append behind)⟩

end Device

/-- The frames of a device in memory stay with whom they are drained by. -/
theorem MemoryDevice.staysCallback {device : MemoryDevice} (drained : device.delivery = .callback) :
    Device.StaysCallback device := by
  intro calls last answers
  induction answers with
  | nil => exact drained
  | @cons device last call calls _ _ ih =>
    refine ih ?_
    cases call with
    | start _ =>
      rcases device.start_cases with ⟨-, next⟩ | ⟨_, -, next⟩ <;>
        exact (congrArg delivery next).trans drained
    | stop _ => exact drained
    | backlog _ => exact drained
    | write offered _ =>
      rcases device.write_cases offered with ⟨_, -, -, next⟩ | ⟨_, _, -, next⟩ <;>
        exact (congrArg delivery next).trans drained
    | reopen _ =>
      rcases device.reopen_cases with ⟨-, next⟩ | ⟨_, _, -, next⟩ <;>
        exact (congrArg delivery next).trans drained

namespace Feed

variable {δ : Type} [Device δ] {feed : Feed δ} {frames first second : ByteArray}

/-- **An offer to a device that is easy to deal with** goes one way, and no call fails. -/
theorem Staged.of_easy {calls : List Call} {result : Except Error Outcome} {ring : Ring} {last : δ}
    (staged : Staged feed frames calls result ring) (easy : Device.Easy feed.device)
    (answered : Device.AnswersAll feed.device calls last) :
    calls = (feed.ring.standing 0).readyCalls (.ok ()) (feed.ring.framesOf frames) ∧
      result = .ok ((feed.ring.standing 0).outcome (feed.ring.framesOf frames)) ∧
      ring = feed.ring.readied 0 frames := by
  have succeeds := easy.never _ _ answered
  have tells := easy.nothing _ _ answered
  have drained (ready : List Call) (before : ready <+: calls) :
      feed.deliveryAfter ready = .callback := by
    obtain ⟨behind, rfl⟩ := before
    obtain ⟨middle, first, -⟩ := answered.of_append
    rw [deliveryAfter, first.foldl_after]
    exact easy.callback _ _ first
  cases staged with
  | unasked error => cases succeeds (.backlog (.error error)) (List.mem_singleton_self _)
  | unstarted backlog stopped error starts =>
    cases succeeds (.start (.error error)) (List.mem_append_right _ (List.mem_singleton_self _))
  | unwritten backlog stopped error ready ready_eq writes =>
    cases (drained ready (List.prefix_append ..)).symm.trans writes.1
  | written backlog stopped taken ready ready_eq writes =>
    cases (drained ready (List.prefix_append ..)).symm.trans writes.1
  | silent backlog stopped ready ready_eq idle =>
    subst ready_eq
    have none : backlog = 0 := by
      have told := tells (.backlog (.ok backlog)) (List.mem_cons_self ..)
      cases backlog with
      | zero => rfl
      | succ held => cases told
    subst none
    refine ⟨?_, rfl, rfl⟩
    unfold Standing.readyCalls Standing.earlyCalls at succeeds ⊢
    by_cases flushes : (feed.ring.standing 0).Flushes
    · rw [if_pos flushes] at succeeds
      cases stopped with
      | ok _ => rfl
      | error error => cases succeeds (.stop (.error error)) (by simp)
    · rw [if_neg flushes, if_neg flushes]

theorem queued_readily (easy : Device.Easy feed.device) (consistent : feed.ring.Consistent)
    (little : feed.ring.geometry.lowFrames ≤ wordMax)
    (whole : frames.size % feed.ring.geometry.frameSize = 0)
    (admits : (feed.ring.standing 0).Admits (feed.ring.framesOf frames)) :
    ∃ after, feed.queue frames = .ok (.ok .queued, after) ∧
      after.ring = feed.ring.readied 0 frames ∧
      feed.Follows (feed.enqueueMoves frames) after ∧
      Move.calls (feed.enqueueMoves frames) =
        (feed.ring.standing 0).readyCalls (.ok ()) (feed.ring.framesOf frames) ∧
      Device.Easy after.device := by
  have followed := follows_enqueue whole
  have answered := (feed.recorded_enqueue frames).answers followed
  obtain ⟨calls_eq, result_eq, ring_eq⟩ :=
    (staged_enqueue consistent little whole).of_easy easy answered
  rw [Standing.outcome, if_pos admits] at result_eq
  have queued : feed.queue frames = .ok ((feed.enqueue frames).1, (feed.enqueue frames).2) :=
    queue_of_whole whole
  rw [result_eq] at queued
  exact ⟨_, queued, ring_eq, followed, calls_eq, easy.after answered⟩

/-- **Below the watermark it does not matter how frames are cut into blocks.** For every ring that
can be reached, with a device that never fails, holds nothing and has its frames drained: if the
frames that are queued, those of a block that is not empty, and those of another one stay within the
high watermark and have room, then both blocks in one, and one after the other, are queued, leave
the same ring, and start and stop the device alike. -/
theorem blocks_do_what_one_does (reachable : feed.ring.Reachable)
    (never : Device.NeverFails feed.device) (nothing : Device.HoldsNothing feed.device)
    (callback : Device.StaysCallback feed.device)
    (wholeFirst : first.size % feed.ring.geometry.frameSize = 0)
    (wholeSecond : second.size % feed.ring.geometry.frameSize = 0) (some : first.size ≠ 0)
    (within : feed.ring.queuedFrames + feed.ring.framesOf first + feed.ring.framesOf second ≤
      min feed.ring.geometry.highFrames feed.ring.geometry.capacityFrames) :
    ∃ single middle split,
      feed.queue (first ++ second) = .ok (.ok .queued, single) ∧
        feed.queue first = .ok (.ok .queued, middle) ∧
        middle.queue second = .ok (.ok .queued, split) ∧
        split.ring = single.ring ∧
        (split.callsSince feed).filter Call.switches =
          (single.callsSince feed).filter Call.switches := by
  have easy : Device.Easy feed.device := ⟨never, nothing, callback⟩
  have consistent := reachable.consistent
  have little := reachable.lowFrames_le
  have positive := consistent.frameSize_pos
  have modest : (feed.ring.standing 0).Modest (feed.ring.framesOf first)
      (feed.ring.framesOf second) := by
    refine ⟨rfl, ?_, (Nat.le_min.1 within).1, (Nat.le_min.1 within).2,
      consistent.capacityFrames_le⟩
    have divides := Nat.dvd_of_mod_eq_zero wholeFirst
    exact Nat.div_pos (Nat.le_of_dvd (Nat.pos_of_ne_zero some) divides) positive
  have both := consistent.framesOf_append wholeFirst second
  obtain ⟨single, one, oneRing, oneFollows, oneCalls, -⟩ := queued_readily easy consistent little
    (Ring.whole_append wholeFirst wholeSecond) (by rw [both]; exact modest.admits_both)
  obtain ⟨middle, early, middleRing, middleFollows, middleCalls, easyBehind⟩ :=
    queued_readily easy consistent little wholeFirst modest.admits_first
  have geometry : middle.ring.geometry = feed.ring.geometry := middleFollows.makes.geometry_eq
  have offered := Ring.framesOf_of_geometry second geometry
  have stands : middle.ring.standing 0 =
      (feed.ring.standing 0).behind (feed.ring.framesOf first) := by
    rw [middleRing]
    exact consistent.standing_readied wholeFirst
  have kept : middle.ring.Consistent := by
    rw [middleRing]
    exact consistent.readied 0 wholeFirst
  obtain ⟨split, late, splitRing, splitFollows, splitCalls, -⟩ := queued_readily easyBehind kept
    (by rwa [geometry]) (by rwa [geometry]) (by rw [stands, offered]; exact modest.admits_behind)
  refine ⟨single, middle, split, one, early, late, ?_, ?_⟩
  · rw [splitRing, middleRing, oneRing]
    exact consistent.readied_readied wholeFirst wholeSecond modest
  · rw [(middleFollows.append splitFollows).callsSince_eq, oneFollows.callsSince_eq,
      Move.calls_append, middleCalls, splitCalls, oneCalls, stands, offered, both]
    exact modest.switches_eq (.ok ())

/-- The first of two blocks is too short to start the device, and the second one starts it. -/
theorem blocks_do_what_one_does_at_start :
    let feed : Feed MemoryDevice := ⟨Ring.ofFormat ⟨.i16, 1, 500, none⟩ 3 6, .callback, #[]⟩
    let first : ByteArray := ⟨#[7, 8]⟩
    let second : ByteArray := ⟨#[9, 10, 11, 12, 13, 14]⟩
    feed.ring.Reachable ∧ Device.NeverFails feed.device ∧ Device.HoldsNothing feed.device ∧
      Device.StaysCallback feed.device ∧ first.size % feed.ring.geometry.frameSize = 0 ∧
      second.size % feed.ring.geometry.frameSize = 0 ∧ first.size ≠ 0 ∧
      feed.ring.queuedFrames + feed.ring.framesOf first + feed.ring.framesOf second ≤
        min feed.ring.geometry.highFrames feed.ring.geometry.capacityFrames ∧
      feed.ring.framesOf first < feed.ring.geometry.lowFrames ∧
      ∃ single middle split,
        feed.queue (first ++ second) = .ok (.ok .queued, single) ∧
          feed.queue first = .ok (.ok .queued, middle) ∧
          middle.queue second = .ok (.ok .queued, split) ∧
          split.ring = single.ring ∧
          (split.callsSince feed).filter Call.switches =
            (single.callsSince feed).filter Call.switches := by
  intro feed first second
  have created : Ring.create ⟨.i16, 1, 500, none⟩ 3 6 = .ok feed.ring := rfl
  have reachable : feed.ring.Reachable := Ring.reachable_run created PlainDevice.mk []
  have never : Device.NeverFails feed.device :=
    MemoryDevice.Sound.neverFails ⟨rfl, rfl, rfl, rfl⟩
  have nothing : Device.HoldsNothing feed.device := MemoryDevice.holdsNothing_of_empty ⟨rfl, rfl⟩
  have callback : Device.StaysCallback feed.device := MemoryDevice.staysCallback rfl
  have wholeFirst : first.size % feed.ring.geometry.frameSize = 0 := by decide +kernel
  have wholeSecond : second.size % feed.ring.geometry.frameSize = 0 := by decide +kernel
  have some : first.size ≠ 0 := by decide
  have within : feed.ring.queuedFrames + feed.ring.framesOf first + feed.ring.framesOf second ≤
      min feed.ring.geometry.highFrames feed.ring.geometry.capacityFrames := by decide +kernel
  have short : feed.ring.framesOf first < feed.ring.geometry.lowFrames := by decide +kernel
  exact ⟨reachable, never, nothing, callback, wholeFirst, wholeSecond, some, within, short,
    blocks_do_what_one_does reachable never nothing callback wholeFirst wholeSecond some within⟩

end Feed

end Playout
