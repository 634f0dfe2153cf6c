/-
**Whether a session can start at all.**

A silent session starts its device once the low watermark is reached, and until then its ring only
fills. The ring holds the frames of one second. The low watermark is counted at a whole number of
frames per millisecond, so at most rates one second of it is more or less than that. If it is above
the ring, and the device holds nothing itself, then the ring is full before the session may start.

* `Feed.enqueue_of_silent`: exactly when an offer to a silent ring starts the device;
* `Session.silent_run`: a watermark above the ring is never reached;
* `Session.queuedFrames_run_of_silent`: a silent ring takes in one frame after the other until it is
  full;
* `Session.starts_if_watermark_fits`: so a session starts just if its watermark is within the ring.
-/
import Playout.Proofs.Scene
import Playout.Proofs.Session.Tally
import Playout.Proofs.Session.Watermarks

namespace Playout

/-! ### Devices that always answer in some way -/

/-- Whether a call tells a backlog that is not empty. -/
def Call.tellsHeld : Call → Bool
  | .backlog (.ok (_ + 1)) => true
  | _ => false

namespace Device

variable {δ : Type} [Device δ] {kind : Call → Bool} {device last : δ} {calls : List Call}

/-- Whatever calls a device has to answer from now on, all of them are of some kind. -/
def Always (kind : Call → Bool) (device : δ) : Prop :=
  ∀ calls last, AnswersAll device calls last → ∀ call ∈ calls, kind call = true

/-- A device that never fails. -/
def NeverFails (device : δ) : Prop := Always Call.succeeds device

/-- A device that never holds frames that are not played. -/
def HoldsNothing (device : δ) : Prop := Always (fun call => !call.tellsHeld) device

theorem Always.after (always : Always kind device) (answers : AnswersAll device calls last) :
    Always kind last := by
  intro more final behind call member
  exact always _ _ (answers.append behind) call (List.mem_append_right _ member)

/-- What is true of a device and kept by each of its answers decides how it always answers. -/
theorem always_of_invariant {kept : δ → Prop}
    (step : ∀ (now : δ) (call : Call), kept now → Answers now call →
      kind call = true ∧ kept (Device.after now call))
    (start : kept device) : Always kind device := by
  intro calls last answers
  induction answers with
  | nil => exact List.forall_mem_nil _
  | @cons device last call calls given _ ih =>
    obtain ⟨here, next⟩ := step device call start given
    exact List.forall_mem_cons.2 ⟨here, ih next⟩

end Device

namespace MemoryDevice

/-- Nothing was done to a device in memory that makes it fail. -/
structure Sound (device : MemoryDevice) : Prop where
  present : device.lost = false
  starts : device.startFailure = none
  writes : device.writeFailure = none
  reopens : device.failingReopens = 0

/-- A device in memory that nobody makes fail never fails. -/
theorem Sound.neverFails {device : MemoryDevice} (sound : device.Sound) :
    Device.NeverFails device := by
  refine Device.always_of_invariant (fun now call (sound : now.Sound) given => ?_) sound
  obtain ⟨delivery, frameSize, capacityFrames, running, starts, stops, reopens, backlogFrames,
    written, lost, failingReopens, startFailure, writeFailure⟩ := now
  obtain ⟨rfl, rfl, rfl, rfl⟩ := sound
  cases call with
  | _ =>
    obtain rfl := given
    exact ⟨rfl, rfl, rfl, rfl, rfl⟩

/-- A device in memory without room never holds anything. -/
theorem holdsNothing_of_empty {device : MemoryDevice}
    (empty : device.capacityFrames = 0 ∧ device.backlogFrames = 0) :
    Device.HoldsNothing device := by
  refine Device.always_of_invariant (fun now call
    (empty : now.capacityFrames = 0 ∧ now.backlogFrames = 0) given => ?_) empty
  obtain ⟨full, idle⟩ := empty
  cases call with
  | start _ =>
    rcases now.start_cases with ⟨-, next⟩ | ⟨_, -, next⟩ <;>
      exact ⟨rfl, by rw [Device.after, next]; exact ⟨full, idle⟩⟩
  | stop _ => exact ⟨rfl, full, rfl⟩
  | backlog answer =>
    refine ⟨?_, full, idle⟩
    have told : (if now.lost then .error lostError else .ok now.backlogFrames) = answer := given
    rw [idle] at told
    subst told
    split <;> rfl
  | write offered _ =>
    refine ⟨rfl, ?_⟩
    rcases now.write_cases offered with ⟨taken, room, -, next⟩ | ⟨_, _, -, next⟩
    · rw [full, idle, Nat.sub_self, Nat.min_zero] at room
      rw [Device.after, next, room]
      exact ⟨full, idle⟩
    · rw [Device.after, next]
      exact ⟨full, idle⟩
  | reopen _ =>
    rcases now.reopen_cases with ⟨-, next⟩ | ⟨_, _, -, next⟩
    · exact ⟨rfl, by rw [Device.after, next]; exact ⟨full, rfl⟩⟩
    · exact ⟨rfl, by rw [Device.after, next]; exact ⟨full, idle⟩⟩

end MemoryDevice

/-! ### Offers to a silent ring -/

namespace Ring

variable {ring : Ring} {frames : ByteArray}

theorem playing_accept (ring : Ring) (frames : ByteArray) :
    (ring.accept frames).1.playing = ring.playing :=
  observe_accept Ring.playing (fun _ _ _ _ _ => rfl) ring frames

theorem playing_drain (ring : Ring) (buffer : ByteArray) :
    (ring.drain buffer).1.playing = ring.playing :=
  observe_drain Ring.playing (fun _ _ _ _ => rfl) ring buffer

theorem Consistent.queuedFrames_add_gain_le (consistent : ring.Consistent)
    (whole : frames.size % ring.geometry.frameSize = 0) :
    ring.queuedFrames + ring.gain frames ≤ ring.geometry.capacityFrames := by
  rw [← ring.queuedFrames_accept, ← ring.geometry_accept frames]
  exact (consistent.accept whole).queuedFrames_le

/-- A single frame fits into a ring that is not full. -/
theorem Consistent.gain_of_single (consistent : ring.Consistent)
    (single : frames.size = ring.geometry.frameSize) :
    ring.gain frames = if ring.queuedFrames < ring.geometry.capacityFrames then 1 else 0 := by
  have positive := consistent.frameSize_pos
  have within := consistent.queuedFrames_le
  have one : ring.frameCount frames = 1 := by
    rw [frameCount, single, Nat.div_self positive]
    rfl
  have fits : ring.fits frames = true ↔ ring.queuedFrames < ring.geometry.capacityFrames := by
    have free : ring.storage.free =
        (ring.geometry.capacityFrames - ring.queuedFrames) * ring.geometry.frameSize := by
      have stored := ring.storage.available_add_free
      rw [consistent.available_eq, consistent.capacity_eq, Geometry.capacityBytes] at stored
      rw [Nat.sub_mul]
      omega
    have room : ∀ count, ring.geometry.frameSize ≤ count * ring.geometry.frameSize ↔ 1 ≤ count := by
      intro count
      have cut : 1 * ring.geometry.frameSize ≤ count * ring.geometry.frameSize ↔ 1 ≤ count :=
        Nat.mul_le_mul_right_iff positive
      rwa [Nat.one_mul] at cut
    rw [Ring.fits, Bool.and_eq_true, decide_eq_true_iff, decide_eq_true_iff, single, free,
      Geometry.capacityBytes, room, room]
    omega
  unfold gain
  rw [one]
  by_cases room : ring.queuedFrames < ring.geometry.capacityFrames
  · rw [if_pos (fits.2 room), if_pos room]
  · rw [if_neg fun taken => room (fits.1 taken), if_neg room]

end Ring

namespace Feed

variable {δ : Type} [Device δ] {feed : Feed δ} {frames : ByteArray}

/-- **An offer to a silent ring starts its device just if** what is queued then, and what the device
holds, reach the low watermark. Otherwise it adds its frames, as far as there is room. -/
theorem enqueue_of_silent {outcome : Outcome} {after : Feed δ}
    (done : feed.enqueue frames = (.ok outcome, after)) (silent : feed.ring.playing = false) :
    ∃ backlog, (Device.backlog feed.device).result = .ok backlog ∧
      ((feed.ring.geometry.lowFrames ≤
            saturate (saturate (feed.ring.queuedFrames + backlog) + feed.ring.gain frames) ∧
          after.ring.playing = true) ∨
        (saturate (saturate (feed.ring.queuedFrames + backlog) + feed.ring.gain frames) <
            feed.ring.geometry.lowFrames ∧
          after.ring = (feed.ring.accept frames).1)) := by
  have way := offered_enqueue feed frames
  rw [done] at way
  generalize feed.enqueueMoves frames = moves at way
  cases way with
  | @completed admission started _ start_eq flush_eq =>
    refine ⟨admission.backlog, admission.answer_eq, ?_⟩
    have still : admission.asked.ring.playing = false := by rw [admission.ring_asked, silent]
    obtain ⟨queued_eq, relieved_eq⟩ :=
      Prod.mk.inj (admission.relieve_eq.symm.trans (relieve_of_silent still _).1)
    have accepted_eq : admission.accepted.ring = (feed.ring.accept frames).1 := by
      rw [admission.ring_accepted, relieved_eq, admission.ring_asked]
    have due_eq : admission.due =
        saturate (saturate (feed.ring.queuedFrames + admission.backlog) +
          feed.ring.gain frames) := by
      rw [admission.due_eq, queued_eq, relieved_eq, admission.ring_asked]
    have geometry_eq : admission.accepted.ring.geometry = feed.ring.geometry :=
      admission.geometry_accepted
    rw [← due_eq, ← geometry_eq]
    rcases startIfDue_cases start_eq with ⟨enough, playing⟩ | ⟨little, rfl⟩
    · refine .inl ⟨enough, ?_⟩
      have kept := playing_flushIfDue started
      rwa [flush_eq, playing] at kept
    · refine .inr ⟨little, ?_⟩
      have quiet : admission.accepted.ring.playing = false := by
        rw [accepted_eq, Ring.playing_accept, silent]
      rw [flushIfDue_of_silent quiet] at flush_eq
      obtain ⟨-, rfl⟩ := Prod.mk.inj flush_eq
      exact accepted_eq

end Feed

namespace Session

variable {δ : Type} [Device δ] {session : Session δ} {frames : ByteArray}

/-- A device that never fails ends no offer early. -/
theorem enqueue_of_neverFails (never : Device.NeverFails session.feed.device)
    (whole : frames.size % session.feed.ring.geometry.frameSize = 0) :
    session.feed.enqueue frames =
      (.ok (session.offer frames).1, (session.offer frames).2.feed) := by
  have answers := (session.recorded_offer frames).answers (follows_offer whole)
  exact (offer_of_succeeds whole (never _ _ answers)).1

/-! ### Watermarks above the ring -/

/-- No offer starts a session whose ring is full before. -/
theorem silent_offer (never : Device.NeverFails session.feed.device)
    (empty : Device.HoldsNothing session.feed.device)
    (consistent : session.feed.ring.Consistent)
    (above : session.feed.ring.geometry.capacityFrames < session.feed.ring.geometry.lowFrames)
    (whole : frames.size % session.feed.ring.geometry.frameSize = 0)
    (silent : session.isPlaying = false) : (session.offer frames).2.isPlaying = false := by
  obtain ⟨backlog, told, started | waiting⟩ :=
    Feed.enqueue_of_silent (enqueue_of_neverFails never whole) silent
  · have nothing : backlog = 0 := by
      have answers : Device.Answers session.feed.device (.backlog (.ok backlog)) := told
      have quiet := empty _ _ (.cons answers (.nil _)) _ List.mem_cons_self
      cases backlog with
      | zero => rfl
      | succ _ => cases quiet
    have held := consistent.queuedFrames_add_gain_le whole
    have enough := started.1
    rw [nothing] at enough
    unfold saturate at enough
    omega
  · rw [isPlaying, waiting.2, Ring.playing_accept]
    exact silent

theorem silent_perform {operation : Operation δ} (never : Device.NeverFails session.feed.device)
    (empty : Device.HoldsNothing session.feed.device)
    (consistent : session.feed.ring.Consistent)
    (above : session.feed.ring.geometry.capacityFrames < session.feed.ring.geometry.lowFrames)
    (silent : session.isPlaying = false) : (session.perform operation).isPlaying = false := by
  have done := performed session operation
  generalize session.moves operation = moves, session.perform operation = after at done ⊢
  cases done with
  | offered _ whole => exact silent_offer never empty consistent above whole silent
  | reset => exact session.feed.silent_reset
  | drained buffer => exact (session.feed.ring.playing_drain buffer).trans silent
  | asked =>
    rw [isPlaying, ring_queuedMs]
    exact silent
  | unmoved ring_eq _ _ =>
    rw [isPlaying, ring_eq]
    exact silent

/-- **A watermark above the ring is never reached**, whatever is done with the session, as long as
its device holds nothing. -/
theorem silent_run {operations : List (Operation δ)}
    (never : Device.NeverFails session.feed.device)
    (empty : Device.HoldsNothing session.feed.device)
    (consistent : session.feed.ring.Consistent)
    (above : session.feed.ring.geometry.capacityFrames < session.feed.ring.geometry.lowFrames)
    (called : ∀ operation ∈ operations, operation.changes = false)
    (silent : session.isPlaying = false) : (session.run operations).isPlaying = false := by
  induction operations generalizing session with
  | nil => exact silent
  | cons operation rest ih =>
    obtain ⟨here, behind⟩ := List.forall_mem_cons.1 called
    have answers := session.answers_perform here
    have making := (follows_perform session operation).makes
    refine ih (never.after answers) (empty.after answers) (making.consistent consistent) ?_ behind
      (silent_perform never empty consistent above silent)
    rw [making.geometry_eq]
    exact above

/-! ### Filling a silent ring -/

/-- A ring that stays silent takes in a single frame if it is not full. -/
theorem queuedFrames_offer_of_silent (never : Device.NeverFails session.feed.device)
    (consistent : session.feed.ring.Consistent)
    (single : frames.size = session.feed.ring.geometry.frameSize)
    (silent : session.isPlaying = false) (still : (session.offer frames).2.isPlaying = false) :
    (session.offer frames).2.feed.ring.queuedFrames =
      min (session.feed.ring.queuedFrames + 1) session.feed.ring.geometry.capacityFrames := by
  have whole : frames.size % session.feed.ring.geometry.frameSize = 0 := by
    rw [single, Nat.mod_self]
  have within := consistent.queuedFrames_le
  obtain ⟨backlog, -, started | waiting⟩ :=
    Feed.enqueue_of_silent (enqueue_of_neverFails never whole) silent
  · cases started.2.symm.trans still
  · rw [waiting.2, Ring.queuedFrames_accept, consistent.gain_of_single single]
    split <;> omega

/-- **A silent ring takes in one frame after the other until it is full.** -/
theorem queuedFrames_run_of_silent {payloads : List ByteArray}
    (never : Device.NeverFails session.feed.device) (consistent : session.feed.ring.Consistent)
    (single : ∀ frames ∈ payloads, frames.size = session.feed.ring.geometry.frameSize)
    (still : ∀ front, front <+: payloads →
      (session.run (front.map .queue)).isPlaying = false) :
    (session.run (payloads.map .queue)).feed.ring.queuedFrames =
      min (session.feed.ring.queuedFrames + payloads.length)
        session.feed.ring.geometry.capacityFrames := by
  induction payloads generalizing session with
  | nil => exact (Nat.min_eq_left consistent.queuedFrames_le).symm
  | cons frames rest ih =>
    obtain ⟨here, behind⟩ := List.forall_mem_cons.1 single
    have whole : frames.size % session.feed.ring.geometry.frameSize = 0 := by
      rw [here, Nat.mod_self]
    have offered : session.perform (.queue frames) = (session.offer frames).2 := by
      rw [perform, queue_of_whole whole]
      rfl
    have making := (follows_perform session (.queue frames)).makes
    have answers := session.answers_perform (show (Operation.queue frames).changes = false from rfl)
    have later : ∀ front, front <+: rest →
        ((session.perform (.queue frames)).run (front.map .queue)).isPlaying = false :=
      fun front ahead => still (frames :: front) ((List.prefix_cons_inj frames).2 ahead)
    have step := queuedFrames_offer_of_silent never consistent here (still [] List.nil_prefix)
      ((congrArg isPlaying offered).symm.trans (later [] List.nil_prefix))
    have next := ih (never.after answers) (making.consistent consistent)
      (by rw [making.geometry_eq]; exact behind) later
    rw [making.geometry_eq, offered, step] at next
    rw [List.map_cons, List.length_cons]
    show ((session.perform (.queue frames)).run (rest.map .queue)).feed.ring.queuedFrames = _
    rw [offered, next]
    omega

/-- **Whether a session can start** with a geometry. If the low watermark is within the ring, then
it plays at some time while single frames are offered, as many as the ring holds. If not, it never
does, unless its device holds something itself. -/
structure StartsIfWatermarkFits (opened : Session δ) (geometry : Geometry) : Prop where
  starts : geometry.lowFrames ≤ geometry.capacityFrames →
    ∀ payloads : List ByteArray, (∀ frames ∈ payloads, frames.size = geometry.frameSize) →
      payloads.length = geometry.capacityFrames →
        ∃ front, front <+: payloads ∧ (opened.run (front.map .queue)).isPlaying = true
  waits : geometry.capacityFrames < geometry.lowFrames → Device.HoldsNothing opened.feed.device →
    ∀ operations : List (Operation δ), (∀ operation ∈ operations, operation.changes = false) →
      (opened.run operations).isPlaying = false

/-- **A session whose low watermark is within its ring can start**, if its device never fails, and
one whose watermark is above it cannot. -/
theorem starts_if_watermark_fits {format : Format} {config : Config} {device : δ}
    (format_valid : format.validate = .ok ()) (config_valid : config.validate = .ok ())
    (never : Device.NeverFails device) :
    ∃ opened, create device format config = .ok opened ∧
      opened.StartsIfWatermarkFits (Geometry.ofFormat format config.lowWatermarkMs.toNat
        config.highWatermarkMs.toNat) := by
  obtain ⟨opened, opening, device_eq⟩ : ∃ opened, create device format config = .ok opened ∧
      opened.feed.device = device := by
    unfold create openWith
    rw [format_valid, config_valid]
    exact ⟨_, rfl, rfl⟩
  have known := of_openWith_eq_ok opening
  obtain ⟨consistent, shape⟩ := known.ring_run []
  rw [← device_eq] at never
  rw [← shape]
  refine ⟨opened, opening, fun within payloads single length => ?_, ?_⟩
  · -- a ring that stayed silent would be full, and so at its low watermark
    refine Classical.byContradiction fun missed => ?_
    have still : ∀ front, front <+: payloads →
        (opened.run (front.map .queue)).isPlaying = false := fun front ahead =>
      Bool.eq_false_iff.2 fun playing => missed ⟨front, ahead, playing⟩
    have filled := queuedFrames_run_of_silent never consistent single still
    have settled := settled_run known.emptied.settled known.lowFrames_le (payloads.map .queue)
      (still payloads List.prefix_rfl)
    have fresh : opened.feed.ring.queuedFrames = 0 := known.emptied.queuedFrames_eq
    have positive := consistent.capacityFrames_pos
    rw [(follows_run opened (payloads.map .queue)).makes.geometry_eq, filled, fresh, length,
      Nat.zero_add] at settled
    simp only [run, List.foldl_nil] at settled within positive
    omega
  · intro above empty operations called
    exact silent_run never empty consistent above called known.emptied.playing_eq

/-- A device in memory that nobody makes fail, at the watermarks that are the standard. -/
theorem starts_if_watermark_fits_with_memory_device :
    let format : Format := {}
    let config : Config := {}
    format.validate = .ok () ∧ config.validate = .ok () ∧
      Device.NeverFails MemoryDevice.callback ∧
        ∃ opened, create MemoryDevice.callback format config = .ok opened ∧
          opened.StartsIfWatermarkFits (Geometry.ofFormat format config.lowWatermarkMs.toNat
            config.highWatermarkMs.toNat) := by
  intro format config
  have never : Device.NeverFails MemoryDevice.callback :=
    MemoryDevice.Sound.neverFails ⟨rfl, rfl, rfl, rfl⟩
  exact ⟨rfl, rfl, never, starts_if_watermark_fits rfl rfl never⟩

/-- At 500 Hz a millisecond is counted as one frame, so that a low watermark of one second is twice
the ring. A session with it is valid, and never plays. -/
theorem full_session_stays_silent :
    let format : Format := ⟨.i16, 1, 500, none⟩
    let config : Config := { lowWatermarkMs := 1000, highWatermarkMs := 1000 }
    format.validate = .ok () ∧ config.validate = .ok () ∧ config.lowWatermarkMs ≤ 1000 ∧
      Device.NeverFails MemoryDevice.callback ∧
        ∃ opened, create MemoryDevice.callback format config = .ok opened ∧
          ∀ payloads : List ByteArray, (opened.run (payloads.map .queue)).isPlaying = false := by
  intro format config
  have never : Device.NeverFails MemoryDevice.callback :=
    MemoryDevice.Sound.neverFails ⟨rfl, rfl, rfl, rfl⟩
  have empty : Device.HoldsNothing MemoryDevice.callback :=
    MemoryDevice.holdsNothing_of_empty ⟨rfl, rfl⟩
  have opening : openWith format config (fun _ => .ok MemoryDevice.callback) = .ok _ := rfl
  have known := of_openWith_eq_ok opening
  obtain ⟨consistent, shape⟩ := known.ring_run []
  refine ⟨rfl, rfl, by decide, never, _, opening, fun payloads => ?_⟩
  refine silent_run never empty consistent ?_ ?_ known.emptied.playing_eq
  · decide +kernel
  · intro operation member
    obtain ⟨frames, -, rfl⟩ := List.mem_map.1 member
    rfl

end Session

end Playout
