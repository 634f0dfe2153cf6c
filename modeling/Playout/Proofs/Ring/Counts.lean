/-
**The frame counter and the unread bytes of a ring agree.**

A ring keeps two counts of the same thing: `queuedFrames`, and the unread bytes of its storage. They
are changed side by side, a payload at a time (`Ring.accept`), by what a device takes
(`Ring.consume`), by what a consumer drains (`Ring.drain`) and by a reset. A ring is `Consistent` if
they agree and its storage has the size that its geometry asks for.

* `Ring.Consistent.after`: every allowed move keeps a ring consistent;
* `Ring.Consistent.exact`: and does to it all that was asked for, with no count leaving its range;
* `Ring.drain_eq_consume`: to drain a ring is to consume whole frames;
* `Ring.counts_agree_along_runs`: so it is along every run, on the ring or through a session.
-/
import Playout.ByteRing.View
import Playout.Device.Scripted
import Playout.Proofs.Operation

namespace Playout

namespace Ring

/-- A ring whose two counts agree. -/
structure Consistent (ring : Ring) : Prop where
  frameSize_pos : 0 < ring.geometry.frameSize
  capacityFrames_pos : 0 < ring.geometry.capacityFrames
  capacityFrames_le : ring.geometry.capacityFrames ≤ wordMax
  capacity_eq : ring.storage.capacity = ring.geometry.capacityBytes
  available_eq : ring.storage.available = ring.queuedFrames * ring.geometry.frameSize

namespace Consistent

variable {ring : Ring}

/-- The queued frames fit into the ring. -/
theorem queuedFrames_le (consistent : ring.Consistent) :
    ring.queuedFrames ≤ ring.geometry.capacityFrames := by
  have stored : ring.storage.available ≤ ring.storage.capacity := ring.storage.length_le
  rw [consistent.available_eq, consistent.capacity_eq] at stored
  exact Nat.le_of_mul_le_mul_right stored consistent.frameSize_pos

theorem position_lt (consistent : ring.Consistent) :
    ring.storage.position < ring.storage.capacity := by
  have inside := ring.storage.position_lt
  have room : 0 < ring.storage.capacity := by
    rw [consistent.capacity_eq]
    exact Nat.mul_pos consistent.capacityFrames_pos consistent.frameSize_pos
  simp only [ByteRing.capacity] at room ⊢
  omega

end Consistent

/-! ### New rings -/

theorem consistent_ofFormat {format : Format} (valid : format.validate = .ok ())
    (lowMs highMs : Nat) : (ofFormat format lowMs highMs).Consistent := by
  obtain ⟨hasChannels, hasRate⟩ := (Format.validate_eq_ok_iff format).1 valid
  have rate : format.sampleRate.toNat < UInt32.size := format.sampleRate.toNat_lt
  refine ⟨Format.frameSize_pos hasChannels, ?_, ?_, ?_, ?_⟩
  · exact Nat.pos_of_ne_zero fun zero => hasRate (UInt32.toNat_inj.1 zero)
  · show format.sampleRate.toNat ≤ wordMax
    simp only [wordMax]
    simp only [UInt32.size] at rate
    omega
  · exact Array.size_replicate
  · exact (Nat.zero_mul _).symm

/-- A ring that could be made is new and consistent. -/
theorem of_create_eq_ok {format : Format} {lowMs highMs : Nat} {ring : Ring}
    (created : create format lowMs highMs = .ok ring) :
    ring = ofFormat format lowMs highMs ∧ format.validate = .ok () := by
  unfold create at created
  cases check : Geometry.check format with
  | error fault => rw [check] at created; cases created
  | ok _ =>
    rw [check] at created
    cases created
    exact ⟨rfl, (Geometry.check_eq_ok_iff format).1 check⟩

/-- There is a ring for every format that describes a stream. -/
theorem create_eq_ok {format : Format} (valid : format.validate = .ok ()) (lowMs highMs : Nat) :
    create format lowMs highMs = .ok (ofFormat format lowMs highMs) := by
  rw [create, (Geometry.check_eq_ok_iff format).2 valid]
  rfl

theorem consistent_create {format : Format} {lowMs highMs : Nat} {ring : Ring}
    (created : create format lowMs highMs = .ok ring) : ring.Consistent := by
  obtain ⟨rfl, valid⟩ := of_create_eq_ok created
  exact consistent_ofFormat valid lowMs highMs

/-! ### Taking payloads in -/

variable {ring : Ring}

/-- The frames of a payload that fits are counted without being cut. -/
theorem Consistent.frameCount_mul (consistent : ring.Consistent) {frames : ByteArray}
    (whole : frames.size % ring.geometry.frameSize = 0) (fits : ring.fits frames = true) :
    ring.frameCount frames * ring.geometry.frameSize = frames.size := by
  have small : frames.size ≤ ring.geometry.capacityBytes := by
    simp only [Ring.fits, Bool.and_eq_true, decide_eq_true_eq] at fits
    exact fits.1
  have counted : frames.size / ring.geometry.frameSize ≤ ring.geometry.capacityFrames :=
    Nat.div_le_of_le_mul (by rw [Nat.mul_comm]; exact small)
  have bound := consistent.capacityFrames_le
  have exact : ring.frameCount frames = frames.size / ring.geometry.frameSize := by
    apply Nat.mod_eq_of_lt
    simp only [wordMax] at bound
    simp only [UInt32.size]
    omega
  rw [exact]
  exact Nat.div_mul_cancel (Nat.dvd_of_mod_eq_zero whole)

/-- A payload that fits is written as a whole. -/
theorem count_write_of_fits {frames : ByteArray} (fits : ring.fits frames = true) :
    (ring.storage.write frames).2 = frames.size := by
  simp only [Ring.fits, Bool.and_eq_true, decide_eq_true_eq] at fits
  exact Nat.min_eq_left fits.2

theorem Consistent.accept (consistent : ring.Consistent) {frames : ByteArray}
    (whole : frames.size % ring.geometry.frameSize = 0) : (ring.accept frames).1.Consistent := by
  unfold Ring.accept
  by_cases fits : ring.fits frames = true
  · have counted := consistent.frameCount_mul whole fits
    have written := count_write_of_fits fits
    rw [if_pos fits]
    refine ⟨consistent.frameSize_pos, consistent.capacityFrames_pos, consistent.capacityFrames_le,
      ?_, ?_⟩
    · exact (ByteRing.capacity_write ..).trans consistent.capacity_eq
    · show ring.storage.available + (ring.storage.write frames).2 = _
      rw [written, consistent.available_eq, ← counted, ← Nat.add_mul]
  · rw [if_neg fits]
    exact ⟨consistent.frameSize_pos, consistent.capacityFrames_pos, consistent.capacityFrames_le,
      consistent.capacity_eq, consistent.available_eq⟩

/-! ### Consuming frames -/

/-- Queued frames can be skipped as a whole. -/
theorem Consistent.count_skip (consistent : ring.Consistent) {frames : Nat}
    (queued : frames ≤ ring.queuedFrames) :
    (ring.storage.skip (frames * ring.geometry.frameSize)).2 =
      frames * ring.geometry.frameSize := by
  apply Nat.min_eq_left
  show _ ≤ ring.storage.available
  rw [consistent.available_eq]
  exact Nat.mul_le_mul_right _ queued

theorem Consistent.consume (consistent : ring.Consistent) {frames : Nat}
    (queued : frames ≤ ring.queuedFrames) : (ring.consume frames).Consistent := by
  refine ⟨consistent.frameSize_pos, consistent.capacityFrames_pos, consistent.capacityFrames_le,
    consistent.capacity_eq, ?_⟩
  show ring.storage.available - (ring.storage.skip (frames * ring.geometry.frameSize)).2 = _
  rw [consistent.count_skip queued, consistent.available_eq, ← Nat.sub_mul]
  rfl

/-! ### Draining -/

/-- The frames that leave a ring when a buffer is filled from it. -/
def drainable (ring : Ring) (buffer : ByteArray) : Nat :=
  if ring.playing then min (buffer.size / ring.geometry.frameSize) ring.queuedFrames else 0

theorem drainable_le (ring : Ring) (buffer : ByteArray) :
    ring.drainable buffer ≤ ring.queuedFrames := by
  unfold drainable
  split
  · exact Nat.min_le_right ..
  · exact Nat.zero_le _

/-- What a playing ring reads for a consumer, and what becomes of the ring and of the buffer. -/
theorem drain_of_playing (playing : ring.playing = true) (buffer : ByteArray) :
    ∃ count filled,
      ring.storage.read
          (buffer.extract 0 (buffer.size - buffer.size % ring.geometry.frameSize)) =
        ((ring.storage.skip count).1, filled, count) ∧
      ring.drain buffer =
        ({ ring with
            storage := (ring.storage.skip count).1
            queuedFrames := ring.queuedFrames - count / ring.geometry.frameSize
            framesConsumed := ring.framesConsumed + count / ring.geometry.frameSize },
          filled.extract 0 count ++ silence (buffer.size - count), count) := by
  refine ⟨_, _, rfl, ?_⟩
  unfold drain
  rw [if_pos playing]
  rfl

/-- What is drained is whole frames. -/
theorem Consistent.count_drain (consistent : ring.Consistent) (buffer : ByteArray) :
    (ring.drain buffer).2.2 = ring.drainable buffer * ring.geometry.frameSize := by
  by_cases playing : ring.playing = true
  · obtain ⟨count, filled, read, drained⟩ := drain_of_playing playing buffer
    have counted := congrArg (·.2.2) read
    have available : ring.storage.length = ring.queuedFrames * ring.geometry.frameSize :=
      consistent.available_eq
    have wholeFrames : buffer.size - buffer.size % ring.geometry.frameSize =
        buffer.size / ring.geometry.frameSize * ring.geometry.frameSize := by
      have parts := Nat.div_add_mod' buffer.size ring.geometry.frameSize
      omega
    rw [ByteRing.count_read, ByteArray.size_extract, Nat.sub_zero,
      Nat.min_eq_left (Nat.sub_le ..), wholeFrames, available, Nat.mul_min_mul_right] at counted
    rw [drained, drainable, if_pos playing]
    exact counted.symm
  · unfold drain drainable
    rw [if_neg playing, if_neg playing, Nat.zero_mul]

/-- **To drain a ring is to consume whole frames.** -/
theorem Consistent.drain_eq_consume (consistent : ring.Consistent) (buffer : ByteArray) :
    (ring.drain buffer).1 = ring.consume (ring.drainable buffer) := by
  by_cases playing : ring.playing = true
  · obtain ⟨count, filled, _, drained⟩ := drain_of_playing playing buffer
    have total : count = ring.drainable buffer * ring.geometry.frameSize := by
      have counted := consistent.count_drain buffer
      rwa [drained] at counted
    have frames : count / ring.geometry.frameSize = ring.drainable buffer := by
      rw [total]
      exact Nat.mul_div_cancel _ consistent.frameSize_pos
    rw [drained, frames, total]
    rfl
  · have none : ring.drainable buffer = 0 := if_neg playing
    rw [none, consume_zero]
    unfold drain
    rw [if_neg playing]

/-! ### Every move keeps a ring consistent -/

theorem Consistent.reset (consistent : ring.Consistent) : ring.reset.Consistent :=
  ⟨consistent.frameSize_pos, consistent.capacityFrames_pos, consistent.capacityFrames_le,
    consistent.capacity_eq, (Nat.zero_mul _).symm⟩

/-- What is counted besides the frames, and whether the ring plays, does not matter. -/
theorem Consistent.of_eq {other : Ring} (consistent : ring.Consistent)
    (geometry : other.geometry = ring.geometry) (storage : other.storage = ring.storage)
    (queued : other.queuedFrames = ring.queuedFrames) : other.Consistent := by
  refine ⟨?_, ?_, ?_, ?_, ?_⟩
  · rw [geometry]; exact consistent.frameSize_pos
  · rw [geometry]; exact consistent.capacityFrames_pos
  · rw [geometry]; exact consistent.capacityFrames_le
  · rw [geometry, storage]; exact consistent.capacity_eq
  · rw [geometry, storage, queued]; exact consistent.available_eq

/-- **Every allowed move keeps a ring consistent.** -/
theorem Consistent.after {move : Move} (consistent : ring.Consistent)
    (allowed : move.Allowed ring) : (ring.after move).Consistent := by
  cases move with
  | ask _ => exact consistent
  | runDry => exact consistent.of_eq rfl rfl rfl
  | runOver => exact consistent.of_eq rfl rfl rfl
  | blameDevice => exact consistent.of_eq rfl rfl rfl
  | clear => exact consistent.reset
  | stop _ => exact consistent.reset
  | take frames => exact consistent.accept allowed.1
  | drop frames => exact consistent.accept allowed.1
  | start answer =>
    cases answer with
    | ok _ => exact consistent.of_eq rfl rfl rfl
    | error _ => exact consistent
  | write _ _ answer =>
    cases answer with
    | ok taken => exact consistent.consume (Nat.min_le_right taken ring.queuedFrames)
    | error _ => exact consistent
  | reopen _ => exact consistent
  | drain buffer =>
    show (ring.drain buffer).1.Consistent
    rw [consistent.drain_eq_consume]
    exact consistent.consume (ring.drainable_le buffer)

theorem Makes.consistent {last : Ring} {moves : List Move} (made : Makes ring moves last)
    (start : ring.Consistent) : last.Consistent :=
  made.invariant Consistent (fun _ _ consistent allowed => consistent.after allowed) start

end Ring

/-! ### Every move is exact -/

/-- A move does to the storage all that it is asked to, and takes no count out of its range: the
frames of a payload are counted uncut, frames are added within a 32-bit word, and no more frames are
removed than are queued. -/
def Move.Exact (ring : Ring) : Move → Prop
  | .take frames =>
    ring.frameCount frames * ring.geometry.frameSize = frames.size ∧
      ring.queuedFrames + ring.frameCount frames ≤ wordMax ∧
      (ring.storage.write frames).2 = frames.size
  | .write _ _ (.ok taken) =>
    min taken ring.queuedFrames ≤ ring.queuedFrames ∧
      (ring.storage.skip (min taken ring.queuedFrames * ring.geometry.frameSize)).2 =
        min taken ring.queuedFrames * ring.geometry.frameSize
  | .drain buffer =>
    (ring.drain buffer).2.2 % ring.geometry.frameSize = 0 ∧
      (ring.drain buffer).2.2 / ring.geometry.frameSize ≤ ring.queuedFrames
  | _ => True

namespace Ring

variable {ring : Ring}

/-- **Every allowed move on a consistent ring is exact.** -/
theorem Consistent.exact {move : Move} (consistent : ring.Consistent)
    (allowed : move.Allowed ring) : move.Exact ring := by
  cases move with
  | take frames =>
    have after : ring.queuedFrames + ring.frameCount frames ≤ ring.geometry.capacityFrames := by
      have next := (consistent.accept allowed.1).queuedFrames_le
      rw [geometry_accept, Ring.accept, if_pos allowed.2] at next
      exact next
    exact ⟨consistent.frameCount_mul allowed.1 allowed.2,
      Nat.le_trans after consistent.capacityFrames_le, count_write_of_fits allowed.2⟩
  | write _ _ answer =>
    cases answer with
    | ok taken =>
      have queued := Nat.min_le_right taken ring.queuedFrames
      exact ⟨queued, consistent.count_skip queued⟩
    | error _ => trivial
  | drain buffer =>
    show _ ∧ _
    rw [consistent.count_drain, Nat.mul_mod_left, Nat.mul_div_cancel _ consistent.frameSize_pos]
    exact ⟨rfl, ring.drainable_le buffer⟩
  | _ => trivial

/-! ### Runs -/

/-- The counts of a ring agree and stay within its size, and so do its cursors. -/
structure CountsAgree (ring : Ring) : Prop where
  available_eq : ring.storage.available = ring.queuedFrames * ring.geometry.frameSize
  queuedFrames_le : ring.queuedFrames ≤ ring.geometry.capacityFrames
  position_lt : ring.storage.position < ring.storage.capacity
  length_le : ring.storage.length ≤ ring.storage.capacity

/-- Moves lead from one ring to another, the counts agree all the way, and each move is exact. -/
structure KeepsCount (ring : Ring) (moves : List Move) (last : Ring) : Prop where
  reaches : moves.foldl Ring.after ring = last
  agree : ∀ before, before <+: moves → (before.foldl Ring.after ring).CountsAgree
  exact : ∀ before move, before ++ [move] <+: moves → move.Exact (before.foldl Ring.after ring)

theorem Consistent.countsAgree (consistent : ring.Consistent) : ring.CountsAgree :=
  ⟨consistent.available_eq, consistent.queuedFrames_le, consistent.position_lt,
    ring.storage.length_le⟩

theorem Makes.keepsCount {last : Ring} {moves : List Move} (made : Makes ring moves last)
    (start : ring.Consistent) : ring.KeepsCount moves last := by
  refine ⟨made.foldl_after, ?_, ?_⟩
  · intro before front
    exact ((made.of_prefix front).consistent start).countsAgree
  · intro before move front
    obtain ⟨way, allowed⟩ := made.at_prefix front
    exact (way.consistent start).exact allowed

/-- **The counts of a new ring agree along every run**, whatever its device answers: on the ring
itself, and through a session with any policy. -/
theorem counts_agree_along_runs {δ : Type} [Device δ] {feed : Feed δ} {format : Format}
    {lowMs highMs : Nat} (created : create format lowMs highMs = .ok feed.ring)
    (operations : List (Operation δ)) :
    feed.ring.KeepsCount (feed.runMoves operations) (feed.run operations).ring ∧
      ∀ policy : RecoveryPolicy,
        feed.ring.KeepsCount ((Session.mk feed policy).runMoves operations)
          ((Session.mk feed policy).run operations).feed.ring := by
  have consistent := consistent_create created
  refine ⟨(Feed.follows_run feed operations).makes.keepsCount consistent, ?_⟩
  intro policy
  exact (Session.follows_run (Session.mk feed policy) operations).makes.keepsCount consistent

/-- A device that claims to take more than it is offered, then fails, and is opened anew. -/
theorem counts_agree_with_greedy_device :
    let format : Format := ⟨.i16, 1, 8000, none⟩
    let device : ScriptedDevice :=
      ⟨"greedy", .writeThrough, 2, [], [], [.ok (some 7)], [.ok (some 99), .error (.deviceLost "")],
        [.error .underrun]⟩
    let feed : Feed ScriptedDevice := ⟨ofFormat format 0 1, device, #[]⟩
    let operations : List (Operation ScriptedDevice) :=
      [.queue ⟨#[1, 2, 3, 4]⟩, .drain ⟨#[0, 0, 0]⟩, .queueSamples Int16 [5, 6], .queue ⟨#[7]⟩, .reset]
    create format 0 1 = .ok feed.ring ∧
      feed.ring.KeepsCount (feed.runMoves operations) (feed.run operations).ring ∧
        ∀ policy : RecoveryPolicy,
          feed.ring.KeepsCount ((Session.mk feed policy).runMoves operations)
            ((Session.mk feed policy).run operations).feed.ring := by
  intro format device feed operations
  have created : create format 0 1 = .ok feed.ring := rfl
  exact ⟨created, counts_agree_along_runs created operations⟩

end Ring

/-! ### Opened sessions -/

/-- The ring of an opened session is consistent after every run, and its geometry is the one that
the session was opened with. -/
theorem Session.Opened.ring_run {δ : Type} [Device δ] {format : Format} {config : Config}
    {opened : Session δ} (known : Opened format config opened) (operations : List (Operation δ)) :
    (opened.run operations).feed.ring.Consistent ∧
      (opened.run operations).feed.ring.geometry =
        Geometry.ofFormat format config.lowWatermarkMs.toNat config.highWatermarkMs.toNat := by
  have ran := (Session.follows_run opened operations).makes
  have consistent : opened.feed.ring.Consistent := by
    rw [known.ring_eq]
    exact Ring.consistent_ofFormat known.format_valid _ _
  refine ⟨ran.consistent consistent, ran.geometry_eq.trans ?_⟩
  rw [known.ring_eq]
  rfl

end Playout
