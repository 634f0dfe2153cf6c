/-
**A ring that was reset is as good as new.**

A reset keeps the counters and leaves the old bytes in the storage. From outside, the ring is a new
one all the same: whatever is done with it afterwards comes to what it comes to on a new ring with
a device that answers alike.

* `Ring.Renews.accept`, `Ring.Renews.consume`, `Ring.Renews.drain`: the ring goes on like a new one,
  as nothing depends on more of its storage than the unread bytes;
* `Feed.Paired.enqueue`: two offers of one payload make the same calls and have the same result;
* `Feed.Paired.run`: so do two runs, with what each operation answers;
* `Feed.reset_is_renewal`: and so it is with every ring that a run can reach, once it is reset.
-/
import Playout.Device.Memory
import Playout.Proofs.Ring.Counts

namespace Playout

/-- What two stretches count is what they count together. -/
instance : Add Stats where
  add first second :=
    { starts := first.starts + second.starts
      resets := first.resets + second.resets
      underruns := first.underruns + second.underruns
      overruns := first.overruns + second.overruns
      droppedFrames := first.droppedFrames + second.droppedFrames
      queuedFramesTotal := first.queuedFramesTotal + second.queuedFramesTotal }

theorem Stats.zero_add (stats : Stats) : {} + stats = stats := by
  show Stats.mk _ _ _ _ _ _ = stats
  simp only [Nat.zero_add]

/-! ### Rings of the same unread bytes -/

namespace ByteRing

variable {first second : ByteRing}

theorem length_eq_of_toList_eq (same : first.toList = second.toList) :
    first.length = second.length := by
  rw [← length_toList, same, length_toList]

theorem contents_eq_of_toList_eq (same : first.toList = second.toList) :
    first.contents = second.contents := by
  apply ByteArray.ext
  apply Array.toList_inj.1
  rw [toList_contents, toList_contents, same]

theorem peek_eq_of_toList_eq (same : first.toList = second.toList) (buffer : ByteArray) :
    first.peek buffer = second.peek buffer := by
  simp only [peek, oldest, contents_eq_of_toList_eq same]

end ByteRing

namespace Ring

/-- A ring that goes on from `base` like another one, `fresh`, from where nothing was counted. The
storage beyond the unread bytes is free. -/
structure Renews (base ring fresh : Ring) : Prop where
  format_eq : ring.format = fresh.format
  geometry_eq : ring.geometry = fresh.geometry
  capacity_eq : ring.storage.capacity = fresh.storage.capacity
  toList_eq : ring.storage.toList = fresh.storage.toList
  queuedFrames_eq : ring.queuedFrames = fresh.queuedFrames
  playing_eq : ring.playing = fresh.playing
  stats_eq : ring.stats = base.stats + fresh.stats
  framesConsumed_eq : ring.framesConsumed = base.framesConsumed + fresh.framesConsumed

namespace Renews

variable {base ring fresh : Ring}

/-- A ring that was reset goes on like a new one. -/
theorem of_reset {format : Format} {lowMs highMs : Nat} (consistent : ring.Consistent)
    (format_eq : ring.format = format)
    (geometry_eq : ring.geometry = Geometry.ofFormat format lowMs highMs) :
    Renews ring.reset ring.reset (ofFormat format lowMs highMs) := by
  refine ⟨format_eq, geometry_eq, ?_, ?_, rfl, rfl, rfl, rfl⟩
  · show ring.storage.capacity = (ByteRing.empty _).capacity
    rw [consistent.capacity_eq, geometry_eq]
    exact Array.size_replicate.symm
  · exact ring.storage.toList_clear

theorem free_eq (renews : Renews base ring fresh) : ring.storage.free = fresh.storage.free := by
  rw [ByteRing.free, ByteRing.free, renews.capacity_eq,
    ByteRing.length_eq_of_toList_eq renews.toList_eq]

theorem fits_eq (renews : Renews base ring fresh) (frames : ByteArray) :
    ring.fits frames = fresh.fits frames := by
  rw [fits, fits, renews.geometry_eq, renews.free_eq]

theorem frameCount_eq (renews : Renews base ring fresh) (frames : ByteArray) :
    ring.frameCount frames = fresh.frameCount frames := by
  rw [frameCount, frameCount, renews.geometry_eq]

theorem contents_eq (renews : Renews base ring fresh) :
    ring.storage.contents = fresh.storage.contents :=
  ByteRing.contents_eq_of_toList_eq renews.toList_eq

theorem accept (renews : Renews base ring fresh) (frames : ByteArray) :
    (ring.accept frames).2 = (fresh.accept frames).2 ∧
      Renews base (ring.accept frames).1 (fresh.accept frames).1 := by
  unfold Ring.accept
  rw [renews.fits_eq, renews.frameCount_eq, renews.stats_eq]
  by_cases fits : fresh.fits frames = true
  · rw [if_pos fits, if_pos fits]
    refine ⟨rfl, renews.format_eq, renews.geometry_eq, ?_, ?_, ?_, renews.playing_eq, ?_,
      renews.framesConsumed_eq⟩
    · rw [ByteRing.capacity_write, ByteRing.capacity_write, renews.capacity_eq]
    · rw [ByteRing.toList_write, ByteRing.toList_write, renews.toList_eq, renews.free_eq]
    · show ring.queuedFrames + _ = fresh.queuedFrames + _
      rw [renews.queuedFrames_eq]
    · show Stats.mk _ _ _ _ _ _ = Stats.mk _ _ _ _ _ _
      rw [← Nat.add_assoc]
      rfl
  · rw [if_neg fits, if_neg fits]
    refine ⟨rfl, renews.format_eq, renews.geometry_eq, renews.capacity_eq, renews.toList_eq,
      renews.queuedFrames_eq, renews.playing_eq, ?_, renews.framesConsumed_eq⟩
    show Stats.mk _ _ _ _ _ _ = Stats.mk _ _ _ _ _ _
    rw [← Nat.add_assoc]
    rfl

theorem consume (renews : Renews base ring fresh) (frames : Nat) :
    Renews base (ring.consume frames) (fresh.consume frames) := by
  refine ⟨renews.format_eq, renews.geometry_eq, renews.capacity_eq, ?_, ?_, renews.playing_eq,
    renews.stats_eq, ?_⟩
  · show (ring.storage.skip _).1.toList = (fresh.storage.skip _).1.toList
    rw [ByteRing.toList_skip, ByteRing.toList_skip, renews.toList_eq, renews.geometry_eq]
  · show ring.queuedFrames - frames = fresh.queuedFrames - frames
    rw [renews.queuedFrames_eq]
  · show ring.framesConsumed + frames = base.framesConsumed + (fresh.framesConsumed + frames)
    rw [renews.framesConsumed_eq, Nat.add_assoc]

theorem begin (renews : Renews base ring fresh) : Renews base ring.begin fresh.begin := by
  refine ⟨renews.format_eq, renews.geometry_eq, renews.capacity_eq, renews.toList_eq,
    renews.queuedFrames_eq, rfl, ?_, renews.framesConsumed_eq⟩
  rw [Ring.begin, renews.stats_eq]
  rfl

theorem reset (renews : Renews base ring fresh) : Renews base ring.reset fresh.reset := by
  refine ⟨renews.format_eq, renews.geometry_eq, renews.capacity_eq, ?_, rfl, rfl, ?_,
    renews.framesConsumed_eq⟩
  · exact ring.storage.toList_clear.trans fresh.storage.toList_clear.symm
  · rw [Ring.reset, renews.stats_eq, renews.playing_eq]
    unfold Ring.reset
    cases fresh.playing <;> rfl

theorem countUnderrun (renews : Renews base ring fresh) :
    Renews base ring.countUnderrun fresh.countUnderrun := by
  refine ⟨renews.format_eq, renews.geometry_eq, renews.capacity_eq, renews.toList_eq,
    renews.queuedFrames_eq, renews.playing_eq, ?_, renews.framesConsumed_eq⟩
  rw [Ring.countUnderrun, renews.stats_eq]
  rfl

theorem countOverrun (renews : Renews base ring fresh) :
    Renews base ring.countOverrun fresh.countOverrun := by
  refine ⟨renews.format_eq, renews.geometry_eq, renews.capacity_eq, renews.toList_eq,
    renews.queuedFrames_eq, renews.playing_eq, ?_, renews.framesConsumed_eq⟩
  rw [Ring.countOverrun, renews.stats_eq]
  rfl

/-- A consumer gets the same buffer. -/
theorem drain (renews : Renews base ring fresh) (buffer : ByteArray) :
    (ring.drain buffer).2 = (fresh.drain buffer).2 ∧
      Renews base (ring.drain buffer).1 (fresh.drain buffer).1 := by
  unfold Ring.drain
  rw [renews.playing_eq]
  by_cases playing : fresh.playing = true
  · simp only [if_pos playing, ByteRing.read, renews.geometry_eq,
      ByteRing.peek_eq_of_toList_eq renews.toList_eq]
    refine ⟨trivial, renews.format_eq, rfl, renews.capacity_eq, ?_, ?_, rfl, renews.stats_eq, ?_⟩
    · rw [ByteRing.toList_skip, ByteRing.toList_skip, renews.toList_eq]
    · dsimp only
      rw [renews.queuedFrames_eq]
    · dsimp only
      rw [renews.framesConsumed_eq, Nat.add_assoc]
  · rw [if_neg playing, if_neg playing]
    exact ⟨rfl, renews⟩

end Renews

end Ring

/-! ### Devices that answer alike -/

/-- Two replies with one result, from devices of which the same can be said afterwards. -/
structure Reply.Alike {δ α : Type} (alike : δ → δ → Prop) (first second : Reply δ α) : Prop where
  result_eq : first.result = second.result
  device : alike first.device second.device

/-- Devices in this relation give the same answers to all calls that a ring makes, now and after any
of these calls. -/
structure Device.AnswersAlike {δ : Type} [Device δ] (alike : δ → δ → Prop) : Prop where
  delivery_eq : ∀ {first second}, alike first second →
    Device.delivery first = Device.delivery second
  start : ∀ {first second}, alike first second →
    (Device.start first).Alike alike (Device.start second)
  stop : ∀ {first second}, alike first second →
    (Device.stop first).Alike alike (Device.stop second)
  backlog : ∀ {first second}, alike first second →
    (Device.backlog first).Alike alike (Device.backlog second)
  write : ∀ {first second}, alike first second → ∀ frames,
    (Device.write first frames).Alike alike (Device.write second frames)

/-- What a device does by itself keeps it like another one that does the same. -/
def Operation.Keeps {δ : Type} (alike : δ → δ → Prop) : Operation δ → Prop
  | .change shift => ∀ first second, alike first second → alike (shift first) (shift second)
  | _ => True

/-! ### Feeds that go on alike -/

/-- What an operation tells whoever performs it. -/
inductive Answer where
  | offered (result : Except Fault (Except Error Outcome))
  | drained (buffer : ByteArray) (count : Nat)
  | told (milliseconds : Nat)
  | done

namespace Feed

variable {δ : Type}

/-- A feed that goes on from a ring like another one from a new ring, with a device that answers
alike. -/
structure Paired (alike : δ → δ → Prop) (base : Ring) (feed fresh : Feed δ) : Prop where
  ring : Ring.Renews base feed.ring fresh.ring
  device : alike feed.device fresh.device
  calls_eq : feed.journal.calls = fresh.journal.calls

/-- Two ends of the same stage: with one result, and feeds that go on alike. -/
structure Agree {α : Type} (alike : δ → δ → Prop) (base : Ring) (first second : α × Feed δ) :
    Prop where
  result_eq : first.1 = second.1
  paired : Paired alike base first.2 second.2

variable {alike : δ → δ → Prop} {base : Ring} {feed fresh : Feed δ}

theorem Agree.eq {α : Type} {first second : α × Feed δ} (agree : Agree alike base first second) :
    ∃ result after other, first = (result, after) ∧ second = (result, other) ∧
      Paired alike base after other :=
  ⟨first.1, first.2, second.2, rfl, Prod.ext agree.result_eq.symm rfl, agree.paired⟩

theorem Paired.note (paired : Paired alike base feed fresh) (first second : Notice) :
    Paired alike base (feed.note first) (fresh.note second) := by
  refine ⟨paired.ring, paired.device, ?_⟩
  rw [Feed.note, Feed.note, Journal.calls_push_notice, Journal.calls_push_notice]
  exact paired.calls_eq

theorem Paired.with_ring {ring other : Ring} (paired : Paired alike base feed fresh)
    (renews : Ring.Renews base ring other) :
    Paired alike base { feed with ring := ring } { fresh with ring := other } :=
  ⟨renews, paired.device, paired.calls_eq⟩

theorem Paired.record {α : Type} {first second : Reply δ α}
    (paired : Paired alike base feed fresh) (replies : first.Alike alike second)
    (call : Except Error α → Call) :
    Agree alike base (feed.record first call) (fresh.record second call) := by
  refine ⟨replies.result_eq, paired.ring, replies.device, ?_⟩
  rw [calls_record, calls_record, paired.calls_eq, replies.result_eq]

theorem Paired.accept (paired : Paired alike base feed fresh) (frames : ByteArray) :
    Agree alike base (feed.accept frames) (fresh.accept frames) := by
  obtain ⟨outcome_eq, renews⟩ := paired.ring.accept frames
  unfold Feed.accept
  generalize feed.ring.accept frames = first, fresh.ring.accept frames = second at *
  obtain ⟨ring, outcome⟩ := first
  obtain ⟨other, _⟩ := second
  cases outcome_eq
  have kept := paired.with_ring renews
  cases outcome with
  | queued => exact ⟨rfl, kept⟩
  | dropped => exact ⟨rfl, kept.note _ _⟩
  | deviceUnavailable => exact ⟨rfl, kept.note _ _⟩

variable [Device δ]

/-! ### Each stage goes on alike -/

theorem Paired.askBacklog (paired : Paired alike base feed fresh)
    (answering : Device.AnswersAlike alike) :
    Agree alike base feed.askBacklog fresh.askBacklog :=
  paired.record (answering.backlog paired.device) .backlog

theorem Paired.reset (paired : Paired alike base feed fresh)
    (answering : Device.AnswersAlike alike) : Paired alike base feed.reset fresh.reset := by
  have emptied := paired.with_ring paired.ring.reset
  have stopped : Agree alike base
      (stopDevice { feed with ring := feed.ring.reset })
      (stopDevice { fresh with ring := fresh.ring.reset }) :=
    emptied.record (answering.stop paired.device) .stop
  unfold Feed.reset
  rw [paired.ring.playing_eq]
  by_cases playing : fresh.ring.playing = true
  · obtain ⟨result, after, other, one, two, kept⟩ := stopped.eq
    simp only [if_pos playing, one, two]
    cases result with
    | ok _ => exact kept
    | error error => exact kept.note _ _
  · simp only [if_neg playing]
    exact emptied

theorem Paired.relieve (paired : Paired alike base feed fresh)
    (answering : Device.AnswersAlike alike) (backlog : Nat) :
    Agree alike base (feed.relieve backlog) (fresh.relieve backlog) := by
  have dry := paired.with_ring paired.ring.countUnderrun
  have spilt := paired.with_ring paired.ring.countOverrun
  simp only [Feed.relieve, paired.ring.playing_eq, paired.ring.queuedFrames_eq,
    paired.ring.geometry_eq]
  split
  · exact ⟨rfl, (dry.note _ _).reset answering⟩
  split
  · exact ⟨rfl, (spilt.note _ _).reset answering⟩
  · exact ⟨rfl, paired⟩

theorem Paired.startIfDue (paired : Paired alike base feed fresh)
    (answering : Device.AnswersAlike alike) (due : Nat) :
    Agree alike base (feed.startIfDue due) (fresh.startIfDue due) := by
  have called : Agree alike base feed.startDevice fresh.startDevice :=
    paired.record (answering.start paired.device) .start
  unfold Feed.startIfDue
  rw [paired.ring.playing_eq, paired.ring.geometry_eq]
  split
  · obtain ⟨result, after, other, one, two, kept⟩ := called.eq
    rw [one, two]
    cases result with
    | ok _ => exact ⟨rfl, (kept.with_ring kept.ring.begin).note _ _⟩
    | error error => exact ⟨rfl, kept⟩
  · exact ⟨rfl, paired⟩

theorem Paired.flushIfDue (paired : Paired alike base feed fresh)
    (answering : Device.AnswersAlike alike) :
    Agree alike base feed.flushIfDue fresh.flushIfDue := by
  have called : Agree alike base (feed.writeDevice fresh.ring.storage.contents)
      (fresh.writeDevice fresh.ring.storage.contents) :=
    paired.record (answering.write paired.device _) _
  simp only [Feed.flushIfDue, paired.ring.contents_eq, paired.ring.playing_eq,
    answering.delivery_eq paired.device]
  split
  · obtain ⟨result, after, other, one, two, kept⟩ := called.eq
    rw [one, two]
    cases result with
    | ok written =>
      dsimp only
      rw [kept.ring.queuedFrames_eq]
      split
      · exact ⟨rfl, kept⟩
      · exact ⟨rfl, (kept.with_ring (kept.ring.consume _)).note _ _⟩
    | error error => exact ⟨rfl, kept⟩
  · exact ⟨rfl, paired⟩

/-- **Two offers of one payload go alike**: the same calls, the same result. -/
theorem Paired.enqueue (paired : Paired alike base feed fresh)
    (answering : Device.AnswersAlike alike) (frames : ByteArray) :
    Agree alike base (feed.enqueue frames) (fresh.enqueue frames) := by
  have count := paired.ring.frameCount_eq frames
  unfold Feed.enqueue
  obtain ⟨answer, asked, other_asked, one, two, asked_alike⟩ :=
    (paired.askBacklog answering).eq
  rw [one, two]
  cases answer with
  | error error => exact ⟨rfl, asked_alike⟩
  | ok backlog =>
  obtain ⟨queued, relieved, other_relieved, one, two, relieved_alike⟩ :=
    (asked_alike.relieve answering backlog).eq
  dsimp only
  rw [one, two]
  obtain ⟨outcome, accepted, other_accepted, one, two, accepted_alike⟩ :=
    (relieved_alike.accept frames).eq
  dsimp only
  rw [one, two, count]
  obtain ⟨result, started, other_started, one, two, started_alike⟩ :=
    (accepted_alike.startIfDue answering
      (saturate (queued + if outcome = .queued then fresh.ring.frameCount frames else 0))).eq
  dsimp only
  rw [one, two]
  cases result with
  | error error => exact ⟨rfl, started_alike⟩
  | ok _ =>
  obtain ⟨result, flushed, other_flushed, one, two, flushed_alike⟩ :=
    (started_alike.flushIfDue answering).eq
  dsimp only
  rw [one, two]
  cases result with
  | error error => exact ⟨rfl, flushed_alike⟩
  | ok _ => exact ⟨rfl, flushed_alike⟩

/-! ### Runs go on alike -/

/-- What an operation on a ring tells. -/
def answer (feed : Feed δ) : Operation δ → Answer
  | .queue frames => .offered ((feed.queue frames).map Prod.fst)
  | @Operation.queueSamples _ _ _ samples => .offered ((feed.queueSamples samples).map Prod.fst)
  | .reset => .done
  | .drain buffer => .drained (feed.drain buffer).2.1 (feed.drain buffer).2.2
  | .queuedMs => .told feed.ring.queuedMs
  | .change _ => .done

def answers : Feed δ → List (Operation δ) → List Answer
  | _, [] => []
  | feed, operation :: rest => feed.answer operation :: (feed.perform operation).answers rest

/-- Both offers are refused, or both are made. -/
theorem Paired.queue (paired : Paired alike base feed fresh)
    (answering : Device.AnswersAlike alike) (frames : ByteArray) :
    (feed.queue frames).map Prod.fst = (fresh.queue frames).map Prod.fst ∧
      Paired alike base (settle feed (feed.queue frames)) (settle fresh (fresh.queue frames)) := by
  obtain ⟨result_eq, kept⟩ := paired.enqueue answering frames
  unfold Feed.queue Ring.checkFrames
  rw [paired.ring.geometry_eq]
  split
  · exact ⟨congrArg Except.ok result_eq, kept⟩
  · exact ⟨rfl, paired⟩

theorem Paired.queueSamples {σ : Type} [Sample σ] (paired : Paired alike base feed fresh)
    (answering : Device.AnswersAlike alike) (samples : List σ) :
    (feed.queueSamples samples).map Prod.fst = (fresh.queueSamples samples).map Prod.fst ∧
      Paired alike base (settle feed (feed.queueSamples samples))
        (settle fresh (fresh.queueSamples samples)) := by
  unfold Feed.queueSamples Ring.checkSamples
  rw [paired.ring.format_eq]
  split
  · exact paired.queue answering (Sample.encode samples)
  · exact ⟨rfl, paired⟩

theorem Paired.perform (paired : Paired alike base feed fresh)
    (answering : Device.AnswersAlike alike) {operation : Operation δ}
    (keeps : operation.Keeps alike) :
    feed.answer operation = fresh.answer operation ∧
      Paired alike base (feed.perform operation) (fresh.perform operation) := by
  cases operation with
  | queue frames =>
    obtain ⟨same, kept⟩ := paired.queue answering frames
    exact ⟨congrArg Answer.offered same, kept⟩
  | queueSamples _ samples =>
    obtain ⟨same, kept⟩ := paired.queueSamples answering samples
    exact ⟨congrArg Answer.offered same, kept⟩
  | reset => exact ⟨rfl, paired.reset answering⟩
  | drain buffer =>
    obtain ⟨same, renews⟩ := paired.ring.drain buffer
    refine ⟨?_, paired.with_ring renews⟩
    show Answer.drained (feed.ring.drain buffer).2.1 (feed.ring.drain buffer).2.2 = _
    rw [same]
    rfl
  | queuedMs =>
    refine ⟨?_, paired⟩
    rw [answer, answer, Ring.queuedMs, Ring.queuedMs, paired.ring.geometry_eq,
      paired.ring.queuedFrames_eq]
  | change shift => exact ⟨rfl, paired.ring, keeps _ _ paired.device, paired.calls_eq⟩

/-- **Two runs go alike**, operation by operation. -/
theorem Paired.run (paired : Paired alike base feed fresh)
    (answering : Device.AnswersAlike alike) {operations : List (Operation δ)}
    (keep : ∀ operation ∈ operations, operation.Keeps alike) :
    feed.answers operations = fresh.answers operations ∧
      Paired alike base (feed.run operations) (fresh.run operations) := by
  induction operations generalizing feed fresh with
  | nil => exact ⟨rfl, paired⟩
  | cons operation rest ih =>
    obtain ⟨here, behind⟩ := List.forall_mem_cons.1 keep
    obtain ⟨same, kept⟩ := paired.perform answering here
    obtain ⟨others, last⟩ := ih kept behind
    refine ⟨?_, last⟩
    rw [answers, answers, same, others]

/-! ### Rings that were reset -/

/-- A feed that operations lead to from some ring, on the ring itself or through a session. -/
def ReachedFrom (start : Ring) (now : Feed δ) : Prop :=
  ∃ (device : δ) (journal : Journal) (history : List (Operation δ)),
    now = (Feed.mk start device journal).run history ∨
      ∃ policy, now = (Session.run ⟨⟨start, device, journal⟩, policy⟩ history).feed

theorem ReachedFrom.makes {start : Ring} {now : Feed δ} (reached : now.ReachedFrom start) :
    ∃ moves, start.Makes moves now.ring := by
  obtain ⟨device, journal, history, rfl | ⟨policy, rfl⟩⟩ := reached
  · exact ⟨_, (follows_run ⟨start, device, journal⟩ history).makes⟩
  · exact ⟨_, (Session.follows_run ⟨⟨start, device, journal⟩, policy⟩ history).makes⟩

/-- A ring that does not play is emptied without a call. -/
theorem reset_of_silent (silent : feed.ring.playing = false) :
    feed.reset = { feed with ring := feed.ring.reset } := by
  simp only [reset, silent, Bool.false_eq_true, if_false]

/-- A second reset calls nobody and changes nothing. -/
theorem reset_reset (feed : Feed δ) : feed.reset.reset = feed.reset := by
  have again : feed.reset.ring.reset = feed.reset.ring := by
    rw [ring_reset]
    rfl
  rw [reset_of_silent feed.silent_reset, again]

/-- Operations have come to the same from two feeds, as far as anybody can see: what they told, what
the device was called for, how the ring stands, and what was counted. -/
structure SeenAlike (feed fresh : Feed δ) (operations : List (Operation δ)) : Prop where
  answers_eq : feed.answers operations = fresh.answers operations
  calls_eq : (feed.run operations).journal.calls = (fresh.run operations).journal.calls
  playing_eq : (feed.run operations).ring.playing = (fresh.run operations).ring.playing
  queuedFrames_eq :
    (feed.run operations).ring.queuedFrames = (fresh.run operations).ring.queuedFrames
  counted : ∃ gained : Stats, (feed.run operations).ring.stats = feed.ring.stats + gained ∧
    (fresh.run operations).ring.stats = fresh.ring.stats + gained
  consumed : ∃ frames, (feed.run operations).ring.framesConsumed = feed.ring.framesConsumed + frames ∧
    (fresh.run operations).ring.framesConsumed = fresh.ring.framesConsumed + frames

theorem Paired.seenAlike (paired : Paired alike feed.ring feed fresh)
    (answering : Device.AnswersAlike alike) (stats : fresh.ring.stats = {})
    (consumed : fresh.ring.framesConsumed = 0) {operations : List (Operation δ)}
    (keep : ∀ operation ∈ operations, operation.Keeps alike) : SeenAlike feed fresh operations := by
  obtain ⟨same, last⟩ := paired.run answering keep
  refine ⟨same, last.calls_eq, last.ring.playing_eq, last.ring.queuedFrames_eq,
    ⟨_, last.ring.stats_eq, ?_⟩, ⟨_, last.ring.framesConsumed_eq, ?_⟩⟩
  · rw [stats]
    exact (Stats.zero_add _).symm
  · rw [consumed, Nat.zero_add]

/-- **A reset makes a ring new**: take any ring that operations can lead to, reset it, and use it and
a new ring with devices that answer alike. No run can tell them apart, after any of its operations;
so nothing that was queued before the reset is seen again. A second reset does nothing. -/
theorem reset_is_renewal {ε : Type} [Device ε] {format : Format} {lowMs highMs : Nat} {new : Ring}
    (created : Ring.create format lowMs highMs = .ok new) {past : Feed ε}
    (reached : past.ReachedFrom new) (answering : Device.AnswersAlike alike) {first second : δ}
    (same : alike first second) {operations : List (Operation δ)}
    (keep : ∀ operation ∈ operations, operation.Keeps alike) :
    (∀ before, before <+: operations →
        SeenAlike (Feed.mk past.reset.ring first #[]) (Feed.mk new second #[]) before) ∧
      past.reset.reset = past.reset := by
  refine ⟨fun before front => ?_, past.reset_reset⟩
  obtain ⟨moves, made⟩ := reached.makes
  have consistent := made.consistent (Ring.consistent_create created)
  have format_eq := made.format_eq
  have geometry_eq := made.geometry_eq
  obtain ⟨rfl, _⟩ := Ring.of_create_eq_ok created
  have renews := Ring.Renews.of_reset consistent format_eq geometry_eq
  rw [← ring_reset] at renews
  have paired : Paired alike past.reset.ring (Feed.mk past.reset.ring first #[])
      (Feed.mk (Ring.ofFormat format lowMs highMs) second #[]) := ⟨renews, same, rfl⟩
  exact paired.seenAlike answering rfl rfl fun operation member =>
    keep operation (front.subset member)

/-- A ring that a memory device left behind with bytes unread, and a new one, with two scripted
devices that differ in their names. -/
theorem reset_is_renewal_with_renamed_device :
    let format : Format := ⟨.i16, 1, 3, none⟩
    let used : MemoryDevice := { delivery := .writeThrough, frameSize := 2, capacityFrames := 1 }
    let history : List (Operation MemoryDevice) :=
      [.queue ⟨#[1, 2, 3, 4]⟩, .drain ⟨#[0, 0, 0]⟩, .change (·.lose), .queueSamples Int16 [5, 6]]
    let past := (Feed.mk (Ring.ofFormat format 0 1000) used #[]).run history
    let alike : ScriptedDevice → ScriptedDevice → Prop :=
      fun first second => second = { first with name := "second" }
    let first : ScriptedDevice :=
      ⟨"first", .writeThrough, 2, [], [.error .underrun], [.ok (some 1)], [.ok (some 1)], []⟩
    let operations : List (Operation ScriptedDevice) :=
      [.queue ⟨#[7, 8, 9, 10]⟩, .drain ⟨#[0, 0, 0]⟩, .reset, .queueSamples Int16 [11]]
    Ring.create format 0 1000 = .ok (Ring.ofFormat format 0 1000) ∧
      past.ReachedFrom (Ring.ofFormat format 0 1000) ∧ Device.AnswersAlike alike ∧
        alike first { first with name := "second" } ∧
          (∀ operation ∈ operations, operation.Keeps alike) ∧
            (∀ before, before <+: operations →
                SeenAlike (Feed.mk past.reset.ring first #[])
                  (Feed.mk (Ring.ofFormat format 0 1000) { first with name := "second" } #[])
                  before) ∧
              past.reset.reset = past.reset := by
  intro format used history past alike first operations
  have created : Ring.create format 0 1000 = .ok (Ring.ofFormat format 0 1000) := rfl
  have reached : past.ReachedFrom (Ring.ofFormat format 0 1000) :=
    ⟨used, #[], history, .inl rfl⟩
  have answering : Device.AnswersAlike alike := by
    refine ⟨?delivery, ?start, ?stop, ?backlog, ?write⟩ <;> rintro one _ rfl
    case delivery => rfl
    case write => exact fun _ => ⟨rfl, rfl⟩
    all_goals exact ⟨rfl, rfl⟩
  have keep : ∀ operation ∈ operations, operation.Keeps alike := by
    simp [operations, Operation.Keeps]
  exact ⟨created, reached, answering, rfl, keep,
    reset_is_renewal created reached answering rfl keep⟩

end Feed

end Playout
