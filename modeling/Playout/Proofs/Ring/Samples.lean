/-
**Samples survive the way through a ring.**

The bytes of samples can be cut into samples again, and so can the front of them, if it is cut
between two samples. A consumer only ever gets whole frames, and a frame is whole samples. So if a
run queues samples of one type, all are accepted, and the ring is never emptied, what consumers get
out of it are the first of these samples, bit for bit.

* `Sample.decode_flatMap`, `Sample.flatMap_of_whole`: writing and reading samples are inverse to each
  other;
* `Feed.queued_bytes`: what an accepted offer does to the bytes of a ring that is drained;
* `Feed.Streams`, `Session.Streams`: a run in which samples of one type are queued and accepted;
* `Feed.Streams.balance`: what went in is what came out, followed by what is still unread;
* `samples_survive`: **samples survive** encoding, offers, and runs.
-/
import Playout.Proofs.Ring.Batching
import Playout.Proofs.Ring.Delivery
import Playout.Proofs.Tone

namespace Playout

/-! ### Reading samples -/

namespace Sample

variable {σ : Type} [Sample σ]

/-- So many chunks of a size, from the front of a list. -/
def chunks {α : Type} (size : Nat) : Nat → List α → List (List α)
  | 0, _ => []
  | count + 1, list => list.take size :: chunks size count (list.drop size)

/-- Read samples, chunk by chunk. What does not fill a chunk at the end is left out. -/
def decode (bytes : List UInt8) : Except Fault (List σ) :=
  (chunks (format σ).bytes (bytes.length / (format σ).bytes) bytes).mapM read

theorem toList_encode (samples : List σ) :
    (encode samples).data.toList = samples.flatMap toBytes := by
  rw [encode, List.data_toByteArray]

theorem decode_cons (sample : σ) (rest : List UInt8) :
    decode (toBytes sample ++ rest) = (decode rest).map (sample :: ·) := by
  have size := length_toBytes sample
  have count : (toBytes sample ++ rest).length / (format σ).bytes =
      rest.length / (format σ).bytes + 1 := by
    rw [List.length_append, size, Nat.add_div_left _ (format σ).bytes_pos]
  have found := read_toBytes sample []
  rw [List.append_nil] at found
  rw [decode, count, chunks, List.take_left' size, List.drop_left' size, List.mapM_cons, found]
  rfl

/-- **What is read from the bytes of samples are the samples.** -/
theorem decode_flatMap (samples : List σ) : decode (samples.flatMap toBytes) = .ok samples := by
  induction samples with
  | nil => simp [decode, chunks, pure, Except.pure]
  | cons sample samples ih => rw [List.flatMap_cons, decode_cons, ih]; rfl

/-- **Bytes that can be cut into samples are the bytes of the samples that are read from them.** -/
theorem flatMap_of_whole {bytes : List UInt8} (whole : bytes.length % (format σ).bytes = 0) :
    ∃ samples : List σ, decode bytes = .ok samples ∧ samples.flatMap toBytes = bytes := by
  obtain ⟨count, length⟩ := Nat.dvd_of_mod_eq_zero whole
  induction count generalizing bytes with
  | zero =>
    obtain rfl := List.eq_nil_of_length_eq_zero length
    exact ⟨[], decode_flatMap [], rfl⟩
  | succ count ih =>
    rw [Nat.mul_succ] at length
    have front : (bytes.take (format σ).bytes).length = (format σ).bytes := by
      rw [List.length_take]
      omega
    have rest : (bytes.drop (format σ).bytes).length = (format σ).bytes * count := by
      rw [List.length_drop]
      omega
    obtain ⟨samples, decoded, written⟩ := ih (by rw [rest, Nat.mul_mod_right]) rest
    obtain ⟨sample, found⟩ : ∃ sample : σ, read (bytes.take (format σ).bytes) = .ok sample :=
      ⟨_, if_neg (by omega)⟩
    have parts : toBytes sample ++ bytes.drop (format σ).bytes = bytes := by
      rw [toBytes_of_read found, List.take_take, Nat.min_self, List.take_append_drop]
    refine ⟨sample :: samples, ?_, ?_⟩
    · calc decode bytes
          = decode (toBytes sample ++ bytes.drop (format σ).bytes) := by rw [parts]
        _ = (decode (bytes.drop (format σ).bytes)).map (sample :: ·) := decode_cons sample _
        _ = .ok (sample :: samples) := by rw [decoded]; rfl
    · rw [List.flatMap_cons, written, parts]

/-- Where the bytes of samples are cut between two of them, the samples are. -/
theorem take_flatMap (samples : List σ) (count : Nat) :
    (samples.flatMap toBytes).take (count * (format σ).bytes) =
      (samples.take count).flatMap toBytes := by
  induction samples generalizing count with
  | nil => simp
  | cons sample samples ih =>
    cases count with
    | zero => simp
    | succ count =>
      rw [List.take_succ_cons, List.flatMap_cons, List.flatMap_cons, ← ih, Nat.succ_mul,
        Nat.add_comm, ← length_toBytes sample, List.take_length_add_append]

end Sample

/-! ### Offers to a ring that is drained -/

theorem Move.Relieves.not_handsOut {move : Move} (relieves : move.Relieves) : ¬ move.HandsOut := by
  cases move <;> first | exact id | cases relieves

/-- Where no move hands frames out, nothing leaves the ring. -/
theorem Ring.Makes.hands_nothing_out {ring last : Ring} {moves : List Move}
    (made : ring.Makes moves last) (others : ∀ move ∈ moves, ¬ move.HandsOut) :
    last.framesConsumed = ring.framesConsumed ∧ ring.leavingAll moves = [] := by
  induction made with
  | nil ring => exact ⟨rfl, rfl⟩
  | @cons ring last move moves _ _ ih =>
    obtain ⟨here, nothing⟩ := ring.hands_nothing_out (others move List.mem_cons_self)
    obtain ⟨behind, none⟩ := ih fun next member => others next (.tail _ member)
    refine ⟨behind.trans here, ?_⟩
    rw [leavingAll, nothing, none, List.append_nil]

namespace Feed

variable {δ : Type} [Device δ] {feed after : Feed δ} {frames : ByteArray}

theorem flushMoves_of_callback (callback : Device.delivery feed.device = .callback) :
    feed.flushMoves = [] := by
  unfold flushMoves
  refine if_neg ?_
  rintro ⟨through, -⟩
  cases callback.symm.trans through

theorem Admission.not_handsOut (admission : Admission feed frames) :
    ∀ move ∈ admission.moves, ¬ move.HandsOut := by
  have accepting : ∀ move ∈ admission.relieved.acceptMoves frames, ¬ move.HandsOut := by
    unfold acceptMoves
    split <;> simp [Move.HandsOut]
  simp only [moves, List.forall_mem_append, List.forall_mem_singleton]
  exact ⟨⟨id, fun move member =>
    (relieves_relieveMoves admission.asked admission.backlog move member).not_handsOut⟩, accepting⟩

/-- An offer hands nothing out if the frames of its device are drained. -/
theorem not_handsOut_of_mem_enqueueMoves (callback : Device.StaysCallback feed.device)
    {outcome : Outcome} (done : feed.enqueue frames = (.ok outcome, after)) :
    ∀ move ∈ feed.enqueueMoves frames, ¬ move.HandsOut := by
  have way := offered_enqueue feed frames
  rw [done] at way
  generalize feed.enqueueMoves frames = moves at way ⊢
  cases way with
  | @completed admission started _ start_eq flush_eq =>
    have recorded := admission.recorded.trans
      (recorded_startIfDue admission.accepted admission.due)
    rw [start_eq] at recorded
    obtain ⟨calls, -, answers⟩ := recorded
    have starting : ∀ move ∈ admission.accepted.startMoves admission.due, ¬ move.HandsOut := by
      unfold startMoves
      split <;> simp [Move.HandsOut]
    rw [flushMoves_of_callback (callback calls _ answers), List.append_nil]
    exact List.forall_mem_append.2 ⟨admission.not_handsOut, starting⟩

/-- **What an accepted offer does to the bytes** of a ring that is drained, if it does not empty the
ring: its payload is put behind what is unread. -/
theorem queued_bytes (callback : Device.StaysCallback feed.device)
    (consistent : feed.ring.Consistent) (accepted : feed.queue frames = .ok (.ok .queued, after))
    (stay : ∀ move ∈ feed.enqueueMoves frames, move.empties = false) :
    Follows feed (feed.enqueueMoves frames) after ∧
      after.ring.storage.toList = feed.ring.storage.toList ++ frames.data.toList ∧
      after.ring.framesConsumed = feed.ring.framesConsumed := by
  obtain ⟨whole, done⟩ := of_queue_eq_ok accepted
  have followed := follows_enqueue whole
  have told := @outcome_enqueue _ _ feed frames
  have payloads := feed.payloads_enqueueMoves frames
  have others := not_handsOut_of_mem_enqueueMoves callback done.symm
  rw [← done] at followed told
  have admits : feed.admits frames = true := by
    have decided := told rfl
    by_contra refused
    rw [if_neg refused] at decided
    cases decided
  obtain ⟨consumed, nothing⟩ := followed.makes.hands_nothing_out others
  have balance := followed.makes.conserves consistent stay
  rw [nothing, Move.entering, payloads, if_pos admits, List.flatMap_singleton] at balance
  exact ⟨followed, balance.symm, consumed⟩

/-! ### Runs -/

/-- A run from one feed to another, in which blocks of samples are queued, and all are accepted and
none empties the ring, in which consumers get pieces, and in which what is beside the ring changes in
any way. When a block is queued, the frames of the device are drained. -/
inductive Streams (σ : Type) [Sample σ] :
    Feed δ → List (List σ) → List (List UInt8) → Feed δ → Prop
  | rest (feed : Feed δ) : Streams σ feed [] [] feed
  | queue {feed after last : Feed δ} {block : List σ} {blocks : List (List σ)}
      {pieces : List (List UInt8)} (callback : Device.StaysCallback feed.device)
      (accepted : feed.queueSamples block = .ok (.ok .queued, after))
      (stay : ∀ move ∈ feed.enqueueMoves (Sample.encode block), move.empties = false)
      (behind : Streams σ after blocks pieces last) : Streams σ feed (block :: blocks) pieces last
  | drain {feed last : Feed δ} (buffer : ByteArray) {blocks : List (List σ)}
      {pieces : List (List UInt8)} (behind : Streams σ (feed.drain buffer).1 blocks pieces last) :
      Streams σ feed blocks
        (((feed.drain buffer).2.1.extract 0 (feed.drain buffer).2.2).data.toList :: pieces) last
  | aside {feed after last : Feed δ} {blocks : List (List σ)} {pieces : List (List UInt8)}
      (same : after.ring = feed.ring) (behind : Streams σ after blocks pieces last) :
      Streams σ feed blocks pieces last

/-- **What went in is what came out, followed by what is still unread**, and what came out is what
was consumed. -/
theorem Streams.balance {σ : Type} [Sample σ] {last : Feed δ} {blocks : List (List σ)}
    {pieces : List (List UInt8)} (streams : Streams σ feed blocks pieces last)
    (consistent : feed.ring.Consistent) :
    feed.ring.storage.toList ++ blocks.flatten.flatMap Sample.toBytes =
        pieces.flatten ++ last.ring.storage.toList ∧
      feed.ring.framesConsumed * feed.ring.geometry.frameSize + pieces.flatten.length =
        last.ring.framesConsumed * feed.ring.geometry.frameSize := by
  induction streams with
  | rest feed => exact ⟨List.append_nil _, rfl⟩
  | @queue feed after last block blocks pieces callback accepted stay _ ih =>
    obtain ⟨followed, bytes, consumed⟩ :=
      queued_bytes callback consistent (of_queueSamples_eq_ok accepted) stay
    obtain ⟨balance, counted⟩ := ih (followed.makes.consistent consistent)
    rw [followed.makes.geometry_eq, consumed] at counted
    rw [bytes, Sample.toList_encode, List.append_assoc, ← List.flatMap_append] at balance
    exact ⟨balance, counted⟩
  | @drain feed last buffer blocks pieces _ ih =>
    have drained : (feed.drain buffer).1.ring =
        feed.ring.consume (feed.ring.drainable buffer) := consistent.drain_eq_consume buffer
    have piece : ((feed.drain buffer).2.1.extract 0 (feed.drain buffer).2.2).data.toList =
        feed.ring.storage.toList.take (feed.ring.drain buffer).2.2 := feed.ring.toList_drained buffer
    have length := List.length_take_of_le (feed.ring.count_drain_le buffer)
    rw [drained] at ih
    obtain ⟨balance, counted⟩ := ih (consistent.consume (feed.ring.drainable_le buffer))
    rw [List.flatten_cons, piece]
    rw [consistent.count_drain] at length ⊢
    constructor
    · rw [List.append_assoc, ← balance, ← List.append_assoc, feed.ring.take_append_toList_consume]
    · rw [List.length_append, length, ← Nat.add_assoc, ← Nat.add_mul]
      exact counted
  | aside same _ ih =>
    rw [same] at ih
    exact ih consistent

/-- **What consumers get in a run from a new ring are the first samples that were queued.** -/
theorem Streams.samples {σ : Type} [Sample σ] {format : Format} {lowMs highMs : Nat} {last : Feed δ}
    {blocks : List (List σ)} {pieces : List (List UInt8)}
    (streams : Streams σ feed blocks pieces last)
    (created : Ring.create format lowMs highMs = .ok feed.ring)
    (same : Sample.format σ = format.sampleFormat) :
    ∃ samples : List σ, Sample.decode pieces.flatten = .ok samples ∧ samples <+: blocks.flatten ∧
      samples.length = last.ring.framesConsumed * format.channels.toNat := by
  obtain ⟨balance, counted⟩ := streams.balance (Ring.consistent_create created)
  obtain ⟨new, -⟩ := Ring.of_create_eq_ok created
  have empty : feed.ring.storage.toList = [] := by
    rw [new]
    exact ByteRing.toList_empty _
  have unused : feed.ring.framesConsumed = 0 := by rw [new]; rfl
  have frameSize : feed.ring.geometry.frameSize =
      format.channels.toNat * (Sample.format σ).bytes := by
    rw [new, same]
    rfl
  rw [empty, List.nil_append] at balance
  rw [unused, frameSize, Nat.zero_mul, Nat.zero_add, ← Nat.mul_assoc] at counted
  have front : pieces.flatten = (blocks.flatten.take
      (last.ring.framesConsumed * format.channels.toNat)).flatMap Sample.toBytes := by
    rw [← Sample.take_flatMap, balance, ← counted, List.take_left]
  have enough : last.ring.framesConsumed * format.channels.toNat ≤ blocks.flatten.length := by
    have size := Sample.size_encode blocks.flatten
    have bytes : (Sample.encode blocks.flatten).size =
        (pieces.flatten ++ last.ring.storage.toList).length := by
      rw [← balance, ← Sample.toList_encode]
      rfl
    rw [size, List.length_append, counted] at bytes
    exact Nat.le_of_mul_le_mul_right (by omega) (Sample.format σ).bytes_pos
  refine ⟨blocks.flatten.take (last.ring.framesConsumed * format.channels.toNat), ?_,
    List.take_prefix _ _, List.length_take_of_le enough⟩
  rw [front, Sample.decode_flatMap]

end Feed

namespace Session

variable {δ : Type} [Device δ] {session after : Session δ}

/-- A run from one session to another, of the same kind as `Feed.Streams`. -/
inductive Streams (σ : Type) [Sample σ] :
    Session δ → List (List σ) → List (List UInt8) → Session δ → Prop
  | rest (session : Session δ) : Streams σ session [] [] session
  | queue {session after last : Session δ} {block : List σ} {blocks : List (List σ)}
      {pieces : List (List UInt8)} (callback : Device.StaysCallback session.feed.device)
      (accepted : session.queueSamples block = .ok (.queued, after))
      (stay : ∀ move ∈ session.offerMoves (Sample.encode block), move.empties = false)
      (behind : Streams σ after blocks pieces last) :
      Streams σ session (block :: blocks) pieces last
  | drain {session last : Session δ} (buffer : ByteArray) {blocks : List (List σ)}
      {pieces : List (List UInt8)} (behind : Streams σ (session.drain buffer).1 blocks pieces last) :
      Streams σ session blocks
        (((session.drain buffer).2.1.extract 0 (session.drain buffer).2.2).data.toList :: pieces) last
  | aside {session after last : Session δ} {blocks : List (List σ)} {pieces : List (List UInt8)}
      (same : after.feed.ring = session.feed.ring) (behind : Streams σ after blocks pieces last) :
      Streams σ session blocks pieces last

/-- An offer to a session that does not empty the ring is one offer to the ring. -/
theorem enqueue_of_stay {frames : ByteArray} {outcome : Outcome}
    (offered : session.offer frames = (outcome, after))
    (stay : ∀ move ∈ session.offerMoves frames, move.empties = false) :
    session.feed.enqueue frames = (.ok outcome, after.feed) ∧
      session.offerMoves frames = session.feed.enqueueMoves frames := by
  have attempted := session.attempted_offer frames
  rw [offered] at attempted
  -- every other way has a reset behind the first attempt
  have emptied {failed : Feed δ} {early late : List Move}
      (still : ∀ move ∈ early ++ (failed.resetMoves ++ late), move.empties = false) : False := by
    obtain ⟨move, reset, empties⟩ := failed.resetMoves_eq
    rw [reset] at still
    cases empties.symm.trans (still move (by simp))
  dsimp only at attempted
  generalize session.offerMoves frames = moves, after.feed = left at attempted stay ⊢
  cases attempted with
  | answered first => exact ⟨first, rfl⟩
  | abandoned _ _ _ => exact (emptied stay).elim
  | retried _ _ _ _ _ => exact (emptied stay).elim
  | failedAgain _ _ _ _ _ => exact (emptied stay).elim

/-- Such a run of a session is one of its ring. -/
theorem Streams.feed {σ : Type} [Sample σ] {last : Session δ} {blocks : List (List σ)}
    {pieces : List (List UInt8)} (streams : Streams σ session blocks pieces last) :
    session.feed.Streams σ blocks pieces last.feed := by
  induction streams with
  | rest session => exact .rest session.feed
  | @queue session after last block blocks pieces callback accepted stay _ ih =>
    obtain ⟨whole, offered⟩ := of_queue_eq_ok (of_queueSamples_eq_ok accepted)
    obtain ⟨enqueued, same⟩ := enqueue_of_stay offered.symm stay
    have queued : session.feed.queueSamples block = .ok (.ok .queued, after.feed) := by
      unfold queueSamples at accepted
      unfold Feed.queueSamples
      cases check : session.feed.ring.checkSamples (Sample.format σ) with
      | error fault => rw [check] at accepted; cases accepted
      | ok _ => exact (Feed.queue_of_whole whole).trans (congrArg Except.ok enqueued)
    rw [same] at stay
    exact .queue callback queued stay ih
  | drain buffer _ ih => exact .drain buffer ih
  | aside same _ ih => exact .aside same ih

end Session

/-! ### All together -/

/-- **Samples survive**, whatever their type. Their bytes are read as these samples, and bytes that
can be cut into samples are the bytes of what is read. To offer samples to a ring of their type is to
offer their bytes. And in a run from a new ring, on the ring itself or through a session, in which
only samples of its type are queued, all are accepted, the ring is never emptied, and the frames of
the device are drained: what the consumers get, put together, are the first of all samples that were
queued, one for each channel of the frames that were consumed. -/
theorem samples_survive {σ : Type} [Sample σ] :
    (∀ samples : List σ, Sample.decode (Sample.encode samples).data.toList = .ok samples) ∧
      (∀ bytes : ByteArray, bytes.size % (Sample.format σ).bytes = 0 →
        ∃ samples : List σ, Sample.decode bytes.data.toList = .ok samples ∧
          Sample.encode samples = bytes) ∧
      ∀ (δ : Type) [Device δ],
        (∀ (feed : Feed δ) (samples : List σ),
          Sample.format σ = feed.ring.format.sampleFormat →
            feed.queueSamples samples = feed.queue (Sample.encode samples)) ∧
        (∀ (session : Session δ) (samples : List σ),
          Sample.format σ = session.feed.ring.format.sampleFormat →
            session.queueSamples samples = session.queue (Sample.encode samples)) ∧
        ∀ (format : Format) (lowMs highMs : Nat) (new : Ring) (blocks : List (List σ))
          (pieces : List (List UInt8)),
          Ring.create format lowMs highMs = .ok new → Sample.format σ = format.sampleFormat →
            (∀ feed last : Feed δ, feed.ring = new → feed.Streams σ blocks pieces last →
              ∃ samples : List σ, Sample.decode pieces.flatten = .ok samples ∧
                samples <+: blocks.flatten ∧
                samples.length = last.ring.framesConsumed * format.channels.toNat) ∧
            ∀ session last : Session δ, session.feed.ring = new →
              session.Streams σ blocks pieces last →
                ∃ samples : List σ, Sample.decode pieces.flatten = .ok samples ∧
                  samples <+: blocks.flatten ∧
                  samples.length = last.feed.ring.framesConsumed * format.channels.toNat := by
  refine ⟨fun samples => ?_, fun bytes whole => ?_, fun δ _ => ⟨?_, ?_, ?_⟩⟩
  · rw [Sample.toList_encode, Sample.decode_flatMap]
  · obtain ⟨samples, decoded, written⟩ := Sample.flatMap_of_whole (σ := σ) whole
    refine ⟨samples, decoded, ByteArray.ext (Array.toList_inj.1 ?_)⟩
    rw [Sample.toList_encode, written]
  · exact fun feed samples same => Feed.queueSamples_of_format samples same
  · exact fun session samples same => Session.queueSamples_of_format samples same
  · intro format lowMs highMs new blocks pieces created same
    constructor
    · rintro feed last rfl streams
      exact streams.samples created same
    · rintro session last rfl streams
      exact streams.feed.samples created same

/-- Two patterns that are no numbers and a negative one are queued, and drained into buffers that are
not cut between frames. -/
theorem samples_survive_with_stray_buffers :
    let format : Format := ⟨.f32, 1, 3, none⟩
    let feed : Feed PlainDevice := ⟨Ring.ofFormat format 0 1, ⟨⟩, #[]⟩
    let block : List FloatSample := [⟨0x7FC00001⟩, ⟨0xBF800000⟩, ⟨0xFFA00002⟩]
    ∃ pieces last, Ring.create format 0 1 = .ok feed.ring ∧
      Sample.format FloatSample = format.sampleFormat ∧
      feed.Streams FloatSample [block] pieces last ∧
      ∃ samples : List FloatSample, Sample.decode pieces.flatten = .ok samples ∧
        samples <+: [block].flatten ∧
        samples.length = last.ring.framesConsumed * format.channels.toNat := by
  intro format feed block
  have created : Ring.create format 0 1 = .ok feed.ring := rfl
  have same : Sample.format FloatSample = format.sampleFormat := rfl
  have callback : Device.StaysCallback feed.device := fun _ _ _ => rfl
  have accepted : feed.queueSamples block =
      .ok (.ok .queued, (feed.enqueue (Sample.encode block)).2) := by
    have whole : (Sample.encode block).size % feed.ring.geometry.frameSize = 0 := by
      decide +kernel
    have told : (feed.enqueue (Sample.encode block)).1.toOption = some .queued := by
      decide +kernel
    rw [Feed.queueSamples_of_format block same, Feed.queue_of_whole whole]
    generalize feed.enqueue (Sample.encode block) = reply at told ⊢
    obtain ⟨_ | outcome, after⟩ := reply
    · cases told
    · cases told
      rfl
  have stay : ∀ move ∈ feed.enqueueMoves (Sample.encode block), move.empties = false := by
    decide +kernel
  have streams := Feed.Streams.queue callback accepted stay
    (.drain ⟨#[0, 0, 0, 0, 0, 0]⟩ (.drain ⟨#[0, 0, 0, 0, 0]⟩ (.rest _)))
  obtain ⟨-, -, runs⟩ := samples_survive (σ := FloatSample)
  obtain ⟨-, -, runs⟩ := runs PlainDevice
  exact ⟨_, _, created, same, streams, (runs _ _ _ _ _ _ created same).1 _ _ rfl streams⟩

end Playout
