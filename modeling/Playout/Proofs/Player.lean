/-
**What a player does with a session.**

A player sends a tone block by block. What becomes of a block decides only what it notes and how it
waits; and to wait, or to report, it does nothing but look at the queue. So the blocks are the same
whatever the device answers and however time passes: as many as it takes to cover the length of the
tone, and together a single fill of one tone. In the end the session is reset. What the player waits
for lies between the watermarks of the session, unless doubling a duration overflows, and then nothing
is played.

* `Player.looks_await`, `Player.looks_report`: to wait, or to report, is to look at the queue;
* `Session.Sent.counts`: how the blocks are counted if no call fails;
* `Player.sent_sendBlocks`: the blocks that are sent;
* `Player.target_is_between_watermarks`: how much is kept queued, and where that cannot be told;
* `Player.whole_tone_is_played_once`: a whole playback, in every state that a session reaches.
-/
import Mathlib.Algebra.Order.Floor.Div
import Playout.Player
import Playout.Proofs.Session.Protocol
import Playout.Proofs.Session.Tally
import Playout.Proofs.Tone

namespace Playout

namespace Session

/-! ### Looking at the queue -/

section Looking

variable {δ : Type} {session ready last : Session δ}

/-- From one session to another, nothing was done but to look at the queue. -/
structure Looks (session last : Session δ) : Prop where
  recovery_eq : last.recovery = session.recovery
  follows : ∃ answers : List (Except Error Nat), session.feed.Follows (answers.map .ask) last.feed

namespace Looks

theorem refl (session : Session δ) : Looks session session :=
  ⟨rfl, [], .refl session.feed⟩

theorem trans (before : Looks session ready) (behind : Looks ready last) : Looks session last := by
  obtain ⟨same, first, early⟩ := before
  obtain ⟨kept, second, late⟩ := behind
  refine ⟨kept.trans same, first ++ second, ?_⟩
  rw [List.map_append]
  exact early.append late

/-- A notice is no look. -/
theorem note (looks : Looks session last) (notice : Notice) :
    Looks session (Player.note last notice) := by
  obtain ⟨same, answers, followed⟩ := looks
  exact ⟨same, answers, followed.note notice⟩

/-- To look at the queue does not change the ring. -/
theorem ring_eq (looks : Looks session last) : last.feed.ring = session.feed.ring := by
  obtain ⟨-, answers, followed⟩ := looks
  rw [← followed.makes.foldl_after]
  refine Ring.foldl_after_eq id ?_ (fun move (member : move ∈ answers.map .ask) => member)
  intro now move member
  obtain ⟨answer, -, rfl⟩ := List.mem_map.1 member
  rfl

end Looks

end Looking

variable {δ : Type} [Device δ] {session ready last : Session δ}

theorem looks_queuedMs (session : Session δ) : Looks session session.queuedMs.2 :=
  ⟨recovery_queuedMs session, [session.feed.askBacklog.1], follows_queuedMs session⟩

/-! ### Blocks that are sent -/

/-- Blocks of samples were offered to a session one after the other. Before each of them, and behind
the last one, nothing was done but to look at the queue. -/
inductive Sent {σ : Type} [Sample σ] : Session δ → List (List σ) → Session δ → Prop
  | done {session last : Session δ} (looks : Looks session last) : Sent session [] last
  | next {session ready offered last : Session δ} {block : List σ} {blocks : List (List σ)}
      {outcome : Outcome} (looks : Looks session ready)
      (call : ready.queueSamples block = .ok (outcome, offered)) (rest : Sent offered blocks last) :
      Sent session (block :: blocks) last

variable {σ : Type} [Sample σ] {blocks : List (List σ)}

theorem Sent.of_looks (looks : Looks session ready) (sent : Sent ready blocks last) :
    Sent session blocks last := by
  cases sent with
  | done rest => exact .done (looks.trans rest)
  | next rest call sent => exact .next (looks.trans rest) call sent

theorem Sent.looks {final : Session δ} (sent : Sent session blocks last)
    (looks : Looks last final) : Sent session blocks final := by
  induction sent with
  | done rest => exact .done (rest.trans looks)
  | next rest call _ ih => exact .next rest call (ih looks)

/-- An offer of samples that is not refused is one of their bytes, which are whole frames. -/
theorem offer_of_queueSamples_eq_ok {block : List σ} {outcome : Outcome} {offered : Session δ}
    (call : ready.queueSamples block = .ok (outcome, offered)) :
    (Sample.encode block).size % ready.feed.ring.geometry.frameSize = 0 ∧
      (ready.offer (Sample.encode block)).2 = offered := by
  obtain ⟨whole, reply⟩ := of_queue_eq_ok (of_queueSamples_eq_ok call)
  exact ⟨whole, congrArg Prod.snd reply.symm⟩

/-- Where no call fails, an offer is counted once. -/
theorem offeredFrames_offer_of_succeeds {frames : ByteArray}
    (whole : frames.size % session.feed.ring.geometry.frameSize = 0)
    (all : ∀ call ∈ Move.calls (session.offerMoves frames), call.succeeds = true) :
    (session.offer frames).2.feed.ring.offeredFrames =
      session.feed.ring.offeredFrames + session.feed.ring.frameCount frames := by
  obtain ⟨-, moves⟩ := offer_of_succeeds whole all
  have counted := countedCall_offer whole
  rw [moves] at all counted
  rw [counted.sum_eq, (Feed.result_enqueue_of_succeeds whole all).2, Nat.mul_one]

/-- **How the blocks are counted**: blocks that are sent follow moves, and if none of their calls
fails, each block is counted once. -/
theorem Sent.counts (sent : Sent session blocks last) :
    ∃ moves, session.feed.Follows moves last.feed ∧
      ((∀ call ∈ Move.calls moves, call.succeeds = true) →
        last.feed.ring.offeredFrames = session.feed.ring.offeredFrames +
          (blocks.map fun block =>
            session.feed.ring.frameCount (Sample.encode block)).sum) := by
  induction sent with
  | @done session last looks =>
    obtain ⟨answers, followed⟩ := looks.follows
    refine ⟨_, followed, fun _ => ?_⟩
    rw [looks.ring_eq, List.map_nil, List.sum_nil, Nat.add_zero]
  | @next session ready offered last block blocks outcome looks call rest ih =>
    obtain ⟨answers, looking⟩ := looks.follows
    obtain ⟨whole, offered_eq⟩ := offer_of_queueSamples_eq_ok call
    have offering := follows_offer whole
    rw [offered_eq] at offering
    obtain ⟨moves, followed, counts⟩ := ih
    refine ⟨_, looking.append (offering.append followed), fun all => ?_⟩
    rw [Move.calls_append, Move.calls_append] at all
    obtain ⟨-, all⟩ := List.forall_mem_append.1 all
    obtain ⟨here, behind⟩ := List.forall_mem_append.1 all
    have one := offeredFrames_offer_of_succeeds whole here
    have alike : ∀ frames, offered.feed.ring.frameCount frames =
        session.feed.ring.frameCount frames := fun frames =>
      Ring.frameCount_of_geometry frames
        (offering.makes.geometry_eq.trans (congrArg Ring.geometry looks.ring_eq))
    rw [offered_eq, looks.ring_eq] at one
    rw [counts behind, one, List.map_cons, List.sum_cons, Nat.add_assoc]
    simp only [alike]

end Session

namespace Player

open Session

variable {δ : Type}

theorem looks_noteOutcome (session : Session δ) (blockMs : Nat) (outcome : Outcome) :
    Looks session (noteOutcome session blockMs outcome) := by
  cases outcome with
  | queued => exact .refl session
  | dropped => exact (Looks.refl session).note .blockDropped
  | deviceUnavailable => exact (Looks.refl session).note (.retrying blockMs)

variable [Device δ]

/-- **To wait is to look at the queue**, if nothing else happens in between. -/
theorem looks_await (limit : Nat) (session : Session δ) (looks : Nat) :
    Looks session (await id limit session looks) := by
  induction looks generalizing session with
  | zero =>
    unfold await
    split
    · exact looks_queuedMs session
    · exact .refl session
  | succ looks ih =>
    unfold await
    split
    · rcases looked : session.queuedMs with ⟨queued, after⟩
      have once := looks_queuedMs session
      rw [looked] at once
      dsimp only
      split
      · exact once.trans (ih after)
      · exact once
    · exact .refl session

/-- **To report is to look at the queue**, playing or not. -/
theorem looks_report (session : Session δ) : Looks session (report session) :=
  (looks_queuedMs session).note _

theorem looks_pace (limit : Nat) (pause : Pause) (session : Session δ) :
    Looks session (pace id limit pause session) := by
  have waited := looks_await limit session pause.looks
  unfold pace
  dsimp only
  split
  · exact waited.trans (looks_report _)
  · exact waited

/-- One more block covers as many frames as a block has. -/
theorem ceilDiv_eq_succ {total size : Nat} (positive : 0 < size) (some : 0 < total) :
    total ⌈/⌉ size = (total - size) ⌈/⌉ size + 1 := by
  rw [Nat.ceilDiv_eq_add_pred_div, Nat.ceilDiv_eq_add_pred_div, ← Nat.add_div_right _ positive]
  by_cases large : size ≤ total
  · rw [show total - size + size - 1 + size = total + size - 1 by omega]
  · rw [Nat.sub_eq_zero_of_le (Nat.le_of_not_le large), Nat.zero_add,
      Nat.div_eq_of_lt_le (by omega : 1 * size ≤ total + size - 1) (by omega),
      Nat.div_eq_of_lt_le (by omega : 1 * size ≤ size - 1 + size) (by omega)]

/-- **The blocks that are sent** are the next fills of the tone, as many as it takes to reach the
total, whatever becomes of them. -/
theorem sent_sendBlocks {σ : Type} [ToneSample σ] (arithmetic : Arithmetic) (plan : Plan)
    {waiting : Waiting} (alone : waiting.meanwhile = id) {count : Nat} {session : Session δ}
    {tone : Tone} {buffer : Array σ} {sent : Nat}
    (same : Sample.format σ = session.feed.ring.format.sampleFormat)
    (frameSize : tone.channels * (Sample.format σ).bytes = session.feed.ring.geometry.frameSize)
    (remaining : (plan.total - sent) ⌈/⌉ plan.blockFrames = count) :
    ∃ last, sendBlocks σ arithmetic plan waiting session tone buffer sent = .ok last ∧
      Sent session (tone.fills (σ := σ) arithmetic (List.replicate count plan.blockFrames))
        last := by
  have positive := plan.blockFrames_pos
  induction count generalizing session tone buffer sent with
  | zero =>
    have reached : ¬ sent < plan.total := by
      intro before
      rw [ceilDiv_eq_succ positive (Nat.sub_pos_of_lt before)] at remaining
      cases remaining
    rw [sendBlocks, dif_neg reached]
    exact ⟨session, rfl, .done (.refl session)⟩
  | succ count ih =>
    have before : sent < plan.total := by
      refine Nat.lt_of_not_le fun reached => ?_
      rw [Nat.sub_eq_zero_of_le reached, zero_ceilDiv] at remaining
      cases remaining
    rw [ceilDiv_eq_succ positive (Nat.sub_pos_of_lt before), Nat.sub_sub] at remaining
    rw [sendBlocks, dif_pos before, List.replicate_succ, Tone.fills, Tone.fillInto_eq]
    have channels := Tone.channels_fill (σ := σ) arithmetic tone plan.blockFrames
    have length := Tone.length_fill (σ := σ) arithmetic tone plan.blockFrames
    generalize tone.fill (σ := σ) arithmetic plan.blockFrames = piece at channels length ⊢
    obtain ⟨after, block⟩ := piece
    dsimp only at channels length ⊢
    have whole : (Sample.encode block).size % session.feed.ring.geometry.frameSize = 0 := by
      rw [Sample.size_encode, length, Nat.mul_assoc, frameSize, Nat.mul_mod_left]
    have call := (queueSamples_of_format block same).trans (queue_of_whole whole)
    rw [call]
    rcases offering : session.offer (Sample.encode block) with ⟨outcome, offered⟩
    rw [offering] at call
    dsimp only
    have looks := (looks_noteOutcome offered plan.blockMs outcome).trans
      (looks_pace plan.targetMs (waiting.pause (sent + plan.blockFrames)) _)
    rw [alone]
    have making := (follows_offer whole).makes
    rw [offering] at making
    have kept := looks.ring_eq
    obtain ⟨last, sends, rest⟩ := @ih _ after block.toArray (sent + plan.blockFrames)
      (by rw [kept, making.format_eq]; exact same)
      (by rw [kept, making.geometry_eq, channels]; exact frameSize) (Nat.succ.inj remaining)
    exact ⟨last, sends, .next (.refl session) call (rest.of_looks looks)⟩

/-! ### A whole playback -/

/-- The frames of one block. -/
def blockFrames (format : Format) (options : Options) : Nat :=
  framesForMs format.sampleRate.toNat options.blockMs.toNat

/-- The frames to send at least. -/
def frameTotal (format : Format) (options : Options) : Nat :=
  totalFrames (Float32.ofBits options.seconds) format.sampleRate

/-- The tone to play, at its beginning. -/
def freshTone (format : Format) (options : Options) : Tone :=
  Tone.start (Float32.ofBits options.frequency) format.sampleRate format.channels
    (Float32.ofBits options.volume)

/-- The blocks that cover the wanted length. -/
def blockCount (format : Format) (options : Options) : Nat :=
  frameTotal format options ⌈/⌉ blockFrames format options

/-- **A tone is played once**, in samples of some type. The blocks that are sent are together one
fill of the tone; in the end the session is stopped and empty, its starts are as many as its resets,
and if no call failed, each frame that was sent is counted once. -/
structure PlayedOnce (σ : Type) [ToneSample σ] (arithmetic : Arithmetic) (format : Format)
    (options : Options) (session played : Session δ) (blocks : List (List σ)) : Prop where
  type_eq : Sample.format σ = format.sampleFormat
  length_eq : blocks.length = blockCount format options
  block_length : ∀ block ∈ blocks,
    block.length = blockFrames format options * format.channels.toNat
  flatten_eq : blocks.flatten = ((freshTone format options).fill arithmetic
    (blockCount format options * blockFrames format options)).2
  sent : ∃ last, Sent session blocks last ∧
    played = note last.reset (.done last.reset.feed.ring.stats)
  emptied : played.feed.ring.Emptied
  starts_eq_resets : played.feed.ring.stats.starts = played.feed.ring.stats.resets
  counted : ∀ calls, played.feed.journal.calls = session.feed.journal.calls ++ calls →
    (∀ call ∈ calls, call.succeeds = true) →
      played.feed.ring.offeredFrames = session.feed.ring.offeredFrames +
        blockCount format options * blockFrames format options
  in_words : frameTotal format options + blockFrames format options < UInt64.size →
    blockCount format options * blockFrames format options < UInt64.size

/-- What is sent to cover a length stays below one block more. -/
theorem ceilDiv_mul_lt (total : Nat) {size : Nat} (positive : 0 < size) :
    total ⌈/⌉ size * size < total + size := by
  have below := Nat.div_mul_le_self (total + size - 1) size
  rw [Nat.ceilDiv_eq_add_pred_div]
  omega

section Playback

variable {σ : Type} [ToneSample σ] {arithmetic : Arithmetic} {options : Options}
  {session : Session δ}

theorem length_of_mem_fills {tone : Tone} {count size : Nat} {block : List σ}
    (member : block ∈ tone.fills (σ := σ) arithmetic (List.replicate count size)) :
    block.length = size * tone.channels := by
  have lengths := Tone.map_length_fills (σ := σ) arithmetic tone (List.replicate count size)
  rw [List.map_replicate] at lengths
  refine List.eq_of_mem_replicate (n := count) ?_
  rw [← lengths]
  exact List.mem_map_of_mem member

/-- The frames of a block are those that it was filled with. -/
theorem frameCount_encode {ring : Ring} {block : List σ} {size channels : Nat}
    (length : block.length = size * channels)
    (frameSize : channels * (Sample.format σ).bytes = ring.geometry.frameSize)
    (positive : 0 < ring.geometry.frameSize) (small : size < UInt32.size) :
    ring.frameCount (Sample.encode block) = size := by
  rw [Ring.frameCount, Sample.size_encode, length, Nat.mul_assoc, frameSize,
    Nat.mul_div_cancel _ positive]
  exact Nat.mod_eq_of_lt small

/-- The blocks of a whole playback. -/
def tonesOf (σ : Type) [ToneSample σ] (arithmetic : Arithmetic) (format : Format)
    (options : Options) : List (List σ) :=
  (freshTone format options).fills arithmetic
    (List.replicate (blockCount format options) (blockFrames format options))

/-- A playback ends with a reset, behind which its starts are its resets. -/
theorem starts_eq_resets_of_sent {blocks : List (List σ)} {last : Session δ}
    (sent : Sent session blocks last)
    (ledger : session.feed.ring.Ledger session.feed.journal.calls) :
    last.reset.feed.ring.stats.starts = last.reset.feed.ring.stats.resets := by
  obtain ⟨moves, followed, -⟩ := sent.counts
  have ended := followed.append last.feed.follows_reset
  have closed := (Ring.Ledger.along ended.makes ledger).starts_eq_resets_add
  rw [last.feed.silent_reset] at closed
  exact closed

/-- The frames that are counted in a playback, if no call fails, are those of its blocks. -/
theorem offeredFrames_of_sent {blocks : List (List σ)} {last : Session δ}
    (sent : Sent session blocks last) {calls : List Call}
    (calls_eq : last.reset.feed.journal.calls = session.feed.journal.calls ++ calls)
    (all : ∀ call ∈ calls, call.succeeds = true) {size : Nat}
    (sizes : ∀ block ∈ blocks, session.feed.ring.frameCount (Sample.encode block) = size) :
    last.reset.feed.ring.offeredFrames =
      session.feed.ring.offeredFrames + blocks.length * size := by
  obtain ⟨moves, followed, counts⟩ := sent.counts
  have ended := followed.append last.feed.follows_reset
  have same : calls = Move.calls (moves ++ last.feed.resetMoves) :=
    List.append_cancel_left (calls_eq.symm.trans ended.calls)
  rw [same, Move.calls_append] at all
  have sum : (blocks.map fun block => session.feed.ring.frameCount (Sample.encode block)).sum =
      blocks.length * size := by
    rw [List.map_congr_left sizes, List.map_const', List.sum_replicate_nat]
  have reset : last.reset.feed.ring.offeredFrames = last.feed.ring.offeredFrames := by
    have offered : last.reset.feed.ring.offered = last.feed.ring.offered := last.feed.offered_reset
    rw [Ring.offeredFrames, Ring.offeredFrames, offered]
  rw [reset, counts (List.forall_mem_append.1 all).1, sum]

theorem playedOnce_playTone (arithmetic : Arithmetic) {paced : Config} {waiting : Waiting} {target : Nat}
    (alone : waiting.meanwhile = id) (paces : targetMs paced options.blockMs = .ok target)
    (ledger : session.feed.ring.Ledger session.feed.journal.calls)
    (consistent : session.feed.ring.Consistent)
    (shape : session.feed.ring.geometry.frameSize = session.feed.ring.format.frameSize)
    (same : Sample.format σ = session.feed.ring.format.sampleFormat)
    (small : blockFrames session.feed.ring.format options < UInt32.size) :
    ∃ played, playTone σ arithmetic options paced waiting session = .ok played ∧
      PlayedOnce σ arithmetic session.feed.ring.format options session played
        (tonesOf σ arithmetic session.feed.ring.format options) := by
  have frameSize : (freshTone session.feed.ring.format options).channels *
      (Sample.format σ).bytes = session.feed.ring.geometry.frameSize := by
    rw [shape, same]
    rfl
  let plan : Plan :=
    { blockMs := options.blockMs.toNat
      blockFrames := blockFrames session.feed.ring.format options
      total := frameTotal session.feed.ring.format options
      targetMs := target
      blockFrames_pos := Nat.lt_of_lt_of_le Nat.one_pos (Nat.le_max_left ..) }
  let announced := note session (.playing options.frequency options.seconds plan.blockMs target)
  obtain ⟨last, sends, sent⟩ : ∃ last,
      sendBlocks σ arithmetic plan waiting announced (freshTone session.feed.ring.format options)
          #[] 0 = .ok last ∧
        Sent announced (tonesOf σ arithmetic session.feed.ring.format options) last :=
    sent_sendBlocks arithmetic plan alone same frameSize rfl
  have whole := (sent.of_looks ((Looks.refl session).note _)).looks
    (looks_await 0 last waiting.drainLooks)
  have played : playTone σ arithmetic options paced waiting session =
      .ok (note (await id 0 last waiting.drainLooks).reset
        (.done (await id 0 last waiting.drainLooks).reset.feed.ring.stats)) := by
    unfold playTone
    rw [paces, ← alone]
    exact congrArg (Except.map _) sends
  have sizes : ∀ block ∈ tonesOf σ arithmetic session.feed.ring.format options,
      session.feed.ring.frameCount (Sample.encode block) =
        blockFrames session.feed.ring.format options := fun block member =>
    frameCount_encode (length_of_mem_fills member) frameSize consistent.frameSize_pos small
  have length : (tonesOf σ arithmetic session.feed.ring.format options).length =
      blockCount session.feed.ring.format options := by
    rw [tonesOf, Tone.length_fills, List.length_replicate]
  refine ⟨_, played, same, length, fun block member => length_of_mem_fills member, ?_,
    ⟨_, whole, rfl⟩, Feed.emptied_reset _, starts_eq_resets_of_sent whole ledger,
    fun calls calls_eq all => ?_, fun fits => ?_⟩
  · rw [tonesOf, Tone.flatten_fills, List.sum_replicate_nat]
  · have calls_reset := (Journal.calls_push_notice ..).symm.trans calls_eq
    have counted := offeredFrames_of_sent whole calls_reset all sizes
    rw [length] at counted
    exact counted
  · exact Nat.lt_trans (ceilDiv_mul_lt _ plan.blockFrames_pos) fits

end Playback

/-- A tone is played once, in samples of the type that the format of the session names. -/
def PlayedInFormat (arithmetic : Arithmetic) (format : Format) (options : Options)
    (session played : Session δ) : Prop :=
  match format.sampleFormat with
  | .i16 =>
    PlayedOnce Int16 arithmetic format options session played
      (tonesOf Int16 arithmetic format options)
  | .f32 =>
    PlayedOnce FloatSample arithmetic format options session played
      (tonesOf FloatSample arithmetic format options)

/-- **A whole tone is played once, and cleaned up after**, in every state that an opened session
reaches and by every arithmetic, whatever the device answers, however much time there is behind each
block and whichever blocks are followed by a report, if nobody else drains the ring meanwhile. -/
theorem whole_tone_is_played_once {format : Format} {config : Config}
    {connect : Ring → Except Error δ} {opened : Session δ}
    (opening : openWith format config connect = .ok opened) (operations : List (Operation δ))
    (arithmetic : Arithmetic) {options : Options} {paced : Config} {waiting : Waiting} {target : Nat}
    (alone : waiting.meanwhile = id) (paces : targetMs paced options.blockMs = .ok target)
    (small : blockFrames format options < UInt32.size) :
    ∃ played, play arithmetic options paced waiting (opened.run operations) = .ok played ∧
      PlayedInFormat arithmetic format options (opened.run operations) played := by
  have known := of_openWith_eq_ok opening
  have ran := follows_run opened operations
  obtain ⟨consistent, geometry⟩ := known.ring_run operations
  have formatted : (opened.run operations).feed.ring.format = format := by
    rw [ran.makes.format_eq, known.ring_eq]
    rfl
  have shape : (opened.run operations).feed.ring.geometry.frameSize =
      (opened.run operations).feed.ring.format.frameSize := by
    rw [geometry, formatted]
    rfl
  have ledger : (opened.run operations).feed.ring.Ledger
      (opened.run operations).feed.journal.calls := by
    have start : opened.feed.ring.Ledger opened.feed.journal.calls := by
      rw [known.ring_eq, known.calls_eq]
      exact ⟨rfl, rfl, rfl⟩
    rw [ran.calls]
    exact Ring.Ledger.along ran.makes start
  have plays := fun (σ : Type) (_ : ToneSample σ)
    (same : Sample.format σ = (opened.run operations).feed.ring.format.sampleFormat) =>
    playedOnce_playTone arithmetic alone paces ledger consistent shape same
      (by rw [formatted]; exact small)
  rw [formatted] at plays
  unfold play PlayedInFormat
  rw [formatted]
  cases named : format.sampleFormat with
  | i16 => exact plays Int16 inferInstance named.symm
  | f32 => exact plays FloatSample inferInstance named.symm

/-- A device is lost, and runs dry, while a tone is played to it. There is less and less time behind
its blocks, and a report after each second. -/
theorem whole_tone_is_played_once_with_lost_device :
    let format : Format := ⟨.f32, 2, 500, none⟩
    let device : ScriptedDevice :=
      ⟨"lost", .writeThrough, 8, [.error .underrun], [.error .underrun], [],
        [.error (.deviceLost ""), .ok (some 1)], [.error (.audioOutput ""), .ok ()]⟩
    let config : Config := { lowWatermarkMs := 0, highWatermarkMs := 100 }
    let waiting : Waiting :=
      { pause := fun sent => { looks := 100 - sent / 10, reports := sent % 500 = 0 }, drainLooks := 3 }
    ∃ opened, create device format config = .ok opened ∧ waiting.meanwhile = id ∧
      targetMs config 10 = .ok 20 ∧ blockFrames format {} < UInt32.size ∧
        ∃ played, play .standard {} config waiting
            (opened.run [.queue ⟨#[1, 2, 3, 4, 5, 6, 7, 8]⟩]) = .ok played ∧
          PlayedInFormat .standard format {}
            (opened.run [.queue ⟨#[1, 2, 3, 4, 5, 6, 7, 8]⟩]) played := by
  intro format device config waiting
  have opening : openWith format config (fun _ => .ok device) = .ok _ := rfl
  have paces : targetMs config 10 = .ok 20 := rfl
  have small : blockFrames format {} < UInt32.size := by decide
  exact ⟨_, opening, rfl, paces, small,
    whole_tone_is_played_once opening _ .standard rfl paces small⟩

/-! ### The target of the pacing -/

/-- What is to be kept queued, in milliseconds, with nothing cut off. -/
def exactTargetMs (config : Config) (blockMs : UInt32) : Nat :=
  min (max (2 * config.lowWatermarkMs.toNat) (2 * blockMs.toNat)) config.highWatermarkMs.toNat

/-- Both durations that are doubled stay 32-bit words. -/
def Doubles (config : Config) (blockMs : UInt32) : Prop :=
  2 * config.lowWatermarkMs.toNat ≤ wordMax ∧ 2 * blockMs.toNat ≤ wordMax

instance (config : Config) (blockMs : UInt32) : Decidable (Doubles config blockMs) :=
  inferInstanceAs (Decidable (_ ∧ _))

theorem double_of_le {ms : UInt32} (fits : 2 * ms.toNat ≤ wordMax) :
    double ms = .ok (2 * ms.toNat) := by
  rw [double, Nat.mul_comm, if_neg (Nat.not_lt.2 fits)]

theorem double_of_lt {ms : UInt32} (above : wordMax < 2 * ms.toNat) :
    double ms = .error .durationOverflow := by
  rw [double, Nat.mul_comm, if_pos above]

theorem targetMs_of_doubles {config : Config} {blockMs : UInt32}
    (doubles : Doubles config blockMs) :
    targetMs config blockMs = .ok (exactTargetMs config blockMs) := by
  rw [targetMs, double_of_le doubles.1, double_of_le doubles.2]
  rfl

theorem targetMs_of_not_doubles {config : Config} {blockMs : UInt32}
    (overflows : ¬ Doubles config blockMs) :
    targetMs config blockMs = .error .durationOverflow := by
  by_cases low : 2 * config.lowWatermarkMs.toNat ≤ wordMax
  · have above := Nat.lt_of_not_le fun block => overflows ⟨low, block⟩
    rw [targetMs, double_of_le low, double_of_lt above]
    rfl
  · rw [targetMs, double_of_lt (Nat.lt_of_not_le low)]
    rfl

/-- Nothing is played without a target. -/
theorem play_of_not_doubles {options : Options} {config : Config}
    (overflows : ¬ Doubles config options.blockMs) (arithmetic : Arithmetic) (waiting : Waiting)
    (session : Session δ) :
    play arithmetic options config waiting session = .error .durationOverflow := by
  have silent (σ : Type) [ToneSample σ] :
      playTone σ arithmetic options config waiting session = .error .durationOverflow := by
    rw [playTone, targetMs_of_not_doubles overflows]
    rfl
  unfold play
  split <;> exact silent _

/-- **The target lies between the watermarks** of every configuration that is accepted, and it is
computed exactly if twice the low watermark and two blocks fit 32 bits. If one of them does not, there
is no target, and the player gives up before it plays anything, in whatever session. This is how it
goes where overflow is checked; unchecked, a doubled duration is cut to 32 bits, and what the player
waits for can lie below the low watermark. -/
theorem target_is_between_watermarks {config : Config} (valid : config.validate = .ok ())
    (blockMs : UInt32) :
    config.lowWatermarkMs.toNat ≤ exactTargetMs config blockMs ∧
      exactTargetMs config blockMs ≤ config.highWatermarkMs.toNat ∧
      (Doubles config blockMs → targetMs config blockMs = .ok (exactTargetMs config blockMs)) ∧
      (¬ Doubles config blockMs →
        targetMs config blockMs = .error .durationOverflow ∧
          ∀ (arithmetic : Arithmetic) (options : Options) (waiting : Waiting)
            (session : Session δ), options.blockMs = blockMs →
              play arithmetic options config waiting session = .error .durationOverflow) := by
  have ordered : config.lowWatermarkMs.toNat ≤ config.highWatermarkMs.toNat :=
    UInt32.le_iff_toNat_le.1 ((config.validate_eq_ok_iff).1 valid).1
  refine ⟨?_, Nat.min_le_right .., targetMs_of_doubles, fun overflows => ?_⟩
  · unfold exactTargetMs
    omega
  · refine ⟨targetMs_of_not_doubles overflows, fun arithmetic options waiting session same => ?_⟩
    rw [← same] at overflows
    exact play_of_not_doubles overflows arithmetic waiting session

/-- Twice the low watermark is more than two short blocks, and cut off at the high one. A block of
half the 32-bit words has no target. -/
theorem target_is_between_watermarks_of_narrow_config :
    let config : Config := { lowWatermarkMs := 400, highWatermarkMs := 700 }
    config.validate = .ok () ∧
      (Doubles config 10 ∧ targetMs config 10 = .ok 700) ∧
      (¬ Doubles config 2147483648 ∧ targetMs config 2147483648 = .error .durationOverflow) := by
  intro config
  have valid : config.validate = .ok () := rfl
  have doubles : Doubles config 10 := by decide
  have overflows : ¬ Doubles config 2147483648 := by decide
  obtain ⟨-, -, exact, -⟩ := target_is_between_watermarks (δ := ScriptedDevice) valid 10
  obtain ⟨-, -, -, fails⟩ := target_is_between_watermarks (δ := ScriptedDevice) valid 2147483648
  exact ⟨valid, ⟨doubles, exact doubles⟩, overflows, (fails overflows).1⟩

/-- A low watermark of half the 32-bit words is accepted, and cannot be doubled. -/
theorem target_of_wide_watermarks_overflows :
    let config : Config := { lowWatermarkMs := 2147483648, highWatermarkMs := 4294967295 }
    config.validate = .ok () ∧ targetMs config 10 = .error .durationOverflow ∧
      exactTargetMs config 10 = 4294967295 :=
  ⟨rfl, rfl, rfl⟩

end Player

end Playout
