/-
**The moves of a feed and of a session.**

For each stage of an offer, the moves that it makes; from these the moves of a whole offer, to a
ring or to a session (`Feed.enqueueMoves`, `Session.offerMoves`). That these are the moves is
`Feed.Follows`: the ring makes them, each where it is allowed, and the calls that reach the device
are theirs and no others.

* `Feed.follows_reset`, `Feed.follows_relieve`, ..., `Feed.follows_flushIfDue`: the stages;
* `Feed.follows_enqueue`: an offer to a ring;
* `Feed.Offered.stages`, `Feed.Offered.shape`: the order in which the moves of such an offer come;
* `Session.follows_offer`: an offer to a session, with its recovery.
-/
import Playout.Proofs.Move
import Playout.Session

namespace Playout

namespace Feed

variable {δ : Type}

/-! ### The moves of each stage -/

section Moves

variable [Device δ]

def resetMoves (feed : Feed δ) : List Move :=
  if feed.ring.playing then [.stop (Device.stop feed.device).result] else [.clear]

/-- The moves of a check for a dry or overfull ring. -/
def relieveMoves (feed : Feed δ) (backlog : Nat) : List Move :=
  let queued := saturate (feed.ring.queuedFrames + backlog)
  if feed.ring.playing ∧ queued = 0 then .runDry :: feed.resetMoves
  else if feed.ring.playing ∧ feed.ring.geometry.highFrames < queued then
    .runOver :: feed.resetMoves
  else []

/-- The move that takes a payload in, or drops it. -/
def acceptMoves (feed : Feed δ) (frames : ByteArray) : List Move :=
  if feed.ring.fits frames then [.take frames] else [.drop frames]

/-- The move of a start, if one is due. -/
def startMoves (feed : Feed δ) (queued : Nat) : List Move :=
  if feed.ring.playing = false ∧ feed.ring.geometry.lowFrames ≤ queued then
    [.start (Device.start feed.device).result]
  else []

/-- The move of a flush, if one is due. -/
def flushMoves (feed : Feed δ) : List Move :=
  let staged := feed.ring.storage.contents
  let delivery := Device.delivery feed.device
  if delivery = .writeThrough ∧ feed.ring.playing ∧ staged.size ≠ 0 then
    [.write delivery staged (Device.write feed.device staged).result]
  else []

def enqueueMoves (feed : Feed δ) (frames : ByteArray) : List Move :=
  .ask feed.askBacklog.1 ::
    match feed.askBacklog with
    | (.error _, _) => []
    | (.ok backlog, asked) =>
      let (queued, relieved) := asked.relieve backlog
      let (outcome, accepted) := relieved.accept frames
      let count := if outcome = .queued then feed.ring.frameCount frames else 0
      let due := saturate (queued + count)
      asked.relieveMoves backlog ++ relieved.acceptMoves frames ++ accepted.startMoves due ++
        match accepted.startIfDue due with
        | (.error _, _) => []
        | (.ok (), started) => started.flushMoves

end Moves

/-! ### Following moves -/

section Following

/-- A feed goes over into another by moves: the ring makes them, and the device gets their calls. -/
structure Follows (feed : Feed δ) (moves : List Move) (after : Feed δ) : Prop where
  makes : feed.ring.Makes moves after.ring
  calls : after.journal.calls = feed.journal.calls ++ Move.calls moves

variable {feed middle after : Feed δ} {first second moves : List Move}

theorem Follows.refl (feed : Feed δ) : Follows feed [] feed :=
  ⟨.nil _, (List.append_nil _).symm⟩

theorem Follows.append (before : Follows feed first middle) (behind : Follows middle second after) :
    Follows feed (first ++ second) after := by
  refine ⟨before.makes.append behind.makes, ?_⟩
  rw [behind.calls, before.calls, Move.calls_append, List.append_assoc]

/-- A notice is no move. -/
theorem Follows.note (followed : Follows feed moves after) (notice : Notice) :
    Follows feed moves (after.note notice) :=
  ⟨followed.makes, (Journal.calls_push_notice ..).trans followed.calls⟩

/-- A call is recorded as it was made. -/
theorem calls_record {α : Type} (feed : Feed δ) (reply : Reply δ α) (call : Except Error α → Call) :
    (feed.record reply call).2.journal.calls = feed.journal.calls ++ [call reply.result] := by
  simp only [record, Journal.calls_append_notices, Journal.calls_push_call]

/-- A move that changes the ring and calls nobody. -/
theorem follows_silent (move : Move) (feed : Feed δ) (allowed : move.Allowed feed.ring)
    (silent : move.call? = none) : Follows feed [move] { feed with ring := feed.ring.after move } := by
  refine ⟨.single allowed, ?_⟩
  rw [Move.calls_cons, silent]
  exact (List.append_nil _).symm

/-- A move that calls the device, and changes the ring as the answer demands. -/
theorem follows_call {α : Type} (move : Move) (feed : Feed δ) (reply : Reply δ α)
    (call : Except Error α → Call) (allowed : move.Allowed feed.ring)
    (called : move.call? = some (call reply.result)) :
    Follows feed [move]
      { (feed.record reply call).2 with ring := feed.ring.after move } := by
  refine ⟨.single allowed, ?_⟩
  rw [Move.calls_cons, called]
  exact calls_record feed reply call

end Following

/-! ### The stages follow their moves -/

theorem follows_accept {feed : Feed δ} {frames : ByteArray}
    (whole : frames.size % feed.ring.geometry.frameSize = 0) :
    Follows feed (feed.acceptMoves frames) (feed.accept frames).2 := by
  unfold acceptMoves accept
  by_cases fits : feed.ring.fits frames = true
  · have taken := follows_silent (.take frames) feed ⟨whole, fits⟩ rfl
    rw [if_pos fits]
    simp only [Ring.accept, Ring.after, fits, if_true] at taken ⊢
    exact taken
  · have full : feed.ring.fits frames = false := by simpa using fits
    have dropped := follows_silent (.drop frames) feed ⟨whole, full⟩ rfl
    rw [if_neg fits]
    simp only [Ring.accept, Ring.after, fits] at dropped ⊢
    exact dropped.note _

theorem outcome_accept (feed : Feed δ) (frames : ByteArray) :
    (feed.accept frames).1 = if feed.ring.fits frames then .queued else .dropped := by
  unfold accept Ring.accept
  by_cases fits : feed.ring.fits frames = true
  · rw [if_pos fits, if_pos fits]
  · rw [if_neg fits, if_neg fits]

section Stages

variable [Device δ]

theorem follows_askBacklog (feed : Feed δ) :
    Follows feed [.ask feed.askBacklog.1] feed.askBacklog.2 :=
  follows_call (.ask feed.askBacklog.1) feed (Device.backlog feed.device) .backlog trivial rfl

theorem silent_reset (feed : Feed δ) : feed.reset.ring.playing = false := by
  rw [ring_reset]
  rfl

theorem follows_reset (feed : Feed δ) : Follows feed feed.resetMoves feed.reset := by
  unfold resetMoves reset
  by_cases playing : feed.ring.playing = true
  · have stopped := follows_call (.stop (Device.stop feed.device).result) feed
      (Device.stop feed.device) .stop playing rfl
    rw [if_pos playing, if_pos playing]
    simp only [stopDevice, record]
    generalize Device.stop feed.device = reply at stopped ⊢
    obtain ⟨device, _ | error, notices⟩ := reply
    · exact stopped.note _
    · exact stopped
  · have silent : feed.ring.playing = false := by simpa using playing
    rw [if_neg playing, if_neg playing]
    exact follows_silent (.clear) feed silent rfl

theorem follows_relieve (feed : Feed δ) (backlog : Nat) :
    Follows feed (feed.relieveMoves backlog) (feed.relieve backlog).2 := by
  simp only [relieveMoves, relieve]
  split
  · next dry =>
    have counted := (follows_silent (.runDry) feed dry.1 rfl).note .underrun
    exact counted.append (follows_reset _)
  · split
    · next above =>
      have counted := (follows_silent (.runOver) feed above.1 rfl).note
        (.overrun (saturate (feed.ring.queuedFrames + backlog)) feed.ring.geometry.highFrames)
      exact counted.append (follows_reset _)
    · exact .refl feed

theorem follows_startIfDue (feed : Feed δ) (queued : Nat) :
    Follows feed (feed.startMoves queued) (feed.startIfDue queued).2 := by
  unfold startMoves startIfDue
  split
  · next due =>
    have started := follows_call (.start (Device.start feed.device).result) feed
      (Device.start feed.device) .start due.1 rfl
    simp only [startDevice, record] at started ⊢
    generalize Device.start feed.device = reply at started ⊢
    obtain ⟨device, _ | _, notices⟩ := reply
    · exact started
    · exact started.note _
  · exact .refl feed

theorem follows_flushIfDue (feed : Feed δ) : Follows feed feed.flushMoves feed.flushIfDue.2 := by
  simp only [flushMoves, flushIfDue]
  split
  · next due =>
    have written := follows_call
      (.write (Device.delivery feed.device) feed.ring.storage.contents
        (Device.write feed.device feed.ring.storage.contents).result) feed
      (Device.write feed.device feed.ring.storage.contents)
      (.write feed.ring.storage.contents) ⟨due.1, due.2.1, rfl, due.2.2⟩ rfl
    simp only [writeDevice, record] at written ⊢
    generalize Device.write feed.device feed.ring.storage.contents = reply at written ⊢
    obtain ⟨device, _ | taken, notices⟩ := reply
    · exact written
    · simp only [Ring.after] at written ⊢
      split
      · next none =>
        rw [none, Ring.consume_zero] at written
        exact written
      · exact written.note _
  · exact .refl feed

/-! ### The ways an offer can go -/

/-- The stages of an offer up to what becomes of its payload. -/
structure Admission (feed : Feed δ) (frames : ByteArray) where
  backlog : Nat
  asked : Feed δ
  /-- Frames that count as queued once the ring is checked. -/
  queued : Nat
  relieved : Feed δ
  outcome : Outcome
  accepted : Feed δ
  ask_eq : feed.askBacklog = (.ok backlog, asked)
  relieve_eq : asked.relieve backlog = (queued, relieved)
  accept_eq : relieved.accept frames = (outcome, accepted)

namespace Admission

variable {feed : Feed δ} {frames : ByteArray}

/-- Frames that count as queued when a start is considered. -/
def due (admission : Admission feed frames) : Nat :=
  saturate (admission.queued +
    if admission.outcome = .queued then feed.ring.frameCount frames else 0)

def moves (admission : Admission feed frames) : List Move :=
  [.ask (.ok admission.backlog)] ++ admission.asked.relieveMoves admission.backlog ++
    admission.relieved.acceptMoves frames

/-- Up to the check for a dry or overfull ring, whatever the payload is. -/
theorem follows_relieved (admission : Admission feed frames) :
    Follows feed ([.ask (.ok admission.backlog)] ++ admission.asked.relieveMoves admission.backlog)
      admission.relieved := by
  have asking := follows_askBacklog feed
  rw [admission.ask_eq] at asking
  have relieving := follows_relieve admission.asked admission.backlog
  rw [admission.relieve_eq] at relieving
  exact asking.append relieving

theorem follows (admission : Admission feed frames)
    (whole : frames.size % feed.ring.geometry.frameSize = 0) :
    Follows feed admission.moves admission.accepted := by
  have before := admission.follows_relieved
  have accepting : Follows admission.relieved (admission.relieved.acceptMoves frames)
      (admission.relieved.accept frames).2 := by
    apply follows_accept
    rw [before.makes.geometry_eq]
    exact whole
  rw [admission.accept_eq] at accepting
  exact before.append accepting

end Admission

/-- **The four ways an offer can go**: with its moves, its result and the feed that it leaves. -/
inductive Offered (feed : Feed δ) (frames : ByteArray) :
    List Move → Except Error Outcome → Feed δ → Prop
  | unasked {error : Error} {asked : Feed δ} (ask_eq : feed.askBacklog = (.error error, asked)) :
    Offered feed frames [.ask (.error error)] (.error error) asked
  | unstarted (admission : Admission feed frames) {error : Error} {failed : Feed δ}
      (start_eq : admission.accepted.startIfDue admission.due = (.error error, failed)) :
    Offered feed frames (admission.moves ++ admission.accepted.startMoves admission.due)
      (.error error) failed
  | unflushed (admission : Admission feed frames) {started failed : Feed δ} {error : Error}
      (start_eq : admission.accepted.startIfDue admission.due = (.ok (), started))
      (flush_eq : started.flushIfDue = (.error error, failed)) :
    Offered feed frames
      (admission.moves ++ admission.accepted.startMoves admission.due ++ started.flushMoves)
      (.error error) failed
  | completed (admission : Admission feed frames) {started flushed : Feed δ}
      (start_eq : admission.accepted.startIfDue admission.due = (.ok (), started))
      (flush_eq : started.flushIfDue = (.ok (), flushed)) :
    Offered feed frames
      (admission.moves ++ admission.accepted.startMoves admission.due ++ started.flushMoves)
      (.ok admission.outcome) flushed

/-- An offer goes one of the four ways. -/
theorem offered_enqueue (feed : Feed δ) (frames : ByteArray) :
    Offered feed frames (feed.enqueueMoves frames) (feed.enqueue frames).1
      (feed.enqueue frames).2 := by
  unfold enqueueMoves enqueue
  rcases ask_eq : feed.askBacklog with ⟨_ | backlog, asked⟩
  · exact .unasked ask_eq
  dsimp only
  rcases relieve_eq : asked.relieve backlog with ⟨queued, relieved⟩
  dsimp only
  rcases accept_eq : relieved.accept frames with ⟨outcome, accepted⟩
  let admission : Admission feed frames :=
    ⟨backlog, asked, queued, relieved, outcome, accepted, ask_eq, relieve_eq, accept_eq⟩
  dsimp only
  rcases start_eq : accepted.startIfDue admission.due with ⟨_ | _, started⟩
  · have way := Offered.unstarted admission start_eq
    simp only [Admission.due, admission] at start_eq
    simp only [start_eq, List.append_nil]
    exact way
  · rcases flush_eq : started.flushIfDue with ⟨_ | _, flushed⟩
    · have way := Offered.unflushed admission start_eq flush_eq
      simp only [Admission.due, admission] at start_eq
      simp only [start_eq, flush_eq]
      exact way
    · have way := Offered.completed admission start_eq flush_eq
      simp only [Admission.due, admission] at start_eq
      simp only [start_eq, flush_eq]
      exact way

/-- An offer of whole frames follows its moves. -/
theorem Offered.follows {feed after : Feed δ} {frames : ByteArray} {moves : List Move}
    {result : Except Error Outcome} (offered : Offered feed frames moves result after)
    (whole : frames.size % feed.ring.geometry.frameSize = 0) : Follows feed moves after := by
  cases offered with
  | unasked ask_eq =>
    have asking := follows_askBacklog feed
    rw [ask_eq] at asking
    exact asking
  | unstarted admission start_eq =>
    have starting := follows_startIfDue admission.accepted admission.due
    rw [start_eq] at starting
    exact (admission.follows whole).append starting
  | @unflushed admission started _ _ start_eq flush_eq =>
    have starting := follows_startIfDue admission.accepted admission.due
    rw [start_eq] at starting
    have flushing := follows_flushIfDue started
    rw [flush_eq] at flushing
    exact ((admission.follows whole).append starting).append flushing
  | @completed admission started _ start_eq flush_eq =>
    have starting := follows_startIfDue admission.accepted admission.due
    rw [start_eq] at starting
    have flushing := follows_flushIfDue started
    rw [flush_eq] at flushing
    exact ((admission.follows whole).append starting).append flushing

theorem follows_enqueue {feed : Feed δ} {frames : ByteArray}
    (whole : frames.size % feed.ring.geometry.frameSize = 0) :
    Follows feed (feed.enqueueMoves frames) (feed.enqueue frames).2 :=
  (offered_enqueue feed frames).follows whole

/-! ### The shape of an offer -/

/-- Whether an offer gets as far as to take its payload in. -/
def admits (feed : Feed δ) (frames : ByteArray) : Bool :=
  match feed.askBacklog with
  | (.error _, _) => false
  | (.ok backlog, asked) => (asked.relieve backlog).2.ring.fits frames

/-- What becomes of a payload: it is taken in, or dropped, or the offer fails before that. -/
inductive Fate (feed : Feed δ) (frames : ByteArray) : List Move → Prop
  | taken (admitted : feed.admits frames = true) : Fate feed frames [.take frames]
  | dropped (refused : feed.admits frames = false) : Fate feed frames [.drop frames]
  | undecided (refused : feed.admits frames = false) : Fate feed frames []

theorem relieves_resetMoves (feed : Feed δ) : ∀ move ∈ feed.resetMoves, move.Relieves := by
  unfold resetMoves
  split <;> simp [Move.Relieves]

theorem relieves_relieveMoves (feed : Feed δ) (backlog : Nat) :
    ∀ move ∈ feed.relieveMoves backlog, move.Relieves := by
  have reset := relieves_resetMoves feed
  simp only [relieveMoves]
  split
  · exact List.forall_mem_cons.2 ⟨trivial, reset⟩
  · split
    · exact List.forall_mem_cons.2 ⟨trivial, reset⟩
    · exact List.forall_mem_nil _

theorem plays_startMoves (feed : Feed δ) (queued : Nat) :
    ∀ move ∈ feed.startMoves queued, move.Plays := by
  unfold startMoves
  split <;> simp [Move.Plays]

theorem plays_flushMoves (feed : Feed δ) : ∀ move ∈ feed.flushMoves, move.Plays := by
  simp only [flushMoves]
  split <;> simp [Move.Plays]

namespace Admission

variable {feed : Feed δ} {frames : ByteArray} (admission : Admission feed frames)

theorem fits_eq : admission.relieved.ring.fits frames = feed.admits frames := by
  unfold admits
  rw [admission.ask_eq]
  dsimp only
  rw [admission.relieve_eq]

theorem fate : Fate feed frames (admission.relieved.acceptMoves frames) := by
  have fits := admission.fits_eq
  unfold acceptMoves
  split
  · next taken => exact .taken (fits.symm.trans taken)
  · next full => exact .dropped (fits.symm.trans (Bool.eq_false_iff.2 full))

theorem outcome_eq : admission.outcome = if feed.admits frames then .queued else .dropped := by
  have accepted := outcome_accept admission.relieved frames
  rwa [admission.accept_eq, admission.fits_eq] at accepted

end Admission

/-- An offer ends with the question for the backlog, or admits its payload and may then make the
device play. -/
theorem Offered.stages {feed after : Feed δ} {frames : ByteArray} {moves : List Move}
    {result : Except Error Outcome} (offered : Offered feed frames moves result after) :
    (∃ error asked, feed.askBacklog = (.error error, asked) ∧ moves = [.ask (.error error)]) ∨
      ∃ (admission : Admission feed frames) (late : List Move),
        moves = admission.moves ++ late ∧ ∀ move ∈ late, move.Plays := by
  cases offered with
  | unasked ask_eq => exact .inl ⟨_, _, ask_eq, rfl⟩
  | unstarted admission _ => exact .inr ⟨admission, _, rfl, plays_startMoves _ _⟩
  | unflushed admission _ _ =>
    exact .inr ⟨admission, _, List.append_assoc ..,
      List.forall_mem_append.2 ⟨plays_startMoves _ _, plays_flushMoves _⟩⟩
  | completed admission _ _ =>
    exact .inr ⟨admission, _, List.append_assoc ..,
      List.forall_mem_append.2 ⟨plays_startMoves _ _, plays_flushMoves _⟩⟩

/-- **The shape of an offer**: the device is asked, the ring may be relieved, the payload meets its
fate, and the device may be made to play. -/
theorem Offered.shape {feed after : Feed δ} {frames : ByteArray} {moves : List Move}
    {result : Except Error Outcome} (offered : Offered feed frames moves result after) :
    ∃ answer early fate late, moves = .ask answer :: (early ++ fate ++ late) ∧
      (∀ move ∈ early, move.Relieves) ∧ Fate feed frames fate ∧ ∀ move ∈ late, move.Plays := by
  rcases offered.stages with ⟨error, asked, ask_eq, rfl⟩ | ⟨admission, late, rfl, plays⟩
  · have refused : feed.admits frames = false := by
      unfold admits
      rw [ask_eq]
    exact ⟨_, [], [], [], rfl, List.forall_mem_nil _, .undecided refused, List.forall_mem_nil _⟩
  · exact ⟨_, _, _, late, rfl, relieves_relieveMoves _ _, admission.fate, plays⟩

/-- Once the ring is relieved, the payload is taken in or dropped, and the device may be made to play.
An offer that fails before that leaves the ring as it was. -/
theorem Offered.relieved {feed after : Feed δ} {frames : ByteArray} {moves : List Move}
    {result : Except Error Outcome} (offered : Offered feed frames moves result after)
    (whole : frames.size % feed.ring.geometry.frameSize = 0) :
    (∃ error asked, feed.askBacklog = (.error error, asked) ∧ after.ring = feed.ring) ∨
      ∃ (admission : Admission feed frames) (late : List Move),
        admission.relieved.ring.Makes (admission.relieved.acceptMoves frames ++ late) after.ring ∧
          ∀ move ∈ late, move.Plays := by
  have made := (offered.follows whole).makes
  rcases offered.stages with ⟨error, asked, ask_eq, rfl⟩ | ⟨admission, late, rfl, plays⟩
  · exact .inl ⟨error, asked, ask_eq, made.foldl_after.symm⟩
  · have early := admission.follows_relieved.makes.foldl_after
    rw [Admission.moves, List.append_assoc, Ring.makes_append_iff, early] at made
    exact .inr ⟨admission, late, made.2, plays⟩

/-- An offer that does not fail tells by its outcome whether it admitted the payload. -/
theorem outcome_enqueue {feed : Feed δ} {frames : ByteArray} {outcome : Outcome}
    (done : (feed.enqueue frames).1 = .ok outcome) :
    outcome = if feed.admits frames then .queued else .dropped := by
  have way := offered_enqueue feed frames
  rw [done] at way
  generalize feed.enqueueMoves frames = moves, (feed.enqueue frames).2 = after at way
  cases way with
  | completed admission _ _ => exact admission.outcome_eq

end Stages

end Feed

namespace Session

variable {δ : Type} [Device δ]

/-! ### The moves of a recovery -/

/-- The answers of a device that is to be opened anew, up to the first success or until no try is
left. -/
def reopenAnswers (device : δ) : Nat → List (Except Error Unit)
  | 0 => []
  | left + 1 =>
    let reply := Device.reopen device
    reply.result ::
      match reply.result with
      | .ok () => []
      | .error _ => reopenAnswers reply.device left

/-- The moves of the tries to open a device anew, at most so many. -/
def reopenMoves (device : δ) (left : Nat) : List Move :=
  (reopenAnswers device left).map .reopen

/-- The moves of a second offer. -/
def retryMoves (feed : Feed δ) (frames : ByteArray) : List Move :=
  feed.enqueueMoves frames ++
    match feed.enqueue frames with
    | (.ok _, _) => []
    | (.error _, failed) => failed.resetMoves

def recoverMoves (policy : RecoveryPolicy) (feed : Feed δ) (frames : ByteArray) (error : Error) :
    List Move :=
  if error.isUnderrun then [.blameDevice]
  else if error.needsReopen then
    reopenMoves feed.device policy.maxTries.toNat ++
      match reopen (feed.note (.reopening error feed.deviceName)) 1
          (.deviceLost "no reopen attempts made") policy.maxTries.toNat with
      | (.ok (), opened) => retryMoves opened frames
      | (.error _, _) => []
  else []

def offerMoves (session : Session δ) (frames : ByteArray) : List Move :=
  session.feed.enqueueMoves frames ++
    match session.feed.enqueue frames with
    | (.ok _, _) => []
    | (.error error, failed) =>
      failed.resetMoves ++ recoverMoves session.recovery failed.reset frames error

/-! ### A recovery follows its moves -/

theorem follows_reopen (feed : Feed δ) (attempt : Nat) (last : Error) (left : Nat)
    (silent : feed.ring.playing = false) :
    feed.Follows (reopenMoves feed.device left) (reopen feed attempt last left).2 := by
  induction left generalizing feed attempt last with
  | zero => exact .refl feed
  | succ left ih =>
    have opening := Feed.follows_call (.reopen (Device.reopen feed.device).result) feed
      (Device.reopen feed.device) .reopen silent rfl
    simp only [reopenMoves, reopenAnswers, reopen, Feed.reopenDevice, Feed.record] at opening ⊢
    generalize Device.reopen feed.device = reply at opening ⊢
    obtain ⟨device, error | _, notices⟩ := reply
    · have noted := opening.note (.reopenFailed attempt error)
      exact noted.append (ih _ (attempt + 1) error silent)
    · exact opening.note _

theorem follows_retry {feed : Feed δ} {frames : ByteArray}
    (whole : frames.size % feed.ring.geometry.frameSize = 0) :
    feed.Follows (retryMoves feed frames) (retry feed frames).2 := by
  have offering := Feed.follows_enqueue whole
  unfold retryMoves retry
  rcases result : feed.enqueue frames with ⟨error | outcome, after⟩
  · rw [result] at offering
    exact (offering.append after.follows_reset).note _
  · rw [result] at offering
    simpa only [List.append_nil] using offering

theorem follows_recover {feed : Feed δ} {frames : ByteArray} (policy : RecoveryPolicy)
    (error : Error) (silent : feed.ring.playing = false)
    (whole : frames.size % feed.ring.geometry.frameSize = 0) :
    feed.Follows (recoverMoves policy feed frames error) (recover policy feed frames error).2 := by
  unfold recoverMoves recover
  split
  · exact (Feed.follows_silent (.blameDevice) feed silent rfl).note _
  split
  · have noted := (Feed.Follows.refl feed).note (.reopening error feed.deviceName)
    have opening : feed.Follows (reopenMoves feed.device policy.maxTries.toNat)
        (reopen (feed.note (.reopening error feed.deviceName)) 1
          (.deviceLost "no reopen attempts made") policy.maxTries.toNat).2 :=
      noted.append (follows_reopen _ 1 (.deviceLost "no reopen attempts made") _ silent)
    rcases opened : reopen (feed.note (.reopening error feed.deviceName)) 1
      (.deviceLost "no reopen attempts made") policy.maxTries.toNat with ⟨last | _, after⟩
    · rw [opened] at opening
      simpa only [List.append_nil] using opening.note (.recoveryFailed last)
    · rw [opened] at opening
      have again : frames.size % after.ring.geometry.frameSize = 0 := by
        rw [opening.makes.geometry_eq]
        exact whole
      exact opening.append (follows_retry again)
  · exact (Feed.Follows.refl feed).note _

/-- An offer of whole frames to a session follows its moves. -/
theorem follows_offer {session : Session δ} {frames : ByteArray}
    (whole : frames.size % session.feed.ring.geometry.frameSize = 0) :
    session.feed.Follows (session.offerMoves frames) (session.offer frames).2.feed := by
  have offering := Feed.follows_enqueue whole
  unfold offerMoves offer
  rcases result : session.feed.enqueue frames with ⟨error | outcome, after⟩
  · rw [result] at offering
    have resetting := offering.append after.follows_reset
    have again : frames.size % after.reset.ring.geometry.frameSize = 0 := by
      rw [resetting.makes.geometry_eq]
      exact whole
    have recovering := follows_recover session.recovery error after.silent_reset again
    simpa only [List.append_assoc] using resetting.append recovering
  · rw [result] at offering
    simpa only [List.append_nil] using offering

theorem recovery_offer (session : Session δ) (frames : ByteArray) :
    (session.offer frames).2.recovery = session.recovery := by
  unfold offer
  rcases session.feed.enqueue frames with ⟨_ | _, _⟩ <;> rfl

end Session

end Playout
