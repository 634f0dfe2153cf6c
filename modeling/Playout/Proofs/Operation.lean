/-
**Operations, and runs of them.**

An `Operation` is a thing that can be done with a ring and its device, be it directly (`Feed`) or
through a session (`Session`). A run does one operation after the other; one that is refused, since
its payload is not made of whole frames or its samples are of another type, leaves all as it was.

A run interleaves whole operations, in any order: an operation is one step, also where it goes through
several stages, as an offer does. A drain between two stages of one offer, or of one reset, is no part
of any run.

Each run is a chain of moves, and the calls of these moves are all that reaches the device:

* `Feed.follows_run`: for runs on the ring itself;
* `Session.performed`: what each operation comes to in a session;
* `Session.follows_run`: for runs through a session.
-/
import Playout.Proofs.Move.Offer

namespace Playout

/-- What can be done with a ring and its device, or with a session. -/
inductive Operation (δ : Type) : Type 1 where
  /-- Whole frames are offered as bytes. -/
  | queue (frames : ByteArray)
  /-- Samples are offered. -/
  | queueSamples (σ : Type) [Sample σ] (samples : List σ)
  | reset
  /-- A consumer has its buffer filled. -/
  | drain (buffer : ByteArray)
  /-- The queued duration is looked at. A session asks its device for the backlog. -/
  | queuedMs
  /-- The device changes by itself, without being called. -/
  | change (change : δ → δ)

/-- The payload that an operation offers. -/
def Operation.payload? {δ : Type} : Operation δ → Option ByteArray
  | .queue frames => some frames
  | @Operation.queueSamples _ _ _ samples => some (Sample.encode samples)
  | _ => none

/-- What is left after an offer, also if it was refused. -/
def settle {ε α β : Type} (before : β) : Except ε (α × β) → β
  | .ok (_, after) => after
  | .error _ => before

theorem settle_of_refused {ε α β γ : Type} {before : β} {taken : Except ε (α × β)} {payload : γ}
    (refused : (if taken.isOk then some payload else none) = none) :
    settle before taken = before := by
  cases taken with
  | error fault => rfl
  | ok reply => cases refused

/-- An offer that is refused makes no moves. -/
def settleMoves {ε α : Type} (moves : List Move) : Except ε α → List Move
  | .ok _ => moves
  | .error _ => []

variable {δ : Type}

/-! ### Offers that are not refused -/

theorem Ring.checkFrames_eq_ok_iff (ring : Ring) (frames : ByteArray) :
    ring.checkFrames frames = .ok () ↔ frames.size % ring.geometry.frameSize = 0 := by
  unfold checkFrames
  split <;> simp_all

namespace Feed

section Runs

variable [Device δ]

/-- A feed after an operation. -/
def perform (feed : Feed δ) : Operation δ → Feed δ
  | .queue frames => settle feed (feed.queue frames)
  | @Operation.queueSamples _ _ _ samples => settle feed (feed.queueSamples samples)
  | .reset => feed.reset
  | .drain buffer => (feed.drain buffer).1
  | .queuedMs => feed
  | .change change => { feed with device := change feed.device }

/-- The moves of an operation. -/
def moves (feed : Feed δ) : Operation δ → List Move
  | .queue frames => settleMoves (feed.enqueueMoves frames) (feed.queue frames)
  | @Operation.queueSamples _ _ _ samples =>
    settleMoves (feed.enqueueMoves (Sample.encode samples)) (feed.queueSamples samples)
  | .reset => feed.resetMoves
  | .drain buffer => [.drain buffer]
  | .queuedMs => []
  | .change _ => []

def run (feed : Feed δ) (operations : List (Operation δ)) : Feed δ :=
  operations.foldl perform feed

def runMoves : Feed δ → List (Operation δ) → List Move
  | _, [] => []
  | feed, operation :: rest => feed.moves operation ++ (feed.perform operation).runMoves rest

/-! ### An operation follows its moves -/

/-- An offer is refused unless its frames are whole. -/
theorem of_queue_eq_ok {feed : Feed δ} {frames : ByteArray} {reply : Except Error Outcome × Feed δ}
    (taken : feed.queue frames = .ok reply) :
    frames.size % feed.ring.geometry.frameSize = 0 ∧ reply = feed.enqueue frames := by
  unfold queue at taken
  cases check : feed.ring.checkFrames frames with
  | error fault => rw [check] at taken; cases taken
  | ok _ =>
    rw [check] at taken
    cases taken
    exact ⟨(feed.ring.checkFrames_eq_ok_iff frames).1 check, rfl⟩

/-- An offer of samples is an offer of their bytes. -/
theorem of_queueSamples_eq_ok {σ : Type} [Sample σ] {feed : Feed δ} {samples : List σ}
    {reply : Except Error Outcome × Feed δ} (taken : feed.queueSamples samples = .ok reply) :
    feed.queue (Sample.encode samples) = .ok reply := by
  unfold queueSamples at taken
  cases check : feed.ring.checkSamples (Sample.format σ) with
  | error fault => rw [check] at taken; cases taken
  | ok _ => rw [check] at taken; exact taken

/-- Whole frames are not refused. -/
theorem queue_of_whole {feed : Feed δ} {frames : ByteArray}
    (whole : frames.size % feed.ring.geometry.frameSize = 0) :
    feed.queue frames = .ok (feed.enqueue frames) := by
  unfold queue
  rw [(Ring.checkFrames_eq_ok_iff _ _).2 whole]
  rfl

/-- Samples of the ring's type are offered as their bytes. -/
theorem queueSamples_of_format {σ : Type} [Sample σ] {feed : Feed δ} (samples : List σ)
    (same : Sample.format σ = feed.ring.format.sampleFormat) :
    feed.queueSamples samples = feed.queue (Sample.encode samples) := by
  unfold queueSamples Ring.checkSamples
  rw [if_pos same]
  rfl

theorem follows_settle {feed : Feed δ} {frames : ByteArray}
    {taken : Except Fault (Except Error Outcome × Feed δ)}
    (accepted : ∀ reply, taken = .ok reply → feed.queue frames = .ok reply) :
    Follows feed (settleMoves (feed.enqueueMoves frames) taken) (settle feed taken) := by
  cases taken with
  | error fault => exact .refl feed
  | ok reply =>
    obtain ⟨whole, rfl⟩ := of_queue_eq_ok (accepted reply rfl)
    exact follows_enqueue whole

theorem follows_perform (feed : Feed δ) (operation : Operation δ) :
    Follows feed (feed.moves operation) (feed.perform operation) := by
  cases operation with
  | queue frames => exact follows_settle fun _ taken => taken
  | queueSamples _ samples => exact follows_settle fun _ taken => of_queueSamples_eq_ok taken
  | reset => exact follows_reset feed
  | drain buffer => exact follows_silent (.drain buffer) feed trivial rfl
  | queuedMs => exact .refl feed
  | change change => exact ⟨.nil _, (List.append_nil _).symm⟩

/-- A run on a ring follows its moves. -/
theorem follows_run (feed : Feed δ) (operations : List (Operation δ)) :
    Follows feed (feed.runMoves operations) (feed.run operations) := by
  induction operations generalizing feed with
  | nil => exact .refl feed
  | cons operation rest ih => exact (follows_perform feed operation).append (ih _)

end Runs

end Feed

namespace Session

variable [Device δ]

def perform (session : Session δ) : Operation δ → Session δ
  | .queue frames => settle session (session.queue frames)
  | @Operation.queueSamples _ _ _ samples => settle session (session.queueSamples samples)
  | .reset => session.reset
  | .drain buffer => (session.drain buffer).1
  | .queuedMs => session.queuedMs.2
  | .change change =>
    { session with feed := { session.feed with device := change session.feed.device } }

def moves (session : Session δ) : Operation δ → List Move
  | .queue frames => settleMoves (session.offerMoves frames) (session.queue frames)
  | @Operation.queueSamples _ _ _ samples =>
    settleMoves (session.offerMoves (Sample.encode samples)) (session.queueSamples samples)
  | .reset => session.feed.resetMoves
  | .drain buffer => [.drain buffer]
  | .queuedMs => [.ask session.feed.askBacklog.1]
  | .change _ => []

def run (session : Session δ) (operations : List (Operation δ)) : Session δ :=
  operations.foldl perform session

def runMoves : Session δ → List (Operation δ) → List Move
  | _, [] => []
  | session, operation :: rest =>
    session.moves operation ++ (session.perform operation).runMoves rest

/-! ### An operation follows its moves -/

theorem of_queue_eq_ok {session : Session δ} {frames : ByteArray} {reply : Outcome × Session δ}
    (taken : session.queue frames = .ok reply) :
    frames.size % session.feed.ring.geometry.frameSize = 0 ∧ reply = session.offer frames := by
  unfold queue at taken
  cases check : session.feed.ring.checkFrames frames with
  | error fault => rw [check] at taken; cases taken
  | ok _ =>
    rw [check] at taken
    cases taken
    exact ⟨(session.feed.ring.checkFrames_eq_ok_iff frames).1 check, rfl⟩

/-- Whole frames are not refused. -/
theorem queue_of_whole {session : Session δ} {frames : ByteArray}
    (whole : frames.size % session.feed.ring.geometry.frameSize = 0) :
    session.queue frames = .ok (session.offer frames) := by
  unfold queue
  rw [(Ring.checkFrames_eq_ok_iff _ _).2 whole]
  rfl

theorem of_queueSamples_eq_ok {σ : Type} [Sample σ] {session : Session δ} {samples : List σ}
    {reply : Outcome × Session δ} (taken : session.queueSamples samples = .ok reply) :
    session.queue (Sample.encode samples) = .ok reply := by
  unfold queueSamples at taken
  cases check : session.feed.ring.checkSamples (Sample.format σ) with
  | error fault => rw [check] at taken; cases taken
  | ok _ => rw [check] at taken; exact taken

theorem queueSamples_of_format {σ : Type} [Sample σ] {session : Session δ} (samples : List σ)
    (same : Sample.format σ = session.feed.ring.format.sampleFormat) :
    session.queueSamples samples = session.queue (Sample.encode samples) := by
  unfold queueSamples Ring.checkSamples
  rw [if_pos same]
  rfl

theorem follows_queuedMs (session : Session δ) :
    session.feed.Follows [.ask session.feed.askBacklog.1] session.queuedMs.2.feed := by
  have asking := Feed.follows_askBacklog session.feed
  unfold queuedMs
  rcases answer : session.feed.askBacklog with ⟨error | backlog, asked⟩
  · rw [answer] at asking
    exact asking.note (.backlogUnknown error)
  · rw [answer] at asking
    exact asking

/-- Looking at the queued duration leaves the ring as it is. -/
theorem ring_queuedMs (session : Session δ) :
    session.queuedMs.2.feed.ring = session.feed.ring :=
  (follows_queuedMs session).makes.foldl_after.symm

/-- **What an operation comes to**, with its moves: an offer of whole frames, a reset, a drain, a
question for the backlog, or nothing that moves the ring. The last is what is left of an offer that
is refused. -/
inductive Performed (session : Session δ) (operation : Operation δ) :
    List Move → Session δ → Prop
  | offered {frames : ByteArray} (payload : operation.payload? = some frames)
      (whole : frames.size % session.feed.ring.geometry.frameSize = 0) :
      Performed session operation (session.offerMoves frames) (session.offer frames).2
  | reset : Performed session operation session.feed.resetMoves session.reset
  | drained (buffer : ByteArray) :
      Performed session operation [.drain buffer] (session.drain buffer).1
  | asked : Performed session operation [.ask session.feed.askBacklog.1] session.queuedMs.2
  | unmoved {after : Session δ} (ring_eq : after.feed.ring = session.feed.ring)
      (journal_eq : after.feed.journal = session.feed.journal)
      (recovery_eq : after.recovery = session.recovery) : Performed session operation [] after

theorem performed_settle {session : Session δ} {operation : Operation δ} {frames : ByteArray}
    {taken : Except Fault (Outcome × Session δ)} (payload : operation.payload? = some frames)
    (accepted : ∀ reply, taken = .ok reply → session.queue frames = .ok reply) :
    Performed session operation (settleMoves (session.offerMoves frames) taken)
      (settle session taken) := by
  cases taken with
  | error fault => exact .unmoved rfl rfl rfl
  | ok reply =>
    obtain ⟨whole, rfl⟩ := of_queue_eq_ok (accepted reply rfl)
    exact .offered payload whole

theorem performed (session : Session δ) (operation : Operation δ) :
    Performed session operation (session.moves operation) (session.perform operation) := by
  cases operation with
  | queue frames => exact performed_settle rfl fun _ taken => taken
  | queueSamples _ samples => exact performed_settle rfl fun _ taken => of_queueSamples_eq_ok taken
  | reset => exact .reset
  | drain buffer => exact .drained buffer
  | queuedMs => exact .asked
  | change change => exact .unmoved rfl rfl rfl

/-- The payload that an operation offers to a session, unless it is refused. -/
def taken? (session : Session δ) : Operation δ → Option ByteArray
  | .queue frames => if (session.queue frames).isOk then some frames else none
  | @Operation.queueSamples _ _ _ samples =>
    if (session.queueSamples samples).isOk then some (Sample.encode samples) else none
  | _ => none

theorem of_settled {session : Session δ} {frames payload : ByteArray}
    {taken : Except Fault (Outcome × Session δ)}
    (accepted : ∀ reply, taken = .ok reply → session.queue frames = .ok reply)
    (offers : (if taken.isOk then some frames else none) = some payload) :
    payload.size % session.feed.ring.geometry.frameSize = 0 ∧
      settle session taken = (session.offer payload).2 ∧
      settleMoves (session.offerMoves frames) taken = session.offerMoves payload := by
  cases taken with
  | error fault => cases offers
  | ok reply =>
    cases offers
    obtain ⟨whole, rfl⟩ := of_queue_eq_ok (accepted reply rfl)
    exact ⟨whole, rfl, rfl⟩

/-- An operation that is not refused comes to an offer of its payload. -/
theorem of_taken {session : Session δ} {operation : Operation δ} {frames : ByteArray}
    (taken : session.taken? operation = some frames) :
    frames.size % session.feed.ring.geometry.frameSize = 0 ∧
      session.perform operation = (session.offer frames).2 ∧
      session.moves operation = session.offerMoves frames := by
  cases operation with
  | queue _ => exact of_settled (fun _ accepted => accepted) taken
  | queueSamples _ _ => exact of_settled (fun _ accepted => of_queueSamples_eq_ok accepted) taken
  | _ => cases taken

/-- An operation that offers nothing, or is refused, leaves the ring as it was unless it is a reset
or a drain. -/
theorem ring_perform_of_untaken {session : Session δ} {operation : Operation δ}
    (untaken : session.taken? operation = none) :
    operation = .reset ∨ (∃ buffer, operation = .drain buffer) ∨
      (session.perform operation).feed.ring = session.feed.ring := by
  cases operation with
  | queue _ => exact .inr (.inr (congrArg (·.feed.ring) (settle_of_refused untaken)))
  | queueSamples _ _ => exact .inr (.inr (congrArg (·.feed.ring) (settle_of_refused untaken)))
  | reset => exact .inl rfl
  | drain buffer => exact .inr (.inl ⟨buffer, rfl⟩)
  | queuedMs => exact .inr (.inr (ring_queuedMs session))
  | change change => exact .inr (.inr rfl)

theorem Performed.follows {session after : Session δ} {operation : Operation δ} {moves : List Move}
    (done : Performed session operation moves after) : session.feed.Follows moves after.feed := by
  cases done with
  | offered _ whole => exact follows_offer whole
  | reset => exact Feed.follows_reset session.feed
  | drained buffer => exact Feed.follows_silent (.drain buffer) session.feed trivial rfl
  | asked => exact follows_queuedMs session
  | unmoved ring_eq journal_eq _ =>
    refine ⟨?_, ?_⟩
    · rw [ring_eq]
      exact .nil _
    · rw [journal_eq]
      exact (List.append_nil _).symm

theorem follows_perform (session : Session δ) (operation : Operation δ) :
    session.feed.Follows (session.moves operation) (session.perform operation).feed :=
  (performed session operation).follows

/-- A run through a session follows its moves. -/
theorem follows_run (session : Session δ) (operations : List (Operation δ)) :
    session.feed.Follows (session.runMoves operations) (session.run operations).feed := by
  induction operations generalizing session with
  | nil => exact .refl session.feed
  | cons operation rest ih => exact (follows_perform session operation).append (ih _)

/-! ### Opened sessions -/

/-- What is known of a session that was just opened. -/
structure Opened (format : Format) (config : Config) (session : Session δ) : Prop where
  format_valid : format.validate = .ok ()
  config_valid : config.validate = .ok ()
  ring_eq : session.feed.ring =
    Ring.ofFormat format config.lowWatermarkMs.toNat config.highWatermarkMs.toNat
  calls_eq : session.feed.journal.calls = []
  recovery_eq : session.recovery = config.recovery

theorem of_openWith_eq_ok {format : Format} {config : Config} {connect : Ring → Except Error δ}
    {session : Session δ} (opening : openWith format config connect = .ok session) :
    Opened format config session := by
  unfold openWith at opening
  cases format_valid : format.validate with
  | error error => rw [format_valid] at opening; cases opening
  | ok _ =>
    cases config_valid : config.validate with
    | error error => rw [format_valid, config_valid] at opening; cases opening
    | ok _ =>
      rw [format_valid, config_valid] at opening
      simp only [Except.bind] at opening
      generalize connect _ = connected at opening
      cases connected with
      | error error => cases opening
      | ok device =>
        cases opening
        exact ⟨format_valid, config_valid, rfl, rfl, rfl⟩

/-! ### A session keeps its policy -/

theorem recovery_queuedMs (session : Session δ) :
    session.queuedMs.2.recovery = session.recovery := by
  unfold queuedMs
  rcases session.feed.askBacklog with ⟨_ | _, _⟩ <;> rfl

theorem recovery_perform (session : Session δ) (operation : Operation δ) :
    (session.perform operation).recovery = session.recovery := by
  have done := performed session operation
  generalize session.moves operation = moves, session.perform operation = after at done ⊢
  cases done with
  | offered _ _ => exact recovery_offer session _
  | reset => rfl
  | drained _ => rfl
  | asked => exact recovery_queuedMs session
  | unmoved _ _ recovery_eq => exact recovery_eq

/-- A run keeps the policy of its session. -/
theorem recovery_run (session : Session δ) (operations : List (Operation δ)) :
    (session.run operations).recovery = session.recovery := by
  induction operations generalizing session with
  | nil => rfl
  | cons operation rest ih => exact (ih _).trans (recovery_perform session operation)

end Session

end Playout
