/-
**The device itself gives the answers of the moves.**

A chain of moves leaves the device open: any answers will do. Here the device is there. Each call of
the journal was answered as the device answers it in the state that the calls before it left behind,
and the device is in the state that the last of them left behind. So where a device does nothing but
answer calls, the moves of its ring determine what becomes of it.

* `Device.AnswersAll`: a device answers one call after the other;
* `Feed.recorded_enqueue`, `Session.recorded_offer`: an offer records what the device answers;
* `Feed.answers_perform`, `Session.answers_perform`: the device answers the moves of an operation.
-/
import Playout.Proofs.Operation

namespace Playout

namespace Device

variable {δ : Type} [Device δ]

/-! ### Calls and answers -/

/-- The device that a call leaves behind. -/
def after (device : δ) : Call → δ
  | .start _ => (Device.start device).device
  | .stop _ => (Device.stop device).device
  | .backlog _ => (Device.backlog device).device
  | .write offered _ => (Device.write device offered).device
  | .reopen _ => (Device.reopen device).device

/-- The answer of a call is the one that the device gives. -/
def Answers (device : δ) : Call → Prop
  | .start answer => (Device.start device).result = answer
  | .stop answer => (Device.stop device).result = answer
  | .backlog answer => (Device.backlog device).result = answer
  | .write offered answer => (Device.write device offered).result = answer
  | .reopen answer => (Device.reopen device).result = answer

/-- Calls that a device answers one after the other, each in the state that the last one left. -/
inductive AnswersAll : δ → List Call → δ → Prop
  | nil (device : δ) : AnswersAll device [] device
  | cons {device last : δ} {call : Call} {calls : List Call} (answers : Answers device call)
      (rest : AnswersAll (after device call) calls last) : AnswersAll device (call :: calls) last

theorem AnswersAll.append {device middle last : δ} {first second : List Call}
    (before : AnswersAll device first middle) (behind : AnswersAll middle second last) :
    AnswersAll device (first ++ second) last := by
  induction before with
  | nil => exact behind
  | cons answers _ ih => exact .cons answers (ih behind)

end Device

namespace Feed

variable {δ : Type} [Device δ] {feed middle after : Feed δ} {frames : ByteArray}

/-! ### Recorded answers -/

/-- The calls that were recorded from one feed to a later one are answered by the device, which they
lead to where it is then. -/
def Recorded (feed after : Feed δ) : Prop :=
  ∃ calls, after.journal.calls = feed.journal.calls ++ calls ∧
    Device.AnswersAll feed.device calls after.device

theorem Recorded.refl (feed : Feed δ) : Recorded feed feed :=
  ⟨[], (List.append_nil _).symm, .nil _⟩

theorem Recorded.trans (before : Recorded feed middle) (behind : Recorded middle after) :
    Recorded feed after := by
  obtain ⟨first, recorded_first, answers_first⟩ := before
  obtain ⟨second, recorded_second, answers_second⟩ := behind
  refine ⟨first ++ second, ?_, answers_first.append answers_second⟩
  rw [recorded_second, recorded_first, List.append_assoc]

/-- A notice is no call. -/
theorem Recorded.note (recorded : Recorded feed after) (notice : Notice) :
    Recorded feed (after.note notice) := by
  obtain ⟨calls, journal_eq, answers⟩ := recorded
  exact ⟨calls, (Journal.calls_push_notice ..).trans journal_eq, answers⟩

/-- A call is recorded with the answer of the device. -/
theorem recorded_record {α : Type} (feed : Feed δ) (reply : Reply δ α)
    (call : Except Error α → Call) (answers : Device.Answers feed.device (call reply.result))
    (leads : Device.after feed.device (call reply.result) = reply.device) :
    Recorded feed (feed.record reply call).2 := by
  refine ⟨[call reply.result], calls_record feed reply call, .cons answers ?_⟩
  rw [leads]
  exact .nil _

/-- What is recorded on the way along moves are the calls of the moves. -/
theorem Recorded.answers {moves : List Move} (recorded : Recorded feed after)
    (followed : Follows feed moves after) :
    Device.AnswersAll feed.device (Move.calls moves) after.device := by
  obtain ⟨calls, journal_eq, answers⟩ := recorded
  have same : calls = Move.calls moves :=
    List.append_cancel_left (journal_eq.symm.trans followed.calls)
  rwa [same] at answers

theorem recorded_startDevice (feed : Feed δ) : Recorded feed feed.startDevice.2 :=
  recorded_record feed (Device.start feed.device) .start rfl rfl

theorem recorded_stopDevice (feed : Feed δ) : Recorded feed feed.stopDevice.2 :=
  recorded_record feed (Device.stop feed.device) .stop rfl rfl

theorem recorded_askBacklog (feed : Feed δ) : Recorded feed feed.askBacklog.2 :=
  recorded_record feed (Device.backlog feed.device) .backlog rfl rfl

theorem recorded_writeDevice (feed : Feed δ) (frames : ByteArray) :
    Recorded feed (feed.writeDevice frames).2 :=
  recorded_record feed (Device.write feed.device frames) (.write frames) rfl rfl

theorem recorded_reopenDevice (feed : Feed δ) : Recorded feed feed.reopenDevice.2 :=
  recorded_record feed (Device.reopen feed.device) .reopen rfl rfl

/-! ### The stages of an offer -/

theorem recorded_reset (feed : Feed δ) : Recorded feed feed.reset := by
  have stopping : Recorded feed ({ feed with ring := feed.ring.reset }).stopDevice.2 :=
    recorded_stopDevice { feed with ring := feed.ring.reset }
  simp only [reset]
  split
  · simp only [stopDevice, record] at stopping ⊢
    generalize Device.stop feed.device = reply at stopping ⊢
    obtain ⟨device, _ | _, notices⟩ := reply
    · exact stopping.note _
    · exact stopping
  · exact .refl feed

theorem recorded_relieve (feed : Feed δ) (backlog : Nat) :
    Recorded feed (feed.relieve backlog).2 := by
  simp only [relieve]
  split
  · exact ((Recorded.refl feed).note .underrun).trans (recorded_reset _)
  · split
    · exact ((Recorded.refl feed).note (.overrun _ _)).trans (recorded_reset _)
    · exact .refl feed

theorem recorded_accept (feed : Feed δ) (frames : ByteArray) :
    Recorded feed (feed.accept frames).2 := by
  unfold accept
  split
  · exact .refl feed
  · exact (Recorded.refl feed).note _

theorem recorded_startIfDue (feed : Feed δ) (queued : Nat) :
    Recorded feed (feed.startIfDue queued).2 := by
  unfold startIfDue
  split
  · have starting := feed.recorded_startDevice
    rcases begun : feed.startDevice with ⟨_ | _, started⟩
    · rw [begun] at starting
      exact starting
    · rw [begun] at starting
      exact starting.note _
  · exact .refl feed

theorem recorded_flushIfDue (feed : Feed δ) : Recorded feed feed.flushIfDue.2 := by
  simp only [flushIfDue]
  split
  · have writing := feed.recorded_writeDevice feed.ring.storage.contents
    rcases handed : feed.writeDevice feed.ring.storage.contents with ⟨_ | taken, written⟩
    · rw [handed] at writing
      exact writing
    · rw [handed] at writing
      dsimp only
      split
      · exact writing
      · exact writing.note _
  · exact .refl feed

theorem Admission.recorded (admission : Admission feed frames) :
    Recorded feed admission.accepted := by
  have asking := recorded_askBacklog feed
  rw [admission.ask_eq] at asking
  have relieving := recorded_relieve admission.asked admission.backlog
  rw [admission.relieve_eq] at relieving
  have accepting := recorded_accept admission.relieved frames
  rw [admission.accept_eq] at accepting
  exact (asking.trans relieving).trans accepting

/-- An offer records what the device answers, whatever way it goes. -/
theorem Offered.recorded {moves : List Move} {result : Except Error Outcome}
    (offered : Offered feed frames moves result after) : Recorded feed after := by
  cases offered with
  | unasked ask_eq =>
    have asking := recorded_askBacklog feed
    rwa [ask_eq] at asking
  | unstarted admission start_eq =>
    have starting := recorded_startIfDue admission.accepted admission.due
    rw [start_eq] at starting
    exact admission.recorded.trans starting
  | @unflushed admission started _ _ start_eq flush_eq =>
    have starting := recorded_startIfDue admission.accepted admission.due
    rw [start_eq] at starting
    have flushing := recorded_flushIfDue started
    rw [flush_eq] at flushing
    exact (admission.recorded.trans starting).trans flushing
  | @completed admission started _ start_eq flush_eq =>
    have starting := recorded_startIfDue admission.accepted admission.due
    rw [start_eq] at starting
    have flushing := recorded_flushIfDue started
    rw [flush_eq] at flushing
    exact (admission.recorded.trans starting).trans flushing

theorem recorded_enqueue (feed : Feed δ) (frames : ByteArray) :
    Recorded feed (feed.enqueue frames).2 :=
  (offered_enqueue feed frames).recorded

end Feed

/-! ### A recovery -/

namespace Session

variable {δ : Type} [Device δ]

theorem recorded_reopen (feed : Feed δ) (attempt : Nat) (last : Error) (left : Nat) :
    feed.Recorded (reopen feed attempt last left).2 := by
  induction left generalizing feed attempt last with
  | zero => exact .refl feed
  | succ left ih =>
    have opening := feed.recorded_reopenDevice
    unfold reopen
    rcases tried : feed.reopenDevice with ⟨error | _, after⟩
    · rw [tried] at opening
      exact (opening.note (.reopenFailed attempt error)).trans (ih _ (attempt + 1) error)
    · rw [tried] at opening
      exact opening.note _

theorem recorded_retry (feed : Feed δ) (frames : ByteArray) :
    feed.Recorded (retry feed frames).2 := by
  have offering := feed.recorded_enqueue frames
  unfold retry
  rcases result : feed.enqueue frames with ⟨error | outcome, after⟩
  · rw [result] at offering
    exact (offering.trans after.recorded_reset).note _
  · rw [result] at offering
    exact offering

theorem recorded_recover (policy : RecoveryPolicy) (feed : Feed δ) (frames : ByteArray)
    (error : Error) : feed.Recorded (recover policy feed frames error).2 := by
  unfold recover
  split
  · exact (Feed.Recorded.refl feed).note _
  split
  · have opening := ((Feed.Recorded.refl feed).note (.reopening error feed.deviceName)).trans
      (recorded_reopen _ 1 (.deviceLost "no reopen attempts made") policy.maxTries.toNat)
    split
    · next opened =>
      rw [opened] at opening
      exact opening.trans (recorded_retry _ frames)
    · next failed =>
      rw [failed] at opening
      exact opening.note _
  · exact (Feed.Recorded.refl feed).note _

/-- An offer to a session records what the device answers, its recovery included. -/
theorem recorded_offer (session : Session δ) (frames : ByteArray) :
    session.feed.Recorded (session.offer frames).2.feed := by
  have offering := session.feed.recorded_enqueue frames
  unfold offer
  rcases result : session.feed.enqueue frames with ⟨error | outcome, after⟩
  · rw [result] at offering
    exact (offering.trans after.recorded_reset).trans (recorded_recover ..)
  · rw [result] at offering
    exact offering

theorem recorded_queuedMs (session : Session δ) :
    session.feed.Recorded session.queuedMs.2.feed := by
  have asking := session.feed.recorded_askBacklog
  unfold queuedMs
  rcases answer : session.feed.askBacklog with ⟨error | backlog, asked⟩
  · rw [answer] at asking
    exact asking.note _
  · rw [answer] at asking
    exact asking

end Session

/-! ### Operations -/

/-- Whether the device changes by itself. -/
def Operation.changes {δ : Type} : Operation δ → Bool
  | .change _ => true
  | _ => false

variable {δ : Type} [Device δ] {frames : ByteArray}

namespace Feed

theorem recorded_settle {feed : Feed δ} {taken : Except Fault (Except Error Outcome × Feed δ)}
    (accepted : ∀ reply, taken = .ok reply → feed.queue frames = .ok reply) :
    Recorded feed (settle feed taken) := by
  cases taken with
  | error fault => exact .refl feed
  | ok reply =>
    obtain ⟨_, rfl⟩ := of_queue_eq_ok (accepted reply rfl)
    exact feed.recorded_enqueue frames

theorem recorded_perform (feed : Feed δ) {operation : Operation δ}
    (called : operation.changes = false) : Recorded feed (feed.perform operation) := by
  cases operation with
  | queue frames => exact recorded_settle fun _ taken => taken
  | queueSamples _ samples => exact recorded_settle fun _ taken => of_queueSamples_eq_ok taken
  | reset => exact feed.recorded_reset
  | drain buffer => exact .refl feed
  | queuedMs => exact .refl feed
  | change change => cases called

/-- **The device answers the moves of an operation**, unless it changes by itself. -/
theorem answers_perform (feed : Feed δ) {operation : Operation δ}
    (called : operation.changes = false) :
    Device.AnswersAll feed.device (Move.calls (feed.moves operation))
      (feed.perform operation).device :=
  (feed.recorded_perform called).answers (feed.follows_perform operation)

end Feed

namespace Session

theorem recorded_settle {session : Session δ} {taken : Except Fault (Outcome × Session δ)}
    (accepted : ∀ reply, taken = .ok reply → session.queue frames = .ok reply) :
    session.feed.Recorded (settle session taken).feed := by
  cases taken with
  | error fault => exact .refl session.feed
  | ok reply =>
    obtain ⟨_, rfl⟩ := of_queue_eq_ok (accepted reply rfl)
    exact session.recorded_offer frames

theorem recorded_perform (session : Session δ) {operation : Operation δ}
    (called : operation.changes = false) :
    session.feed.Recorded (session.perform operation).feed := by
  cases operation with
  | queue frames => exact recorded_settle fun _ taken => taken
  | queueSamples _ samples => exact recorded_settle fun _ taken => of_queueSamples_eq_ok taken
  | reset => exact session.feed.recorded_reset
  | drain buffer => exact .refl session.feed
  | queuedMs => exact session.recorded_queuedMs
  | change change => cases called

/-- **The device answers the moves of an operation**, unless it changes by itself. -/
theorem answers_perform (session : Session δ) {operation : Operation δ}
    (called : operation.changes = false) :
    Device.AnswersAll session.feed.device (Move.calls (session.moves operation))
      (session.perform operation).feed.device :=
  (session.recorded_perform called).answers (session.follows_perform operation)

end Session

end Playout
