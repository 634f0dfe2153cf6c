/-
**What calls a device gets from a session.**

As far as its calls tell, a device is stopped or running. `Power.step?` says which calls it may get
in which of these two states, and where they lead.

* `Power.unanswered_run`: among calls that obey this, starts and stops take turns;
* `Ring.Ledger.after`: every allowed move makes only such calls, keeps the ring playing exactly
  while the device runs, and counts its starts and stops;
* `Session.calls_obey_protocol`: so it is along every run of an opened session, up to its end.
-/
import Playout.Device.Scripted
import Playout.Proofs.Operation

namespace Playout

/-! ### Stopped and running devices -/

/-- Whether a call started its device. -/
def Call.isStarted : Call → Bool
  | .start (.ok ()) => true
  | _ => false

/-- Whether a call told its device to stop. -/
def Call.isStop : Call → Bool
  | .stop _ => true
  | _ => false

/-- The state of a device as far as its calls tell. -/
inductive Power where
  | stopped
  | running
deriving DecidableEq, Repr

namespace Power

/-- Where a call leads, if it may be made. A stop succeeds even if the device does not confirm it,
and a start only if it does. -/
def step? : Power → Call → Option Power
  | .stopped, .start (.ok ()) => some .running
  | .stopped, .start (.error _) => some .stopped
  | .running, .stop _ => some .stopped
  | power, .backlog _ => some power
  | .running, .write offered _ => if offered.size = 0 then none else some .running
  | .stopped, .reopen _ => some .stopped
  | _, _ => none

/-- Where calls lead, if they may be made one after the other. -/
def run? : Power → List Call → Option Power
  | power, [] => some power
  | power, call :: calls => (power.step? call).bind (·.run? calls)

/-- Starts that are not yet answered by a stop. -/
def unanswered : Power → Nat
  | .stopped => 0
  | .running => 1

theorem run?_append (power : Power) (first second : List Call) :
    power.run? (first ++ second) = (power.run? first).bind (·.run? second) := by
  induction first generalizing power with
  | nil => rfl
  | cons call first ih =>
    show (power.step? call).bind (·.run? (first ++ second)) =
      ((power.step? call).bind (·.run? first)).bind (·.run? second)
    rw [Option.bind_assoc]
    exact congrArg ((power.step? call).bind ·) (funext fun next => ih next)

theorem run?_concat (power : Power) (calls : List Call) (call : Call) :
    power.run? (calls ++ [call]) = (power.run? calls).bind (·.step? call) := by
  have one : ∀ next : Power, next.run? [call] = next.step? call := fun _ => Option.bind_fun_some _
  rw [run?_append]
  exact congrArg ((power.run? calls).bind ·) (funext one)

/-- A call changes whether the device runs just as it starts or stops it. -/
theorem unanswered_step {power next : Power} {call : Call} (made : power.step? call = some next) :
    power.unanswered + (if call.isStarted then 1 else 0) =
      next.unanswered + if call.isStop then 1 else 0 := by
  cases call with
  | start answer => rcases power with _ | _ <;> rcases answer with _ | _ <;> cases made <;> rfl
  | stop answer =>
    rcases power with _ | _
    · cases made
    · cases made
      rfl
  | backlog answer => rcases power with _ | _ <;> cases made <;> rfl
  | write offered answer =>
    rcases power with _ | _
    · cases made
    · simp only [step?] at made
      by_cases empty : offered.size = 0
      · rw [if_pos empty] at made
        cases made
      · rw [if_neg empty] at made
        cases made
        rfl
  | reopen answer =>
    rcases power with _ | _
    · cases made
      rfl
    · cases made

/-- **Starts and stops take turns**: the starts are as many as the stops, with one more while the
device runs. -/
theorem unanswered_run {power last : Power} {calls : List Call}
    (made : power.run? calls = some last) :
    power.unanswered + calls.countP Call.isStarted =
      last.unanswered + calls.countP Call.isStop := by
  induction calls generalizing power with
  | nil =>
    cases made
    rfl
  | cons call calls ih =>
    obtain ⟨next, first, others⟩ := Option.bind_eq_some_iff.1 made
    have here := unanswered_step first
    have behind := ih others
    rw [List.countP_cons, List.countP_cons]
    omega

end Power

/-! ### Rings and the calls of their devices -/

namespace Ring

/-- The state that the device of a ring should be in. -/
def power (ring : Ring) : Power := if ring.playing then .running else .stopped

theorem power_of_playing {ring : Ring} (playing : ring.playing = true) :
    ring.power = .running := by
  rw [power, playing]
  rfl

theorem power_of_silent {ring : Ring} (silent : ring.playing = false) :
    ring.power = .stopped := by
  rw [power, silent]
  rfl

theorem power_eq_running_iff (ring : Ring) : ring.power = .running ↔ ring.playing = true := by
  unfold power
  cases ring.playing <;> decide

theorem unanswered_power (ring : Ring) :
    ring.power.unanswered = if ring.playing then 1 else 0 := by
  unfold power
  cases ring.playing <;> rfl

/-- The calls of a device agree with the state and the counters of its ring. -/
structure Ledger (ring : Ring) (calls : List Call) : Prop where
  obeyed : Power.stopped.run? calls = some ring.power
  starts_eq : ring.stats.starts = calls.countP Call.isStarted
  resets_eq : ring.stats.resets = calls.countP Call.isStop

namespace Ledger

variable {ring other last : Ring} {calls : List Call} {moves : List Move}

/-- What neither calls the device nor starts or stops the ring does not matter. -/
theorem silent (ledger : ring.Ledger calls) (playing : other.playing = ring.playing)
    (starts : other.stats.starts = ring.stats.starts)
    (resets : other.stats.resets = ring.stats.resets) : other.Ledger (calls ++ []) := by
  rw [List.append_nil]
  refine ⟨?_, starts.trans ledger.starts_eq, resets.trans ledger.resets_eq⟩
  rw [power, playing]
  exact ledger.obeyed

/-- One more call. -/
theorem concat {call : Call} (ledger : ring.Ledger calls)
    (made : ring.power.step? call = some other.power)
    (starts : other.stats.starts = ring.stats.starts + if call.isStarted then 1 else 0)
    (resets : other.stats.resets = ring.stats.resets + if call.isStop then 1 else 0) :
    other.Ledger (calls ++ [call]) := by
  refine ⟨?_, ?_, ?_⟩
  · rw [Power.run?_concat, ledger.obeyed]
    exact made
  · rw [List.countP_append, List.countP_singleton, ← ledger.starts_eq]
    exact starts
  · rw [List.countP_append, List.countP_singleton, ← ledger.resets_eq]
    exact resets

/-- **Every allowed move makes only calls that the device may get**, and is counted. -/
theorem after {move : Move} (ledger : ring.Ledger calls) (allowed : move.Allowed ring) :
    (ring.after move).Ledger (calls ++ Move.calls [move]) := by
  cases move with
  | ask answer =>
    have made : ring.power.step? (.backlog answer) = some ring.power := by
      cases ring.power <;> rfl
    exact ledger.concat made rfl rfl
  | runDry => exact ledger.silent rfl rfl rfl
  | runOver => exact ledger.silent rfl rfl rfl
  | blameDevice => exact ledger.silent rfl rfl rfl
  | clear =>
    refine ledger.silent allowed.symm rfl ?_
    exact if_neg (by rw [allowed]; decide)
  | stop answer =>
    refine ledger.concat ?_ rfl ?_
    · rw [power_of_playing allowed]
      rfl
    · exact if_pos allowed
  | take frames =>
    refine ledger.silent ?_ ?_ ?_ <;> simp only [Ring.after, accept] <;> split <;> rfl
  | drop frames =>
    refine ledger.silent ?_ ?_ ?_ <;> simp only [Ring.after, accept] <;> split <;> rfl
  | start answer =>
    cases answer with
    | ok _ =>
      refine ledger.concat ?_ rfl rfl
      rw [power_of_silent allowed]
      rfl
    | error error =>
      have made : ring.power.step? (.start (.error error)) = some ring.power := by
        rw [power_of_silent allowed]
        rfl
      exact ledger.concat made rfl rfl
  | write delivery offered answer =>
    obtain ⟨_, playing, _, filled⟩ := allowed
    have made : ring.power.step? (.write offered answer) = some ring.power := by
      rw [power_of_playing playing]
      exact if_neg filled
    cases answer with
    | ok taken => exact ledger.concat made rfl rfl
    | error _ => exact ledger.concat made rfl rfl
  | reopen answer =>
    have made : ring.power.step? (.reopen answer) = some ring.power := by
      rw [power_of_silent allowed]
      rfl
    exact ledger.concat made rfl rfl
  | drain buffer =>
    refine ledger.silent ?_ ?_ ?_ <;> simp only [Ring.after, Ring.drain] <;> split <;> rfl

/-- So do chains of moves. -/
theorem along (made : ring.Makes moves last) (ledger : ring.Ledger calls) :
    last.Ledger (calls ++ Move.calls moves) := by
  induction made generalizing calls with
  | nil =>
    rw [Move.calls_nil, List.append_nil]
    exact ledger
  | @cons ring last move moves allowed _ ih =>
    have next := ih (ledger.after allowed)
    rwa [List.append_assoc, ← Move.calls_append, List.singleton_append] at next

/-- The starts of a ring are its resets, and one more while it plays. -/
theorem starts_eq_resets_add (ledger : ring.Ledger calls) :
    ring.stats.starts = ring.stats.resets + if ring.playing then 1 else 0 := by
  have turns := Power.unanswered_run ledger.obeyed
  rw [unanswered_power, ← ledger.starts_eq, ← ledger.resets_eq] at turns
  simp only [Power.unanswered] at turns
  omega

end Ledger

end Ring

/-! ### Sessions -/

/-- A ring that does not play gives silence. -/
theorem Feed.drain_of_silent {δ : Type} {feed : Feed δ} (silent : feed.ring.playing = false)
    (buffer : ByteArray) : feed.drain buffer = (feed, Ring.silence buffer.size, 0) := by
  have same : feed.ring.drain buffer = (feed.ring, Ring.silence buffer.size, 0) := by
    rw [Ring.drain, silent]
    rfl
  rw [Feed.drain, same]

namespace Session

variable {δ : Type}

/-- A session, and its device, whose calls are those of some moves, after a run of operations. -/
structure ObeysProtocol (session : Session δ) (moves : List Move) : Prop where
  calls_eq : session.feed.journal.calls = Move.calls moves
  obeyed : Power.stopped.run? session.feed.journal.calls = some session.feed.ring.power
  running_iff : session.feed.ring.power = .running ↔ session.feed.ring.playing = true
  starts_eq : session.feed.ring.stats.starts = session.feed.journal.calls.countP Call.isStarted
  resets_eq : session.feed.ring.stats.resets = session.feed.journal.calls.countP Call.isStop
  balanced : session.feed.ring.stats.starts =
    session.feed.ring.stats.resets + if session.feed.ring.playing then 1 else 0
  writes : ∀ delivery offered answer, .write delivery offered answer ∈ moves →
    delivery = .writeThrough ∧ offered.size ≠ 0

/-- The end of a session stops a device that runs, and calls no other. Those who still drain the
ring get silence, and change nothing. -/
structure EndsStopped [Device δ] (session : Session δ) : Prop where
  calls_eq : ∃ answers : List (Except Error Unit),
    session.close.journal.calls = session.feed.journal.calls ++ answers.map .stop ∧
      answers.length = if session.feed.ring.playing then 1 else 0
  stopped : Power.stopped.run? session.close.journal.calls = some .stopped
  drained : ∀ (buffers : List ByteArray) (buffer : ByteArray),
    (buffers.foldl (fun feed buffer => (feed.drain buffer).1) session.close).drain buffer =
      (session.close, Ring.silence buffer.size, 0)

theorem obeysProtocol {session : Session δ} {moves : List Move} {start : Ring}
    (made : start.Makes moves session.feed.ring)
    (ledger : session.feed.ring.Ledger session.feed.journal.calls)
    (calls_eq : session.feed.journal.calls = Move.calls moves) : ObeysProtocol session moves := by
  refine ⟨calls_eq, ledger.obeyed, Ring.power_eq_running_iff _, ledger.starts_eq,
    ledger.resets_eq, ledger.starts_eq_resets_add, ?_⟩
  intro delivery offered answer member
  obtain ⟨first, second, rfl⟩ := List.append_of_mem member
  have front : first ++ [.write delivery offered answer] <+:
      first ++ .write delivery offered answer :: second := ⟨second, by simp⟩
  obtain ⟨_, through, _, _, filled⟩ := made.at_prefix front
  exact ⟨through, filled⟩

variable [Device δ]

theorem endsStopped {session : Session δ}
    (ledger : session.feed.ring.Ledger session.feed.journal.calls) : EndsStopped session := by
  have closing := Feed.follows_reset session.feed
  have silent : session.close.ring.playing = false := by
    rw [close, Feed.ring_reset]
    rfl
  have closed := Ring.Ledger.along closing.makes ledger
  rw [← closing.calls] at closed
  refine ⟨?_, ?_, ?_⟩
  · have added := closing.calls
    unfold Feed.resetMoves at added
    by_cases playing : session.feed.ring.playing = true
    · rw [if_pos playing] at added
      exact ⟨[_], added, (if_pos playing).symm⟩
    · rw [if_neg playing] at added
      exact ⟨[], added, (if_neg playing).symm⟩
  · have obeyed := closed.obeyed
    have off : session.feed.reset.ring.power = .stopped := Ring.power_of_silent silent
    rwa [off] at obeyed
  · intro buffers buffer
    have unchanged : buffers.foldl (fun feed buffer => (feed.drain buffer).1) session.close =
        session.close := by
      induction buffers with
      | nil => rfl
      | cons first buffers ih => rw [List.foldl_cons, Feed.drain_of_silent silent, ih]
    rw [unchanged]
    exact Feed.drain_of_silent silent buffer

/-- **The calls that a device gets from a session obey the protocol**, whatever it answers, along
every run from the opening of the session; and its end leaves the device stopped. -/
theorem calls_obey_protocol {format : Format} {config : Config} {connect : Ring → Except Error δ}
    {opened : Session δ} (opening : openWith format config connect = .ok opened)
    (operations : List (Operation δ)) :
    (opened.run operations).ObeysProtocol (opened.runMoves operations) ∧
      (opened.run operations).EndsStopped := by
  have known := of_openWith_eq_ok opening
  have ran := follows_run opened operations
  have start : opened.feed.ring.Ledger opened.feed.journal.calls := by
    rw [known.ring_eq, known.calls_eq]
    exact ⟨rfl, rfl, rfl⟩
  have ledger := Ring.Ledger.along ran.makes start
  rw [← ran.calls] at ledger
  have calls_eq : (opened.run operations).feed.journal.calls =
      Move.calls (opened.runMoves operations) := by
    rw [ran.calls, known.calls_eq, List.nil_append]
  exact ⟨obeysProtocol ran.makes ledger calls_eq, endsStopped ledger⟩

/-- A device that does not start at first, is lost while it runs, and cannot be stopped. -/
theorem calls_obey_protocol_with_failing_device :
    let format : Format := ⟨.i16, 1, 8000, none⟩
    let device : ScriptedDevice :=
      ⟨"failing", .writeThrough, 2, [.error (.audioOutput ""), .ok ()], [.error .underrun], [],
        [.error (.deviceLost ""), .ok (some 0)], [.error .underrun, .ok ()]⟩
    let config : Config := { lowWatermarkMs := 0, highWatermarkMs := 1 }
    let operations : List (Operation ScriptedDevice) :=
      [.queue ⟨#[1, 2, 3, 4]⟩, .drain ⟨#[0, 0]⟩, .queueSamples Int16 [5], .queuedMs, .reset]
    ∃ opened, create device format config = .ok opened ∧
      (opened.run operations).ObeysProtocol (opened.runMoves operations) ∧
        (opened.run operations).EndsStopped := by
  intro format device config operations
  have opening : openWith format config (fun _ => .ok device) = .ok _ := rfl
  exact ⟨_, opening, calls_obey_protocol opening operations⟩

end Session

end Playout
