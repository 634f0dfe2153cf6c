/-
**A ring neither loses nor doubles nor reorders what it holds.**

Cut a chain of moves where the ring was last emptied. Of the stretch behind the cut, the payloads
taken in, one after the other, are what was handed out in it, followed by what is still unread.

* `Ring.Consistent.conserves`: a move that does not empty the ring keeps this balance;
* `Ring.Makes.conserves`: and so does every stretch of them;
* `Feed.payloads_enqueueMoves`, `Session.payloads_offerMoves`: which payloads an offer takes in, and
  how its outcome tells this;
* `Feed.order_kept_along_runs`: the balance along every run, on the ring or through a session.
-/
import Mathlib.Data.List.DropRight
import Playout.Proofs.Ring.Counts

namespace Playout

namespace Move

/-! ### What enters a ring, and where it is emptied -/

/-- Whether the ring is empty after a move because of the move itself. -/
def empties : Move → Bool
  | .clear | .stop _ => true
  | _ => false

/-- The payload that a move takes in. -/
def payload? : Move → Option ByteArray
  | .take frames => some frames
  | _ => none

/-- The payloads that moves take in. -/
def payloads (moves : List Move) : List ByteArray := moves.filterMap payload?

/-- The bytes that moves take in. -/
def entering (moves : List Move) : List UInt8 := (payloads moves).flatMap (·.data.toList)

/-- The moves up to the last one that empties the ring. -/
def untilEmptied (moves : List Move) : List Move := moves.rdropWhile fun move => !move.empties

/-- The moves behind the last one that empties the ring. -/
def sinceEmptied (moves : List Move) : List Move := moves.rtakeWhile fun move => !move.empties

@[simp] theorem payloads_append (first second : List Move) :
    payloads (first ++ second) = payloads first ++ payloads second :=
  List.filterMap_append

theorem payloads_eq_nil {moves : List Move} (all : ∀ move ∈ moves, move.payload? = none) :
    payloads moves = [] :=
  List.filterMap_eq_nil_iff.2 all

theorem Relieves.payload?_eq {move : Move} (relieves : move.Relieves) : move.payload? = none := by
  cases move <;> first | rfl | cases relieves

theorem Plays.payload?_eq {move : Move} (plays : move.Plays) : move.payload? = none := by
  cases move <;> first | rfl | cases plays

theorem Plays.empties_eq {move : Move} (plays : move.Plays) : move.empties = false := by
  cases move <;> first | rfl | cases plays

theorem entering_append (first second : List Move) :
    entering (first ++ second) = entering first ++ entering second := by
  rw [entering, payloads_append, List.flatMap_append]
  rfl

theorem entering_take (frames : ByteArray) : entering [.take frames] = frames.data.toList :=
  List.append_nil _

theorem untilEmptied_append_sinceEmptied (moves : List Move) :
    untilEmptied moves ++ sinceEmptied moves = moves :=
  List.rdropWhile_append_rtakeWhile

theorem not_empties_of_mem_sinceEmptied {move : Move} {moves : List Move}
    (member : move ∈ sinceEmptied moves) : move.empties = false := by
  have stays := List.mem_rtakeWhile_imp member
  simpa using stays

/-- Moves that do not empty the ring lie behind the cut. -/
theorem sinceEmptied_append_of_stay {first second : List Move}
    (stay : ∀ move ∈ second, move.empties = false) :
    sinceEmptied (first ++ second) = sinceEmptied first ++ second := by
  have reversed : ∀ move ∈ second.reverse, (!move.empties) = true := by
    intro move member
    rw [stay move (List.mem_reverse.1 member)]
    rfl
  unfold sinceEmptied List.rtakeWhile
  rw [List.reverse_append, List.takeWhile_append_of_pos reversed, List.reverse_append,
    List.reverse_reverse]

/-- What comes before a move that empties the ring lies before the cut. -/
theorem sinceEmptied_append_cons {first second : List Move} {move : Move}
    (emptied : move.empties = true) :
    sinceEmptied (first ++ move :: second) = sinceEmptied second := by
  induction second using List.reverseRecOn with
  | nil => exact List.rtakeWhile_concat_neg _ _ _ (by rw [emptied]; decide)
  | append_singleton second next ih =>
    have grouped : first ++ move :: (second ++ [next]) = (first ++ move :: second) ++ [next] := by
      rw [List.append_assoc, List.cons_append]
    unfold sinceEmptied at ih ⊢
    rw [grouped, List.rtakeWhile_concat, List.rtakeWhile_concat, ih]

theorem payloads_sinceEmptied_of_silent {moves : List Move} (silent : payloads moves = []) :
    payloads (sinceEmptied moves) = [] := by
  have parts := congrArg payloads (untilEmptied_append_sinceEmptied moves)
  rw [payloads_append, silent, List.append_eq_nil_iff] at parts
  exact parts.2

/-- The cut is at the start, or behind a move that empties the ring. -/
theorem untilEmptied_cases (moves : List Move) :
    untilEmptied moves = [] ∨
      ∃ earlier move, untilEmptied moves = earlier ++ [move] ∧ move.empties = true := by
  by_cases whole : untilEmptied moves = []
  · exact .inl whole
  · refine .inr ⟨_, _, (List.dropLast_concat_getLast whole).symm, ?_⟩
    have stops := List.rdropWhile_last_not _ _ whole
    simpa [untilEmptied] using stops

end Move

namespace Ring

variable {ring last : Ring} {moves : List Move}

/-! ### What leaves a ring -/

/-- The bytes that a move hands out: what a device took of the bytes offered to it, and what a
consumer finds at the front of its buffer. -/
def leaving (ring : Ring) : Move → List UInt8
  | .write _ offered (.ok taken) =>
    (offered.extract 0 (min taken ring.queuedFrames * ring.geometry.frameSize)).data.toList
  | .drain buffer => ((ring.drain buffer).2.1.extract 0 (ring.drain buffer).2.2).data.toList
  | _ => []

/-- The bytes that moves hand out, one move after the other. -/
def leavingAll : Ring → List Move → List UInt8
  | _, [] => []
  | ring, move :: moves => ring.leaving move ++ (ring.after move).leavingAll moves

/-- A consumer finds the oldest bytes in its buffer, and silence after them. -/
theorem toList_filled (ring : Ring) (buffer : ByteArray) :
    (ring.drain buffer).2.1.data.toList =
      ring.storage.toList.take (ring.drain buffer).2.2 ++
        List.replicate (buffer.size - (ring.drain buffer).2.2) 0 := by
  by_cases playing : ring.playing = true
  · obtain ⟨count, filled, read, drained⟩ := drain_of_playing playing buffer
    have front := ring.storage.toList_extract_read
      (buffer.extract 0 (buffer.size - buffer.size % ring.geometry.frameSize))
    rw [read] at front
    rw [drained]
    simp only [ByteArray.data_append, Array.toList_append, front, silence, Array.toList_replicate]
  · unfold drain
    rw [if_neg playing]
    simp [silence]

theorem count_drain_le (ring : Ring) (buffer : ByteArray) :
    (ring.drain buffer).2.2 ≤ ring.storage.toList.length := by
  by_cases playing : ring.playing = true
  · obtain ⟨count, filled, read, drained⟩ := drain_of_playing playing buffer
    have counted := ring.storage.count_read
      (buffer.extract 0 (buffer.size - buffer.size % ring.geometry.frameSize))
    rw [read] at counted
    rw [drained, ByteRing.length_toList]
    exact Nat.le_trans (Nat.le_of_eq counted) (Nat.min_le_right ..)
  · unfold drain
    rw [if_neg playing]
    exact Nat.zero_le _

/-- The front of the buffer is what was drained. -/
theorem toList_drained (ring : Ring) (buffer : ByteArray) :
    ((ring.drain buffer).2.1.extract 0 (ring.drain buffer).2.2).data.toList =
      ring.storage.toList.take (ring.drain buffer).2.2 := by
  have size := List.length_take_of_le (ring.count_drain_le buffer)
  rw [toList_extract_zero, toList_filled, List.take_left' size]

/-! ### The balance of a move -/

/-- What is consumed is the front of what is unread. -/
theorem take_append_toList_consume (ring : Ring) (frames : Nat) :
    ring.storage.toList.take (frames * ring.geometry.frameSize) ++
      (ring.consume frames).storage.toList = ring.storage.toList := by
  have rest : (ring.consume frames).storage.toList =
      ring.storage.toList.drop (frames * ring.geometry.frameSize) := ring.storage.toList_skip _
  rw [rest, List.take_append_drop]

/-- A payload that fits is put behind what is unread. -/
theorem toList_accept_of_fits {frames : ByteArray} (fits : ring.fits frames = true) :
    (ring.accept frames).1.storage.toList = ring.storage.toList ++ frames.data.toList := by
  have room : frames.data.toList.length ≤ ring.storage.free := by
    simp only [Ring.fits, Bool.and_eq_true, decide_eq_true_eq] at fits
    exact fits.2
  rw [accept, if_pos fits]
  exact (ring.storage.toList_write frames).trans (by rw [List.take_of_length_le room])

theorem toList_accept_of_not_fits {frames : ByteArray} (full : ring.fits frames = false) :
    (ring.accept frames).1.storage.toList = ring.storage.toList := by
  rw [accept, full]
  rfl

/-- A move that empties a ring leaves nothing to read. -/
theorem toList_after_of_empties {move : Move} (emptied : move.empties = true) :
    (ring.after move).storage.toList = [] := by
  cases move with
  | clear => exact ring.storage.toList_clear
  | stop _ => exact ring.storage.toList_clear
  | _ => cases emptied

/-- **A move that does not empty the ring keeps the balance**: what was unread and what enters is
what leaves and what is unread then. -/
theorem Consistent.conserves {move : Move} (consistent : ring.Consistent)
    (allowed : move.Allowed ring) (stays : move.empties = false) :
    ring.storage.toList ++ Move.entering [move] =
      ring.leaving move ++ (ring.after move).storage.toList := by
  cases move with
  | clear => cases stays
  | stop _ => cases stays
  | take frames =>
    rw [Move.entering_take]
    exact (toList_accept_of_fits allowed.2).symm
  | drop frames => exact (List.append_nil _).trans (toList_accept_of_not_fits allowed.2).symm
  | start answer => cases answer <;> exact List.append_nil _
  | write _ offered answer =>
    obtain ⟨_, _, rfl, _⟩ := allowed
    cases answer with
    | error _ => exact List.append_nil _
    | ok taken =>
      refine (List.append_nil _).trans ?_
      rw [leaving, toList_extract_zero, ByteRing.toList_contents]
      exact (take_append_toList_consume ring _).symm
  | drain buffer =>
    have rest : (ring.after (.drain buffer)).storage.toList =
        (ring.consume (ring.drainable buffer)).storage.toList :=
      congrArg (·.storage.toList) (consistent.drain_eq_consume buffer)
    refine (List.append_nil _).trans ?_
    rw [leaving, toList_drained, consistent.count_drain, rest]
    exact (take_append_toList_consume ring _).symm
  | _ => exact List.append_nil _

/-- **A stretch in which the ring is not emptied keeps the balance.** -/
theorem Makes.conserves (made : Makes ring moves last) (start : ring.Consistent)
    (stay : ∀ move ∈ moves, move.empties = false) :
    ring.storage.toList ++ Move.entering moves =
      ring.leavingAll moves ++ last.storage.toList := by
  induction made with
  | nil ring => exact List.append_nil _
  | @cons ring last move moves allowed rest ih =>
    have first := start.conserves allowed (stay move List.mem_cons_self)
    have others := ih (start.after allowed) fun next member => stay next (.tail _ member)
    have split : Move.entering (move :: moves) = Move.entering [move] ++ Move.entering moves :=
      Move.entering_append [move] moves
    rw [leavingAll, split, ← List.append_assoc, first, List.append_assoc, others,
      List.append_assoc]

/-- Behind the cut, a chain from an empty ring starts with nothing unread. -/
theorem toList_untilEmptied (empty : ring.storage.toList = []) :
    ((Move.untilEmptied moves).foldl Ring.after ring).storage.toList = [] := by
  rcases Move.untilEmptied_cases moves with start | ⟨earlier, move, cut, emptied⟩
  · rw [start]
    exact empty
  · rw [cut, List.foldl_append]
    exact toList_after_of_empties emptied

end Ring

/-! ### Which payloads an offer takes in -/

namespace Feed

variable {δ : Type} [Device δ]

theorem Fate.payloads_eq {feed : Feed δ} {frames : ByteArray} {moves : List Move}
    (fate : Fate feed frames moves) :
    Move.payloads moves = if feed.admits frames then [frames] else [] := by
  cases fate with
  | taken admitted => rw [if_pos admitted]; rfl
  | dropped refused => rw [refused]; rfl
  | undecided refused => rw [refused]; rfl

theorem Fate.stay {feed : Feed δ} {frames : ByteArray} {moves : List Move}
    (fate : Fate feed frames moves) : ∀ move ∈ moves, move.empties = false := by
  cases fate <;> simp [Move.empties]

/-- An offer takes nothing in before it may empty the ring, and does not empty it afterwards. -/
theorem enqueueMoves_split (feed : Feed δ) (frames : ByteArray) :
    ∃ early late, feed.enqueueMoves frames = early ++ late ∧ Move.payloads early = [] ∧
      Move.payloads late = (if feed.admits frames then [frames] else []) ∧
      ∀ move ∈ late, move.empties = false := by
  obtain ⟨answer, early, fate, late, shape, relieves, decided, plays⟩ :=
    (offered_enqueue feed frames).shape
  refine ⟨.ask answer :: early, fate ++ late, ?_, ?_, ?_, ?_⟩
  · rw [shape, List.append_assoc, List.cons_append]
  · have none := Move.payloads_eq_nil fun move member => (relieves move member).payload?_eq
    exact (Move.payloads_append [.ask answer] early).trans (by rw [none]; rfl)
  · have none := Move.payloads_eq_nil fun move member => (plays move member).payload?_eq
    rw [Move.payloads_append, none, List.append_nil, decided.payloads_eq]
  · exact List.forall_mem_append.2
      ⟨decided.stay, fun move member => (plays move member).empties_eq⟩

/-- An offer takes in what it admits. -/
theorem payloads_enqueueMoves (feed : Feed δ) (frames : ByteArray) :
    Move.payloads (feed.enqueueMoves frames) = if feed.admits frames then [frames] else [] := by
  obtain ⟨early, late, split, nothing, all, _⟩ := feed.enqueueMoves_split frames
  rw [split, Move.payloads_append, nothing, all, List.nil_append]

/-- A reset is one move, and it empties the ring. -/
theorem resetMoves_eq (feed : Feed δ) :
    ∃ move, feed.resetMoves = [move] ∧ move.empties = true := by
  unfold resetMoves
  split
  · exact ⟨_, rfl, rfl⟩
  · exact ⟨_, rfl, rfl⟩

/-- An offer does not empty the ring of what it takes in. -/
theorem payloads_sinceEmptied_enqueueMoves (feed : Feed δ) (frames : ByteArray)
    {before : List Move} (silent : Move.payloads before = []) :
    Move.payloads (Move.sinceEmptied (before ++ feed.enqueueMoves frames)) =
      if feed.admits frames then [frames] else [] := by
  obtain ⟨early, late, split, nothing, all, stay⟩ := feed.enqueueMoves_split frames
  have cut : Move.payloads (before ++ early) = [] := by
    rw [Move.payloads_append, silent, nothing, List.nil_append]
  rw [split, ← List.append_assoc, Move.sinceEmptied_append_of_stay stay, Move.payloads_append,
    Move.payloads_sinceEmptied_of_silent cut, List.nil_append, all]

end Feed

namespace Session

variable {δ : Type} [Device δ]

theorem payloads_reopenMoves (device : δ) (left : Nat) :
    Move.payloads (reopenMoves device left) = [] := by
  apply Move.payloads_eq_nil
  intro move member
  obtain ⟨answer, _, rfl⟩ := List.mem_map.1 member
  rfl

theorem payloads_sinceEmptied_retryMoves (feed : Feed δ) (frames : ByteArray)
    {before : List Move} (silent : Move.payloads before = []) :
    Move.payloads (Move.sinceEmptied (before ++ retryMoves feed frames)) =
      if (retry feed frames).1 = .queued then [frames] else [] := by
  have offered := feed.payloads_sinceEmptied_enqueueMoves frames silent
  have told := @Feed.outcome_enqueue _ _ feed frames
  unfold retryMoves retry
  rcases result : feed.enqueue frames with ⟨error | outcome, after⟩
  · obtain ⟨move, reset, emptied⟩ := after.resetMoves_eq
    dsimp only
    rw [reset, ← List.append_assoc, Move.sinceEmptied_append_cons emptied]
    rfl
  · rw [result] at told
    dsimp only
    rw [List.append_nil, offered, told rfl]
    cases feed.admits frames <;> rfl

theorem payloads_sinceEmptied_recoverMoves (policy : RecoveryPolicy) (feed : Feed δ)
    (frames : ByteArray) (error : Error) :
    Move.payloads (Move.sinceEmptied (recoverMoves policy feed frames error)) =
      if (recover policy feed frames error).1 = .queued then [frames] else [] := by
  unfold recoverMoves recover
  split
  · rfl
  split
  · have reopening := payloads_reopenMoves feed.device policy.maxTries.toNat
    rcases reopen (feed.note (.reopening error feed.deviceName)) 1
      (.deviceLost "no reopen attempts made") policy.maxTries.toNat with ⟨last | _, opened⟩
    · dsimp only
      rw [List.append_nil, Move.payloads_sinceEmptied_of_silent reopening]
      rfl
    · exact payloads_sinceEmptied_retryMoves opened frames reopening
  · rfl

/-- **What a session says that it queued is in the ring, and nothing else of its offer is.** -/
theorem payloads_offerMoves (session : Session δ) (frames : ByteArray) :
    Move.payloads (Move.sinceEmptied (session.offerMoves frames)) =
      if (session.offer frames).1 = .queued then [frames] else [] := by
  have offered := session.feed.payloads_sinceEmptied_enqueueMoves frames (@rfl _ (Move.payloads []))
  have told := @Feed.outcome_enqueue _ _ session.feed frames
  unfold offerMoves offer
  rcases result : session.feed.enqueue frames with ⟨error | outcome, after⟩
  · obtain ⟨move, reset, emptied⟩ := after.resetMoves_eq
    dsimp only
    rw [reset, List.singleton_append, Move.sinceEmptied_append_cons emptied]
    exact payloads_sinceEmptied_recoverMoves ..
  · rw [result] at told
    dsimp only
    rw [List.nil_append] at offered
    rw [List.append_nil, offered, told rfl]
    cases session.feed.admits frames <;> rfl

end Session

/-! ### Runs -/

namespace Feed

variable {δ : Type}

/-- Moves lead from one feed to another, and the calls of the device are theirs. All the way, what
was taken in since the ring was last emptied is what was handed out since, followed by what is
unread; and a device is offered exactly what is unread. -/
structure KeepsOrder (feed : Feed δ) (moves : List Move) (after : Feed δ) : Prop where
  reaches : moves.foldl Ring.after feed.ring = after.ring
  calls : after.journal.calls = feed.journal.calls ++ Move.calls moves
  balanced : ∀ before, before <+: moves →
    Move.entering (Move.sinceEmptied before) =
      ((Move.untilEmptied before).foldl Ring.after feed.ring).leavingAll
          (Move.sinceEmptied before) ++
        (before.foldl Ring.after feed.ring).storage.toList
  offers : ∀ before delivery offered answer,
    before ++ [.write delivery offered answer] <+: moves →
      offered.data.toList = (before.foldl Ring.after feed.ring).storage.toList

variable {feed after : Feed δ} {moves : List Move}

theorem Follows.keepsOrder (followed : Follows feed moves after) (start : feed.ring.Consistent)
    (empty : feed.ring.storage.toList = []) : KeepsOrder feed moves after := by
  refine ⟨followed.makes.foldl_after, followed.calls, ?_, ?_⟩
  · intro before front
    have way := followed.makes.of_prefix front
    rw [← Move.untilEmptied_append_sinceEmptied before] at way
    obtain ⟨early, late⟩ := Ring.makes_append_iff.1 way
    have balance := late.conserves (early.consistent start)
      fun move member => Move.not_empties_of_mem_sinceEmptied member
    rw [Ring.toList_untilEmptied empty, List.nil_append,
      Move.untilEmptied_append_sinceEmptied] at balance
    exact balance
  · intro before delivery offered answer front
    obtain ⟨_, _, _, whole, _⟩ := followed.makes.at_prefix front
    rw [whole, ByteRing.toList_contents]

/-- **Nothing is lost, doubled or reordered along any run** from a new ring, whatever its device
answers: on the ring itself, and through a session with any policy. What counts as taken in is told
by the outcomes: on the ring by what does not fail, and in a session always. -/
theorem order_kept_along_runs [Device δ] {format : Format} {lowMs highMs : Nat}
    (created : Ring.create format lowMs highMs = .ok feed.ring)
    (operations : List (Operation δ)) :
    feed.KeepsOrder (feed.runMoves operations) (feed.run operations) ∧
      (∀ policy : RecoveryPolicy,
        feed.KeepsOrder ((Session.mk feed policy).runMoves operations)
          ((Session.mk feed policy).run operations).feed) ∧
      (∀ (now : Feed δ) (frames : ByteArray),
        (Move.payloads (now.enqueueMoves frames) = if now.admits frames then [frames] else []) ∧
          ∀ outcome, (now.enqueue frames).1 = .ok outcome →
            outcome = if now.admits frames then .queued else .dropped) ∧
      ∀ (now : Session δ) (frames : ByteArray),
        Move.payloads (Move.sinceEmptied (now.offerMoves frames)) =
          if (now.offer frames).1 = .queued then [frames] else [] := by
  have consistent := Ring.consistent_create created
  have empty : feed.ring.storage.toList = [] := by
    rw [(Ring.of_create_eq_ok created).1]
    exact ByteRing.toList_empty _
  refine ⟨(follows_run feed operations).keepsOrder consistent empty, ?_, ?_, ?_⟩
  · intro policy
    exact (Session.follows_run (Session.mk feed policy) operations).keepsOrder consistent empty
  · intro now frames
    exact ⟨now.payloads_enqueueMoves frames, fun _ done => outcome_enqueue done⟩
  · intro now frames
    exact now.payloads_offerMoves frames

/-- A device takes a part, fails, then takes nothing, and a consumer drains what it left. -/
theorem order_kept_with_sparing_device :
    let format : Format := ⟨.i16, 1, 3, none⟩
    let device : ScriptedDevice :=
      ⟨"sparing", .writeThrough, 2, [], [], [],
        [.ok (some 2), .error .underrun, .ok (some 0), .ok (some 1)], []⟩
    let feed : Feed ScriptedDevice := ⟨Ring.ofFormat format 0 2000, device, #[]⟩
    let operations : List (Operation ScriptedDevice) :=
      [.queue ⟨#[1, 2, 3, 4, 5, 6]⟩, .queue ⟨#[7, 8]⟩, .queueSamples Int16 [9],
        .drain ⟨#[0, 0, 0, 0, 0, 0, 0]⟩, .reset, .queue ⟨#[10, 11]⟩]
    feed.KeepsOrder (feed.runMoves operations) (feed.run operations) ∧
      (∀ policy : RecoveryPolicy,
        feed.KeepsOrder ((Session.mk feed policy).runMoves operations)
          ((Session.mk feed policy).run operations).feed) ∧
      (∀ (now : Feed ScriptedDevice) (frames : ByteArray),
        (Move.payloads (now.enqueueMoves frames) = if now.admits frames then [frames] else []) ∧
          ∀ outcome, (now.enqueue frames).1 = .ok outcome →
            outcome = if now.admits frames then .queued else .dropped) ∧
      ∀ (now : Session ScriptedDevice) (frames : ByteArray),
        Move.payloads (Move.sinceEmptied (now.offerMoves frames)) =
          if (now.offer frames).1 = .queued then [frames] else [] := by
  intro format device feed operations
  have created : Ring.create format 0 2000 = .ok feed.ring := rfl
  exact order_kept_along_runs created operations

end Feed

end Playout
