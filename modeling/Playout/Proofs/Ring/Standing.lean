/-
**What an offer does, in frames.**

An offer is decided by counts of frames alone: those that are queued, those that the device still
holds, and those that are offered. A `Standing` has these counts, and says what becomes of them. The
ring goes through stages of its own (`Ring.relieved`, `Ring.admitted`, `Ring.readied`): it counts
bytes, cuts its sums off, lets its frame counts wrap, and comes to the same.

* `Ring.Consistent.fits_iff`: a payload fits if its frames do, however many these are;
* `Ring.Consistent.toList_admitted`, `Ring.Consistent.stats_admitted`, ...: the ring once the payload
  is taken in or dropped;
* `Ring.playing_readied_iff`, `Ring.Consistent.contents_readied`, ...: the ring once its device has
  started, if that was due;
* `Ring.Reachable`: the rings for which all of this holds.
-/
import Playout.Proofs.Ring.Renewal
import Playout.Proofs.Session.Watermarks

namespace Playout

/-! ### What frames decide -/

/-- How a ring and its device stand when a payload comes. -/
structure Standing where
  geometry : Geometry
  /-- Frames that are queued in the ring. -/
  queued : Nat
  playing : Bool
  /-- Frames that the device still holds. -/
  backlog : Nat

namespace Standing

variable (standing : Standing) (stopped : Except Error Unit) (offered : Nat)

/-- Frames that wait to be played, in the ring or in the device. -/
def waiting : Nat := min (standing.queued + standing.backlog) wordMax

/-- The ring plays, and has run dry or over. -/
def Flushes : Prop :=
  standing.playing = true ∧
    (standing.waiting = 0 ∨ standing.geometry.highFrames < standing.waiting)

instance : Decidable standing.Flushes := inferInstanceAs (Decidable (_ ∧ _))

/-- Frames that are queued after a flush, if there is one. -/
def kept : Nat := if standing.Flushes then 0 else standing.queued

/-- Frames that count as waiting after a flush, if there is one. -/
def counted : Nat := if standing.Flushes then 0 else standing.waiting

/-- The ring plays, and there is no flush. -/
def GoesOn : Prop := standing.playing = true ∧ ¬ standing.Flushes

instance : Decidable standing.GoesOn := inferInstanceAs (Decidable (_ ∧ _))

/-- There is room for all frames of the payload. -/
def Admits : Prop := standing.kept + offered ≤ standing.geometry.capacityFrames

instance : Decidable (standing.Admits offered) := inferInstanceAs (Decidable (_ ≤ _))

/-- Frames of the payload that are taken in. -/
def taken : Nat := if standing.Admits offered then offered else 0

/-- Frames that are queued once the payload is taken in or dropped. -/
def held : Nat := standing.kept + standing.taken offered

/-- A ring that does not play has reached its low watermark. -/
def Starts : Prop :=
  ¬ standing.GoesOn ∧
    standing.geometry.lowFrames ≤ standing.counted + standing.taken offered

instance : Decidable (standing.Starts offered) := inferInstanceAs (Decidable (_ ∧ _))

/-- The ring plays, or begins to. -/
def Plays : Prop := standing.GoesOn ∨ standing.Starts offered

instance : Decidable (standing.Plays offered) := inferInstanceAs (Decidable (_ ∨ _))

/-- The ring plays, has frames, and hands them to a device that is written to. -/
def Writes (delivery : Delivery) : Prop :=
  delivery = .writeThrough ∧ standing.Plays offered ∧ 0 < standing.held offered

instance (delivery : Delivery) : Decidable (standing.Writes offered delivery) :=
  inferInstanceAs (Decidable (_ ∧ _))

/-- What becomes of the payload. -/
def outcome : Outcome := if standing.Admits offered then .queued else .dropped

/-- What is counted once the payload is taken in or dropped. -/
def statsAfter (stats : Stats) : Stats :=
  { starts := stats.starts
    resets := stats.resets + if standing.Flushes then 1 else 0
    underruns := stats.underruns + if standing.Flushes ∧ standing.waiting = 0 then 1 else 0
    overruns := stats.overruns + if standing.Flushes ∧ standing.waiting ≠ 0 then 1 else 0
    droppedFrames :=
      stats.droppedFrames + if standing.Admits offered then 0 else offered % UInt32.size
    queuedFramesTotal := stats.queuedFramesTotal + standing.taken offered }

/-- The calls up to where the payload is taken in or dropped. -/
def earlyCalls : List Call :=
  .backlog (.ok standing.backlog) :: if standing.Flushes then [.stop stopped] else []

/-- The calls up to where a device that is to start has started. -/
def readyCalls : List Call :=
  standing.earlyCalls stopped ++ if standing.Starts offered then [.start (.ok ())] else []

/-- A check for running dry, and then for running over, is a check for a flush. -/
theorem ite_ite_eq {α : Type} (dry spilt quiet : α) :
    (if standing.playing = true ∧ standing.waiting = 0 then dry
      else if standing.playing = true ∧ standing.geometry.highFrames < standing.waiting then spilt
      else quiet) =
      if standing.Flushes then if standing.waiting = 0 then dry else spilt else quiet := by
  unfold Flushes
  by_cases playing : standing.playing = true <;> by_cases none : standing.waiting = 0 <;>
    simp [playing, none]

end Standing

/-! ### What rings come to -/

namespace Ring

def standing (ring : Ring) (backlog : Nat) : Standing :=
  ⟨ring.geometry, ring.queuedFrames, ring.playing, backlog⟩

/-- The whole frames of a payload, however many. -/
def framesOf (ring : Ring) (frames : ByteArray) : Nat := frames.size / ring.geometry.frameSize

/-- A ring that was checked for having run dry or over. -/
def relieved (ring : Ring) (backlog : Nat) : Ring :=
  if (ring.standing backlog).Flushes then
    (if (ring.standing backlog).waiting = 0 then ring.countUnderrun else ring.countOverrun).reset
  else ring

/-- A ring that was checked, and then took a payload in or dropped it. -/
def admitted (ring : Ring) (backlog : Nat) (frames : ByteArray) : Ring :=
  ((ring.relieved backlog).accept frames).1

/-- A ring whose device has then started, if that was due. -/
def readied (ring : Ring) (backlog : Nat) (frames : ByteArray) : Ring :=
  if (ring.standing backlog).Starts (ring.framesOf frames) then
    (ring.admitted backlog frames).begin
  else ring.admitted backlog frames

/-- The bytes that can be read once a payload is taken in or dropped. -/
def unreadAfter (ring : Ring) (backlog : Nat) (frames : ByteArray) : List UInt8 :=
  (if (ring.standing backlog).Flushes then [] else ring.storage.toList) ++
    if (ring.standing backlog).Admits (ring.framesOf frames) then frames.data.toList else []

variable {ring : Ring} {frames : ByteArray}

/-- Whoever looks at a ring in this way does not see what an offer may change: the storage, what is
queued, whether the ring plays, and what was counted. -/
def Overlooks {α : Type} (observe : Ring → α) : Prop :=
  ∀ (ring : Ring) (storage : ByteRing) (queued : Nat) (playing : Bool) (stats : Stats),
    observe
      { ring with
        storage := storage
        queuedFrames := queued
        playing := playing
        stats := stats } = observe ring

theorem observe_relieved {α : Type} (observe : Ring → α) (overlooks : Overlooks observe)
    (ring : Ring) (backlog : Nat) : observe (ring.relieved backlog) = observe ring := by
  unfold relieved
  split
  · split
    · exact overlooks ring _ _ _ _
    · exact overlooks ring _ _ _ _
  · rfl

theorem geometry_relieved (ring : Ring) (backlog : Nat) :
    (ring.relieved backlog).geometry = ring.geometry :=
  observe_relieved Ring.geometry (fun _ _ _ _ _ => rfl) ring backlog

theorem queuedFrames_relieved (ring : Ring) (backlog : Nat) :
    (ring.relieved backlog).queuedFrames = (ring.standing backlog).kept := by
  unfold relieved Standing.kept
  split <;> rfl

theorem toList_relieved (ring : Ring) (backlog : Nat) :
    (ring.relieved backlog).storage.toList =
      if (ring.standing backlog).Flushes then [] else ring.storage.toList := by
  unfold relieved
  split
  · exact ByteRing.toList_clear _
  · rfl

theorem playing_relieved_iff (ring : Ring) (backlog : Nat) :
    (ring.relieved backlog).playing = true ↔ (ring.standing backlog).GoesOn := by
  unfold relieved Standing.GoesOn
  split
  · next flushes =>
    constructor
    · intro playing
      cases playing
    · intro goesOn
      exact absurd flushes goesOn.2
  · next quiet => exact ⟨fun playing => ⟨playing, quiet⟩, And.left⟩

theorem stats_relieved (ring : Ring) (backlog : Nat) :
    (ring.relieved backlog).stats =
      { ring.stats with
        resets := ring.stats.resets + if (ring.standing backlog).Flushes then 1 else 0
        underruns := ring.stats.underruns +
          if (ring.standing backlog).Flushes ∧ (ring.standing backlog).waiting = 0 then 1 else 0
        overruns := ring.stats.overruns +
          if (ring.standing backlog).Flushes ∧ (ring.standing backlog).waiting ≠ 0 then 1
          else 0 } := by
  unfold relieved
  by_cases flushes : (ring.standing backlog).Flushes
  · have playing : ring.playing = true := flushes.1
    by_cases dry : (ring.standing backlog).waiting = 0 <;>
      simp [flushes, dry, reset, countUnderrun, countOverrun, playing]
  · simp [flushes]

namespace Consistent

theorem relieved (consistent : ring.Consistent) (backlog : Nat) :
    (ring.relieved backlog).Consistent := by
  have dry : ring.countUnderrun.Consistent := consistent.of_eq rfl rfl rfl
  have spilt : ring.countOverrun.Consistent := consistent.of_eq rfl rfl rfl
  unfold Ring.relieved
  split
  · split
    · exact dry.reset
    · exact spilt.reset
  · exact consistent

/-- **A payload fits if its frames do**, however many these are. -/
theorem fits_iff (consistent : ring.Consistent)
    (whole : frames.size % ring.geometry.frameSize = 0) :
    ring.fits frames = true ↔
      ring.queuedFrames + ring.framesOf frames ≤ ring.geometry.capacityFrames := by
  have stored := consistent.queuedFrames_le
  have positive := consistent.frameSize_pos
  have size : frames.size = ring.framesOf frames * ring.geometry.frameSize :=
    (Nat.div_mul_cancel (Nat.dvd_of_mod_eq_zero whole)).symm
  have free : ring.storage.free =
      (ring.geometry.capacityFrames - ring.queuedFrames) * ring.geometry.frameSize := by
    have length : ring.storage.length = ring.queuedFrames * ring.geometry.frameSize :=
      consistent.available_eq
    rw [ByteRing.free, consistent.capacity_eq, length, Nat.sub_mul]
    rfl
  rw [fits, Bool.and_eq_true, decide_eq_true_eq, decide_eq_true_eq, free, size,
    Geometry.capacityBytes, Nat.mul_le_mul_right_iff positive, Nat.mul_le_mul_right_iff positive]
  omega

/-- The frames of a payload that fits are all counted. -/
theorem frameCount_of_fits (consistent : ring.Consistent)
    (whole : frames.size % ring.geometry.frameSize = 0) (fits : ring.fits frames = true) :
    ring.frameCount frames = ring.framesOf frames := by
  rw [framesOf, ← consistent.frameCount_mul whole fits,
    Nat.mul_div_cancel _ consistent.frameSize_pos]

variable (consistent : ring.Consistent) (backlog : Nat)
  (whole : frames.size % ring.geometry.frameSize = 0)

include consistent whole

theorem fits_relieved_iff :
    (ring.relieved backlog).fits frames = true ↔
      (ring.standing backlog).Admits (ring.framesOf frames) := by
  rw [(consistent.relieved backlog).fits_iff (by rw [geometry_relieved]; exact whole),
    queuedFrames_relieved, framesOf, geometry_relieved]
  rfl

theorem gain_relieved :
    (ring.relieved backlog).gain frames = (ring.standing backlog).taken (ring.framesOf frames) := by
  have admits := consistent.fits_relieved_iff backlog whole
  unfold gain Standing.taken
  by_cases fits : (ring.relieved backlog).fits frames = true
  · have small : (ring.standing backlog).Admits (ring.framesOf frames) := admits.1 fits
    have counted := (consistent.relieved backlog).frameCount_of_fits
      (by rw [geometry_relieved]; exact whole) fits
    rw [if_pos fits, if_pos small, counted, framesOf, framesOf, geometry_relieved]
  · rw [if_neg fits, if_neg (mt admits.2 fits)]

theorem queuedFrames_admitted :
    (ring.admitted backlog frames).queuedFrames =
      (ring.standing backlog).held (ring.framesOf frames) := by
  rw [admitted, queuedFrames_accept, consistent.gain_relieved backlog whole, queuedFrames_relieved]
  rfl

theorem toList_admitted :
    (ring.admitted backlog frames).storage.toList = ring.unreadAfter backlog frames := by
  have admits := consistent.fits_relieved_iff backlog whole
  unfold admitted unreadAfter
  by_cases fits : (ring.relieved backlog).fits frames = true
  · rw [toList_accept_of_fits fits, toList_relieved, if_pos (admits.1 fits)]
  · have full : (ring.relieved backlog).fits frames = false := by simpa using fits
    rw [toList_accept_of_not_fits full, toList_relieved, if_neg (mt admits.2 fits), List.append_nil]

theorem admitted : (ring.admitted backlog frames).Consistent :=
  (consistent.relieved backlog).accept (by rw [geometry_relieved]; exact whole)

theorem stats_admitted :
    (ring.admitted backlog frames).stats =
      (ring.standing backlog).statsAfter (ring.framesOf frames) ring.stats := by
  have admits := consistent.fits_relieved_iff backlog whole
  have gained := consistent.gain_relieved backlog whole
  unfold Ring.admitted Ring.accept Standing.statsAfter
  by_cases fits : (ring.relieved backlog).fits frames = true
  · rw [gain, if_pos fits] at gained
    simp [fits, admits.1 fits, gained, stats_relieved]
  · have refused : ¬ (ring.standing backlog).Admits (ring.framesOf frames) := mt admits.2 fits
    have count : (ring.relieved backlog).frameCount frames =
        ring.framesOf frames % UInt32.size := by
      rw [frameCount, geometry_relieved]
      rfl
    simp [fits, refused, Standing.taken, stats_relieved, count]

end Consistent

theorem playing_admitted_iff (ring : Ring) (backlog : Nat) (frames : ByteArray) :
    (ring.admitted backlog frames).playing = true ↔ (ring.standing backlog).GoesOn := by
  rw [← playing_relieved_iff, admitted, observe_accept Ring.playing (fun _ _ _ _ _ => rfl)]

/-- Until a device starts, an offer changes only what it may change. -/
theorem observe_admitted {α : Type} (observe : Ring → α) (overlooks : Overlooks observe)
    (ring : Ring) (backlog : Nat) (frames : ByteArray) :
    observe (ring.admitted backlog frames) = observe ring := by
  have accepting := observe_accept observe
    (fun ring storage queued _ _ => overlooks ring storage queued ring.playing _)
  rw [admitted, accepting, observe_relieved observe overlooks]

/-- So it does once the device has started. -/
theorem observe_offered {α : Type} (observe : Ring → α) (overlooks : Overlooks observe)
    (ring : Ring) (backlog : Nat) (frames : ByteArray) :
    observe (ring.readied backlog frames) = observe ring := by
  have admitted := observe_admitted observe overlooks ring backlog frames
  unfold readied
  split
  · exact (overlooks _ _ _ _ _).trans admitted
  · exact admitted

/-- To begin to play changes nothing that is seen in this way. -/
theorem observe_readied {α : Type} (observe : Ring → α)
    (blind : ∀ ring : Ring, observe ring.begin = observe ring) (ring : Ring) (backlog : Nat)
    (frames : ByteArray) :
    observe (ring.readied backlog frames) = observe (ring.admitted backlog frames) := by
  unfold readied
  split
  · exact blind _
  · rfl

theorem playing_readied_iff (ring : Ring) (backlog : Nat) (frames : ByteArray) :
    (ring.readied backlog frames).playing = true ↔
      (ring.standing backlog).Plays (ring.framesOf frames) := by
  unfold readied Standing.Plays
  split
  · next starts => simp [starts, begin]
  · next idle => simp [idle, playing_admitted_iff]

theorem Consistent.readied (consistent : ring.Consistent) (backlog : Nat)
    (whole : frames.size % ring.geometry.frameSize = 0) :
    (ring.readied backlog frames).Consistent := by
  have admitted := consistent.admitted backlog whole
  unfold Ring.readied
  split
  · exact admitted.of_eq rfl rfl rfl
  · exact admitted

theorem Consistent.queuedFrames_readied (consistent : ring.Consistent) (backlog : Nat)
    (whole : frames.size % ring.geometry.frameSize = 0) :
    (ring.readied backlog frames).queuedFrames =
      (ring.standing backlog).held (ring.framesOf frames) := by
  rw [observe_readied Ring.queuedFrames (fun _ => rfl),
    consistent.queuedFrames_admitted backlog whole]

theorem Consistent.toList_readied (consistent : ring.Consistent) (backlog : Nat)
    (whole : frames.size % ring.geometry.frameSize = 0) :
    (ring.readied backlog frames).storage.toList = ring.unreadAfter backlog frames :=
  (observe_readied (·.storage.toList) (fun _ => rfl) ring backlog frames).trans
    (consistent.toList_admitted backlog whole)

theorem Consistent.contents_readied (consistent : ring.Consistent) (backlog : Nat)
    (whole : frames.size % ring.geometry.frameSize = 0) :
    (ring.readied backlog frames).storage.contents =
      ⟨(ring.unreadAfter backlog frames).toArray⟩ := by
  apply ByteArray.ext
  apply Array.toList_inj.1
  rw [ByteRing.toList_contents, consistent.toList_readied backlog whole]

/-- A ring has bytes to hand out if it has frames. -/
theorem Consistent.size_contents_ne_zero_iff (consistent : ring.Consistent) :
    ring.storage.contents.size ≠ 0 ↔ 0 < ring.queuedFrames := by
  have size : ring.storage.contents.size = ring.queuedFrames * ring.geometry.frameSize := by
    rw [← consistent.available_eq, ByteRing.available, ← ByteRing.length_toList,
      ← ByteRing.toList_contents]
    rfl
  have positive := consistent.frameSize_pos
  rw [size, Nat.mul_ne_zero_iff]
  omega

/-! ### Rings that can be reached -/

/-- A ring that some operations lead to from a new one, on the ring itself or through a session,
with some device. -/
def Reachable (ring : Ring) : Prop :=
  ∃ (format : Format) (lowMs highMs : Nat) (new : Ring),
    create format lowMs highMs = .ok new ∧
      ∃ (δ : Type) (_ : Device δ) (past : Feed δ), past.ReachedFrom new ∧ past.ring = ring

theorem Reachable.consistent (reachable : ring.Reachable) : ring.Consistent := by
  obtain ⟨format, lowMs, highMs, new, created, δ, _, past, reached, rfl⟩ := reachable
  obtain ⟨moves, made⟩ := reached.makes
  exact made.consistent (consistent_create created)

theorem Reachable.lowFrames_le (reachable : ring.Reachable) :
    ring.geometry.lowFrames ≤ wordMax := by
  obtain ⟨format, lowMs, highMs, new, created, δ, _, past, reached, rfl⟩ := reachable
  obtain ⟨moves, made⟩ := reached.makes
  rw [made.geometry_eq, (of_create_eq_ok created).1]
  exact saturate_le _

/-- A run on a new ring leads to a ring that can be reached. -/
theorem reachable_run {δ : Type} [Device δ] {format : Format} {lowMs highMs : Nat} {new : Ring}
    (created : create format lowMs highMs = .ok new) (device : δ) (history : List (Operation δ)) :
    ((Feed.mk new device #[]).run history).ring.Reachable :=
  ⟨format, lowMs, highMs, new, created, δ, inferInstance, _, ⟨device, #[], history, .inl rfl⟩, rfl⟩

end Ring

end Playout
