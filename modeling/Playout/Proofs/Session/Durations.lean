/-
**The millisecond scale of a session keeps the order of what is queued.**

A frame count goes through two quotients that are rounded to 53 bits and a last rounding to a whole
number. Each of these steps keeps the order, whatever it loses, so that more frames never read as
fewer milliseconds. No frames are none, and the frames of a full ring are one second: there the two
errors are less than the half millisecond that the last rounding forgives.

What a session reads off the scale is all that is on its way to be heard, that is, its queued frames
and the backlog of its device. So two sessions of one format can be compared by their milliseconds,
whatever their watermarks and their devices are.

* `computedMs_mono`: the rounded quotients keep the order;
* `Geometry.Calibrated`: what is known of the scale of a ring;
* `Session.queuedMs_eq`: a session tells the duration of the frames it holds;
* `Session.milliseconds_keep_order`: **the scale of every format, and what sessions tell by it**.
-/
import Playout.Device.Scripted
import Playout.Proofs.Milliseconds

namespace Playout

/-! ### Rounded quotients -/

theorem computedMs_zero (rate : Nat) : computedMs rate 0 = 0 := by
  simp [computedMs]

section Rates

variable {rate : Nat} (positive : 0 < rate) (within : rate ≤ wordMax)

include positive within

/-- **Both roundings keep the order.** The rate is the same rounded number for all frame counts, and
of the quotients by it a larger one is not rounded to a smaller number. -/
theorem computedMs_mono : Monotone (computedMs rate) := by
  intro fewer more ordered
  rcases Nat.eq_zero_or_pos fewer with rfl | some
  · rw [computedMs_zero]
    exact Scaled.value_nonneg _
  · have ordered_cast : (fewer : Rat) ≤ more := by exact_mod_cast ordered
    have quotients := div_le_div_of_nonneg_right ordered_cast (exactFramesPerMs_pos positive).le
    exact (normal_duration positive within some).nearest_mono (by decide) quotients

/-- The frames of one second are less than half a millisecond away from a thousand of them. -/
theorem roundHalfUp_computedMs_rate : roundHalfUp (computedMs rate rate) = 1000 := by
  have reached : ((1999 : Int) : Rat) / 2 < computedMs rate rate :=
    lt_computedMs positive within within (by omega)
  have missed : computedMs rate rate < ((2001 : Int) : Rat) / 2 :=
    computedMs_lt positive within within (by omega)
  rw [roundHalfUp_eq_iff]
  norm_num at reached missed ⊢
  exact ⟨reached.le, missed⟩

end Rates

/-! ### The scale of a ring -/

namespace Geometry

theorem framesToMs_eq_saturate (geometry : Geometry) (frames : Nat) :
    geometry.framesToMs frames =
      saturate (roundHalfUp (computedMs geometry.sampleRate frames)).toNat :=
  rfl

/-- A scale of milliseconds that begins at nothing, shows a full ring as one second, and keeps the
order. -/
structure Calibrated (geometry : Geometry) : Prop where
  framesToMs_zero : geometry.framesToMs 0 = 0
  framesToMs_capacityFrames : geometry.framesToMs geometry.capacityFrames = 1000
  framesToMs_mono : Monotone geometry.framesToMs

/-- The scale of a geometry that holds one second is calibrated, at every rate. -/
theorem calibrated_of_capacityFrames_eq {geometry : Geometry} (positive : 0 < geometry.sampleRate)
    (within : geometry.sampleRate ≤ wordMax)
    (oneSecond : geometry.capacityFrames = geometry.sampleRate) : geometry.Calibrated where
  framesToMs_zero := by
    have nothing : roundHalfUp 0 = 0 := roundHalfUp_eq_iff.2 (by norm_num)
    rw [framesToMs_eq_saturate, computedMs_zero, nothing]
    rfl
  framesToMs_capacityFrames := by
    rw [oneSecond, framesToMs_eq_saturate, roundHalfUp_computedMs_rate positive within]
    rfl
  framesToMs_mono := by
    intro fewer more ordered
    have computed := computedMs_mono positive within ordered
    exact saturate_mono (Int.toNat_le_toNat (roundHalfUp_mono computed))

theorem calibrated_ofFormat {format : Format} (valid : format.validate = .ok ())
    (lowMs highMs : Nat) : (ofFormat format lowMs highMs).Calibrated := by
  have consistent := Ring.consistent_ofFormat valid lowMs highMs
  exact calibrated_of_capacityFrames_eq consistent.capacityFrames_pos consistent.capacityFrames_le
    rfl

end Geometry

/-! ### What sessions tell -/

namespace Session

variable {δ ε : Type} [Device δ] [Device ε]

/-- The frames that a session has queued, and those that its device still holds. A device that does
not tell its backlog is taken to hold nothing. -/
def heldFrames (session : Session δ) : Nat :=
  session.feed.ring.queuedFrames + session.feed.askBacklog.1.toOption.getD 0

/-- A state that a session of a format comes to, on whatever device and with whatever watermarks it
was opened. -/
def ReachedIn (format : Format) (session : Session δ) : Prop :=
  ∃ (config : Config) (connect : Ring → Except Error δ) (opened : Session δ)
    (operations : List (Operation δ)),
    openWith format config connect = .ok opened ∧ session = opened.run operations

/-- **A session tells the duration of the frames it holds**, cut off at the largest 32-bit word
before they are converted. -/
theorem queuedMs_eq (session : Session δ) :
    session.queuedMs.1 = session.feed.ring.geometry.framesToMs (saturate session.heldFrames) := by
  have kept : session.feed.askBacklog.2.ring = session.feed.ring := rfl
  unfold queuedMs heldFrames
  rcases answer : session.feed.askBacklog with ⟨error | backlog, asked⟩
  · rw [answer] at kept
    show asked.ring.geometry.framesToMs (saturate (asked.ring.queuedFrames + 0)) = _
    rw [kept]
    rfl
  · rw [answer] at kept
    show asked.ring.geometry.framesToMs (saturate (asked.ring.queuedFrames + backlog)) = _
    rw [kept]
    rfl

theorem ReachedIn.geometry_eq {format : Format} {session : Session δ}
    (reached : session.ReachedIn format) :
    ∃ lowMs highMs, session.feed.ring.geometry = Geometry.ofFormat format lowMs highMs := by
  obtain ⟨config, connect, opened, operations, opening, rfl⟩ := reached
  exact ⟨_, _, ((of_openWith_eq_ok opening).ring_run operations).2⟩

/-- **The millisecond scale of every format is calibrated and keeps the order.** Whatever its
watermarks, a ring of the format shows no frames as none, the frames that fill it as a thousand
milliseconds, and more frames never as fewer. So of two sessions of the format, the one that holds
more never tells less, whatever was done to either and whatever their devices answered. -/
theorem milliseconds_keep_order {format : Format} (hasChannels : format.channels ≠ 0)
    (rated : format.sampleRate ≠ 0) :
    (∀ lowMs highMs : UInt32, ∃ new,
        Ring.create format lowMs.toNat highMs.toNat = .ok new ∧ new.geometry.Calibrated) ∧
      ∀ {δ ε : Type} [Device δ] [Device ε] {first : Session δ} {second : Session ε},
        first.ReachedIn format → second.ReachedIn format →
          first.heldFrames ≤ second.heldFrames → first.queuedMs.1 ≤ second.queuedMs.1 := by
  have valid := (Format.validate_eq_ok_iff format).2 ⟨hasChannels, rated⟩
  constructor
  · intro lowMs highMs
    exact ⟨_, Ring.create_eq_ok valid _ _, Geometry.calibrated_ofFormat valid _ _⟩
  · intro δ ε _ _ first second here there ordered
    obtain ⟨lowMs, highMs, first_eq⟩ := here.geometry_eq
    obtain ⟨lowMs', highMs', second_eq⟩ := there.geometry_eq
    -- the watermarks may differ, but the scale does not look at them
    have alike : (Geometry.ofFormat format lowMs highMs).framesToMs =
        (Geometry.ofFormat format lowMs' highMs').framesToMs := rfl
    rw [queuedMs_eq, queuedMs_eq, first_eq, second_eq, alike]
    exact (Geometry.calibrated_ofFormat valid lowMs' highMs').framesToMs_mono
      (saturate_mono ordered)

/-- At 272 frames per second, a session whose device does not tell its backlog, and one that has
nothing queued itself but a backlog, whose duration is a tie that slips. -/
theorem milliseconds_keep_order_with_secretive_device :
    let format : Format := ⟨.i16, 1, 272, none⟩
    let secretive : ScriptedDevice :=
      ⟨"secretive", .callback, 2, [], [], [.ok none, .error (.deviceLost "")], [], []⟩
    let slow : ScriptedDevice := ⟨"slow", .callback, 2, [], [], [.ok (some 17)], [], []⟩
    let config : Config := { lowWatermarkMs := 400, highWatermarkMs := 700 }
    let operations : List (Operation ScriptedDevice) := [.queue ⟨Array.replicate 32 0⟩]
    format.channels ≠ 0 ∧ format.sampleRate ≠ 0 ∧ (Geometry.ofFormat format 0 0).Calibrated ∧
      ∃ opened slower, create secretive format config = .ok opened ∧
        create slow format {} = .ok slower ∧
        (opened.run operations).ReachedIn format ∧ slower.ReachedIn format ∧
        (opened.run operations).heldFrames = 16 ∧ slower.heldFrames = 17 ∧
        (opened.run operations).queuedMs.1 ≤ slower.queuedMs.1 := by
  intro format secretive slow config operations
  have hasChannels : format.channels ≠ 0 := by decide
  have rated : format.sampleRate ≠ 0 := by decide
  obtain ⟨scales, orders⟩ := milliseconds_keep_order hasChannels rated
  obtain ⟨new, created, calibrated⟩ := scales 0 0
  obtain ⟨rfl, -⟩ := Ring.of_create_eq_ok created
  obtain ⟨opened, opening⟩ : ∃ opened, create secretive format config = .ok opened := ⟨_, rfl⟩
  obtain ⟨slower, slowly⟩ : ∃ slower, create slow format {} = .ok slower := ⟨_, rfl⟩
  have here : (opened.run operations).ReachedIn format :=
    ⟨config, fun _ => .ok secretive, opened, operations, opening, rfl⟩
  have there : slower.ReachedIn format := ⟨{}, fun _ => .ok slow, slower, [], slowly, rfl⟩
  have less : (opened.run operations).heldFrames = 16 := by
    cases opening
    decide +kernel
  have more : slower.heldFrames = 17 := by
    cases slowly
    decide +kernel
  exact ⟨hasChannels, rated, calibrated, opened, slower, opening, slowly, here, there, less, more,
    orders here there (by rw [less, more]; decide)⟩

end Session

end Playout
