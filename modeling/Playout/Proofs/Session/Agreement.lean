/-
**A ring and its device agree.**

A ring says by itself whether it plays, and counts its starts and resets; a device in memory says
whether it runs, and counts how often it was started and stopped. The ring changes only when it has
called the device, but the device also changes when it is opened anew, is lost, or is made to fail
between two calls. `Scene.InStep` says that the two agree nevertheless, and that a device whose ring
does not play holds nothing.

* `Scene.InStep.after`: whatever happens, they stay in step;
* `Session.device_in_step_along_runs`: so it is at every moment of every run of a session, and after
  its end.
-/
import Playout.Proofs.Scene

namespace Playout

/-- What a ring tells of its playing: whether it plays, its starts and its resets. -/
def Ring.pulse (ring : Ring) : Bool × Nat × Nat :=
  (ring.playing, ring.stats.starts, ring.stats.resets)

/-- What a device in memory tells of its running: whether it runs, its starts and its stops. -/
def MemoryDevice.pulse (device : MemoryDevice) : Bool × Nat × Nat :=
  (device.running, device.starts, device.stops)

/-- A move that starts or stops playing. -/
def Move.Turns : Move → Prop
  | .start _ | .stop _ => True
  | _ => False

/-- No other move changes what a ring tells of its playing, on the rings on which it is made. -/
theorem Ring.pulse_after {ring : Ring} {move : Move} (allowed : move.Allowed ring)
    (other : ¬ move.Turns) : (ring.after move).pulse = ring.pulse := by
  cases move with
  | start _ => exact absurd trivial other
  | stop _ => exact absurd trivial other
  | clear =>
    have silent : ring.playing = false := allowed
    simp only [after, reset, pulse, silent, Bool.false_eq_true, if_false]
  | take frames => exact observe_accept pulse (fun _ _ _ _ _ => rfl) ring frames
  | drop frames => exact observe_accept pulse (fun _ _ _ _ _ => rfl) ring frames
  | write _ _ answer => cases answer <;> rfl
  | drain buffer => exact observe_drain pulse (fun _ _ _ _ => rfl) ring buffer
  | _ => rfl

namespace Scene

/-- Ring and device agree on whether they play, and on the counts of starts and stops; where nothing
is played, the device holds nothing. -/
structure InStep (scene : Scene) : Prop where
  running_eq : scene.device.running = scene.ring.playing
  starts_eq : scene.device.starts = scene.ring.stats.starts
  stops_eq : scene.device.stops = scene.ring.stats.resets
  empty_of_silent : scene.ring.playing = false → scene.device.backlogFrames = 0

namespace InStep

variable {scene : Scene}

/-- They stay in step where neither tells anything new, unless a silent device is filled. -/
theorem of_pulse_eq (inStep : scene.InStep) {ring : Ring} {device : MemoryDevice}
    (same_ring : ring.pulse = scene.ring.pulse) (same_device : device.pulse = scene.device.pulse)
    (stays : scene.ring.playing = false → scene.device.backlogFrames = 0 →
      device.backlogFrames = 0) : InStep ⟨ring, device⟩ := by
  obtain ⟨playing, counts⟩ := Prod.mk.inj same_ring
  obtain ⟨started, reset⟩ := Prod.mk.inj counts
  obtain ⟨running, counts⟩ := Prod.mk.inj same_device
  obtain ⟨starts, stops⟩ := Prod.mk.inj counts
  refine ⟨?_, ?_, ?_, ?_⟩
  · exact (running.trans inStep.running_eq).trans playing.symm
  · exact (starts.trans inStep.starts_eq).trans started.symm
  · exact (stops.trans inStep.stops_eq).trans reset.symm
  · intro silent
    have before := playing.symm.trans silent
    exact stays before (inStep.empty_of_silent before)

/-- A move in which the device stays as it is. -/
theorem silent (inStep : scene.InStep) {move : Move} (allowed : move.Allowed scene.ring)
    (other : ¬ move.Turns) : InStep ⟨scene.ring.after move, scene.device⟩ :=
  inStep.of_pulse_eq (Ring.pulse_after allowed other) rfl fun _ empty => empty

/-- A start. -/
theorem start (inStep : scene.InStep) {answer : Except Error Unit}
    (answered : (Device.start scene.device).result = answer) :
    InStep ⟨scene.ring.after (.start answer), (Device.start scene.device).device⟩ := by
  rcases scene.device.start_cases with ⟨begun, left⟩ | ⟨error, failed, left⟩
  · obtain rfl := begun.symm.trans answered
    rw [left]
    refine ⟨rfl, congrArg (· + 1) inStep.starts_eq, inStep.stops_eq, ?_⟩
    intro silent
    cases silent
  · obtain rfl := failed.symm.trans answered
    rw [left]
    exact inStep.of_pulse_eq rfl rfl fun _ empty => empty

/-- A stop. -/
theorem stop (inStep : scene.InStep) (playing : scene.ring.playing = true) :
    InStep ⟨scene.ring.reset, (Device.stop scene.device).device⟩ := by
  have counted : scene.ring.reset.stats.resets = scene.ring.stats.resets + 1 := if_pos playing
  refine ⟨rfl, inStep.starts_eq, ?_, fun _ => rfl⟩
  show scene.device.stops + 1 = scene.ring.reset.stats.resets
  rw [counted, inStep.stops_eq]

/-- A write, which a silent ring does not make. -/
theorem write (inStep : scene.InStep) {delivery : Delivery} {offered : ByteArray}
    {answer : Except Error Nat}
    (allowed : (Move.write delivery offered answer).Allowed scene.ring) :
    InStep ⟨scene.ring.after (.write delivery offered answer),
      (Device.write scene.device offered).device⟩ := by
  have playing := allowed.2.1
  have same : (Device.write scene.device offered).device.pulse = scene.device.pulse := by
    rcases scene.device.write_cases offered with ⟨_, _, _, left⟩ | ⟨_, _, _, left⟩
    · rw [left]
      rfl
    · rw [left]
      rfl
  refine inStep.of_pulse_eq (Ring.pulse_after allowed id) same fun silent => ?_
  rw [playing] at silent
  cases silent

/-- An attempt to open the device anew, which a playing ring does not make. -/
theorem reopen (inStep : scene.InStep) (silent : scene.ring.playing = false) :
    InStep ⟨scene.ring, (Device.reopen scene.device).device⟩ := by
  have off := inStep.running_eq.trans silent
  rcases scene.device.reopen_cases with ⟨_, left⟩ | ⟨_, _, _, left⟩
  · rw [left]
    exact ⟨silent.symm, inStep.starts_eq, inStep.stops_eq, fun _ => rfl⟩
  · rw [left]
    exact inStep.of_pulse_eq rfl rfl fun _ empty => empty

/-- A probe. -/
theorem probe (inStep : scene.InStep) (probe : Probe) :
    InStep ⟨scene.ring, scene.device.probed probe⟩ := by
  refine inStep.of_pulse_eq rfl ?_ fun _ empty => ?_
  · cases probe <;> rfl
  · cases probe with
    | play limit =>
      show scene.device.backlogFrames - _ = 0
      rw [empty, Nat.zero_sub]
    | _ => exact empty

/-- **Whatever happens, ring and device stay in step.** -/
theorem after (inStep : scene.InStep) {happening : Happening} (allows : scene.Allows happening) :
    (scene.after happening).InStep := by
  cases happening with
  | probe probe => exact inStep.probe probe
  | move move =>
    obtain ⟨allowed, answered⟩ := allows
    cases move with
    | stop answer => exact inStep.stop allowed
    | start answer => exact inStep.start (answered _ rfl)
    | write _ _ _ => exact inStep.write allowed
    | reopen answer => exact inStep.reopen allowed
    | _ => exact inStep.silent allowed id

end InStep

/-- So they do along a chain of happenings, at every moment. -/
theorem Makes.inStep {scene last : Scene} {happenings : List Happening}
    (made : scene.Makes happenings last) (start : scene.InStep) :
    ∀ before, before <+: happenings → (before.foldl Scene.after scene).InStep := by
  have any : ∀ happening ∈ happenings, True := fun _ _ => trivial
  exact made.invariant (fun _ _ inStep _ allows => inStep.after allows) any start

theorem Makes.inStep_last {scene last : Scene} {happenings : List Happening}
    (made : scene.Makes happenings last) (start : scene.InStep) : last.InStep := by
  rw [← made.foldl_after]
  exact made.inStep start happenings List.prefix_rfl

end Scene

/-- A device in memory as it is made: one that is drained, or one that takes frames of some size as
long as it has room for them. -/
inductive MemoryDevice.Fresh : MemoryDevice → Prop
  | callback : Fresh .callback
  | writeThrough {capacityFrames frameSize : Nat} {device : MemoryDevice}
      (made : writeThrough capacityFrames frameSize = .ok device) : Fresh device

/-- A device that was just made has done nothing. -/
theorem MemoryDevice.Fresh.idle {device : MemoryDevice} (fresh : device.Fresh) :
    device.pulse = (false, 0, 0) ∧ device.backlogFrames = 0 := by
  cases fresh with
  | callback => exact ⟨rfl, rfl⟩
  | writeThrough made =>
    obtain ⟨_, rfl⟩ := of_writeThrough_eq_ok made
    exact ⟨rfl, rfl⟩

namespace Session

/-- **Ring and device are in step during and after deeds**: at every moment of them, when they are
done, and whatever is still done with the ring and the device after the end of the session. -/
structure StaysInStep (session : Session MemoryDevice) (deeds : List Deed) : Prop where
  reaches : (session.runHappenings deeds).foldl Scene.after session.feed.scene =
    (session.run (deeds.map Deed.operation)).feed.scene
  at_every_moment : ∀ before, before <+: session.runHappenings deeds →
    (before.foldl Scene.after session.feed.scene).InStep
  in_step : (session.run (deeds.map Deed.operation)).feed.scene.InStep
  closed : ∀ later : List Deed,
    ((session.run (deeds.map Deed.operation)).close.run
      (later.map Deed.operation)).scene.InStep

/-- A session that was just opened on a new device has played nothing, nor has the device. -/
theorem inStep_of_fresh {format : Format} {config : Config} {opened : Session MemoryDevice}
    (known : Opened format config opened) (fresh : opened.feed.device.Fresh) :
    opened.feed.scene.InStep := by
  obtain ⟨pulse, empty⟩ := fresh.idle
  obtain ⟨running, counts⟩ := Prod.mk.inj pulse
  obtain ⟨starts, stops⟩ := Prod.mk.inj counts
  refine ⟨?_, ?_, ?_, fun _ => empty⟩
  · exact running.trans (congrArg Ring.playing known.ring_eq).symm
  · exact starts.trans (congrArg (·.stats.starts) known.ring_eq).symm
  · exact stops.trans (congrArg (·.stats.resets) known.ring_eq).symm

/-- **A session and its device in memory agree along every run**, however the device is probed. -/
theorem device_in_step_along_runs {format : Format} {config : Config}
    {connect : Ring → Except Error MemoryDevice} {opened : Session MemoryDevice}
    (opening : openWith format config connect = .ok opened) (fresh : opened.feed.device.Fresh)
    (deeds : List Deed) : opened.StaysInStep deeds := by
  have start : opened.feed.scene.InStep := inStep_of_fresh (of_openWith_eq_ok opening) fresh
  have ran := makes_run opened deeds
  have done := ran.inStep_last start
  refine ⟨ran.foldl_after, ran.inStep start, done, fun later => ?_⟩
  have closing := Feed.makes_perform (opened.run (deeds.map Deed.operation)).feed
    (.operate .reset rfl)
  exact (Feed.makes_run _ later).inStep_last (closing.inStep_last done)

/-- A device that does not start at first, plays a part, is lost when it is written to, is opened
anew at the second try, and is lost for good. -/
theorem device_in_step_with_lost_device :
    let format : Format := ⟨.i16, 1, 8000, none⟩
    let config : Config := { lowWatermarkMs := 0, highWatermarkMs := 1, recovery := ⟨2, 0⟩ }
    let device : MemoryDevice := { delivery := .writeThrough, frameSize := 2, capacityFrames := 3 }
    let deeds : List Deed :=
      [.probe (.failStart .underrun), .operate (.queue ⟨#[1, 2, 3, 4]⟩) rfl,
        .operate (.queueSamples Int16 [5, 6, 7, 8]) rfl, .probe (.play 2),
        .probe (.failWrite (.deviceLost "")), .probe (.failReopens 1),
        .operate (.queue ⟨#[9, 10]⟩) rfl, .operate (.drain ⟨#[0, 0]⟩) rfl, .operate .queuedMs rfl,
        .probe .lose, .probe (.failReopens 2), .operate (.queue ⟨#[11, 12]⟩) rfl,
        .operate .reset rfl]
    ∃ opened, create device format config = .ok opened ∧ opened.feed.device.Fresh ∧
      opened.StaysInStep deeds := by
  intro format config device deeds
  have opening : openWith format config (fun _ => .ok device) = .ok _ := rfl
  have made : MemoryDevice.writeThrough 3 2 = .ok device := rfl
  exact ⟨_, opening, .writeThrough made,
    device_in_step_along_runs opening (.writeThrough made) deeds⟩

end Session

end Playout
