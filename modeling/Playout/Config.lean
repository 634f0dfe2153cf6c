/-
**Watermarks and recovery policy of a session.**

A `Config` is what a session is opened with. `Config.validate` accepts exactly the configurations
whose low watermark is not above the high one and that allow at least one try
(`validate_eq_ok_iff`); inverted watermarks are reported first.
-/
import Playout.Error

namespace Playout

/-- A length of time in whole seconds and the nanoseconds above them. -/
structure Duration where
  seconds : Nat
  nanoseconds : Nat
  nanoseconds_lt : nanoseconds < 1000000000
deriving DecidableEq, Repr

/-- The duration of so many milliseconds. -/
def Duration.ofMilliseconds (count : Nat) : Duration :=
  ⟨count / 1000, count % 1000 * 1000000, by omega⟩

/-- How a lost device is created anew. -/
structure RecoveryPolicy where
  /-- Attempts before giving up. -/
  maxTries : UInt32 := 5
  /-- Pause between attempts, in milliseconds. -/
  delayMs : UInt64 := 100
deriving DecidableEq, Repr

/-- The pause between two attempts. -/
def RecoveryPolicy.delay (policy : RecoveryPolicy) : Duration :=
  .ofMilliseconds policy.delayMs.toNat

/-- What a session is opened with. -/
structure Config where
  /-- Buffered milliseconds required before playback starts. -/
  lowWatermarkMs : UInt32 := 20
  /-- Buffered milliseconds above which a playing session is flushed. -/
  highWatermarkMs : UInt32 := 1000
  recovery : RecoveryPolicy := {}
deriving DecidableEq, Repr

namespace Config

/-- Refuse inverted watermarks and a policy without attempts. -/
def validate (config : Config) : Except Error Unit :=
  if config.highWatermarkMs < config.lowWatermarkMs then
    .error (.config (s!"min_buffer_ms ({config.lowWatermarkMs}) exceeds " ++
      s!"max_buffer_ms ({config.highWatermarkMs})"))
  else if config.recovery.maxTries = 0 then
    .error (.config "reinit.max_tries must be at least 1")
  else .ok ()

theorem validate_eq_ok_iff (config : Config) :
    config.validate = .ok () ↔
      config.lowWatermarkMs ≤ config.highWatermarkMs ∧ config.recovery.maxTries ≠ 0 := by
  unfold validate
  split
  · next inverted => simp [UInt32.not_le.2 inverted]
  · next ordered => split <;> simp_all [UInt32.not_lt.1 ordered]

/-- The configuration with all its fields, as it stands in the log. -/
def describe (config : Config) : String :=
  s!"SessionConfig \x7b min_buffer_ms: {config.lowWatermarkMs}, " ++
    s!"max_buffer_ms: {config.highWatermarkMs}, " ++
    s!"reinit: ReinitPolicy \x7b max_tries: {config.recovery.maxTries}, " ++
    s!"delay_ms: {config.recovery.delayMs} \x7d \x7d"

end Config

end Playout
