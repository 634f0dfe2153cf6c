/-
**Configurations and formats as JSON documents.**

A document names the fields of a record in a fixed order, without blanks. Reading is more liberal:
the rules of `Json.Value.fields?` hold, all fields of a configuration may be missing, and so may
the sample format and the channel mask of a format. A number has to be a plain natural number that
fits its field.

* `Config.read`: a configuration that is also valid, `Config.ofContents` from the bytes of a file;
* `Format.read?`: a format, valid or not;
* `Config.document`, `Format.document`: what is written.
-/
import Playout.Config
import Playout.Format
import Playout.Json.Record

namespace Playout

open Json (Value)

/-! ### Configurations -/

/-- The recovery policy that a value gives. -/
def RecoveryPolicy.ofValue? (value : Value) : Option RecoveryPolicy :=
  let standard : RecoveryPolicy := {}
  match value.fields? ["max_tries", "delay_ms"] with
  | some [maxTries, delayMs] =>
    (Value.orDefault Value.word32? standard.maxTries maxTries).bind fun maxTries =>
      (Value.orDefault Value.word64? standard.delayMs delayMs).map fun delayMs =>
        ⟨maxTries, delayMs⟩
  | _ => none

/-- The recovery policy as a value. -/
def RecoveryPolicy.toValue (policy : RecoveryPolicy) : Value :=
  .object
    [("max_tries".toList, .ofNat policy.maxTries.toNat),
     ("delay_ms".toList, .ofNat policy.delayMs.toNat)]

namespace Config

/-- The configuration that a value gives, valid or not. -/
def ofValue? (value : Value) : Option Config :=
  let standard : Config := {}
  match value.fields? ["min_buffer_ms", "max_buffer_ms", "reinit"] with
  | some [low, high, recovery] =>
    (Value.orDefault Value.word32? standard.lowWatermarkMs low).bind fun low =>
      (Value.orDefault Value.word32? standard.highWatermarkMs high).bind fun high =>
        (Value.orDefault RecoveryPolicy.ofValue? standard.recovery recovery).map fun recovery =>
          ⟨low, high, recovery⟩
  | _ => none

/-- The configuration as a value. -/
def toValue (config : Config) : Value :=
  .object
    [("min_buffer_ms".toList, .ofNat config.lowWatermarkMs.toNat),
     ("max_buffer_ms".toList, .ofNat config.highWatermarkMs.toNat),
     ("reinit".toList, config.recovery.toValue)]

/-- The document of a configuration. -/
def document (config : Config) : String := config.toValue.written

/-- Read a document as a valid configuration. -/
def read (text : String) : Except Error Config :=
  match (Value.read? text).bind ofValue? with
  | none => .error (.json "not a session configuration")
  | some config => config.validate.map fun _ => config

/-- Read a file, given its bytes or why it could not be opened. -/
def ofContents (contents : Except IoCause ByteArray) : Except Error Config :=
  match contents with
  | .error cause => .error (.io cause)
  | .ok bytes =>
    match String.fromUTF8? bytes with
    | none => .error (.io .notText)
    | some text => read text

end Config

/-! ### Formats -/

/-- The sample format that a value names. -/
def SampleFormat.ofValue? (value : Value) : Option SampleFormat :=
  value.choice?.bind SampleFormat.ofName?

namespace Format

/-- The format that a value gives. -/
def ofValue? (value : Value) : Option Format :=
  let standard : Format := {}
  match value.fields? ["sample_format", "channels", "sample_rate", "channel_mask"] with
  | some [sampleFormat, some channels, some sampleRate, channelMask] =>
    (Value.orDefault SampleFormat.ofValue? standard.sampleFormat sampleFormat).bind
      fun sampleFormat =>
        channels.word16?.bind fun channels =>
          sampleRate.word32?.bind fun sampleRate =>
            (Value.orDefault (Value.orNull? Value.word32?) none channelMask).map
              fun channelMask => ⟨sampleFormat, channels, sampleRate, channelMask⟩
  | _ => none

/-- The format as a value. -/
def toValue (format : Format) : Value :=
  .object
    [("sample_format".toList, .string format.sampleFormat.name.toList),
     ("channels".toList, .ofNat format.channels.toNat),
     ("sample_rate".toList, .ofNat format.sampleRate.toNat),
     ("channel_mask".toList,
       match format.channelMask with
       | none => .null
       | some mask => .ofNat mask.toNat)]

/-- The document of a format. -/
def document (format : Format) : String := format.toValue.written

/-- Read a document as a format. -/
def read? (text : String) : Option Format :=
  (Value.read? text).bind ofValue?

end Format

end Playout
