/-
**Documents are read back.**

The document of a configuration or of a format names all its fields, in a fixed order and without
blanks. It is read as the record that it was written from, so no two records have one document. A
configuration that is not valid is refused for what is wrong with it, and not for how it is written.

* `Config.document_eq`, `Format.document_eq`: the documents, letter by letter;
* `Config.ofValue?_toValue`, `Format.ofValue?_toValue`: each field is read as it was written;
* `documents_are_read_back`: both together, for every configuration and every format.
-/
import Playout.Document
import Playout.Proofs.Json.Record

namespace Playout

open Json (Value Token)

/-! ### Fields are read as they were written -/

namespace RecoveryPolicy

/-- The fields of a recovery policy with their values. -/
def members (policy : RecoveryPolicy) : List (String × Value) :=
  [("max_tries", .ofNat policy.maxTries.toNat), ("delay_ms", .ofNat policy.delayMs.toNat)]

theorem fields?_toValue (policy : RecoveryPolicy) :
    policy.toValue.fields? ["max_tries", "delay_ms"] =
      some (policy.members.map fun member => some member.2) :=
  @Value.fields?_record _ policy.members rfl (by decide +kernel) (by decide +kernel)

theorem ofValue?_toValue (policy : RecoveryPolicy) : ofValue? policy.toValue = some policy := by
  simp [ofValue?, fields?_toValue, members, Value.orDefault, Value.word32?_ofNat,
    Value.word64?_ofNat]

theorem readable_toValue (policy : RecoveryPolicy) : policy.toValue.Readable := by
  refine @Value.readable_record ["max_tries", "delay_ms"] policy.members rfl (by decide +kernel) ?_
  simp [members, Value.readable_ofNat]

end RecoveryPolicy

namespace Config

/-- The fields of a configuration with their values. -/
def members (config : Config) : List (String × Value) :=
  [("min_buffer_ms", .ofNat config.lowWatermarkMs.toNat),
   ("max_buffer_ms", .ofNat config.highWatermarkMs.toNat),
   ("reinit", config.recovery.toValue)]

theorem fields?_toValue (config : Config) :
    config.toValue.fields? ["min_buffer_ms", "max_buffer_ms", "reinit"] =
      some (config.members.map fun member => some member.2) :=
  @Value.fields?_record _ config.members rfl (by decide +kernel) (by decide +kernel)

theorem ofValue?_toValue (config : Config) : ofValue? config.toValue = some config := by
  simp [ofValue?, fields?_toValue, members, Value.orDefault, Value.word32?_ofNat,
    RecoveryPolicy.ofValue?_toValue]

theorem readable_toValue (config : Config) : config.toValue.Readable := by
  refine @Value.readable_record ["min_buffer_ms", "max_buffer_ms", "reinit"] config.members rfl
    (by decide +kernel) ?_
  simp [members, Value.readable_ofNat, RecoveryPolicy.readable_toValue]

end Config

theorem SampleFormat.ofValue?_name (format : SampleFormat) :
    ofValue? (.string format.name.toList) = some format := by
  cases format <;> decide +kernel

theorem SampleFormat.readable_name (format : SampleFormat) :
    (Value.string format.name.toList).Readable := by
  intro token member
  rw [List.mem_singleton.1 member]
  cases format <;> exact Json.readable_string (by decide +kernel)

namespace Format

/-- The channel mask of a format as a value. -/
def maskValue (format : Format) : Value :=
  match format.channelMask with
  | none => .null
  | some mask => .ofNat mask.toNat

/-- The fields of a format with their values. -/
def members (format : Format) : List (String × Value) :=
  [("sample_format", .string format.sampleFormat.name.toList),
   ("channels", .ofNat format.channels.toNat),
   ("sample_rate", .ofNat format.sampleRate.toNat),
   ("channel_mask", format.maskValue)]

theorem fields?_toValue (format : Format) :
    format.toValue.fields? ["sample_format", "channels", "sample_rate", "channel_mask"] =
      some (format.members.map fun member => some member.2) :=
  @Value.fields?_record _ format.members rfl (by decide +kernel) (by decide +kernel)

/-- A mask that is absent is written as null, and a null is read as an absent mask. -/
theorem orNull?_maskValue (format : Format) :
    Value.orNull? Value.word32? format.maskValue = some format.channelMask := by
  unfold maskValue
  cases format.channelMask with
  | none => rfl
  | some mask =>
    show (Value.word32? (.ofNat mask.toNat)).map some = _
    rw [Value.word32?_ofNat]
    rfl

theorem ofValue?_toValue (format : Format) : ofValue? format.toValue = some format := by
  simp [ofValue?, fields?_toValue, members, Value.orDefault, SampleFormat.ofValue?_name,
    Value.word16?_ofNat, Value.word32?_ofNat, orNull?_maskValue]

theorem readable_maskValue (format : Format) : format.maskValue.Readable := by
  unfold maskValue
  cases format.channelMask with
  | none =>
    intro token member
    rw [List.mem_singleton.1 member]
    rfl
  | some mask => exact Value.readable_ofNat _

theorem readable_toValue (format : Format) : format.toValue.Readable := by
  refine @Value.readable_record ["sample_format", "channels", "sample_rate", "channel_mask"]
    format.members rfl (by decide +kernel) ?_
  simp [members, Value.readable_ofNat, readable_maskValue, SampleFormat.readable_name]

end Format

/-! ### The documents -/

theorem toList_toString_word16 (word : UInt16) :
    (toString word).toList = Nat.toDigits 10 word.toNat :=
  String.toList_ofList

theorem toList_toString_word32 (word : UInt32) :
    (toString word).toList = Nat.toDigits 10 word.toNat :=
  String.toList_ofList

theorem toList_toString_word64 (word : UInt64) :
    (toString word).toList = Nat.toDigits 10 word.toNat :=
  String.toList_ofList

theorem toString_string (text : String) : toString text = text := rfl

namespace Config

/-- The fields of a configuration in their order, without blanks. -/
def compactText (config : Config) : String :=
  s!"\x7b\"min_buffer_ms\":{config.lowWatermarkMs}," ++
    s!"\"max_buffer_ms\":{config.highWatermarkMs}," ++
    s!"\"reinit\":\x7b\"max_tries\":{config.recovery.maxTries}," ++
    s!"\"delay_ms\":{config.recovery.delayMs}\x7d\x7d"

theorem document_eq (config : Config) : config.document = config.compactText := by
  unfold compactText
  apply String.toList_inj.1
  simp [document, Value.written, toValue, RecoveryPolicy.toValue, Value.tokens,
    Value.memberTokens, Token.text, Value.ofNat, toList_toString_word32,
    toList_toString_word64, toString_string]

end Config

namespace Format

/-- The channel mask of a format as it stands in a document. -/
def maskText (format : Format) : String :=
  match format.channelMask with
  | none => "null"
  | some mask => toString mask

/-- The fields of a format in their order, without blanks. -/
def compactText (format : Format) : String :=
  s!"\x7b\"sample_format\":\"{format.sampleFormat.name}\"," ++
    s!"\"channels\":{format.channels}," ++
    s!"\"sample_rate\":{format.sampleRate}," ++
    s!"\"channel_mask\":{format.maskText}\x7d"

theorem document_eq (format : Format) : format.document = format.compactText := by
  unfold compactText maskText
  apply String.toList_inj.1
  obtain ⟨sampleFormat, channels, sampleRate, _ | mask⟩ := format <;>
    simp [document, Value.written, toValue, Value.tokens, Value.memberTokens, Token.text,
      Value.ofNat, toList_toString_word16, toList_toString_word32, toString_string]

end Format

/-- **Documents are read back.** The document of a configuration is read as the configuration if that
is valid, and refused for the configuration's own flaw if it is not. The document of a format, valid
or not, is read as the format. -/
theorem documents_are_read_back :
    (∀ config : Config,
      config.document = config.compactText ∧
        Config.read config.document =
          match config.validate with
          | .ok () => .ok config
          | .error error => .error error) ∧
      ∀ format : Format,
        format.document = format.compactText ∧ Format.read? format.document = some format := by
  constructor
  · intro config
    refine ⟨config.document_eq, ?_⟩
    rw [Config.read, Config.document, Value.read?_written config.readable_toValue,
      Option.bind_some, Config.ofValue?_toValue]
    show config.validate.map (fun _ => config) = _
    cases config.validate <;> rfl
  · intro format
    refine ⟨format.document_eq, ?_⟩
    rw [Format.read?, Format.document, Value.read?_written format.readable_toValue,
      Option.bind_some, Format.ofValue?_toValue]

/-- A configuration with both flaws is refused for its watermarks. -/
example : Config.read (Config.document ⟨2, 1, ⟨0, 0⟩⟩) =
    .error (.config "min_buffer_ms (2) exceeds max_buffer_ms (1)") := by
  cbv

end Playout
