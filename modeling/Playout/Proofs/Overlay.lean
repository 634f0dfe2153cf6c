/-
**Partial documents overlay the defaults.**

A document need not name all fields of a configuration, nor all fields of the recovery policy within
it: each field that is given takes the place of its own default, at both levels, and all other
members are passed over. Fields stand in any order, among any members and with any blanks, as an
object may have many texts. What cannot be passed over is a field given twice.

* `RecoveryPolicy.Overlay`, `Config.Overlay`: any of the fields, and the objects that give just them;
* `Config.ofValue?_of_givenBy`: such an object is read as the defaults with its fields in their place;
* `Config.ofValue?_of_givesTwice`: a field that is given twice, at either level, is refused;
* `Config.partial_documents_overlay_defaults`: **all of it**, for every text.
-/
import Playout.Document
import Playout.Proofs.Json.Fields
import Playout.Proofs.Json.Texts

namespace Playout

open Json (Gives Named Repeats Value optional? valuesOf)

/-! ### The recovery policy -/

namespace RecoveryPolicy

/-- Any of the fields of a recovery policy. -/
structure Overlay where
  maxTries : Option UInt32 := none
  delayMs : Option UInt64 := none

/-- The standard policy with the given fields in the place of its own. -/
def Overlay.applied (given : Overlay) : RecoveryPolicy :=
  let standard : RecoveryPolicy := {}
  ⟨given.maxTries.getD standard.maxTries, given.delayMs.getD standard.delayMs⟩

/-- An object that gives just these fields, among any members under other names. -/
structure Overlay.GivenBy (given : Overlay) (members : List (List Char × Value)) : Prop where
  named : Named members
  maxTries : Gives (fun value (word : UInt32) => value.IsNatural word.toNat)
    (valuesOf "max_tries" members) given.maxTries
  delayMs : Gives (fun value (word : UInt64) => value.IsNatural word.toNat)
    (valuesOf "delay_ms" members) given.delayMs

section Object

variable {members : List (List Char × Value)}

theorem ofValue?_of_named (named : Named members) :
    ofValue? (.object members) =
      (optional? Value.word32? ({} : RecoveryPolicy).maxTries (valuesOf "max_tries" members)).bind
        fun maxTries =>
          (optional? Value.word64? ({} : RecoveryPolicy).delayMs (valuesOf "delay_ms" members)).map
            fun delayMs => ⟨maxTries, delayMs⟩ := by
  unfold ofValue? optional?
  rw [Value.fields?_object named]
  simp only [List.mapM_cons, List.mapM_nil, Option.bind_eq_bind, Option.pure_def]
  rcases Json.atMostOne (valuesOf "max_tries" members) with _ | maxTries <;>
    rcases Json.atMostOne (valuesOf "delay_ms" members) with _ | delayMs <;> simp

/-- **The given fields take the place of their defaults.** -/
theorem ofValue?_of_givenBy {given : Overlay} (givenBy : given.GivenBy members) :
    ofValue? (.object members) = some given.applied := by
  have maxTries := givenBy.maxTries.optional? ({} : RecoveryPolicy).maxTries
    fun _ _ => Value.word32?_eq_some_iff.2
  have delayMs := givenBy.delayMs.optional? ({} : RecoveryPolicy).delayMs
    fun _ _ => Value.word64?_eq_some_iff.2
  rw [ofValue?_of_named givenBy.named, maxTries, delayMs]
  simp [Overlay.applied]

/-- **A field given twice is refused.** -/
theorem ofValue?_of_repeats {name : String} (field : name ∈ ["max_tries", "delay_ms"])
    (repeats : Repeats name members) : ofValue? (.object members) = none := by
  rw [ofValue?, Value.fields?_of_repeated field repeats]

end Object

end RecoveryPolicy

/-! ### The configuration -/

namespace Config

/-- Any of the fields of a configuration, and of its recovery policy any of the fields again. -/
structure Overlay where
  lowWatermarkMs : Option UInt32 := none
  highWatermarkMs : Option UInt32 := none
  recovery : Option RecoveryPolicy.Overlay := none

/-- The standard configuration with the given fields in the place of its own. -/
def Overlay.applied (given : Overlay) : Config :=
  let standard : Config := {}
  ⟨given.lowWatermarkMs.getD standard.lowWatermarkMs,
    given.highWatermarkMs.getD standard.highWatermarkMs,
    (given.recovery.map RecoveryPolicy.Overlay.applied).getD standard.recovery⟩

/-- An object that gives just these fields, among any members under other names. -/
structure Overlay.GivenBy (given : Overlay) (members : List (List Char × Value)) : Prop where
  named : Named members
  lowWatermarkMs : Gives (fun value (word : UInt32) => value.IsNatural word.toNat)
    (valuesOf "min_buffer_ms" members) given.lowWatermarkMs
  highWatermarkMs : Gives (fun value (word : UInt32) => value.IsNatural word.toNat)
    (valuesOf "max_buffer_ms" members) given.highWatermarkMs
  recovery : Gives (fun value policy => ∃ inner, value = .object inner ∧ policy.GivenBy inner)
    (valuesOf "reinit" members) given.recovery

section Object

variable {members : List (List Char × Value)}

theorem ofValue?_of_named (named : Named members) :
    ofValue? (.object members) =
      (optional? Value.word32? ({} : Config).lowWatermarkMs
          (valuesOf "min_buffer_ms" members)).bind fun low =>
        (optional? Value.word32? ({} : Config).highWatermarkMs
            (valuesOf "max_buffer_ms" members)).bind fun high =>
          (optional? RecoveryPolicy.ofValue? ({} : Config).recovery
              (valuesOf "reinit" members)).map fun recovery => ⟨low, high, recovery⟩ := by
  unfold ofValue? optional?
  rw [Value.fields?_object named]
  simp only [List.mapM_cons, List.mapM_nil, Option.bind_eq_bind, Option.pure_def]
  rcases Json.atMostOne (valuesOf "min_buffer_ms" members) with _ | low <;>
    rcases Json.atMostOne (valuesOf "max_buffer_ms" members) with _ | high <;>
      rcases Json.atMostOne (valuesOf "reinit" members) with _ | recovery <;> simp

/-- **The given fields take the place of their defaults**, at both levels. -/
theorem ofValue?_of_givenBy {given : Overlay} (givenBy : given.GivenBy members) :
    ofValue? (.object members) = some given.applied := by
  have low := givenBy.lowWatermarkMs.optional? ({} : Config).lowWatermarkMs
    fun _ _ => Value.word32?_eq_some_iff.2
  have high := givenBy.highWatermarkMs.optional? ({} : Config).highWatermarkMs
    fun _ _ => Value.word32?_eq_some_iff.2
  have policy : ∀ value policy, (∃ inner, value = .object inner ∧
      RecoveryPolicy.Overlay.GivenBy policy inner) →
        RecoveryPolicy.ofValue? value = some policy.applied := by
    rintro _ policy ⟨inner, rfl, inside⟩
    exact RecoveryPolicy.ofValue?_of_givenBy inside
  have recovery := givenBy.recovery.optional? ({} : Config).recovery policy
  rw [ofValue?_of_named givenBy.named, low, high, recovery]
  simp [Overlay.applied]

/-- Some field of a configuration is given twice, or the recovery policy is an object in which some
field of it is. -/
def GivesTwice (members : List (List Char × Value)) : Prop :=
  (∃ name ∈ ["min_buffer_ms", "max_buffer_ms", "reinit"], Repeats name members) ∨
    ∃ inner, .object inner ∈ valuesOf "reinit" members ∧
      ∃ name ∈ ["max_tries", "delay_ms"], Repeats name inner

/-- **A field given twice is refused**, at both levels. -/
theorem ofValue?_of_givesTwice (twice : GivesTwice members) :
    ofValue? (.object members) = none := by
  rcases twice with ⟨name, field, repeats⟩ | ⟨inner, stands, name, field, repeats⟩
  · rw [ofValue?, Value.fields?_of_repeated field repeats]
  by_cases named : Named members
  · have refused : optional? RecoveryPolicy.ofValue? ({} : Config).recovery
        (valuesOf "reinit" members) = none := by
      have spoilt := RecoveryPolicy.ofValue?_of_repeats field repeats
      generalize valuesOf "reinit" members = values at stands
      rcases values with _ | ⟨first, _ | ⟨second, values⟩⟩
      · cases stands
      · cases List.mem_singleton.1 stands
        exact spoilt
      · rfl
    rw [ofValue?_of_named named, refused]
    simp
  · rw [ofValue?, Value.fields?_of_not_named named]

end Object

/-! ### Documents -/

section Text

variable {value : Value} {text : String} (isText : value.IsText text)
include isText

theorem read_of_refused (refused : ofValue? value = none) :
    read text = .error (.json "not a session configuration") := by
  rw [read, Value.read?_eq_some_iff.2 isText, Option.bind_some, refused]

theorem read_of_given {config : Config} (given : ofValue? value = some config) :
    read text = config.validate.map fun _ => config := by
  rw [read, Value.read?_eq_some_iff.2 isText, Option.bind_some, given]

end Text

/-- A configuration that is not valid is refused with a detail. -/
theorem exists_detail_of_validate {config : Config} (flawed : config.validate ≠ .ok ()) :
    ∃ detail, config.validate = .error (.config detail) := by
  unfold validate at flawed ⊢
  split
  · exact ⟨_, rfl⟩
  · next ordered =>
    split
    · exact ⟨_, rfl⟩
    · next tried =>
      rw [if_neg ordered, if_neg tried] at flawed
      contradiction

/-- What is read is valid. -/
theorem validate_of_read {text : String} {config : Config} (found : read text = .ok config) :
    config.validate = .ok () := by
  unfold read at found
  split at found
  · cases found
  · next other _ =>
    rcases checked : other.validate with error | ⟨⟩
    · rw [checked] at found
      cases found
    · rw [checked] at found
      cases found
      exact checked

/-- **Partial documents overlay the defaults.** Any text of an object that gives any of the fields,
at either level and among any other members, is read as the defaults with just these fields in their
place, if that is valid, and is otherwise refused for what is wrong with that configuration. A text
of an object that gives a field twice, at either level, is no configuration at all. Whatever is read
from any text has its watermarks in order and allows a try. -/
theorem partial_documents_overlay_defaults :
    (∀ (given : Overlay) (members : List (List Char × Value)) (text : String),
      given.GivenBy members → (Value.object members).IsText text →
        (given.applied.validate = .ok () → read text = .ok given.applied) ∧
          (given.applied.validate ≠ .ok () →
            ∃ detail, given.applied.validate = .error (.config detail) ∧
              read text = .error (.config detail))) ∧
      (∀ (members : List (List Char × Value)) (text : String),
        GivesTwice members → (Value.object members).IsText text →
          ∃ detail, read text = .error (.json detail)) ∧
      ∀ (text : String) (config : Config), read text = .ok config →
        config.lowWatermarkMs ≤ config.highWatermarkMs ∧ 1 ≤ config.recovery.maxTries := by
  refine ⟨fun given members text givenBy isText => ?_, fun members text twice isText => ?_,
    fun text config found => ?_⟩
  · have answer := read_of_given isText (ofValue?_of_givenBy givenBy)
    refine ⟨fun valid => ?_, fun flawed => ?_⟩
    · rw [answer, valid]
      rfl
    · obtain ⟨detail, refused⟩ := exists_detail_of_validate flawed
      refine ⟨detail, refused, ?_⟩
      rw [answer, refused]
      rfl
  · exact ⟨_, read_of_refused isText (ofValue?_of_givesTwice twice)⟩
  · obtain ⟨ordered, tried⟩ := (validate_eq_ok_iff config).1 (validate_of_read found)
    have positive : config.recovery.maxTries.toNat ≠ 0 := fun zero =>
      tried (UInt32.toNat_inj.1 zero)
    exact ⟨ordered, UInt32.le_iff_toNat_le.2 (Nat.pos_of_ne_zero positive)⟩

/-- Two fields at two levels among members that are passed over, with half of a pair of code units in
one of them; a high watermark below the standard low one; and a field that is given twice, once under
an escaped name. -/
theorem partial_documents_overlay_defaults_among_others :
    let text :=
      "\t\x7b\"a\":[\"\\ud83d\"],\"reinit\" :\x7b\"delay_ms\":0\x7d,\n\"max_buffer_ms\":70\x7d"
    let inverted := "\x7b\"max_buffer_ms\":7\x7d"
    let doubled := "\x7b\"reinit\":\x7b\"max_tries\":1,\"max_\\u0074ries\":2\x7d\x7d"
    (∃ members, Overlay.GivenBy ⟨none, some 70, some ⟨none, some 0⟩⟩ members ∧
        (Value.object members).IsText text) ∧
      (∃ members, Overlay.GivenBy ⟨none, some 7, none⟩ members ∧
        (Value.object members).IsText inverted) ∧
      (∃ members, GivesTwice members ∧ (Value.object members).IsText doubled) ∧
      read text = .ok ⟨20, 70, ⟨5, 0⟩⟩ ∧ (20 : UInt32) ≤ 70 ∧ (1 : UInt32) ≤ 5 ∧
      (∃ detail, read inverted = .error (.config detail)) ∧
      ∃ detail, read doubled = .error (.json detail) := by
  intro text inverted doubled
  obtain ⟨overlaid, twice, valid⟩ := partial_documents_overlay_defaults
  let inner : List (List Char × Value) := [("delay_ms".toList, .number "0".toList)]
  let members : List (List Char × Value) :=
    [("a".toList, .array [.string "\\ud83d".toList]), ("reinit".toList, .object inner),
     ("max_buffer_ms".toList, .number "70".toList)]
  have within : RecoveryPolicy.Overlay.GivenBy ⟨none, some 0⟩ inner :=
    ⟨Json.named_iff.2 ⟨_, rfl⟩, .nothing, .once ⟨_, rfl, by decide, rfl⟩⟩
  have givenBy : Overlay.GivenBy ⟨none, some 70, some ⟨none, some 0⟩⟩ members :=
    ⟨Json.named_iff.2 ⟨_, rfl⟩, .nothing, .once ⟨_, rfl, by decide, rfl⟩, .once ⟨_, rfl, within⟩⟩
  have isText : (Value.object members).IsText text := by
    unfold text members inner
    exact Value.read?_eq_some_iff.1 (by cbv)
  have found := (overlaid _ _ _ givenBy isText).1 (by decide)
  let lowered : List (List Char × Value) := [("max_buffer_ms".toList, .number "7".toList)]
  have loweredBy : Overlay.GivenBy ⟨none, some 7, none⟩ lowered :=
    ⟨Json.named_iff.2 ⟨_, rfl⟩, .nothing, .once ⟨_, rfl, by decide, rfl⟩, .nothing⟩
  have loweredText : (Value.object lowered).IsText inverted := by
    unfold inverted lowered
    exact Value.read?_eq_some_iff.1 (by cbv)
  obtain ⟨detail, -, refused⟩ := (overlaid _ _ _ loweredBy loweredText).2 (by decide)
  let tries : List (List Char × Value) :=
    [("max_tries".toList, .number "1".toList), ("max_\\u0074ries".toList, .number "2".toList)]
  have repeated : GivesTwice [("reinit".toList, .object tries)] :=
    .inr ⟨tries, .head _, "max_tries", .head _, by decide +kernel⟩
  have repeatedText : (Value.object [("reinit".toList, .object tries)]).IsText doubled := by
    unfold doubled tries
    exact Value.read?_eq_some_iff.1 (by cbv)
  exact ⟨⟨members, givenBy, isText⟩, ⟨lowered, loweredBy, loweredText⟩,
    ⟨_, repeated, repeatedText⟩, found, (valid _ _ found).1, (valid _ _ found).2,
    ⟨detail, refused⟩, twice _ _ repeated repeatedText⟩

end Config

end Playout
