/-
**Fields of an object among other members.**

An object gives a field what stands under its name, wherever among its members that is and however
the name is escaped. If every key is meaningful text, each field is read from its own values alone:
a field without a value takes its default, a field with one value takes what this stands for, and a
field with several values makes the whole object none of the record.

* `valuesOf`, `Gives`: the values of a name, and what they give an optional field;
* `Value.fields?_object`, `Value.fields?_of_repeated`: the fields of an object;
* `Gives.optional?`: **what is given takes the place of the default**, and nothing else does;
* `Value.natural?_map_eq_some_iff`: the values of a word, of any size.
-/
import Playout.Json.Record
import Playout.Proofs.Json.Grammar

namespace Playout.Json

/-! ### The values of a name -/

section Members

variable {members : List (List Char × Value)}

/-- The values that stand under a name, in their order. -/
def valuesOf (name : String) (members : List (List Char × Value)) : List Value :=
  (members.filter fun member => unescape? member.1 = some name).map Prod.snd

/-- Every key is meaningful text. -/
def Named (members : List (List Char × Value)) : Prop :=
  ∀ member ∈ members, unescape? member.1 ≠ none

/-- A name under which there are several values. -/
def Repeats (name : String) (members : List (List Char × Value)) : Prop :=
  2 ≤ (valuesOf name members).length

instance (name : String) : Decidable (Repeats name members) :=
  Nat.decLe 2 (valuesOf name members).length

theorem nameMembers?_cons {key : List Char} {value : Value} {named : List (String × Value)} :
    nameMembers? ((key, value) :: members) = some named ↔
      ∃ name rest, unescape? key = some name ∧ nameMembers? members = some rest ∧
        named = (name, value) :: rest := by
  simp only [nameMembers?, List.mapM_cons, Option.bind_eq_bind, Option.bind_eq_some_iff,
    Option.map_eq_some_iff, Option.pure_def, Option.some.injEq]
  constructor
  · rintro ⟨_, ⟨name, here, rfl⟩, rest, behind, rfl⟩
    exact ⟨name, rest, here, behind, rfl⟩
  · rintro ⟨name, rest, here, behind, rfl⟩
    exact ⟨_, ⟨name, here, rfl⟩, rest, behind, rfl⟩

/-- The values of a name are those that are found when all keys are read. -/
theorem valuesOf_of_nameMembers? {named : List (String × Value)}
    (read : nameMembers? members = some named) (name : String) :
    (named.filter fun member => member.1 = name).map Prod.snd = valuesOf name members := by
  induction members generalizing named with
  | nil =>
    cases read
    rfl
  | cons member members ih =>
    obtain ⟨key, value⟩ := member
    obtain ⟨text, rest, here, behind, rfl⟩ := nameMembers?_cons.1 read
    have further := ih behind
    by_cases same : text = name <;> simp_all [valuesOf]

/-- All keys are read just if each is meaningful. -/
theorem named_iff : Named members ↔ ∃ read, nameMembers? members = some read := by
  induction members with
  | nil => simp [Named, nameMembers?]
  | cons member members ih =>
    obtain ⟨key, value⟩ := member
    rw [Named, List.forall_mem_cons, ← Named, ih]
    simp only [nameMembers?_cons, Option.ne_none_iff_exists']
    constructor
    · rintro ⟨⟨text, here⟩, rest, behind⟩
      exact ⟨_, text, rest, here, behind, rfl⟩
    · rintro ⟨_, text, rest, here, behind, -⟩
      exact ⟨⟨text, here⟩, rest, behind⟩

theorem atMostOne_eq_none_iff {values : List Value} :
    atMostOne values = none ↔ 2 ≤ values.length := by
  rcases values with _ | ⟨first, _ | ⟨second, values⟩⟩ <;> simp [atMostOne]

end Members

theorem mapM_eq_none_of_mem {α β : Type} {read : α → Option β} {list : List α} {element : α}
    (member : element ∈ list) (refused : read element = none) : list.mapM read = none := by
  induction list with
  | nil => cases member
  | cons first list ih =>
    rcases List.mem_cons.1 member with rfl | later
    · simp [refused]
    · simp [ih later]

namespace Value

variable {names : List String} {members : List (List Char × Value)}

/-- **The fields of an object are read from their own values.** -/
theorem fields?_object (named : Named members) :
    (object members).fields? names = names.mapM fun name => atMostOne (valuesOf name members) := by
  obtain ⟨read, found⟩ := named_iff.1 named
  show (nameMembers? members).bind _ = _
  simp only [found, Option.bind_some, valuesOf_of_nameMembers? found]

/-- A key without meaning spoils an object. -/
theorem fields?_of_not_named (unnamed : ¬ Named members) :
    (object members).fields? names = none := by
  show (nameMembers? members).bind _ = _
  rw [Option.eq_none_iff_forall_ne_some.2 fun read found => unnamed (named_iff.2 ⟨read, found⟩)]
  rfl

/-- **A field that is given twice spoils an object.** -/
theorem fields?_of_repeated {name : String} (field : name ∈ names) (repeats : Repeats name members) :
    (object members).fields? names = none := by
  by_cases named : Named members
  · rw [fields?_object named]
    exact mapM_eq_none_of_mem field (atMostOne_eq_none_iff.2 repeats)
  · exact fields?_of_not_named named

/-! ### Numbers -/

/-- A number that is written in digits alone. -/
def IsNatural (value : Value) (number : Nat) : Prop :=
  ∃ literal, value = .number literal ∧ AreDigits literal ∧ Nat.ofDigitChars 10 literal 0 = number

theorem natural?_eq_some_iff {value : Value} {limit number : Nat} :
    value.natural? limit = some number ↔ value.IsNatural number ∧ number ≤ limit := by
  rcases value with _ | _ | literal | _ | _ | _
  case number =>
    by_cases digits : AreDigits literal
    · have all : literal.all Char.isDigit = true := List.all_eq_true.2 digits
      simp only [natural?, if_pos all, IsNatural, Value.number.injEq, exists_eq_left', digits,
        true_and]
      grind
    · have other : ¬ literal.all Char.isDigit = true := fun all => digits (List.all_eq_true.1 all)
      simp [natural?, other, IsNatural, digits]
  all_goals simp [natural?, IsNatural]

/-- A word that is read below a limit is read from its number, if the limit is that of its kind. -/
theorem natural?_map_eq_some_iff {α : Type} {limit : Nat} {ofNat : Nat → α} {toNat : α → Nat}
    (within : ∀ word, toNat word ≤ limit) (there : ∀ number ≤ limit, toNat (ofNat number) = number)
    (back : ∀ word, ofNat (toNat word) = word) {value : Value} {word : α} :
    (value.natural? limit).map ofNat = some word ↔ value.IsNatural (toNat word) := by
  simp only [Option.map_eq_some_iff, natural?_eq_some_iff]
  constructor
  · rintro ⟨number, ⟨natural, small⟩, rfl⟩
    rwa [there number small]
  · intro natural
    exact ⟨_, ⟨natural, within word⟩, back word⟩

theorem word16?_eq_some_iff {value : Value} {word : UInt16} :
    value.word16? = some word ↔ value.IsNatural word.toNat :=
  natural?_map_eq_some_iff (fun word => Nat.le_pred_of_lt word.toNat_lt)
    (fun _ small => UInt16.toNat_ofNat_of_lt' (Nat.lt_of_le_pred (by decide) small))
    fun _ => UInt16.ofNat_toNat

theorem word32?_eq_some_iff {value : Value} {word : UInt32} :
    value.word32? = some word ↔ value.IsNatural word.toNat :=
  natural?_map_eq_some_iff (fun word => Nat.le_pred_of_lt word.toNat_lt)
    (fun _ small => UInt32.toNat_ofNat_of_lt' (Nat.lt_of_le_pred (by decide) small))
    fun _ => UInt32.ofNat_toNat

theorem word64?_eq_some_iff {value : Value} {word : UInt64} :
    value.word64? = some word ↔ value.IsNatural word.toNat :=
  natural?_map_eq_some_iff (fun word => Nat.le_pred_of_lt word.toNat_lt)
    (fun _ small => UInt64.toNat_ofNat_of_lt' (Nat.lt_of_le_pred (by decide) small))
    fun _ => UInt64.ofNat_toNat

end Value

/-! ### What is given takes the place of the default -/

/-- What the values of a name give an optional field: nothing, or what the only value stands for. -/
inductive Gives {α : Type} (Stands : Value → α → Prop) : List Value → Option α → Prop
  | nothing : Gives Stands [] none
  | once {value : Value} {content : α} (stands : Stands value content) :
      Gives Stands [value] (some content)

/-- Read a field from its values. -/
def optional? {α : Type} (read : Value → Option α) (default : α) (values : List Value) : Option α :=
  (atMostOne values).bind (Value.orDefault read default)

/-- **What is given takes the place of the default.** -/
theorem Gives.optional? {α β : Type} {Stands : Value → α → Prop} {values : List Value}
    {given : Option α} (gives : Gives Stands values given) {read : Value → Option β}
    {meaning : α → β} (default : β)
    (reads : ∀ value content, Stands value content → read value = some (meaning content)) :
    Json.optional? read default values = some ((given.map meaning).getD default) := by
  cases gives with
  | nothing => rfl
  | once stands => exact reads _ _ stands

end Playout.Json
