/-
**Records that are written as JSON are read back.**

A record is written as an object with each of its fields once, under a name that stands for itself.
Whatever the values of its fields are, each is found under its name (`Value.fields?_record`). A
natural number is written in decimal digits without a leading zero (`isWhole_toDigits`), so a word is
read back as the value of its number.
-/
import Playout.Proofs.Json.Fields
import Playout.Proofs.Json.Texts

namespace Playout.Json

/-! ### Names that stand for themselves -/

section Plain

variable {body : List Char} (plain : body.all isPlain = true)
include plain

theorem isBody_of_plain : IsBody body := by
  induction body with
  | nil => exact .nil
  | cons c body ih =>
    obtain ⟨here, behind⟩ := Bool.and_eq_true_iff.1 plain
    exact .plain here (ih behind)

/-- A string of plain characters is read as it is written. -/
theorem readable_string : (Token.string body).Readable :=
  (Token.readable_iff _).2 (isBody_of_plain plain)

/-- Plain characters stand for themselves. -/
theorem unescape?_of_plain : unescape? body = some (String.ofList body) := by
  have single : pieces body = body.map Piece.character := by
    induction body with
    | nil => rfl
    | cons c body ih =>
      obtain ⟨here, behind⟩ := Bool.and_eq_true_iff.1 plain
      have backslash := (isPlain_iff.1 here).2.1
      simp [pieces, backslash, ih behind]
  have assembled : ∀ text : List Char, assemble? (text.map Piece.character) = some text := by
    intro text
    induction text with
    | nil => rfl
    | cons c text ih => simp [assemble?, ih]
  rw [unescape?, single, assembled]
  rfl

end Plain

/-! ### Numbers -/

theorem digitChar_ne_zero : ∀ digit < 10, 0 < digit → digit.digitChar ≠ '0' := by
  decide

/-- A number above zero is not written with a leading zero. -/
theorem head?_toDigits_ne_zero {number : Nat} (positive : 0 < number) :
    (Nat.toDigits 10 number).head? ≠ some '0' := by
  induction number using Nat.strongRecOn with
  | ind number ih =>
    by_cases single : number < 10
    · have leading := digitChar_ne_zero number single positive
      rw [Nat.toDigits_of_lt_base single]
      simpa using leading
    · have shorter := ih (number / 10) (by omega) (by omega)
      rw [Nat.toDigits_of_base_le (by decide) (Nat.le_of_not_lt single)]
      obtain ⟨c, digits, text⟩ := List.exists_cons_of_ne_nil (@Nat.toDigits_ne_nil (number / 10) 10)
      rw [text] at shorter ⊢
      exact shorter

theorem isDigit_of_mem_toDigits {number : Nat} {c : Char}
    (member : c ∈ Nat.toDigits 10 number) : c.isDigit = true :=
  Nat.isDigit_of_mem_toDigits (by decide) (by decide) member

theorem isWhole_toDigits (number : Nat) : IsWhole (Nat.toDigits 10 number) := by
  refine ⟨Nat.toDigits_ne_nil, fun c member => isDigit_of_mem_toDigits member, fun leading => ?_⟩
  by_cases zero : number = 0
  · subst zero
    rfl
  · exact absurd leading (head?_toDigits_ne_zero (Nat.pos_of_ne_zero zero))

/-- The digits of a number are a numeral. -/
theorem isNumeral_toDigits (number : Nat) : IsNumeral (Nat.toDigits 10 number) :=
  ⟨[], .head _, _, [], [], by simp, isWhole_toDigits number, .inl rfl, .inl rfl⟩

namespace Value

/-- The text of a number is read as the number's digits. -/
theorem readable_ofNat (number : Nat) : (ofNat number).Readable := by
  intro token member
  rw [List.mem_singleton.1 member]
  exact (Token.readable_iff _).2 (isNumeral_toDigits number)

/-- The value for a number is written in digits alone. -/
theorem isNatural_ofNat (number : Nat) : (ofNat number).IsNatural number :=
  ⟨_, rfl, fun _ member => isDigit_of_mem_toDigits member,
    Nat.ofDigitChars_toDigits (by decide) (by decide)⟩

theorem word16?_ofNat (word : UInt16) : (ofNat word.toNat).word16? = some word :=
  word16?_eq_some_iff.2 (isNatural_ofNat _)

theorem word32?_ofNat (word : UInt32) : (ofNat word.toNat).word32? = some word :=
  word32?_eq_some_iff.2 (isNatural_ofNat _)

theorem word64?_ofNat (word : UInt64) : (ofNat word.toNat).word64? = some word :=
  word64?_eq_some_iff.2 (isNatural_ofNat _)

/-! ### Readable objects -/

section Object

variable {members : List (List Char × Value)}

theorem readable_memberTokens
    (readable : ∀ member ∈ members, (Token.string member.1).Readable ∧ member.2.Readable) :
    ∀ token ∈ memberTokens members, token.Readable := by
  induction members with
  | nil =>
    intro token member
    rw [List.mem_singleton.1 member]
    rfl
  | cons first members ih =>
    obtain ⟨⟨key, value⟩, others⟩ := List.forall_mem_cons.1 readable
    have further := ih others
    intro token member
    simp only [memberTokens, List.cons_append, List.mem_cons, List.mem_append] at member
    rcases member with rfl | rfl | rfl | inside | behind
    · rfl
    · exact key
    · rfl
    · exact value token inside
    · exact further token behind

/-- An object is readable if its keys and its values are. -/
theorem readable_object
    (readable : ∀ member ∈ members, (Token.string member.1).Readable ∧ member.2.Readable) :
    (object members).Readable := by
  have further := readable_memberTokens readable
  cases members with
  | nil =>
    intro token member
    rcases List.mem_cons.1 member with rfl | last
    · rfl
    · exact further token last
  | cons first members =>
    -- up to the brace in front these are the tokens of further members, without their comma
    intro token member
    simp only [tokens, List.cons_append, List.mem_cons] at member
    rcases member with rfl | inside
    · rfl
    · refine further token (List.mem_cons_of_mem _ ?_)
      simpa using inside

end Object

/-! ### Records -/

/-- A record with a value for each of its fields. -/
def record (members : List (String × Value)) : Value :=
  .object (members.map fun member => (member.1.toList, member.2))

/-- A field that is given once is found under its name. -/
theorem filter_of_nodup {name : String} {value : Value} {members : List (String × Value)}
    (distinct : (members.map Prod.fst).Nodup) (member : (name, value) ∈ members) :
    (members.filter fun other => other.1 = name).map Prod.snd = [value] := by
  induction members with
  | nil => cases member
  | cons first members ih =>
    obtain ⟨fresh, others⟩ := List.nodup_cons.1 distinct
    rcases List.mem_cons.1 member with rfl | later
    · have alone : (members.filter fun other => other.1 = name) = [] := by
        refine List.filter_eq_nil_iff.2 fun other found same => ?_
        exact fresh (List.mem_map.2 ⟨other, found, of_decide_eq_true same⟩)
      simp [alone]
    · have differs : first.1 ≠ name := by
        rintro rfl
        exact fresh (List.mem_map.2 ⟨_, later, rfl⟩)
      simp [differs, ih others later]

end Value

theorem mapM_eq_some_map {α β : Type} {read : α → Option β} {found : α → β} {list : List α}
    (all : ∀ element ∈ list, read element = some (found element)) :
    list.mapM read = some (list.map found) := by
  induction list with
  | nil => rfl
  | cons element list ih =>
    obtain ⟨here, behind⟩ := List.forall_mem_cons.1 all
    simp [here, ih behind]

namespace Value

section Record

variable {names : List String} {members : List (String × Value)}
  (named : members.map Prod.fst = names)
  (plain : ∀ name ∈ names, name.toList.all isPlain = true)
include named plain

/-- **Each field of a record is found under its name**, whatever its value. -/
theorem fields?_record (distinct : names.Nodup) :
    (record members).fields? names = some (members.map fun member => some member.2) := by
  subst named
  have read : nameMembers? (members.map fun member => (member.1.toList, member.2)) =
      some members := by
    unfold nameMembers?
    rw [List.mapM_map, @mapM_eq_some_map _ _ _ id, List.map_id]
    intro member found
    have stands := plain member.1 (List.mem_map.2 ⟨member, found, rfl⟩)
    simp [unescape?_of_plain stands]
  rw [record, fields?_object (named_iff.2 ⟨_, read⟩), List.mapM_map]
  apply mapM_eq_some_map
  intro member found
  show atMostOne (valuesOf member.1 _) = _
  rw [← valuesOf_of_nameMembers? read, filter_of_nodup distinct found]
  rfl

/-- A record is readable if the values of its fields are. -/
theorem readable_record (readable : ∀ member ∈ members, member.2.Readable) :
    (record members).Readable := by
  subst named
  apply readable_object
  intro member written
  obtain ⟨field, found, rfl⟩ := List.mem_map.1 written
  exact ⟨readable_string (plain field.1 (List.mem_map.2 ⟨field, found, rfl⟩)), readable field found⟩

end Record

end Value

end Playout.Json
