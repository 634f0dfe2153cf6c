/-
**Which texts are numerals.**

A digit of a radix is a character that, once in lower case, is the digit character of a number below
the radix; digits one after the other write the number that they have as positions. Numerals are read
from left to right. That ends with the number if there are only digits, at least one, and the number
is within the limit; it is too large if some of the digits in front already are, whatever follows
them; and otherwise some character is no digit.

* `digit?_eq_some_iff`: what a digit is;
* `readDigits_eq_ok_iff`, `readDigits_eq_tooLarge_iff`: what reading digits comes to;
* `read_eq_ok_iff`, `read_eq_empty_iff`, `read_eq_tooLarge_iff`: the same of numerals with a sign;
* `writes_toDigits`: the digits of a number write it.
-/
import Mathlib.Data.List.Forall2
import Mathlib.Data.Nat.Digits.Defs
import Playout.Numeral

namespace Playout.Numeral

/-! ### Digits -/

/-- A digit of a radix, in either case, with its value. -/
def IsDigit (radix : Nat) (c : Char) (value : Nat) : Prop :=
  value < radix ∧ c.toLower = value.digitChar

theorem toNat_digitChar {value : Nat} (small : value < 16) :
    value.digitChar.toNat = if value < 10 then 48 + value else 87 + value := by
  have all : ∀ value < 16, value.digitChar.toNat = if value < 10 then 48 + value else 87 + value := by
    decide
  exact all value small

theorem toNat_toLower (c : Char) :
    c.toLower.toNat = if 65 ≤ c.toNat ∧ c.toNat ≤ 90 then c.toNat + 32 else c.toNat := by
  have upper : (c.val ≥ 'A'.val ∧ c.val ≤ 'Z'.val) ↔ 65 ≤ c.toNat ∧ c.toNat ≤ 90 := by
    simp only [ge_iff_le, UInt32.le_iff_toNat_le]
    exact Iff.rfl
  unfold Char.toLower
  split
  · next large =>
    rw [if_pos (upper.1 large)]
    have bound := (upper.1 large).2
    show (c.val + ('a'.val - 'A'.val)).toNat = c.val.toNat + 32
    rw [UInt32.toNat_add]
    show (c.toNat + 32) % 2 ^ 32 = c.toNat + 32
    omega
  · next small => rw [if_neg (mt upper.2 small)]

/-- **A digit is read as its value**, and nothing else is. -/
theorem digit?_eq_some_iff {radix : Nat} (small : radix ≤ 16) {c : Char} {value : Nat} :
    digit? radix c = some value ↔ IsDigit radix c value := by
  have decimal : '0' ≤ c ∧ c ≤ '9' ↔ 48 ≤ c.toNat ∧ c.toNat ≤ 57 := Iff.rfl
  have small_letter : 'a' ≤ c ∧ c ≤ 'z' ↔ 97 ≤ c.toNat ∧ c.toNat ≤ 122 := Iff.rfl
  have large_letter : 'A' ≤ c ∧ c ≤ 'Z' ↔ 65 ≤ c.toNat ∧ c.toNat ≤ 90 := Iff.rfl
  have lowered := toNat_toLower c
  have digit : value < radix → value.digitChar.toNat = if value < 10 then 48 + value else 87 + value :=
    fun below => toNat_digitChar (below.trans_le small)
  have zero : '0'.toNat = 48 := rfl
  have lower : 'a'.toNat = 97 := rfl
  have upper : 'A'.toNat = 65 := rfl
  rw [IsDigit, ← Char.toNat_inj, lowered]
  simp only [digit?, decimal, small_letter, large_letter, zero, lower, upper,
    Option.ite_none_right_eq_some, Option.some.injEq]
  constructor
  · rintro ⟨below, same⟩
    rw [same] at below
    rw [digit below]
    refine ⟨below, ?_⟩
    split_ifs at same ⊢ <;> omega
  · rintro ⟨below, same⟩
    rw [digit below] at same
    split_ifs at same ⊢ <;> omega

/-- Every value below the radix has a digit. -/
theorem isDigit_digitChar {radix value : Nat} (small : radix ≤ 16) (below : value < radix) :
    IsDigit radix value.digitChar value := by
  have lowered : ∀ value < 16, value.digitChar.toLower = value.digitChar := by decide
  exact ⟨below, lowered value (below.trans_le small)⟩

/-- The case of a digit does not matter. -/
theorem isDigit_toLower_iff {radix value : Nat} {c : Char} :
    IsDigit radix c.toLower value ↔ IsDigit radix c value := by
  have twice : c.toLower.toLower = c.toLower := by
    apply Char.toNat_inj.1
    rw [toNat_toLower c.toLower, toNat_toLower c]
    split_ifs <;> omega
  rw [IsDigit, IsDigit, twice]

/-! ### Digits one after the other -/

/-- A text of digits, in either case, and the number that they have as positions. -/
def Writes (radix : Nat) (text : List Char) (number : Nat) : Prop :=
  ∃ values, List.Forall₂ (IsDigit radix) text values ∧ Nat.ofDigits radix values.reverse = number

/-- The text goes on, behind its first digits, with whatever it likes, but these alone already write
a number above the limit. -/
def Exceeds (radix limit : Nat) (text : List Char) : Prop :=
  ∃ run, run <+: text ∧ ∃ number, Writes radix run number ∧ limit < number

/-- The number that further digits make of the number of those before. -/
def extend (radix total : Nat) (values : List Nat) : Nat :=
  values.foldl (fun total value => total * radix + value) total

theorem extend_zero (radix : Nat) (values : List Nat) :
    extend radix 0 values = Nat.ofDigits radix values.reverse := by
  rw [Nat.ofDigits_eq_foldr, List.foldr_reverse, extend]
  simp only [Nat.cast_id, Nat.mul_comm radix, Nat.add_comm]

theorem le_extend {radix : Nat} (positive : 0 < radix) (total : Nat) (values : List Nat) :
    total ≤ extend radix total values := by
  induction values generalizing total with
  | nil => exact Nat.le_refl total
  | cons value values ih =>
    calc total ≤ total * radix := Nat.le_mul_of_pos_right total positive
      _ ≤ total * radix + value := Nat.le_add_right ..
      _ ≤ extend radix (total * radix + value) values := ih _

section Reading

variable {radix limit total number : Nat} (small : radix ≤ 16)
include small

/-- Digits begin with one digit, and go on with digits. -/
theorem exists_values_cons_iff {c : Char} {text : List Char} {Holds : List Nat → Prop} :
    (∃ values, List.Forall₂ (IsDigit radix) (c :: text) values ∧ Holds values) ↔
      ∃ value, digit? radix c = some value ∧
        ∃ values, List.Forall₂ (IsDigit radix) text values ∧ Holds (value :: values) := by
  constructor
  · rintro ⟨_ | ⟨value, values⟩, digits, holds⟩
    · cases digits
    · obtain ⟨here, behind⟩ := List.forall₂_cons.1 digits
      exact ⟨value, (digit?_eq_some_iff small).2 here, values, behind, holds⟩
  · rintro ⟨value, here, values, behind, holds⟩
    exact ⟨value :: values, .cons ((digit?_eq_some_iff small).1 here) behind, holds⟩

/-- **A text is read if it is all digits** and their number is within the limit. -/
theorem readDigits_eq_ok_iff (positive : 0 < radix) (start : total ≤ limit) (text : List Char) :
    readDigits radix limit total text = .ok number ↔
      ∃ values, List.Forall₂ (IsDigit radix) text values ∧
        extend radix total values = number ∧ number ≤ limit := by
  induction text generalizing total with
  | nil =>
    constructor
    · rintro ⟨⟩
      exact ⟨[], .nil, rfl, start⟩
    · rintro ⟨values, digits, rfl, -⟩
      cases digits
      rfl
  | cons c text ih =>
    rw [exists_values_cons_iff small, readDigits]
    cases found : digit? radix c with
    | none => simp
    | some value =>
      simp only [Option.some.injEq, exists_eq_left']
      by_cases beyond : limit < total * radix + value
      · rw [if_pos beyond]
        refine iff_of_false (by simp) ?_
        rintro ⟨values, -, rfl, within⟩
        exact absurd ((le_extend positive _ values).trans within) (Nat.not_le.2 beyond)
      · rw [if_neg beyond, ih (Nat.le_of_not_lt beyond)]
        rfl

/-- **A text is too large if the digits in front already are**, whatever follows them. -/
theorem readDigits_eq_tooLarge_iff (start : total ≤ limit) (text : List Char) :
    readDigits radix limit total text = .error .tooLarge ↔
      ∃ run, run <+: text ∧
        ∃ values, List.Forall₂ (IsDigit radix) run values ∧ limit < extend radix total values := by
  induction text generalizing total with
  | nil =>
    refine iff_of_false (by simp [readDigits]) ?_
    rintro ⟨run, front, values, digits, beyond⟩
    rw [List.prefix_nil.1 front] at digits
    cases digits
    exact absurd start (Nat.not_le.2 beyond)
  | cons c text ih =>
    -- no digits at all do not pass the limit, so those that do begin with the first character
    have first : (∃ run, run <+: c :: text ∧ ∃ values,
          List.Forall₂ (IsDigit radix) run values ∧ limit < extend radix total values) ↔
        ∃ run, run <+: text ∧ ∃ values,
          List.Forall₂ (IsDigit radix) (c :: run) values ∧ limit < extend radix total values := by
      constructor
      · rintro ⟨run, front, values, digits, beyond⟩
        rcases List.prefix_cons_iff.1 front with rfl | ⟨rest, rfl, behind⟩
        · cases digits
          exact absurd start (Nat.not_le.2 beyond)
        · exact ⟨rest, behind, values, digits, beyond⟩
      · rintro ⟨run, front, held⟩
        exact ⟨c :: run, (List.prefix_cons_inj c).2 front, held⟩
    simp only [first, exists_values_cons_iff small, readDigits]
    cases found : digit? radix c with
    | none => simp
    | some value =>
      simp only [Option.some.injEq, exists_eq_left']
      by_cases beyond : limit < total * radix + value
      · rw [if_pos beyond]
        exact iff_of_true rfl ⟨[], List.nil_prefix, [], .nil, beyond⟩
      · rw [if_neg beyond, ih (Nat.le_of_not_lt beyond)]
        rfl

end Reading

/-- Digits that are read are never missing. -/
theorem readDigits_ne_empty (radix limit total : Nat) (text : List Char) :
    readDigits radix limit total text ≠ .error .empty := by
  induction text generalizing total with
  | nil => simp [readDigits]
  | cons c text ih =>
    rw [readDigits]
    cases digit? radix c with
    | none => simp
    | some value =>
      dsimp only
      split
      · simp
      · exact ih _

/-! ### Numerals with a sign -/

/-- What may stand before the digits of a numeral. -/
def signs : List (List Char) := [[], ['+']]

/-- A numeral: a sign or none, and at least one digit. -/
def Spelled (radix : Nat) (text : List Char) (number : Nat) : Prop :=
  ∃ sign ∈ signs, ∃ digits, text = sign ++ digits ∧ digits ≠ [] ∧ Writes radix digits number

/-- Behind a sign or none, the text begins with digits of a number above the limit. -/
def TooLarge (radix limit : Nat) (text : List Char) : Prop :=
  ∃ sign ∈ signs, ∃ rest, text = sign ++ rest ∧ Exceeds radix limit rest

/-- A text without its sign. -/
def unsigned : List Char → List Char
  | '+' :: rest => rest
  | text => text

/-- What holds behind a sign or none, but never from the sign on, holds without the sign. -/
theorem exists_sign_iff {text : List Char} {Holds : List Char → Prop}
    (plus : ∀ rest, ¬ Holds ('+' :: rest)) :
    (∃ sign ∈ signs, ∃ rest, text = sign ++ rest ∧ Holds rest) ↔ Holds (unsigned text) := by
  have alone : (∃ sign ∈ signs, ∃ rest, text = sign ++ rest ∧ Holds rest) ↔
      Holds text ∨ ∃ rest, text = '+' :: rest ∧ Holds rest := by
    simp [signs]
  rw [alone]
  unfold unsigned
  split
  · next rest => simp [plus]
  · next other => exact or_iff_left fun ⟨rest, same, _⟩ => other rest same

/-- No digit is a plus. -/
theorem not_isDigit_plus {radix value : Nat} (small : radix ≤ 16) : ¬ IsDigit radix '+' value := by
  rintro ⟨below, same⟩
  have all : ∀ value < 16, '+'.toLower ≠ value.digitChar := by decide
  exact all value (below.trans_le small) same

theorem writes_nil_iff {radix number : Nat} : Writes radix [] number ↔ number = 0 := by
  simp [Writes, eq_comm]

theorem not_exceeds_nil (radix limit : Nat) : ¬ Exceeds radix limit [] := by
  rintro ⟨run, front, number, writes, beyond⟩
  rw [List.prefix_nil.1 front, writes_nil_iff] at writes
  omega

section Signed

variable {radix : Nat} (small : radix ≤ 16)
include small

theorem not_writes_plus (rest : List Char) (number : Nat) : ¬ Writes radix ('+' :: rest) number := by
  rintro ⟨_ | ⟨value, values⟩, digits, -⟩
  · cases digits
  · exact not_isDigit_plus small (List.forall₂_cons.1 digits).1

theorem not_exceeds_plus (limit : Nat) (rest : List Char) : ¬ Exceeds radix limit ('+' :: rest) := by
  rintro ⟨run, front, number, writes, beyond⟩
  rcases List.prefix_cons_iff.1 front with rfl | ⟨behind, rfl, -⟩
  · rw [writes_nil_iff] at writes
    omega
  · exact not_writes_plus small behind number writes

theorem spelled_iff {text : List Char} {number : Nat} :
    Spelled radix text number ↔ unsigned text ≠ [] ∧ Writes radix (unsigned text) number :=
  exists_sign_iff fun rest held => not_writes_plus small rest number held.2

theorem tooLarge_iff {limit : Nat} {text : List Char} :
    TooLarge radix limit text ↔ Exceeds radix limit (unsigned text) :=
  exists_sign_iff (not_exceeds_plus small limit)

end Signed

/-- The ways in which a text is taken up: it is empty, or nothing but a sign, or its digits are read. -/
theorem read_cases (radix limit : Nat) (text : List Char) :
    text = [] ∧ read radix limit text = .error .empty ∨
      text ≠ [] ∧ unsigned text = [] ∧ read radix limit text = .error .invalidDigit ∨
      unsigned text ≠ [] ∧ read radix limit text = readDigits radix limit 0 (unsigned text) := by
  rcases text with _ | ⟨c, rest⟩
  · exact .inl ⟨rfl, rfl⟩
  by_cases plus : c = '+'
  · subst plus
    cases rest with
    | nil => exact .inr (.inl ⟨List.cons_ne_nil _ _, rfl, rfl⟩)
    | cons digit rest => exact .inr (.inr ⟨List.cons_ne_nil _ _, rfl⟩)
  · have bare : unsigned (c :: rest) = c :: rest := by simp [unsigned, plus]
    rw [bare]
    exact .inr (.inr ⟨List.cons_ne_nil c rest, by simp [read, plus]⟩)

variable {radix limit : Nat}

/-- **A numeral within the limit is read as its number**, and nothing else is. -/
theorem read_eq_ok_iff (small : radix ≤ 16) (positive : 0 < radix) {text : List Char} {number : Nat} :
    read radix limit text = .ok number ↔ Spelled radix text number ∧ number ≤ limit := by
  rw [spelled_iff small]
  rcases read_cases radix limit text with ⟨rfl, read⟩ | ⟨-, none, read⟩ | ⟨some, read⟩
  · simp [read, unsigned]
  · simp [read, none]
  · simp [read, readDigits_eq_ok_iff small positive (Nat.zero_le limit), extend_zero, some, Writes,
      ← and_assoc]

theorem read_eq_empty_iff {text : List Char} :
    read radix limit text = .error .empty ↔ text = [] := by
  rcases read_cases radix limit text with ⟨rfl, read⟩ | ⟨written, -, read⟩ | ⟨some, read⟩
  · simp [read]
  · simp [read, written]
  · rw [read]
    refine iff_of_false (readDigits_ne_empty _ _ _ _) ?_
    rintro rfl
    exact some rfl

/-- **A text is too large if some digits in front are**, behind a sign or none. -/
theorem read_eq_tooLarge_iff (small : radix ≤ 16) {text : List Char} :
    read radix limit text = .error .tooLarge ↔ TooLarge radix limit text := by
  rw [tooLarge_iff small]
  rcases read_cases radix limit text with ⟨rfl, read⟩ | ⟨-, none, read⟩ | ⟨-, read⟩
  · simp [read, unsigned, not_exceeds_nil]
  · simp [read, none, not_exceeds_nil]
  · simp [read, readDigits_eq_tooLarge_iff small (Nat.zero_le limit), extend_zero, Exceeds, Writes]

/-! ### The digits of a number -/

theorem Writes.concat {text : List Char} {number value : Nat} {c : Char}
    (writes : Writes radix text number) (digit : IsDigit radix c value) :
    Writes radix (text ++ [c]) (number * radix + value) := by
  obtain ⟨values, digits, rfl⟩ := writes
  refine ⟨values ++ [value], List.rel_append digits (.cons digit .nil), ?_⟩
  rw [List.reverse_concat, Nat.ofDigits_cons, Nat.mul_comm, Nat.add_comm]

/-- The digits of a number write it. -/
theorem writes_toDigits (small : radix ≤ 16) (several : 1 < radix) (number : Nat) :
    Writes radix (Nat.toDigits radix number) number := by
  induction number using Nat.strongRecOn with
  | ind number ih =>
    by_cases single : number < radix
    · rw [Nat.toDigits_of_lt_base single]
      exact ⟨[number], .cons (isDigit_digitChar small single) .nil, by simp⟩
    · have reached := Nat.le_of_not_lt single
      have shorter := ih (number / radix) (Nat.div_lt_self (by omega) several)
      have last := isDigit_digitChar small (Nat.mod_lt number (by omega))
      have whole := shorter.concat last
      rw [Nat.mul_comm, Nat.div_add_mod] at whole
      rwa [Nat.toDigits_of_base_le several reached]

/-- The case of the digits does not matter. -/
theorem writes_map_toLower_iff {text : List Char} {number : Nat} :
    Writes radix (text.map Char.toLower) number ↔ Writes radix text number := by
  simp only [Writes, List.forall₂_map_left_iff, isDigit_toLower_iff]

/-- Zeros in front do not matter. -/
theorem Writes.zeros {text : List Char} {number : Nat} (small : radix ≤ 16) (positive : 0 < radix)
    (writes : Writes radix text number) (count : Nat) :
    Writes radix (List.replicate count '0' ++ text) number := by
  induction count with
  | zero => exact writes
  | succ count ih =>
    obtain ⟨values, digits, same⟩ := ih
    refine ⟨0 :: values, .cons (isDigit_digitChar small positive) digits, ?_⟩
    rw [← extend_zero, extend, List.foldl_cons, Nat.zero_mul]
    rwa [← extend_zero] at same

end Playout.Numeral
