/-
**The grammar of numerals and strings.**

What a numeral and what the body of a string may look like is said here part by part, apart from how
a text is split. A numeral or a string of the grammar is split off its text as a whole, and nothing
else is ever split off. So a token is readable just if its literal follows the grammar.

* `IsNumeral`, `IsBody`: the grammar;
* `isNumeral_of_splitNumber?`, `isBody_of_splitBody?`: what is split off follows it;
* `splitNumber?_of_isNumeral`, `splitBody?_of_isBody`: what follows it is split off;
* `Token.readable_iff`: both together, for every token.
-/
import Playout.Proofs.Json.Reading

namespace Playout.Json

/-! ### Numerals -/

/-- Digits, possibly none. -/
def AreDigits (text : List Char) : Prop := ∀ c ∈ text, c.isDigit = true

instance (text : List Char) : Decidable (AreDigits text) :=
  List.decidableBAll (fun c : Char => c.isDigit = true) text

/-- The whole part of a numeral: a zero alone, or digits that do not start with zero. -/
def IsWhole (text : List Char) : Prop :=
  text ≠ [] ∧ AreDigits text ∧ (text.head? = some '0' → text = ['0'])

/-- The fraction of a numeral: none, or a point and digits. -/
def IsFraction (text : List Char) : Prop :=
  text = [] ∨ ∃ digits, text = '.' :: digits ∧ digits ≠ [] ∧ AreDigits digits

/-- The exponent of a numeral: none, or a mark, a sign or none, and digits. -/
def IsExponent (text : List Char) : Prop :=
  text = [] ∨ ∃ mark ∈ ['e', 'E'], ∃ sign ∈ [[], ['+'], ['-']], ∃ digits,
    text = mark :: (sign ++ digits) ∧ digits ≠ [] ∧ AreDigits digits

/-- A numeral: a minus or none, a whole part, a fraction and an exponent. -/
def IsNumeral (text : List Char) : Prop :=
  ∃ sign ∈ [[], ['-']], ∃ whole fraction exponent,
    text = sign ++ (whole ++ (fraction ++ exponent)) ∧
      IsWhole whole ∧ IsFraction fraction ∧ IsExponent exponent

/-! ### What is split off is a numeral -/

section Sound

variable {text part after : List Char}

theorem areDigits_spanDigits (text : List Char) : AreDigits (spanDigits text).1 := by
  induction text with
  | nil =>
    intro c member
    cases member
  | cons c text ih =>
    by_cases digit : c.isDigit = true
    · simpa [spanDigits, digit, AreDigits] using ih
    · simp [spanDigits, digit, AreDigits]

theorem areDigits_of_splitDigits? (split : splitDigits? text = some (part, after)) :
    part ≠ [] ∧ AreDigits part := by
  have all := areDigits_spanDigits text
  unfold splitDigits? at split
  rcases found : spanDigits text with ⟨_ | ⟨c, digits⟩, behind⟩
  · rw [found] at split
    cases split
  · rw [found] at split all
    cases split
    exact ⟨List.cons_ne_nil c digits, all⟩

theorem isWhole_of_splitWhole? (split : splitWhole? text = some (part, after)) :
    IsWhole part := by
  cases text with
  | nil => cases split
  | cons c text =>
    by_cases zero : c = '0'
    · rw [splitWhole?, if_pos zero] at split
      cases split
      simp [IsWhole, AreDigits]
    · rw [splitWhole?, if_neg zero] at split
      by_cases digit : c.isDigit = true
      · rw [if_pos digit] at split
        cases split
        refine ⟨by simp, List.forall_mem_cons.2 ⟨digit, areDigits_spanDigits text⟩, ?_⟩
        simp [zero]
      · rw [if_neg digit] at split
        cases split

theorem isFraction_of_splitFraction? (split : splitFraction? text = some (part, after)) :
    IsFraction part := by
  unfold splitFraction? at split
  split at split
  · obtain ⟨⟨digits, last⟩, found, same⟩ := Option.map_eq_some_iff.1 split
    cases same
    exact .inr ⟨digits, rfl, areDigits_of_splitDigits? found⟩
  · cases split
    exact .inl rfl

theorem isExponent_of_splitExponent? (split : splitExponent? text = some (part, after)) :
    IsExponent part := by
  unfold splitExponent? at split
  split at split
  · cases split
    exact .inl rfl
  · next mark rest =>
    by_cases marked : mark = 'e' ∨ mark = 'E'
    · rw [if_pos marked] at split
      obtain ⟨⟨digits, last⟩, found, same⟩ := Option.map_eq_some_iff.1 split
      cases same
      refine .inr ⟨mark, by simpa using marked, _, ?_, digits, rfl, areDigits_of_splitDigits? found⟩
      split <;> simp
    · rw [if_neg marked] at split
      cases split
      exact .inl rfl

/-- **What is split off as a numeral is a numeral.** -/
theorem isNumeral_of_splitNumber? (split : splitNumber? text = some (part, after)) :
    IsNumeral part := by
  have signs : (splitMinus text).1 ∈ [[], ['-']] := by
    unfold splitMinus
    split <;> simp
  unfold splitNumber? at split
  simp only [Option.bind_eq_some_iff, Option.map_eq_some_iff, Prod.exists, Prod.mk.injEq] at split
  obtain ⟨whole, afterWhole, first, fraction, afterFraction, second, exponent, last, third,
    rfl, rfl⟩ := split
  exact ⟨_, signs, whole, fraction, exponent, by simp only [List.append_assoc],
    isWhole_of_splitWhole? first, isFraction_of_splitFraction? second,
    isExponent_of_splitExponent? third⟩

end Sound

/-! ### A numeral is split off -/

/-- A text that does not go on with a digit. -/
def StopsDigits (text : List Char) : Prop := ∀ c ∈ text.head?, c.isDigit = false

theorem stopsDigits_nil : StopsDigits [] := by
  intro c member
  cases member

section Complete

variable {digits rest : List Char}

theorem spanDigits_of_stops (all : AreDigits digits) (stops : StopsDigits rest) :
    spanDigits (digits ++ rest) = (digits, rest) := by
  induction digits with
  | nil =>
    cases rest with
    | nil => rfl
    | cons c rest =>
      have other := stops c rfl
      simp [spanDigits, other]
  | cons c digits ih =>
    obtain ⟨here, behind⟩ := List.forall_mem_cons.1 all
    simp [spanDigits, here, ih behind]

theorem splitDigits?_of_stops (written : digits ≠ []) (all : AreDigits digits)
    (stops : StopsDigits rest) : splitDigits? (digits ++ rest) = some (digits, rest) := by
  rw [splitDigits?, spanDigits_of_stops all stops]
  cases digits with
  | nil => contradiction
  | cons c digits => rfl

theorem splitWhole?_of_isWhole (whole : IsWhole digits) (stops : StopsDigits rest) :
    splitWhole? (digits ++ rest) = some (digits, rest) := by
  obtain ⟨written, all, alone⟩ := whole
  obtain ⟨c, digits, rfl⟩ := List.exists_cons_of_ne_nil written
  obtain ⟨here, behind⟩ := List.forall_mem_cons.1 all
  by_cases zero : c = '0'
  · subst zero
    cases alone rfl
    rfl
  · simp [splitWhole?, zero, here, spanDigits_of_stops behind stops]

/-- An exponent starts with its mark. -/
theorem IsExponent.head {exponent : List Char} (isExponent : IsExponent exponent) :
    ∀ c ∈ exponent.head?, c = 'e' ∨ c = 'E' := by
  intro c member
  rcases isExponent with rfl | ⟨mark, marks, sign, -, digits, rfl, -⟩
  · cases member
  · cases member
    simpa using marks

theorem IsExponent.stopsDigits {exponent : List Char} (isExponent : IsExponent exponent) :
    StopsDigits exponent := by
  intro c member
  rcases isExponent.head c member with rfl | rfl <;> rfl

theorem IsFraction.stopsDigits {fraction exponent : List Char} (isFraction : IsFraction fraction)
    (isExponent : IsExponent exponent) : StopsDigits (fraction ++ exponent) := by
  rcases isFraction with rfl | ⟨digits, rfl, -⟩
  · exact isExponent.stopsDigits
  · intro c member
    cases member
    rfl

theorem splitFraction?_of_isFraction {fraction exponent : List Char}
    (isFraction : IsFraction fraction) (isExponent : IsExponent exponent) :
    splitFraction? (fraction ++ exponent) = some (fraction, exponent) := by
  rcases isFraction with rfl | ⟨digits, rfl, written, all⟩
  · unfold splitFraction?
    split
    · next same =>
      rcases isExponent.head '.' (by rw [← List.nil_append exponent, same]; rfl) with point | point
        <;> exact absurd point (by decide)
    · rfl
  · rw [List.cons_append, splitFraction?,
      splitDigits?_of_stops written all isExponent.stopsDigits]
    rfl

theorem splitExponent?_of_isExponent {exponent : List Char} (isExponent : IsExponent exponent) :
    splitExponent? exponent = some (exponent, []) := by
  rcases isExponent with rfl | ⟨mark, marks, sign, signs, digits, rfl, written, all⟩
  · rfl
  · have marked : mark = 'e' ∨ mark = 'E' := by simpa using marks
    have split := splitDigits?_of_stops written all stopsDigits_nil
    rw [List.append_nil] at split
    simp only [List.mem_cons, List.not_mem_nil, or_false] at signs
    rcases signs with rfl | rfl | rfl
    · obtain ⟨c, digits, rfl⟩ := List.exists_cons_of_ne_nil written
      have digit := all c (.head _)
      have plus : c ≠ '+' := by
        rintro rfl
        exact absurd digit (by decide)
      have minus : c ≠ '-' := by
        rintro rfl
        exact absurd digit (by decide)
      simp [splitExponent?, if_pos marked, plus, minus, split]
    · simp [splitExponent?, if_pos marked, split]
    · simp [splitExponent?, if_pos marked, split]

/-- **A numeral is split off as a whole.** -/
theorem splitNumber?_of_isNumeral {literal : List Char} (numeral : IsNumeral literal) :
    splitNumber? literal = some (literal, []) := by
  obtain ⟨sign, signs, whole, fraction, exponent, rfl, isWhole, isFraction, isExponent⟩ := numeral
  have unsigned : splitMinus (sign ++ (whole ++ (fraction ++ exponent))) =
      (sign, whole ++ (fraction ++ exponent)) := by
    obtain ⟨written, all, -⟩ := isWhole
    obtain ⟨c, digits, rfl⟩ := List.exists_cons_of_ne_nil written
    have digit := all c (.head _)
    have minus : c ≠ '-' := by
      rintro rfl
      exact absurd digit (by decide)
    simp only [List.mem_cons, List.not_mem_nil, or_false] at signs
    rcases signs with rfl | rfl
    · simp [splitMinus, minus]
    · rfl
  simp [splitNumber?, unsigned,
    splitWhole?_of_isWhole isWhole (isFraction.stopsDigits isExponent),
    splitFraction?_of_isFraction isFraction isExponent, splitExponent?_of_isExponent isExponent]

end Complete

/-- A numeral starts with a minus or a digit. -/
theorem IsNumeral.head {literal : List Char} (numeral : IsNumeral literal) :
    ∃ c rest, literal = c :: rest ∧ (c = '-' ∨ c.isDigit = true) := by
  have split := splitNumber?_of_isNumeral numeral
  cases literal with
  | nil => cases split
  | cons c rest => exact ⟨c, rest, rfl, head_of_splitNumber? split⟩

/-! ### Strings -/

/-- A character that stands for itself in a string. -/
def isPlain (c : Char) : Bool := c ≠ '"' && c ≠ '\\' && 0x20 ≤ c.toNat

theorem isPlain_iff {c : Char} : isPlain c = true ↔ c ≠ '"' ∧ c ≠ '\\' ∧ 0x20 ≤ c.toNat := by
  simp [isPlain, and_assoc]

/-- The body of a string: characters that stand for themselves, letters behind a backslash, and code
units of four hexadecimal digits. -/
inductive IsBody : List Char → Prop
  | nil : IsBody []
  | plain {c : Char} {body : List Char} (plain : isPlain c = true) (rest : IsBody body) :
      IsBody (c :: body)
  | escape {letter : Char} {body : List Char} (escapes : isEscapeLetter letter = true)
      (rest : IsBody body) : IsBody ('\\' :: letter :: body)
  | unit {a b c d : Char} {body : List Char} (digits : [a, b, c, d].all isHexDigit = true)
      (rest : IsBody body) : IsBody ('\\' :: 'u' :: a :: b :: c :: d :: body)

/-- **What is split off as the body of a string is one.** -/
theorem isBody_of_splitBody? {text body after : List Char}
    (split : splitBody? text = some (body, after)) : IsBody body := by
  fun_induction splitBody? text generalizing body after <;>
    simp only [Option.map_eq_some_iff, Prod.exists, Prod.mk.injEq, Option.some.injEq,
      reduceCtorEq] at split
  case case2 =>
    rw [← split.1]
    exact .nil
  case case3 digits ih =>
    obtain ⟨inner, last, found, rfl, rfl⟩ := split
    exact .unit digits (ih found)
  case case5 escapes ih =>
    obtain ⟨inner, last, found, rfl, rfl⟩ := split
    exact .escape escapes (ih found)
  case case8 quote _ _ printed ih =>
    obtain ⟨inner, last, found, rfl, rfl⟩ := split
    refine .plain (isPlain_iff.2 ⟨?_, ?_, ?_⟩) (ih found)
    · rintro rfl
      exact quote rfl
    · exact fun backslash => printed (.inl backslash)
    · exact Nat.le_of_not_lt fun low => printed (.inr low)

/-- **The body of a string is split off up to its quote.** -/
theorem splitBody?_of_isBody {body : List Char} (isBody : IsBody body) :
    splitBody? (body ++ ['"']) = some (body, []) := by
  induction isBody with
  | nil => rfl
  | plain plain _ ih =>
    obtain ⟨quote, backslash, printed⟩ := isPlain_iff.1 plain
    simp [splitBody?, backslash, Nat.not_lt.2 printed, ih]
  | @escape letter body escapes _ ih =>
    have other : letter ≠ 'u' := by
      rintro rfl
      exact absurd escapes (by decide)
    simp [splitBody?, other, escapes, ih]
  | unit digits _ ih => simp_all [splitBody?]

/-! ### Tokens -/

/-- A token whose literal follows the grammar. -/
def Token.Formed : Token → Prop
  | .number literal => IsNumeral literal
  | .string body => IsBody body
  | _ => True

/-- What is split off a text follows the grammar. -/
theorem formed_of_splitToken? {text after : List Char} {token : Token}
    (split : splitToken? text = some (token, after)) : token.Formed := by
  unfold splitToken? at split
  split at split
  case h_1 => cases split
  case h_8 =>
    obtain ⟨⟨body, last⟩, found, same⟩ := Option.map_eq_some_iff.1 split
    cases same
    exact isBody_of_splitBody? found
  case h_12 =>
    obtain ⟨⟨literal, last⟩, found, same⟩ := Option.map_eq_some_iff.1 split
    cases same
    exact isNumeral_of_splitNumber? found
  all_goals
    cases split
    trivial

/-- **A token is read as it is written just if its literal follows the grammar.** -/
theorem Token.readable_iff (token : Token) : token.Readable ↔ token.Formed := by
  refine ⟨formed_of_splitToken?, fun formed => ?_⟩
  cases token
  case number literal =>
    have split := splitNumber?_of_isNumeral formed
    obtain ⟨c, rest, rfl, head⟩ := formed.head
    show splitToken? (c :: rest) = _
    rw [splitToken?_of_numeral rest head, split]
    rfl
  case string body =>
    show (splitBody? (body ++ ['"'])).map _ = _
    rw [splitBody?_of_isBody formed]
    rfl
  case boolean value => cases value <;> rfl
  all_goals rfl

end Playout.Json
