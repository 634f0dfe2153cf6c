/-
**Tokens are read as they are written.**

A text spells tokens if it is their texts, one after the other, with blanks anywhere between them.
Where a numeral is spelled, the text must not go on with what would belong to the numeral; all other
tokens end by themselves. A text that spells tokens is read as these, and the tokens of a value take
the machine through the value.

* `splitToken?_append`: a token that is split off a text is split off it whatever follows;
* `Spells.tokens?_eq`: a text that spells tokens is read as these tokens;
* `Value.run?_tokens`: the tokens of a value are read as the value, at any depth;
* `Value.ofTokens?_tokens`: a value is read from its tokens.
-/
import Playout.Json.Value

namespace Playout.Json

/-! ### Where a numeral ends -/

/-- A text that does not go on with a character that a numeral could go on with. -/
def EndsNumeral (text : List Char) : Prop :=
  ∀ c ∈ text.head?, c.isDigit = false ∧ c ≠ '.' ∧ c ≠ 'e' ∧ c ≠ 'E'

theorem endsNumeral_nil : EndsNumeral [] := by
  intro c member
  cases member

theorem endsNumeral_cons {c : Char} {text : List Char}
    (ends : c.isDigit = false ∧ c ≠ '.' ∧ c ≠ 'e' ∧ c ≠ 'E') : EndsNumeral (c :: text) := by
  intro d member
  cases member
  exact ends

section Numerals

variable {text rest part after : List Char} (ends : EndsNumeral rest)
include ends

theorem spanDigits_append (text : List Char) :
    spanDigits (text ++ rest) = ((spanDigits text).1, (spanDigits text).2 ++ rest) := by
  induction text with
  | nil =>
    cases rest with
    | nil => rfl
    | cons c rest =>
      have other := (ends c rfl).1
      simp [spanDigits, other]
  | cons c text ih =>
    by_cases digit : c.isDigit = true
    · simp [spanDigits, digit, ih]
    · simp [spanDigits, digit]

theorem splitDigits?_append (split : splitDigits? text = some (part, after)) :
    splitDigits? (text ++ rest) = some (part, after ++ rest) := by
  have spanned := spanDigits_append ends text
  unfold splitDigits? at split ⊢
  rw [spanned]
  rcases found : spanDigits text with ⟨_ | ⟨c, digits⟩, behind⟩
  · rw [found] at split
    cases split
  · rw [found] at split
    cases split
    rfl

theorem splitWhole?_append (split : splitWhole? text = some (part, after)) :
    splitWhole? (text ++ rest) = some (part, after ++ rest) := by
  cases text with
  | nil => cases split
  | cons c text =>
    simp only [splitWhole?, List.cons_append, spanDigits_append ends] at split ⊢
    by_cases zero : c = '0'
    · rw [if_pos zero] at split ⊢
      cases split
      rfl
    · rw [if_neg zero] at split ⊢
      by_cases digit : c.isDigit = true
      · rw [if_pos digit] at split ⊢
        cases split
        rfl
      · rw [if_neg digit] at split
        cases split

theorem splitFraction?_of_ends : splitFraction? rest = some ([], rest) := by
  cases rest with
  | nil => rfl
  | cons c rest =>
    have point := (ends c rfl).2.1
    unfold splitFraction?
    split
    · next same => cases same; contradiction
    · rfl

theorem splitFraction?_append (split : splitFraction? text = some (part, after)) :
    splitFraction? (text ++ rest) = some (part, after ++ rest) := by
  cases text with
  | nil =>
    cases split
    exact splitFraction?_of_ends ends
  | cons c text =>
    by_cases point : c = '.'
    · subst point
      obtain ⟨⟨digits, behind⟩, found, same⟩ := Option.map_eq_some_iff.1 split
      cases same
      simp only [List.cons_append, splitFraction?, splitDigits?_append ends found, Option.map_some]
    · obtain ⟨rfl, rfl⟩ : [] = part ∧ c :: text = after := by
        simpa [splitFraction?, point] using split
      simp [splitFraction?, point]

theorem splitExponent?_of_ends : splitExponent? rest = some ([], rest) := by
  cases rest with
  | nil => rfl
  | cons c rest =>
    obtain ⟨-, -, small, large⟩ := ends c rfl
    simp [splitExponent?, small, large]

theorem splitExponent?_append (split : splitExponent? text = some (part, after)) :
    splitExponent? (text ++ rest) = some (part, after ++ rest) := by
  cases text with
  | nil =>
    cases split
    exact splitExponent?_of_ends ends
  | cons mark text =>
    by_cases marked : mark = 'e' ∨ mark = 'E'
    · simp only [splitExponent?, List.cons_append, if_pos marked] at split ⊢
      obtain ⟨⟨digits, behind⟩, found, same⟩ := Option.map_eq_some_iff.1 split
      cases same
      have longer := splitDigits?_append ends found
      cases text with
      | nil => cases found
      | cons c text =>
        by_cases plus : c = '+'
        · subst plus
          simp only [List.cons_append] at longer ⊢
          rw [longer]
          rfl
        · by_cases minus : c = '-'
          · subst minus
            simp only [List.cons_append] at longer ⊢
            rw [longer]
            rfl
          · have unsigned : splitDigits? (c :: (text ++ rest)) = some (digits, behind ++ rest) := by
              simpa [plus, minus] using longer
            simp [plus, minus, unsigned]
    · simp only [splitExponent?, List.cons_append, if_neg marked] at split ⊢
      cases split
      rfl

/-- A numeral is split off whatever follows it, if it ends there. -/
theorem splitNumber?_append (split : splitNumber? text = some (part, after)) :
    splitNumber? (text ++ rest) = some (part, after ++ rest) := by
  have written : text ≠ [] := by
    rintro rfl
    cases split
  have signed : splitMinus (text ++ rest) = ((splitMinus text).1, (splitMinus text).2 ++ rest) := by
    obtain ⟨c, text, rfl⟩ := List.exists_cons_of_ne_nil written
    by_cases minus : c = '-'
    · subst minus
      rfl
    · simp [splitMinus, minus]
  unfold splitNumber? at split ⊢
  simp only [Option.bind_eq_some_iff, Option.map_eq_some_iff, Prod.exists, Prod.mk.injEq] at split
  obtain ⟨whole, afterWhole, first, fraction, afterFraction, second, exponent, last, third,
    rfl, rfl⟩ := split
  simp only [signed, splitWhole?_append ends first, splitFraction?_append ends second,
    splitExponent?_append ends third, Option.bind_some, Option.map_some]

end Numerals

/-! ### Where a token ends -/

/-- The body of a string ends with its quote, whatever follows. -/
theorem splitBody?_append {text body after : List Char} (rest : List Char)
    (split : splitBody? text = some (body, after)) :
    splitBody? (text ++ rest) = some (body, after ++ rest) := by
  fun_induction splitBody? text generalizing body after <;>
    simp only [Option.map_eq_some_iff, Prod.exists, Prod.mk.injEq, Option.some.injEq,
      reduceCtorEq] at split
  case case2 => simp [splitBody?, ← split.1, ← split.2]
  case case5 letter text _ escapes ih =>
    obtain ⟨inner, last, found, rfl, rfl⟩ := split
    -- a unit with too few digits is not taken for an escape, so more digits cannot mend it
    have other : letter ≠ 'u' := by
      rintro rfl
      exact absurd escapes (by decide)
    simp [splitBody?, other, escapes, ih found]
  all_goals
    obtain ⟨inner, last, found, rfl, rfl⟩ := split
    simp_all [splitBody?]

namespace Token

/-- A text at which a token ends. Only a numeral depends on what follows. -/
def EndsAt : Token → List Char → Prop
  | .number _, text => EndsNumeral text
  | _, _ => True

end Token

/-- A numeral starts with a minus or a digit. -/
theorem head_of_splitNumber? {c : Char} {text part after : List Char}
    (split : splitNumber? (c :: text) = some (part, after)) : c = '-' ∨ c.isDigit = true := by
  by_cases minus : c = '-'
  · exact .inl minus
  by_cases digit : c.isDigit = true
  · exact .inr digit
  have zero : c ≠ '0' := by
    rintro rfl
    exact digit rfl
  simp [splitNumber?, splitMinus, minus, splitWhole?, zero, digit] at split

/-- What starts with a minus or a digit is a numeral, if any token. -/
theorem splitToken?_of_numeral {c : Char} (text : List Char) (head : c = '-' ∨ c.isDigit = true) :
    splitToken? (c :: text) =
      (splitNumber? (c :: text)).map fun (literal, rest) => (.number literal, rest) := by
  unfold splitToken?
  split
  case h_1 same => cases same
  case h_12 => rfl
  all_goals
    next same =>
      cases same
      exact absurd head (by decide)

/-- **A token is split off a text whatever follows**, if it ends there. -/
theorem splitToken?_append {text rest after : List Char} {token : Token}
    (split : splitToken? text = some (token, after)) (ends : token.EndsAt rest) :
    splitToken? (text ++ rest) = some (token, after ++ rest) := by
  unfold splitToken? at split
  split at split
  case h_1 => cases split
  case h_8 =>
    obtain ⟨⟨body, last⟩, found, same⟩ := Option.map_eq_some_iff.1 split
    cases same
    simp [splitToken?, splitBody?_append rest found]
  case h_12 =>
    obtain ⟨⟨literal, last⟩, found, same⟩ := Option.map_eq_some_iff.1 split
    cases same
    have longer := splitNumber?_append ends found
    cases text with
    | nil => cases found
    | cons c text =>
      rw [List.cons_append] at longer ⊢
      rw [splitToken?_of_numeral _ (head_of_splitNumber? found), longer]
      rfl
  all_goals
    cases split
    rfl

/-- No token starts with a blank. -/
theorem splitToken?_of_blank {c : Char} (text : List Char) (blank : isBlank c = true) :
    splitToken? (c :: text) = none := by
  simp only [isBlank, Bool.or_eq_true, decide_eq_true_eq] at blank
  rcases blank with ((rfl | rfl) | rfl) | rfl <;> rfl

/-! ### Texts that spell tokens -/

/-- A token whose text is read as the token. -/
def Token.Readable (token : Token) : Prop := splitToken? token.text = some (token, [])

/-- A text that is written from tokens, with blanks anywhere between them. -/
inductive Spells : List Token → List Char → Prop
  | nil : Spells [] []
  | blank {c : Char} {tokens : List Token} {text : List Char} (blank : isBlank c = true)
      (rest : Spells tokens text) : Spells tokens (c :: text)
  | token {token : Token} {tokens : List Token} {text : List Char} (readable : token.Readable)
      (ends : token.EndsAt text) (rest : Spells tokens text) :
      Spells (token :: tokens) (token.text ++ text)

/-- The tokens of a text that starts with one. -/
theorem tokens?_of_splitToken? {text after : List Char} {token : Token}
    (split : splitToken? text = some (token, after)) :
    tokens? text = (tokens? after).map (token :: ·) := by
  cases text with
  | nil => cases split
  | cons c text =>
    have dark : ¬ isBlank c = true := by
      intro blank
      cases (splitToken?_of_blank text blank).symm.trans split
    rw [tokens?, if_neg dark]
    split
    · next none =>
      cases none.symm.trans split
    · next found =>
      cases found.symm.trans split
      rfl

/-- **A text that spells tokens is read as these tokens.** -/
theorem Spells.tokens?_eq {tokens : List Token} {text : List Char} (spells : Spells tokens text) :
    tokens? text = some tokens := by
  induction spells with
  | nil => rw [tokens?]
  | blank blank _ ih => rw [tokens?, if_pos blank, ih]
  | token readable ends _ ih =>
    rw [tokens?_of_splitToken? (splitToken?_append readable ends), List.nil_append, ih]
    rfl

/-! ### Tokens that make a value -/

namespace Value

/-- A value does not start with the end of an array. -/
theorem run?_atFirstElement (stack : List Frame) (value : Value) (rest : List Token) :
    State.run? (.atFirstElement stack) (value.tokens ++ rest) =
      State.run? (.atValue (.array [] :: stack)) (value.tokens ++ rest) := by
  rcases value with _ | _ | _ | _ | _ | _
  case array elements => cases elements <;> rfl
  case object members => cases members <;> rfl
  all_goals rfl

mutual

/-- **The tokens of a value take the machine from where a value is due to where it is complete.** -/
theorem run?_tokens (stack : List Frame) (rest : List Token) :
    ∀ value : Value, State.run? (.atValue stack) (value.tokens ++ rest) =
      State.run? (.after stack value) rest
  | .null => rfl
  | .boolean _ => rfl
  | .number _ => rfl
  | .string _ => rfl
  | .array [] => rfl
  | .array (first :: elements) => by
    rw [tokens, List.cons_append, List.cons_append, List.append_assoc]
    show State.run? (.atFirstElement stack) _ = _
    rw [run?_atFirstElement, run?_tokens, run?_elementTokens]
    rfl
  | .object [] => rfl
  | .object ((key, first) :: members) => by
    simp only [tokens, List.cons_append, List.append_assoc]
    show State.run? (.atValue (.object [] key :: stack)) _ = _
    rw [run?_tokens, run?_memberTokens]
    rfl

/-- The further elements of an array complete it. -/
theorem run?_elementTokens (stack : List Frame) (rest : List Token) (before : List Value)
    (last : Value) : ∀ elements : List Value,
      State.run? (.after (.array before :: stack) last) (elementTokens elements ++ rest) =
        State.run? (.after stack (.array (before.reverse ++ last :: elements))) rest
  | [] => by
    show State.run? (.after stack (.array (last :: before).reverse)) rest = _
    rw [List.reverse_cons]
  | value :: elements => by
    rw [elementTokens, List.cons_append, List.cons_append, List.append_assoc]
    show State.run? (.atValue (.array (last :: before) :: stack)) _ = _
    rw [run?_tokens, run?_elementTokens, List.reverse_cons, List.append_assoc,
      List.singleton_append]

/-- The further members of an object complete it. -/
theorem run?_memberTokens (stack : List Frame) (rest : List Token)
    (before : List (List Char × Value)) (key : List Char) (last : Value) :
    ∀ members : List (List Char × Value),
      State.run? (.after (.object before key :: stack) last) (memberTokens members ++ rest) =
        State.run? (.after stack (.object (before.reverse ++ (key, last) :: members))) rest
  | [] => by
    show State.run? (.after stack (.object ((key, last) :: before).reverse)) rest = _
    rw [List.reverse_cons]
  | (name, value) :: members => by
    simp only [memberTokens, List.cons_append, List.append_assoc]
    show State.run? (.atValue (.object ((key, last) :: before) name :: stack)) _ = _
    rw [run?_tokens, run?_memberTokens, List.reverse_cons, List.append_assoc,
      List.singleton_append]

end

/-- The tokens of a value stand for it. -/
theorem ofTokens?_tokens (value : Value) : ofTokens? value.tokens = some value := by
  have ran := run?_tokens [] [] value
  rw [List.append_nil] at ran
  rw [ofTokens?, ran]
  rfl

/-- A value whose literals are read as they are written. -/
def Readable (value : Value) : Prop := ∀ token ∈ value.tokens, token.Readable

end Value

end Playout.Json
