/-
**The tokens of a JSON text.**

A token keeps what it was written as: a numeral its literal, a string the text between its quotes.
So a text is its tokens, one after the other, with blanks between them. Only the form is checked
here; which number or characters a literal stands for is asked where it is used.

* `Token.text`: what a token is written as;
* `append_of_splitToken?`: what a token was split off from is its text and the rest;
* `tokens?`: the tokens of a text, if it falls apart into tokens and blanks.
-/

namespace Playout.Json

/-- The smallest pieces of a JSON text. -/
inductive Token where
  | openObject
  | closeObject
  | openArray
  | closeArray
  | comma
  | colon
  | null
  | boolean (value : Bool)
  | number (literal : List Char)
  /-- A string, by what stands between its quotes. -/
  | string (body : List Char)
deriving DecidableEq, Repr

/-- What a token is written as. -/
def Token.text : Token → List Char
  | .openObject => ['\x7b']
  | .closeObject => ['\x7d']
  | .openArray => ['[']
  | .closeArray => [']']
  | .comma => [',']
  | .colon => [':']
  | .null => ['n', 'u', 'l', 'l']
  | .boolean true => ['t', 'r', 'u', 'e']
  | .boolean false => ['f', 'a', 'l', 's', 'e']
  | .number literal => literal
  | .string body => '"' :: body ++ ['"']

/-- The characters that may stand between tokens. -/
def isBlank (c : Char) : Bool :=
  c = ' ' || c = '\t' || c = '\r' || c = '\n'

/-! ### Numerals -/

/-- Split the digits off the front of a text. -/
def spanDigits : List Char → List Char × List Char
  | [] => ([], [])
  | c :: rest =>
    if c.isDigit then
      let (digits, after) := spanDigits rest
      (c :: digits, after)
    else ([], c :: rest)

/-- Split the whole part of a numeral off: a zero alone, or digits that do not start with zero. -/
def splitWhole? : List Char → Option (List Char × List Char)
  | [] => none
  | c :: rest =>
    if c = '0' then some (['0'], rest)
    else if c.isDigit then
      let (digits, after) := spanDigits rest
      some (c :: digits, after)
    else none

/-- Split one or more digits off. -/
def splitDigits? (text : List Char) : Option (List Char × List Char) :=
  match spanDigits text with
  | ([], _) => none
  | split => some split

/-- Split a point and digits off, if there is a point. -/
def splitFraction? : List Char → Option (List Char × List Char)
  | '.' :: rest => (splitDigits? rest).map fun (digits, after) => ('.' :: digits, after)
  | text => some ([], text)

/-- Split a mark, an optional sign and digits off, if there is a mark. -/
def splitExponent? : List Char → Option (List Char × List Char)
  | [] => some ([], [])
  | mark :: rest =>
    if mark = 'e' ∨ mark = 'E' then
      let (sign, digits) :=
        match rest with
        | '+' :: rest => (['+'], rest)
        | '-' :: rest => (['-'], rest)
        | _ => ([], rest)
      (splitDigits? digits).map fun (digits, after) => (mark :: sign ++ digits, after)
    else some ([], mark :: rest)

/-- Split a minus off, if there is one. -/
def splitMinus : List Char → List Char × List Char
  | '-' :: rest => (['-'], rest)
  | text => ([], text)

/-- Split a numeral off the front of a text. -/
def splitNumber? (text : List Char) : Option (List Char × List Char) :=
  let (sign, unsigned) := splitMinus text
  (splitWhole? unsigned).bind fun (whole, afterWhole) =>
    (splitFraction? afterWhole).bind fun (fraction, afterFraction) =>
      (splitExponent? afterFraction).map fun (exponent, rest) =>
        (sign ++ whole ++ fraction ++ exponent, rest)

/-! ### Strings -/

/-- A hexadecimal digit in either case. -/
def isHexDigit (c : Char) : Bool :=
  c.isDigit || ('a' ≤ c && c ≤ 'f') || ('A' ≤ c && c ≤ 'F')

/-- The letters that may follow a backslash, other than the one before a code unit. -/
def isEscapeLetter (c : Char) : Bool :=
  c ∈ ['"', '\\', '/', 'b', 'f', 'n', 'r', 't']

/-- Split the body of a string off, up to and without the quote that closes it. -/
def splitBody? : List Char → Option (List Char × List Char)
  | [] => none
  | '"' :: rest => some ([], rest)
  | '\\' :: 'u' :: a :: b :: c :: d :: rest =>
    if [a, b, c, d].all isHexDigit then
      (splitBody? rest).map fun (body, after) => ('\\' :: 'u' :: a :: b :: c :: d :: body, after)
    else none
  | '\\' :: letter :: rest =>
    if isEscapeLetter letter then
      (splitBody? rest).map fun (body, after) => ('\\' :: letter :: body, after)
    else none
  | c :: rest =>
    if c = '\\' ∨ c.toNat < 0x20 then none
    else (splitBody? rest).map fun (body, after) => (c :: body, after)

/-! ### Texts -/

/-- Split a token off the front of a text. -/
def splitToken? : List Char → Option (Token × List Char)
  | [] => none
  | '\x7b' :: rest => some (.openObject, rest)
  | '\x7d' :: rest => some (.closeObject, rest)
  | '[' :: rest => some (.openArray, rest)
  | ']' :: rest => some (.closeArray, rest)
  | ',' :: rest => some (.comma, rest)
  | ':' :: rest => some (.colon, rest)
  | '"' :: rest => (splitBody? rest).map fun (body, after) => (.string body, after)
  | 'n' :: 'u' :: 'l' :: 'l' :: rest => some (.null, rest)
  | 't' :: 'r' :: 'u' :: 'e' :: rest => some (.boolean true, rest)
  | 'f' :: 'a' :: 'l' :: 's' :: 'e' :: rest => some (.boolean false, rest)
  | text => (splitNumber? text).map fun (literal, rest) => (.number literal, rest)

/-! ### Nothing is lost -/

theorem append_spanDigits (text : List Char) :
    (spanDigits text).1 ++ (spanDigits text).2 = text := by
  induction text with
  | nil => rfl
  | cons c rest ih =>
    unfold spanDigits
    split
    · simp [ih]
    · rfl

theorem append_of_splitDigits? {text digits rest : List Char}
    (split : splitDigits? text = some (digits, rest)) : digits ++ rest = text := by
  have whole := append_spanDigits text
  unfold splitDigits? at split
  split at split <;> simp_all

theorem append_of_splitWhole? {text whole rest : List Char}
    (split : splitWhole? text = some (whole, rest)) : whole ++ rest = text ∧ whole ≠ [] := by
  unfold splitWhole? at split
  have digits := fun after => append_spanDigits after
  grind

theorem append_of_splitFraction? {text fraction rest : List Char}
    (split : splitFraction? text = some (fraction, rest)) : fraction ++ rest = text := by
  unfold splitFraction? at split
  split at split
  · obtain ⟨⟨digits, last⟩, found, same⟩ := Option.map_eq_some_iff.1 split
    have whole := append_of_splitDigits? found
    grind
  · grind

theorem append_of_splitExponent? {text exponent rest : List Char}
    (split : splitExponent? text = some (exponent, rest)) : exponent ++ rest = text := by
  unfold splitExponent? at split
  split at split
  · grind
  · split at split
    · obtain ⟨⟨digits, last⟩, found, same⟩ := Option.map_eq_some_iff.1 split
      have whole := append_of_splitDigits? found
      grind
    · grind

theorem append_splitMinus (text : List Char) :
    (splitMinus text).1 ++ (splitMinus text).2 = text := by
  unfold splitMinus
  split <;> rfl

/-- What a numeral was split off from is its literal and the rest. -/
theorem append_of_splitNumber? {text literal rest : List Char}
    (split : splitNumber? text = some (literal, rest)) :
    literal ++ rest = text ∧ literal ≠ [] := by
  unfold splitNumber? at split
  simp only [Option.bind_eq_some_iff, Option.map_eq_some_iff, Prod.exists, Prod.mk.injEq] at split
  obtain ⟨whole, afterWhole, first, fraction, afterFraction, second, exponent, last, third,
    same, rfl⟩ := split
  have signAppend := append_splitMinus text
  obtain ⟨wholeAppend, wholeWritten⟩ := append_of_splitWhole? first
  have fractionAppend := append_of_splitFraction? second
  have exponentAppend := append_of_splitExponent? third
  constructor
  · rw [← same, List.append_assoc, exponentAppend, List.append_assoc, fractionAppend,
      List.append_assoc, wholeAppend, signAppend]
  · simp [← same, wholeWritten]

/-- What the body of a string was split off from is the body, a quote and the rest. -/
theorem append_of_splitBody? {text body rest : List Char}
    (split : splitBody? text = some (body, rest)) : body ++ '"' :: rest = text := by
  fun_induction splitBody? text generalizing body rest <;>
    simp only [Option.map_eq_some_iff, Prod.exists, Prod.mk.injEq, Option.some.injEq,
      reduceCtorEq] at split
  case case2 => simp [← split.1, split.2]
  all_goals
    obtain ⟨inner, last, found, rfl, rfl⟩ := split
    simp_all

/-- What a token was split off from is its text and the rest. -/
theorem append_of_splitToken? {text : List Char} {token : Token} {rest : List Char}
    (split : splitToken? text = some (token, rest)) :
    token.text ++ rest = text ∧ token.text ≠ [] := by
  unfold splitToken? at split
  split at split
  case h_1 => simp at split
  case h_8 =>
    obtain ⟨⟨body, last⟩, found, same⟩ := Option.map_eq_some_iff.1 split
    have whole := append_of_splitBody? found
    grind [Token.text]
  case h_12 =>
    obtain ⟨⟨literal, last⟩, found, same⟩ := Option.map_eq_some_iff.1 split
    have whole := append_of_splitNumber? found
    grind [Token.text]
  all_goals
    simp only [Option.some.injEq, Prod.mk.injEq] at split
    simp [← split.1, ← split.2, Token.text]

theorem length_lt_of_splitToken? {text : List Char} {token : Token} {rest : List Char}
    (split : splitToken? text = some (token, rest)) : rest.length < text.length := by
  obtain ⟨whole, written⟩ := append_of_splitToken? split
  have positive : 0 < token.text.length := List.length_pos_iff.2 written
  have lengths := congrArg List.length whole
  rw [List.length_append] at lengths
  omega

/-- The tokens of a text, if it falls apart into tokens and blanks. -/
def tokens? (text : List Char) : Option (List Token) :=
  match text with
  | [] => some []
  | c :: rest =>
    if isBlank c then tokens? rest
    else
      match split : splitToken? (c :: rest) with
      | none => none
      | some (token, after) =>
        have := length_lt_of_splitToken? split
        (tokens? after).map (token :: ·)
termination_by text.length
decreasing_by
  all_goals
    simp only [List.length_cons] at *
    omega

end Playout.Json
