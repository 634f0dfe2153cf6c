/-
**Character classes of patterns.**

A class stands in brackets. It holds characters, ranges from one character to a later one, named
classes of ASCII, further classes, and the operators `&&`, `--` and `~~` between them.
-/
import Playout.Pattern.Escape

namespace Playout.Pattern

/-- The classes of ASCII that have a name. -/
def classNames : List String :=
  ["alnum", "alpha", "ascii", "blank", "cntrl", "digit", "graph", "lower", "print", "punct",
    "space", "upper", "word", "xdigit"]

/-- Read the rest of a named class after its bracket. The result also tells whether the class is
that of all other characters. -/
def readNamed? : List Char → Option (Bool × List Char)
  | ':' :: rest =>
    let negated := rest.head? = some '^'
    let name := if negated then rest.tail else rest
    match name.dropWhile (· ≠ ':') with
    | ':' :: ']' :: after =>
      if String.ofList (name.takeWhile (· ≠ ':')) ∈ classNames then some (negated, after) else none
    | _ => none
  | _ => none

/-- Read the beginning of a class after its bracket: the sign that all other characters are meant,
and a dash or a closing bracket that stands for itself. -/
def openClass? (switches : Switches) (text : List Char) : Option (List Char) :=
  let text := switches.next text
  let negated := text.head? = some '^'
  if negated ∧ !switches.unicode then none
  else
    let text := if negated then switches.next text.tail else text
    match text with
    | '-' :: rest => if switches.allowsCharacters then some rest else none
    | ']' :: rest => if switches.allowsCharacters then some rest else none
    | _ => some text

/-- Read a character or an escape of a class. -/
def readMember? (switches : Switches) : List Char → Option (Item × List Char)
  | [] => none
  | '\\' :: rest => readEscape? switches rest
  | c :: rest => some (.character c, rest)

/-- Whether a class may hold an item. -/
def Switches.allowsMember (switches : Switches) : Item → Bool
  | .character c => switches.allowsCharacters && (switches.unicode || c.toNat < 0x80)
  | .characterClass => true
  | .position => false

/-- Read a member of a class, or a range of members. -/
def readRange? (switches : Switches) (text : List Char) : Option (List Char) :=
  (readMember? switches text).bind fun (first, rest) =>
    if !switches.allowsMember first then none
    else
      match switches.next rest with
      | '-' :: more =>
        let after := switches.next more
        if after.head? = some ']' ∨ after.head? = some '-' then some rest
        else
          (readMember? switches after).bind fun (last, rest) =>
            match first, last with
            | .character low, .character high =>
              if switches.allowsMember last ∧ low ≤ high then some rest else none
            | _, _ => none
      | _ => some rest

/-- Read a class up to its closing bracket, when `depth` classes are open around it. -/
def readClass? (switches : Switches) : Nat → Nat → List Char → Option (List Char)
  | 0, _, _ => none
  | fuel + 1, depth, text =>
    match switches.next text with
    | [] => none
    | ']' :: rest =>
      match depth with
      | 0 => some rest
      | depth + 1 => readClass? switches fuel depth rest
    | '[' :: rest =>
      match readNamed? rest with
      | some (negated, rest) =>
        if switches.allowsCharacters ∧ (switches.unicode ∨ !negated) then
          readClass? switches fuel depth rest
        else none
      | none => (openClass? switches rest).bind (readClass? switches fuel (depth + 1))
    | '&' :: '&' :: rest => readClass? switches fuel depth rest
    | '-' :: '-' :: rest => readClass? switches fuel depth rest
    | '~' :: '~' :: rest => readClass? switches fuel depth rest
    | text => (readRange? switches text).bind (readClass? switches fuel depth)

end Playout.Pattern
