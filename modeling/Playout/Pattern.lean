/-
**Patterns.**

A log directive can ask for a field whose value follows a pattern, a regular expression.
`isPattern` decides whether a text is one. It reads the text once from left to right; what may come
next depends on the switches, on the groups that are open, and on whether there is an item that a
repetition can apply to (`Reading`). A repetition is `*`, `+` or `?`. A directive cannot hold the
braces of a counted one, so an opening brace never belongs to a pattern.
-/
import Playout.Pattern.CharacterClass

namespace Playout.Pattern

/-- What is known of the part of a pattern that has been read. -/
structure Reading where
  switches : Switches := {}
  /-- The switches around each open group, that of the innermost group first. -/
  outer : List Switches := []
  /-- The names that groups have. -/
  names : List (List Char) := []
  /-- There is an item that a repetition can apply to. -/
  repeatable : Bool := false

namespace Reading

/-- Add an item that repetitions can apply to. -/
def withItem (reading : Reading) : Reading := { reading with repeatable := true }

/-- Open a group, within which these switches hold at first. -/
def openGroup (reading : Reading) (switches : Switches) : Reading :=
  { reading with
    switches := switches, outer := reading.switches :: reading.outer, repeatable := false }

end Reading

/-- Read switches up to the end of their list: letters, and a dash before those to be turned off. -/
def readSwitches? (switches : Switches) (value : Bool) (seen : List Char) :
    List Char → Option (Switches × List Char × List Char)
  | [] => none
  | c :: rest =>
    if c = ':' ∨ c = ')' then
      if seen.head? = some '-' then none else some (switches, seen, c :: rest)
    else if c ∈ seen then none
    else if c = '-' then readSwitches? switches false (c :: seen) rest
    else if c ∈ ['i', 'm', 's', 'U', 'u', 'R', 'x'] then
      readSwitches? (switches.turn c value) value (c :: seen) rest
    else none

/-- Whether a text can name a group. -/
def isGroupName : List Char → Bool
  | [] => false
  | c :: rest =>
    (c = '_' || (Text.isAlphanumeric c && !c.isDigit)) &&
      rest.all fun c => Text.isAlphanumeric c || c ∈ ['_', '.', '[', ']']

/-- Read the name of a group after its opening bracket. -/
def readName? (reading : Reading) (text : List Char) : Option (Reading × List Char) :=
  let name := text.takeWhile (· ≠ '>')
  match text.dropWhile (· ≠ '>') with
  | _ :: rest =>
    if isGroupName name ∧ name ∉ reading.names then
      some ({ reading with names := name :: reading.names }.openGroup reading.switches, rest)
    else none
  | [] => none

/-- Read the beginning of a group after its parenthesis. -/
def readGroup? (reading : Reading) (text : List Char) : Option (Reading × List Char) :=
  match reading.switches.next text with
  | '?' :: 'P' :: '<' :: rest => readName? reading rest
  | '?' :: '<' :: rest => readName? reading rest
  | '?' :: rest =>
    (readSwitches? reading.switches true [] rest).bind fun (switches, seen, rest) =>
      match rest with
      | ':' :: rest => some (reading.openGroup switches, rest)
      | _ :: rest =>
        if seen.isEmpty then none
        else some ({ reading with switches := switches, repeatable := false }, rest)
      | [] => none
  | rest => some (reading.openGroup reading.switches, rest)

/-- Read the item that begins with a character. -/
def step? (reading : Reading) (rest : List Char) : Char → Option (Reading × List Char)
  | '(' => readGroup? reading rest
  | ')' =>
    match reading.outer with
    | [] => none
    | switches :: outer =>
      some ({ reading with switches := switches, outer := outer }.withItem, rest)
  | '|' => some ({ reading with repeatable := false }, rest)
  | '*' | '+' | '?' => if reading.repeatable then some (reading, rest) else none
  | '{' => none
  | '[' =>
    ((openClass? reading.switches rest).bind
      (readClass? reading.switches (rest.length + 1) 0)).map (reading.withItem, ·)
  | '.' => if reading.switches.unicode then some (reading.withItem, rest) else none
  | '^' | '$' => some (reading.withItem, rest)
  | '\\' =>
    (readEscape? reading.switches rest).bind fun (item, rest) =>
      match item with
      | .character _ =>
        if reading.switches.allowsCharacters then some (reading.withItem, rest) else none
      | _ => some (reading.withItem, rest)
  | _ => if reading.switches.allowsCharacters then some (reading.withItem, rest) else none

/-- Whether the rest of a pattern can be read. -/
def readsOn : Nat → Reading → List Char → Bool
  | 0, _, _ => false
  | fuel + 1, reading, text =>
    match reading.switches.next text with
    | [] => reading.outer.isEmpty
    | c :: rest =>
      match step? reading rest c with
      | some (reading, rest) => readsOn fuel reading rest
      | none => false

/-- Whether a text is a pattern. -/
def isPattern (text : List Char) : Bool := readsOn (text.length + 1) {} text

end Playout.Pattern
