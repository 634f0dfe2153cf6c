/-
**Switches and escapes of patterns.**

Which escapes a pattern may hold depends on its switches. Matching works byte by byte and knows no
character tables. So a pattern may neither name a class of Unicode nor ignore case in Unicode; and
without the switch for Unicode it may not reach a byte that is no character on its own.
-/
import Playout.Numeral
import Playout.Text.Ranges

namespace Playout.Pattern

/-- The switches that decide what a pattern may hold. -/
structure Switches where
  /-- Letters stand for both of their cases. -/
  caseless : Bool := false
  /-- Items stand for characters of Unicode, not for bytes. -/
  unicode : Bool := true
  /-- Blanks and comments are skipped. -/
  spaced : Bool := false

namespace Switches

/-- Turn a switch. The switches other than these have no part in what a pattern may hold. -/
def turn (switches : Switches) (flag : Char) (value : Bool) : Switches :=
  match flag with
  | 'i' => { switches with caseless := value }
  | 'u' => { switches with unicode := value }
  | 'x' => { switches with spaced := value }
  | _ => switches

/-- Whether an item may stand for certain characters. -/
def allowsCharacters (switches : Switches) : Bool := !switches.caseless || !switches.unicode

end Switches

/-- Skip blanks, and comments up to the end of their line. -/
def skipSpace (inComment : Bool) : List Char → List Char
  | [] => []
  | c :: rest =>
    if inComment then skipSpace (c ≠ '\n') rest
    else if c = '#' then skipSpace true rest
    else if Text.isBlank c then skipSpace false rest
    else c :: rest

/-- The text from the next character that counts. -/
def Switches.next (switches : Switches) (text : List Char) : List Char :=
  if switches.spaced then skipSpace false text else text

/-- What an item stands for. -/
inductive Item where
  | character (c : Char)
  | characterClass
  | position
deriving DecidableEq, Repr

/-- Read a character by its number, in so many hexadecimal digits. -/
def readCode? (count limit : Nat) (text : List Char) : Option (Item × List Char) :=
  if text.length < count then none
  else
    ((text.take count).mapM (Numeral.digit? 16)).bind fun digits =>
      let code := digits.foldl (fun total digit => 16 * total + digit) 0
      if code.isValidChar ∧ code ≤ limit then
        some (.character (Char.ofNat code), text.drop count)
      else none

/-- The control characters that are escaped as letters. -/
def controls : List (Char × Char) :=
  [('a', '\x07'), ('f', '\x0C'), ('n', '\n'), ('r', '\r'), ('t', '\t'), ('v', '\x0B')]

/-- Read the rest of an escape, after the backslash. -/
def readEscape? (switches : Switches) : List Char → Option (Item × List Char)
  | [] => none
  | c :: rest =>
    match controls.lookup c with
    | some control => some (.character control, rest)
    | none =>
      if c = 'x' then readCode? 2 (if switches.unicode then 0xFF else 0x7F) rest
      else if c = 'u' then readCode? 4 0x10FFFF rest
      else if c = 'U' then readCode? 8 0x10FFFF rest
      else if c = 'A' ∨ c = 'z' then some (.position, rest)
      else if c ∈ ['b', 'B', '<', '>'] then
        if switches.unicode then none else some (.position, rest)
      else if c ∈ ['d', 's', 'w'] then
        if switches.unicode then none else some (.characterClass, rest)
      else if c.isAlphanum ∨ 0x80 ≤ c.toNat then none
      else some (.character c, rest)

end Playout.Pattern
