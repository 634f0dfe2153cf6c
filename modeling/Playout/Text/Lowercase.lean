/-
**Lower-casing of whole strings.**

Every character is lowered by the Unicode mapping, with the two cases that the one-to-one table
cannot hold:

* the dotted capital I becomes two characters;
* a capital sigma becomes the final form at the end of a word and the ordinary form elsewhere. A
  word ends at the sigma when the nearest character before it that is not case-ignorable has a
  case, and the nearest such character after it has none (`endsWord`).
-/
import Playout.Text.Lowercase.Mapping
import Playout.Text.Lowercase.Classes

namespace Playout.Text

namespace Lowercase

/-- The lower-case form of one character, without regard to its neighbours. -/
def ofChar (c : Char) : List Char :=
  if c.toNat = 0x130 then ['i', Char.ofNat 0x307]
  else
    match runs.findSome? (·.image? c.toNat) with
    | some image => [Char.ofNat image]
    | none => [c]

/-- Whether the first character that is not case-ignorable has a case. -/
def reachesCased (context : List Char) : Bool :=
  match context.dropWhile (within caseIgnorable) with
  | [] => false
  | c :: _ => within cased c

/-- Whether a sigma between these neighbours is the last letter of a word; `before` is nearest
first. -/
def endsWord (before after : List Char) : Bool :=
  reachesCased before && !reachesCased after

/-- Lower `text`, which follows the characters `before` (nearest first). -/
def go (before : List Char) : List Char → List Char
  | [] => []
  | c :: rest =>
    (if c = 'Σ' then [if endsWord before rest then 'ς' else 'σ'] else ofChar c)
      ++ go (c :: before) rest

end Lowercase

/-- The lower-case form of a string. -/
def lowercase (text : String) : String :=
  String.ofList (Lowercase.go [] text.toList)

namespace Lowercase

example : go [] ['A', 'Σ', ' ', 'Σ', 'B'] = ['a', 'ς', ' ', 'σ', 'b'] := by
  decide +kernel

example : go [] ['I', '1', '6'] = ['i', '1', '6'] := by
  decide +kernel

end Lowercase

end Playout.Text
