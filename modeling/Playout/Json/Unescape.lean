/-
**The characters that the body of a JSON string stands for.**

A character stands for itself, a letter after a backslash for a fixed character, and `u` with four
hexadecimal digits for a 16-bit code unit. A unit from D800 to DBFF has to be followed by one from
DC00 to DFFF, and the two make one character; a unit of this range that stands alone makes the
whole string meaningless.
-/
import Playout.Json.Token

namespace Playout.Json

/-- One piece of a string body. -/
inductive Piece where
  | character (c : Char)
  | unit (code : Nat)
deriving DecidableEq, Repr

/-- The value of a hexadecimal digit in either case. -/
def hexValue (c : Char) : Nat :=
  if c.isDigit then c.toNat - '0'.toNat
  else if 'a' ≤ c then c.toNat - 'a'.toNat + 10
  else c.toNat - 'A'.toNat + 10

/-- The character that a letter after a backslash stands for. -/
def escaped (letter : Char) : Char :=
  match letter with
  | 'b' => '\x08'
  | 'f' => '\x0c'
  | 'n' => '\n'
  | 'r' => '\r'
  | 't' => '\t'
  | other => other

/-- The pieces of a string body. -/
def pieces : List Char → List Piece
  | [] => []
  | '\\' :: 'u' :: a :: b :: c :: d :: rest =>
    .unit ([a, b, c, d].foldl (fun code digit => 16 * code + hexValue digit) 0) :: pieces rest
  | '\\' :: letter :: rest => .character (escaped letter) :: pieces rest
  | c :: rest => .character c :: pieces rest

/-- A first half of a pair of code units. -/
def isHighHalf (code : Nat) : Bool := 0xD800 ≤ code && code < 0xDC00

/-- A second half of a pair of code units. -/
def isLowHalf (code : Nat) : Bool := 0xDC00 ≤ code && code < 0xE000

/-- The character of a pair of code units. -/
def joinHalves (high low : Nat) : Char :=
  Char.ofNat (0x10000 + (high - 0xD800) * 0x400 + (low - 0xDC00))

/-- The characters that pieces make, if no half of a pair stands alone. -/
def assemble? : List Piece → Option (List Char)
  | [] => some []
  | .character c :: rest => (assemble? rest).map (c :: ·)
  | .unit high :: .unit low :: rest =>
    if isHighHalf high then
      if isLowHalf low then (assemble? rest).map (joinHalves high low :: ·) else none
    else if isLowHalf high then none
    else (assemble? (.unit low :: rest)).map (Char.ofNat high :: ·)
  | .unit code :: rest =>
    if isHighHalf code || isLowHalf code then none
    else (assemble? rest).map (Char.ofNat code :: ·)

/-- The characters that the body of a string stands for. -/
def unescape? (body : List Char) : Option String :=
  (assemble? (pieces body)).map String.ofList

example : unescape? "a\\u00e9\\n\\ud83d\\ude00".toList = some "aé\n😀" := by decide +kernel

example : unescape? "\\ud83d".toList = none := by decide +kernel

end Playout.Json
