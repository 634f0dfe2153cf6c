/-
**Natural numbers in digits, read from left to right.**

A numeral is an optional plus sign and at least one digit of the radix. Reading stops at the first
character that is no digit, or at the first digit that takes the value above the limit, whichever
comes first; so a text can be too large whatever follows the digits that make it so.

A channel mask is a decimal numeral, or a hexadecimal one after `0x` or `0X`, below `2 ^ 32`.
-/
import Playout.Saturating

namespace Playout.Numeral

/-- Why a text is not a numeral within the limit. -/
inductive Flaw where
  | empty
  | invalidDigit
  | tooLarge
deriving DecidableEq, Repr

/-- The wording of a flaw. -/
def Flaw.message : Flaw → String
  | .empty => "cannot parse integer from empty string"
  | .invalidDigit => "invalid digit found in string"
  | .tooLarge => "number too large to fit in target type"

/-- The value of a digit in either case. -/
def digit? (radix : Nat) (c : Char) : Option Nat :=
  let value :=
    if '0' ≤ c ∧ c ≤ '9' then c.toNat - '0'.toNat
    else if 'a' ≤ c ∧ c ≤ 'z' then c.toNat - 'a'.toNat + 10
    else if 'A' ≤ c ∧ c ≤ 'Z' then c.toNat - 'A'.toNat + 10
    else radix
  if value < radix then some value else none

/-- The value of digits that follow digits of value `total`. -/
def readDigits (radix limit : Nat) (total : Nat) : List Char → Except Flaw Nat
  | [] => .ok total
  | c :: rest =>
    match digit? radix c with
    | none => .error .invalidDigit
    | some value =>
      if limit < total * radix + value then .error .tooLarge
      else readDigits radix limit (total * radix + value) rest

/-- The value of a numeral. -/
def read (radix limit : Nat) : List Char → Except Flaw Nat
  | [] => .error .empty
  | ['+'] => .error .invalidDigit
  | '+' :: digits => readDigits radix limit 0 digits
  | digits => readDigits radix limit 0 digits

end Playout.Numeral

namespace Playout.ChannelMask

/-- Read a text as a mask. -/
def read (text : String) : Except Numeral.Flaw UInt32 :=
  let number :=
    match text.toList with
    | '0' :: 'x' :: digits => Numeral.read 16 wordMax digits
    | '0' :: 'X' :: digits => Numeral.read 16 wordMax digits
    | digits => Numeral.read 10 wordMax digits
  number.map UInt32.ofNat

/-- The message for a text that is no mask. -/
def message (text : String) (flaw : Numeral.Flaw) : String :=
  s!"invalid channel mask '{text}': {flaw.message}"

end Playout.ChannelMask
