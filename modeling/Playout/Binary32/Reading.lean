/-
**Reading a decimal as a 32-bit binary number.**

The accepted texts are an optional sign followed by

* `inf`, `infinity` or `nan`, in any mixture of cases, or
* digits, optionally a point and digits, optionally `e` or `E` with an optional sign and digits,
  where the part before the exponent holds at least one digit.

The result is the number nearest to the exact decimal: the decimal is an exact rational, which is
rounded once.
-/
import Playout.Binary32.Decimal

namespace Playout.Binary32

/-- Split a leading sign off; `true` for a minus. -/
def splitSign : List Char → Bool × List Char
  | '-' :: rest => (true, rest)
  | '+' :: rest => (false, rest)
  | text => (false, text)

/-- The exponent that the rest of a numeral denotes: nothing, or a marked run of digits. -/
def readExponent? : List Char → Option Int
  | [] => some 0
  | mark :: rest =>
    if mark = 'e' ∨ mark = 'E' then
      let (negative, digits) := splitSign rest
      if digits.isEmpty || !digits.all Char.isDigit then none
      else
        let magnitude : Int := Nat.ofDigitChars 10 digits 0
        some (if negative then -magnitude else magnitude)
    else none

/-- The decimal that a numeral without a sign denotes. -/
def readDecimal? (text : List Char) : Option Decimal :=
  let whole := text.takeWhile Char.isDigit
  let afterWhole := text.dropWhile Char.isDigit
  let (fraction, rest) :=
    match afterWhole with
    | '.' :: tail => (tail.takeWhile Char.isDigit, tail.dropWhile Char.isDigit)
    | _ => ([], afterWhole)
  if whole.isEmpty && fraction.isEmpty then none
  else
    (readExponent? rest).map fun exponent =>
      ⟨Nat.ofDigitChars 10 (whole ++ fraction) 0, exponent - fraction.length⟩

/-- The pattern nearest to a decimal. A leading digit above `10 ^ 60` or below `10 ^ -60` is out of
range whatever the digits are, so such powers of ten are not computed. -/
def ofDecimal (negative : Bool) (decimal : Decimal) : UInt32 :=
  let leading : Int := decimal.exponent + (digitText decimal.digits).length
  if decimal.digits = 0 ∨ leading < -60 then encode negative 0
  else if 60 < leading then encode negative (twoPow 128)
  else encode negative decimal.value

/-- Read a text as a number. -/
def parse? (text : String) : Option UInt32 :=
  let (negative, unsigned) := splitSign text.toList
  let lowered := unsigned.map Char.toLower
  if lowered = "nan".toList then some nanBits
  else if lowered = "inf".toList ∨ lowered = "infinity".toList then
    some (encode negative (twoPow 128))
  else (readDecimal? unsigned).map (ofDecimal negative)

end Playout.Binary32
