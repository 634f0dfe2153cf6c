/-
**Decimal text of 32-bit binary numbers.**

Two notations, both positional and without an exponent:

* `shortest`: the fewest digits that read back as the same number and, among those, the decimal
  nearest to it (the larger one on a tie);
* `fixed`: a given number of places, the exact value rounded to the nearest, a half going to the
  even digit.

A minus sign is written whenever the sign bit is set, so `-0` and `-0.0` occur.
-/
import Playout.Binary32

namespace Playout.Binary32

/-- The power `10 ^ exponent` as a rational. -/
def tenPow (exponent : Int) : Rat :=
  if 0 ≤ exponent then (Nat.pow 10 exponent.toNat : Nat)
  else 1 / (Nat.pow 10 (-exponent).toNat : Nat)

/-- A non-negative decimal `digits · 10 ^ exponent`. -/
structure Decimal where
  digits : Nat
  exponent : Int
deriving DecidableEq, Repr

/-- The rational that a decimal stands for. -/
def Decimal.value (decimal : Decimal) : Rat :=
  decimal.digits * tenPow decimal.exponent

/-- The exponent of the largest power of ten that is at most `value`; the search starts at
`exponent` and goes down. -/
def decade (value : Rat) : (steps : Nat) → (exponent : Int) → Int
  | 0, exponent => exponent
  | steps + 1, exponent =>
    if tenPow exponent ≤ value then exponent else decade value steps (exponent - 1)

/-- The rationals that read back as a number: its own interval, the ends included when the
significand is even. Below a power of two the neighbour is nearer, and the interval shorter. -/
def readsBack (number : Scaled) (value : Rat) : Bool :=
  let unit := twoPow number.exponent
  let gapBelow : Rat :=
    if number.significand = fractionCount ∧ binary32.finest < number.exponent then 1 / 4 else 1 / 2
  let low := (number.significand - gapBelow) * unit
  let high := (number.significand + 1 / 2) * unit
  if number.significand % 2 = 0 then low ≤ value && value ≤ high
  else low < value && value < high

/-- The better of the two neighbours of `value` among the multiples of `10 ^ exponent`, if one of
them reads back. -/
def onGrid? (number : Scaled) (exponent : Int) : Option Decimal :=
  let value := number.value
  let below : Decimal := ⟨(value / tenPow exponent).floor.toNat, exponent⟩
  let above : Decimal := ⟨below.digits + 1, exponent⟩
  match readsBack number below.value, readsBack number above.value with
  | false, false => none
  | true, false => some below
  | false, true => some above
  | true, true =>
    if value - below.value < above.value - value then some below else some above

/-- Drop trailing zeros of the digits, at most `steps` of them. -/
def Decimal.trim : (steps : Nat) → Decimal → Decimal
  | 0, decimal => decimal
  | steps + 1, decimal =>
    if decimal.digits % 10 = 0 then trim steps ⟨decimal.digits / 10, decimal.exponent + 1⟩
    else decimal

/-- The first hit on the grids of `count`, `count + 1`, … digits. -/
def search (number : Scaled) (leading : Int) : (steps count : Nat) → Decimal
  | 0, _ => ⟨number.significand, 0⟩
  | steps + 1, count =>
    match onGrid? number (leading + 1 - count) with
    | some decimal => decimal
    | none => search number leading steps (count + 1)

/-- The shortest decimal that reads back as a finite number. Nine digits always suffice. -/
def shortestDecimal (number : Scaled) : Decimal :=
  if number.significand = 0 then ⟨0, 0⟩
  else (search number (decade number.value 100 39) 9 1).trim 40

/-- Decimal digits of a natural number. -/
def digitText (count : Nat) : List Char := Nat.toDigits 10 count

/-- A decimal in positional notation. -/
def Decimal.positional (decimal : Decimal) : List Char :=
  let digits := digitText decimal.digits
  if 0 ≤ decimal.exponent then digits ++ List.replicate decimal.exponent.toNat '0'
  else
    let places := (-decimal.exponent).toNat
    let padded := List.replicate (places + 1 - digits.length) '0' ++ digits
    padded.take (padded.length - places) ++ '.' :: padded.drop (padded.length - places)

/-- The text of a pattern whose finite magnitude is written by `write`. -/
def textWith (write : Scaled → List Char) (bits : UInt32) : String :=
  let signed (negative : Bool) (text : List Char) :=
    String.ofList (if negative then '-' :: text else text)
  match decode bits with
  | .nan => "NaN"
  | .infinite negative => signed negative "inf".toList
  | .finite negative magnitude => signed negative (write magnitude)

/-- The fewest digits that read back, in positional notation. -/
def shortest (bits : UInt32) : String :=
  textWith (fun number => (shortestDecimal number).positional) bits

/-- The exact value rounded to so many places. -/
def fixed (places : Nat) (bits : UInt32) : String :=
  textWith (fun number =>
    Decimal.positional ⟨(roundEven (number.value * tenPow places)).toNat, -places⟩) bits

example : shortestDecimal ⟨13421773, -26⟩ = ⟨2, -1⟩ := by decide +kernel

example : (⟨2, -1⟩ : Decimal).positional = ['0', '.', '2'] := by decide +kernel

end Playout.Binary32
