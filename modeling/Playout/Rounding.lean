/-
**Rounding a quotient to binary, once and exactly.**

A binary number format is a precision and the exponent of its finest unit. `nearest` takes a
non-negative rational to the nearest multiple of the unit that the format has at that size, a tie
going to the even multiple. Nothing is computed in machine arithmetic, so a chain of rounded
operations is a chain of `nearest`s on exact rationals.

* `roundEven`: the nearest integer, a half going to the even neighbour;
* `roundHalfUp`: the nearest integer, a half going up;
* `nearest`: the nearest number of a format, as `significand · 2 ^ exponent`.
-/

namespace Playout

/-- The power `2 ^ exponent` as a rational. -/
def twoPow (exponent : Int) : Rat :=
  if 0 ≤ exponent then (Nat.pow 2 exponent.toNat : Nat)
  else 1 / (Nat.pow 2 (-exponent).toNat : Nat)

/-- The integer nearest to a rational; a half goes to the even neighbour. -/
def roundEven (value : Rat) : Int :=
  let below := value.floor
  let rest := value - below
  if rest < 1 / 2 then below
  else if 1 / 2 < rest then below + 1
  else if below % 2 = 0 then below else below + 1

/-- The integer nearest to a rational; a half goes up. -/
def roundHalfUp (value : Rat) : Int :=
  (value + 1 / 2).floor

/-- The exponent of the largest power of two that is at most `value`, for a positive `value`. -/
def binade (value : Rat) : Int :=
  let estimate : Int := Nat.log2 value.num.toNat - Nat.log2 value.den
  if value < twoPow estimate then estimate - 1 else estimate

/-- A binary number format: how many significant bits it keeps, and the exponent of the finest
unit it has. -/
structure BinaryFormat where
  precision : Nat
  finest : Int

/-- Numbers of 53 significant bits. -/
def binary64 : BinaryFormat := ⟨53, -1074⟩

/-- Numbers of 24 significant bits. -/
def binary32 : BinaryFormat := ⟨24, -149⟩

/-- A non-negative number `significand · 2 ^ exponent`. -/
structure Scaled where
  significand : Nat
  exponent : Int
deriving DecidableEq, Repr

/-- The rational that a scaled number stands for. -/
def Scaled.value (number : Scaled) : Rat :=
  number.significand * twoPow number.exponent

namespace BinaryFormat

/-- The exponent of the unit in which the format counts near a positive `value`. -/
def unitExponent (format : BinaryFormat) (value : Rat) : Int :=
  max (binade value - (format.precision - 1)) format.finest

/-- The number of the format nearest to a non-negative rational, a tie going to the even
significand. The range of large exponents is not limited here. -/
def nearest (format : BinaryFormat) (value : Rat) : Scaled :=
  let exponent := format.unitExponent value
  ⟨(roundEven (value / twoPow exponent)).toNat, exponent⟩

end BinaryFormat

example : (binary64.nearest (1 / 10)).significand = 7205759403792794 := by
  decide +kernel

example : (binary32.nearest (1 / 10)) = ⟨13421773, -27⟩ := by
  decide +kernel

end Playout
