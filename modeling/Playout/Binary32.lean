/-
**The 32-bit pattern of a binary number, and the exact remainder of two.**

A pattern is a sign, eight exponent bits and 23 fraction bits. `decode` splits it into its meaning,
`encode` writes the pattern of the number nearest to a rational, which is an infinity when the
rational is out of range.

The magnitude bits of `significand · 2 ^ exponent` are `(exponent + 149) · 2 ^ 23 + significand`,
for the subnormal numbers (where the exponent is -149) and for the normal ones (where the leading
bit of the significand adds one to the exponent field) alike; that is why `encode` has no cases.

The remainder of `x` by `y` is `x` less the multiple of `y` next to it on the side of zero. It is
always a number of the format, so it is computed on integers, without rounding: both numbers are
brought to the smaller of their two exponents, where they are whole multiples of one unit. The
result has the sign of `x`, also when it is zero.
-/
import Playout.Rounding

namespace Playout.Binary32

/-- The meaning of a bit pattern. -/
inductive Decoded where
  | nan
  | infinite (negative : Bool)
  | finite (negative : Bool) (magnitude : Scaled)
deriving DecidableEq, Repr

/-- The number of patterns that share sign and exponent field. -/
def fractionCount : Nat := 0x800000

/-- The number of patterns of one sign. -/
def signCount : Nat := 0x80000000

/-- The magnitude bits of infinity. -/
def infinityBits : Nat := 255 * fractionCount

/-- The meaning of a bit pattern. -/
def decode (bits : UInt32) : Decoded :=
  let negative := decide (signCount ≤ bits.toNat)
  let magnitude := bits.toNat % signCount
  let field := magnitude / fractionCount
  let fraction := magnitude % fractionCount
  if infinityBits < magnitude then .nan
  else if magnitude = infinityBits then .infinite negative
  else if field = 0 then .finite negative ⟨fraction, binary32.finest⟩
  else .finite negative ⟨fraction + fractionCount, binary32.finest + (field - 1)⟩

/-- The magnitude bits of the number nearest to a non-negative rational. -/
def magnitudeBits (value : Rat) : Nat :=
  let number := binary32.nearest value
  if number.significand = 0 then 0
  else min infinityBits
    ((number.exponent - binary32.finest).toNat * fractionCount + number.significand)

/-- The pattern of the number nearest to a non-negative rational, with a sign. -/
def encode (negative : Bool) (value : Rat) : UInt32 :=
  UInt32.ofNat ((if negative then signCount else 0) + magnitudeBits value)

/-- The pattern of the only NaN that is written. -/
def nanBits : UInt32 := 0x7fc00000

example : encode false (1 / 5) = 0x3e4ccccd := by decide +kernel

example : decode 0x3e4ccccd = .finite false ⟨13421773, -26⟩ := by decide +kernel

example : encode true 0 = 0x80000000 := by decide +kernel

example : encode false (twoPow 128) = 0x7f800000 := by decide +kernel

example : encode false (twoPow (-149)) = 1 := by decide +kernel

/-! ### The exact remainder -/

/-- The remainder of one magnitude by another that is not zero. -/
def remainderScaled (x y : Scaled) : Scaled :=
  let exponent := min x.exponent y.exponent
  let units (number : Scaled) := number.significand * Nat.pow 2 (number.exponent - exponent).toNat
  ⟨units x % units y, exponent⟩

/-- The remainder of `x` by `y`: NaN for an infinite `x` or a zero `y`, and `x` itself where it is
the smaller in magnitude. -/
def remainder (x y : Float32) : Float32 :=
  if x.abs < y.abs then x
  else
    match decode x.toBits, decode y.toBits with
    | .finite negative magnitude, .finite _ divisor =>
      if divisor.significand = 0 then Float32.ofBits nanBits
      else Float32.ofBits (encode negative (remainderScaled magnitude divisor).value)
    | _, _ => Float32.ofBits nanBits

example : (remainderScaled ⟨15, -1⟩ ⟨2, 0⟩).value = 3 / 2 := by decide +kernel

end Playout.Binary32
