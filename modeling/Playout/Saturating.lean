/-
**Counts that stop at the largest 32-bit word.**

Frame counts that are compared with a watermark are cut off at `wordMax` and never wrap:

* `saturate_le`: the result fits 32 bits;
* `saturate_of_le`: a count that already fits is unchanged;
* `saturate_mono`: cutting off keeps the order.
-/

namespace Playout

/-- The largest 32-bit word. -/
def wordMax : Nat := 0xFFFFFFFF

/-- A count, cut off at the largest 32-bit word. -/
def saturate (count : Nat) : Nat := min count wordMax

theorem saturate_le (count : Nat) : saturate count ≤ wordMax :=
  Nat.min_le_right ..

theorem saturate_of_le {count : Nat} (fits : count ≤ wordMax) : saturate count = count :=
  Nat.min_eq_left fits

theorem saturate_mono {first second : Nat} (ordered : first ≤ second) :
    saturate first ≤ saturate second := by
  unfold saturate
  omega

/-- Below a bound that fits 32 bits, nothing was cut off. -/
theorem lt_of_saturate_lt {count bound : Nat} (below : saturate count < bound)
    (fits : bound ≤ wordMax) : count < bound := by
  unfold saturate at below
  omega

@[simp] theorem saturate_zero : saturate 0 = 0 := by
  simp [saturate]

end Playout
