import Mathlib.Algebra.Ring.Nat
import Mathlib.Data.Nat.Log

/-!
# Rounding to a number of significant bits

A natural number as a binary floating-point format with `p` significant bits holds it: the nearest
number of so many bits, and half way between two the one whose last bit is zero.

* `roundBits` — the rounded number.
* `roundBits_of_lt` — a number of `p` bits is left as it is.
-/

namespace Nx507j
namespace Rounding

/-- What the last of the `p` leading bits of `n` stands for. -/
def lastBit (p n : ℕ) : ℕ := 2 ^ (n.log2 + 1 - p)

/-- `n` rounded to `p` significant bits. -/
def roundBits (p n : ℕ) : ℕ :=
  let q := n / lastBit p n
  let r := n % lastBit p n
  (if lastBit p n < 2 * r ∨ lastBit p n = 2 * r ∧ q % 2 = 1 then q + 1 else q) * lastBit p n

theorem lastBit_of_lt {p n : ℕ} (hne : n ≠ 0) (h : n < 2 ^ p) : lastBit p n = 1 := by
  have hbits : n.log2 + 1 ≤ p := (Nat.log2_lt hne).mpr h
  rw [lastBit, Nat.sub_eq_zero_of_le hbits, Nat.pow_zero]

/-- A number of `p` bits is left as it is. -/
theorem roundBits_of_lt {p n : ℕ} (h : n < 2 ^ p) : roundBits p n = n := by
  by_cases hne : n = 0
  · simp [hne, roundBits, lastBit]
  · simp [roundBits, lastBit_of_lt hne h, Nat.mod_one]

end Rounding
end Nx507j
