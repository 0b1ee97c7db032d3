import Mathlib.Data.List.Basic
import Mathlib.Tactic.Ring

/-!
# The bits that are set

A word is counted bit by bit from the lowest, or by taking its lowest set bit away until nothing is
left.  Both give the same count.

* `setBits`, `setBits_succ` — how many of the lowest bits are set.
* `setBits_and_pred` — the lowest set bit taken away.
-/

namespace Nx507j
namespace Bits

/-- How many of the `k` lowest bits are set. -/
def setBits (k n : ℕ) : ℕ := (List.range k).countP n.testBit

@[simp] theorem setBits_zero_right (k : ℕ) : setBits k 0 = 0 := by
  simp [setBits]

/-- The lowest bit, and those of the half. -/
theorem setBits_succ (k n : ℕ) : setBits (k + 1) n = n % 2 + setBits k (n / 2) := by
  have hhalf : (n.testBit ∘ Nat.succ) = (n / 2).testBit := funext fun i => Nat.testBit_succ n i
  rw [setBits, List.range_succ_eq_map, List.countP_cons, List.countP_map, hhalf, setBits,
    Nat.testBit_zero, Nat.add_comm]
  rcases Nat.mod_two_eq_zero_or_one n with heven | hodd
  · simp [heven]
  · simp [hodd]

/-- **The lowest set bit taken away.** -/
theorem setBits_and_pred (k : ℕ) : ∀ {n : ℕ}, n ≠ 0 → n < 2 ^ k →
    setBits k (n &&& (n - 1)) + 1 = setBits k n := by
  induction k with
  | zero =>
    intro n hne hlt
    rw [Nat.pow_zero] at hlt
    omega
  | succ k ih =>
    intro n hne hlt
    have hlow : (n &&& (n - 1)) % 2 = (n % 2) &&& ((n - 1) % 2) := Nat.and_mod_two_pow (n := 1)
    rw [setBits_succ, setBits_succ k n, Nat.and_div_two, hlow]
    rcases Nat.mod_two_eq_zero_or_one n with heven | hodd
    · -- the lowest bit is clear, so the one that is taken away is in the half
      have hpred : (n - 1) / 2 = n / 2 - 1 := by omega
      have hhalf : n / 2 ≠ 0 := by omega
      have hsmall : n / 2 < 2 ^ k := by
        rw [Nat.pow_succ] at hlt
        omega
      rw [heven, hpred, Nat.zero_and, Nat.zero_add, Nat.zero_add]
      exact ih hhalf hsmall
    · have hpred : (n - 1) / 2 = n / 2 := by omega
      have hclear : (n - 1) % 2 = 0 := by omega
      rw [hodd, hpred, hclear, Nat.and_self, Nat.and_zero]
      omega

end Bits
end Nx507j
