import Mathlib.Data.Rat.Floor
import Mathlib.Tactic.FieldSimp
import Mathlib.Tactic.Linarith
import Mathlib.Tactic.NormNum
import Mathlib.Tactic.Positivity
import Nx507j.Lib.CText

/-!
# Decimals

Rational numbers as the conversion `%f` of `printf` prints them, with at least one digit behind the
point, and what is read back.  A number is rounded to the nearest decimal, and to the even one
where two are as near.

## Main definitions

* `nearest` — the nearest integer.
* `printF` — a number that is printed.
* `decimal` — a decimal that is read.

## Main results

* `nearest_lt_iff`, `scaled_lt_iff` — what is rounded to less than an even number.
* `decimal_printF` — what is printed is read back as the nearest decimal.
* `length_printF_le` — how long a printed number is.
-/

namespace Nx507j
namespace CText

/-! ### The nearest integer -/

/-- The nearest integer, and the even one where two are as near. -/
def nearest (x : ℚ) : ℤ :=
  if Int.fract x < 1 / 2 ∨ Int.fract x = 1 / 2 ∧ ⌊x⌋ % 2 = 0 then ⌊x⌋ else ⌊x⌋ + 1

variable {x : ℚ}

theorem abs_nearest_sub_le (x : ℚ) : |(nearest x : ℚ) - x| ≤ 1 / 2 := by
  have hfract : x - ⌊x⌋ = Int.fract x := rfl
  have hpos := Int.fract_nonneg x
  have hlt := Int.fract_lt_one x
  unfold nearest
  rw [abs_le]
  split
  · next hdown =>
    have hle : Int.fract x ≤ 1 / 2 := hdown.elim le_of_lt fun h => le_of_eq h.1
    constructor <;> linarith
  · next hup =>
    have hle : 1 / 2 ≤ Int.fract x := le_of_not_gt fun h => hup (Or.inl h)
    rw [Int.cast_add, Int.cast_one]
    constructor <;> linarith

theorem nearest_nonneg (h : 0 ≤ x) : 0 ≤ nearest x := by
  have hfloor : 0 ≤ ⌊x⌋ := Int.floor_nonneg.mpr h
  unfold nearest
  split <;> omega

theorem nearest_le {n : ℤ} (h : x ≤ n) : nearest x ≤ n := by
  have hclose := abs_le.mp (abs_nearest_sub_le x)
  have hlt : (nearest x : ℚ) < (n + 1 : ℤ) := by
    rw [Int.cast_add, Int.cast_one]
    linarith
  exact Int.lt_add_one_iff.mp (Int.cast_lt.mp hlt)

/-- **What is rounded to less than an even number**: half way below it is too much. -/
theorem nearest_lt_iff {n : ℤ} (heven : n % 2 = 0) : nearest x < n ↔ x < n - 1 / 2 := by
  have hclose := abs_le.mp (abs_nearest_sub_le x)
  constructor
  · intro hlt
    have hle : (nearest x : ℚ) ≤ (n - 1 : ℤ) := Int.cast_le.mpr (by omega)
    rw [Int.cast_sub, Int.cast_one] at hle
    refine lt_of_le_of_ne (by linarith) fun heq => ?_
    -- half way, the number below is odd and the number above is taken
    have hfloor : ⌊x⌋ = n - 1 := by
      rw [Int.floor_eq_iff, Int.cast_sub, Int.cast_one]
      constructor <;> linarith
    have hfract : Int.fract x = 1 / 2 := by
      rw [Int.fract, hfloor, heq, Int.cast_sub, Int.cast_one]
      ring
    have hup : nearest x = ⌊x⌋ + 1 := by
      rw [nearest, if_neg]
      rintro (h | ⟨_, h⟩)
      · rw [hfract] at h
        exact absurd h (lt_irrefl _)
      · omega
    omega
  · intro hlt
    have hlt' : (nearest x : ℚ) < n := by linarith
    exact Int.cast_lt.mp hlt'

/-! ### Numbers that are printed -/

/-- The absolute value in units of the last digit. -/
def scaled (digits : ℕ) (x : ℚ) : ℕ := (nearest (|x| * 10 ^ digits)).toNat

/-- `%f` with some digits behind the point and a width that is filled with zeros. -/
def printF (width digits : ℕ) (x : ℚ) : List UInt8 :=
  let minus : List UInt8 := if x < 0 then [45] else []
  let body := numeral 10 (scaled digits x / 10 ^ digits) ++
    46 :: printD digits (scaled digits x % 10 ^ digits : ℕ)
  minus ++ List.replicate (width - (minus.length + body.length)) 48 ++ body

/-- A decimal that is read: the number before the point and the number behind it. -/
def decimal (s : List UInt8) : ℚ :=
  let whole := s.takeWhile (· ≠ 46)
  let behind := (s.dropWhile (· ≠ 46)).drop 1
  number 10 whole + number 10 behind / 10 ^ behind.length

variable {width digits k : ℕ}

theorem intCast_scaled (digits : ℕ) (x : ℚ) :
    (scaled digits x : ℤ) = nearest (|x| * 10 ^ digits) :=
  Int.toNat_of_nonneg (nearest_nonneg (by positivity))

theorem ratCast_scaled (digits : ℕ) (x : ℚ) :
    (scaled digits x : ℚ) = nearest (|x| * 10 ^ digits) := by
  rw [← intCast_scaled, Int.cast_natCast]

/-- What is printed differs by half of a unit at most. -/
theorem abs_scaled_sub_le (digits : ℕ) (x : ℚ) :
    |(scaled digits x : ℚ) / 10 ^ digits - abs x| ≤ 1 / 2 / 10 ^ digits := by
  have hpos : (0 : ℚ) < 10 ^ digits := by positivity
  have hclose := abs_nearest_sub_le (|x| * 10 ^ digits)
  have hunits : (scaled digits x : ℚ) / 10 ^ digits - |x| =
      (nearest (|x| * 10 ^ digits) - |x| * 10 ^ digits) / 10 ^ digits := by
    rw [ratCast_scaled]
    field_simp
  rw [hunits, abs_div, abs_of_pos hpos]
  exact div_le_div_of_nonneg_right hclose hpos.le

/-- What is printed as less than an even number of units. -/
theorem scaled_lt_iff {n : ℕ} (heven : n % 2 = 0) (h : 0 ≤ x) :
    scaled digits x < n ↔ x * 10 ^ digits < n - 1 / 2 := by
  have hcast : (scaled digits x : ℤ) < n ↔ |x| * 10 ^ digits < (n : ℤ) - 1 / 2 := by
    rw [intCast_scaled]
    exact nearest_lt_iff (by omega)
  rw [abs_of_nonneg h, Int.cast_natCast] at hcast
  rw [← hcast, Int.ofNat_lt]

theorem scaled_le (h : |x| ≤ 10 ^ k) : scaled digits x ≤ 10 ^ (k + digits) := by
  have hle : |x| * 10 ^ digits ≤ ((10 ^ (k + digits) : ℕ) : ℤ) := by
    rw [Int.cast_natCast, Nat.cast_pow, Nat.cast_ofNat, pow_add]
    exact mul_le_mul_of_nonneg_right h (by positivity)
  have hnearest := nearest_le hle
  rw [← intCast_scaled] at hnearest
  exact Int.ofNat_le.mp hnearest

/-! ### What is printed of a natural number -/

theorem number_printD (width n : ℕ) : number 10 (printD width n) = n := by
  have hsign : sign (n : ℤ) = [] := if_neg (by omega)
  rw [printD, hsign, List.nil_append, number_replicate_append, Int.natAbs_natCast]
  exact (numeral_spec 10 (by decide) (by decide) n).2

theorem isDigit_of_mem_printD {width n : ℕ} {c : UInt8} (hc : c ∈ printD width n) :
    IsDigit 10 c := by
  have hsign : sign (n : ℤ) = [] := if_neg (by omega)
  rw [printD, hsign, List.nil_append, Int.natAbs_natCast] at hc
  rcases List.mem_append.mp hc with hc | hc
  · rw [List.eq_of_mem_replicate hc]
    decide
  · exact (numeral_spec 10 (by decide) (by decide) n).1 c hc

/-- A number that fits its width fills it. -/
theorem length_printD_natCast {width n : ℕ} (hwidth : 0 < width) (h : n < 10 ^ width) :
    (printD width n).length = width := by
  have hle := length_numeral_le (by decide) hwidth h
  have hsign : sign (n : ℤ) = [] := if_neg (by omega)
  rw [printD, hsign, List.nil_append, List.length_append, List.length_replicate, List.length_nil,
    Int.natAbs_natCast]
  omega

theorem isDigit_ne {base : ℕ} {c d : UInt8} (hc : IsDigit base c) (hd : ¬IsDigit base d) : c ≠ d :=
  fun h => hd (h ▸ hc)

/-! ### Decimals that are printed and read -/

/-- **What is printed is read back as the nearest decimal.** -/
theorem decimal_printF (hdigits : 0 < digits) (h : 0 ≤ x) :
    decimal (printF width digits x) = scaled digits x / 10 ^ digits := by
  have hminus : (if x < 0 then [45] else [] : List UInt8) = [] := if_neg (not_lt.mpr h)
  have hpow : 0 < 10 ^ digits := Nat.pow_pos (by decide)
  have hbehind : (printD digits (scaled digits x % 10 ^ digits : ℕ)).length = digits :=
    length_printD_natCast hdigits (Nat.mod_lt _ hpow)
  have hwhole := numeral_spec 10 (by decide) (by decide) (scaled digits x / 10 ^ digits)
  unfold printF
  rw [hminus]
  dsimp only
  rw [List.nil_append, ← List.append_assoc]
  generalize hzeros : width - _ = zeros
  have hbefore : ∀ c ∈ List.replicate zeros 48 ++ numeral 10 (scaled digits x / 10 ^ digits),
      decide (c ≠ 46) = true := by
    intro c hc
    refine decide_eq_true ?_
    rcases List.mem_append.mp hc with hc | hc
    · rw [List.eq_of_mem_replicate hc]
      decide
    · exact isDigit_ne (hwhole.1 c hc) (by decide)
  unfold decimal
  dsimp only
  rw [List.takeWhile_append_of_pos hbefore, List.dropWhile_append_of_pos hbefore,
    List.takeWhile_cons_of_neg (by decide), List.dropWhile_cons_of_neg (by decide),
    List.append_nil, List.drop_one, List.tail_cons, number_replicate_append, hwhole.2,
    number_printD, hbehind]
  have hpow' : (10 : ℚ) ^ digits ≠ 0 := by positivity
  have hdivmod : ((10 ^ digits * (scaled digits x / 10 ^ digits) + scaled digits x % 10 ^ digits :
      ℕ) : ℚ) = scaled digits x := by rw [Nat.div_add_mod]
  rw [Nat.cast_add, Nat.cast_mul, Nat.cast_pow, Nat.cast_ofNat] at hdivmod
  rw [← hdivmod, add_div, mul_div_cancel_left₀ _ hpow']

/-- The characters of a number that is printed. -/
theorem mem_printF {c : UInt8} (hc : c ∈ printF width digits x) :
    IsDigit 10 c ∨ c = 45 ∨ c = 46 := by
  unfold printF at hc
  simp only [List.mem_append, List.mem_cons] at hc
  rcases hc with (hc | hc) | hc | hc | hc
  · split at hc
    · exact Or.inr (Or.inl (List.mem_singleton.mp hc))
    · cases hc
  · rw [List.eq_of_mem_replicate hc]
    exact Or.inl (by decide)
  · exact Or.inl ((numeral_spec 10 (by decide) (by decide) _).1 c hc)
  · exact Or.inr (Or.inr hc)
  · exact Or.inl (isDigit_of_mem_printD hc)

/-- **The length of a number that is printed with a width.** -/
theorem length_printF_le (hdigits : 0 < digits) (h : |x| ≤ 10 ^ k) :
    (printF width digits x).length ≤ max width (k + digits + 3) := by
  have hpow : 0 < 10 ^ digits := Nat.pow_pos (by decide)
  have hscaled : scaled digits x / 10 ^ digits ≤ 10 ^ k := by
    rw [← Nat.mul_div_cancel (10 ^ k) hpow, ← pow_add]
    exact Nat.div_le_div_right (scaled_le h)
  have hlt : 10 ^ k < 10 ^ (k + 1) := Nat.pow_lt_pow_right (by decide) (Nat.lt_succ_self k)
  have hwhole : (numeral 10 (scaled digits x / 10 ^ digits)).length ≤ k + 1 :=
    length_numeral_le (by decide) (Nat.succ_pos k) (hscaled.trans_lt hlt)
  have hbehind : (printD digits (scaled digits x % 10 ^ digits : ℕ)).length = digits :=
    length_printD_natCast hdigits (Nat.mod_lt _ hpow)
  have hminus : (if x < 0 then [45] else [] : List UInt8).length ≤ 1 := by
    split <;> decide
  unfold printF
  simp only [List.length_append, List.length_cons, List.length_replicate, hbehind]
  omega

end CText
end Nx507j
