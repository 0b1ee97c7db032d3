import Mathlib.Data.Int.Notation
import Mathlib.Data.List.TakeWhile
import Mathlib.Tactic.Ring

/-!
# Characters and numbers of the C library

The part of the C library that works on texts, in the C locale and with 32 bits for `int` and
`long`: the classes of characters, numbers read by `strtol` and `atoi`, and numbers printed by the
integer conversions of `printf`.  A text is a list of bytes, without the NUL at its end.

## Main definitions

* `isSpace`, `toLower`, `digitValue` — characters.
* `strtol`, `atoi` — numbers that are read.
* `numeral`, `printD` — numbers that are printed.

## Main results

* `number_map_toLower` — digits mean the same in upper case as in lower case.
* `strtol_digits`, `strtol_minus_digits` — a numeral is read as its value, as far as that fits.
* `length_printD_le` — how long a printed `int` is.
-/

namespace Nx507j
namespace CText

/-- A text, without the NUL at its end. -/
abbrev Text := List UInt8

/-- A literal of ASCII characters. -/
def text (s : String) : Text := s.toList.map Char.toUInt8

/-- The text in a buffer: what stands before the first NUL. -/
def untilNul (buffer : List UInt8) : Text := buffer.takeWhile (· ≠ 0)

theorem untilNul_eq_self {s : List UInt8} (h : 0 ∉ s) : untilNul s = s :=
  List.takeWhile_eq_self_iff.mpr fun _ hc => decide_eq_true fun hzero => h (hzero ▸ hc)

/-! ### Characters -/

/-- `isspace`. -/
def isSpace (c : UInt8) : Bool := c == 32 || 9 ≤ c && c ≤ 13

/-- `tolower`. -/
def toLower (c : UInt8) : UInt8 := if 65 ≤ c ∧ c ≤ 90 then c + 32 else c

/-- The value of a digit or a letter; 36 is the value of all the others. -/
def digitValue (c : UInt8) : ℕ :=
  if 48 ≤ c ∧ c ≤ 57 then c.toNat - 48
  else if 97 ≤ toLower c ∧ toLower c ≤ 122 then (toLower c).toNat - 87
  else 36

/-- `strlcpy` to a buffer of `size` bytes. -/
def strlcpy (size : ℕ) (s : List UInt8) : List UInt8 := s.take (size - 1)

theorem length_strlcpy_le (size : ℕ) (s : List UInt8) : (strlcpy size s).length ≤ size - 1 :=
  List.length_take_le _ _

/-- The digits of a base. -/
def IsDigit (base : ℕ) (c : UInt8) : Prop := digitValue c < base

instance (base : ℕ) (c : UInt8) : Decidable (IsDigit base c) := Nat.decLt ..

/-- A text of blanks. -/
def Blank (s : List UInt8) : Prop := ∀ c ∈ s, isSpace c = true

instance (s : List UInt8) : Decidable (Blank s) := List.decidableBAll ..

theorem not_blank_iff {s : List UInt8} : ¬ Blank s ↔ ∃ c ∈ s, isSpace c = false := by
  constructor
  · intro hblank
    by_contra hnone
    refine hblank fun c hc => ?_
    by_contra hfalse
    exact hnone ⟨c, hc, Bool.eq_false_of_not_eq_true hfalse⟩
  · rintro ⟨c, hc, hfalse⟩ hblank
    rw [hblank c hc] at hfalse
    cases hfalse

/-- Behind leading blanks comes a character that is none. -/
theorem exists_dropWhile_isSpace {s : List UInt8} (h : ∃ c ∈ s, isSpace c = false) :
    ∃ c rest, s.dropWhile isSpace = c :: rest ∧ isSpace c = false := by
  have hne : s.dropWhile isSpace ≠ [] := fun hnil =>
    not_blank_iff.mpr h (List.dropWhile_eq_nil_iff.mp hnil)
  obtain ⟨c, rest, hdrop⟩ := List.exists_cons_of_ne_nil hne
  have hhead := List.head?_dropWhile_not isSpace s
  rw [hdrop] at hhead
  exact ⟨c, rest, hdrop, by simpa using hhead⟩

/-- A blank, a sign and the letter of the prefix are digits of no base. -/
theorem not_isDigit {c : UInt8} (h : isSpace c = true ∨ c = 43 ∨ c = 45 ∨ toLower c = 120) :
    33 ≤ digitValue c := by
  have hall : ∀ n : Fin 256, isSpace (UInt8.ofFin n) = true ∨ UInt8.ofFin n = 43 ∨
      UInt8.ofFin n = 45 ∨ toLower (UInt8.ofFin n) = 120 → 33 ≤ digitValue (UInt8.ofFin n) := by
    decide +kernel
  exact hall c.toFin h

theorem digitValue_toLower (c : UInt8) : digitValue (toLower c) = digitValue c := by
  have hall : ∀ n : Fin 256,
      digitValue (toLower (UInt8.ofFin n)) = digitValue (UInt8.ofFin n) := by decide +kernel
  exact hall c.toFin

/-! ### Numbers that are read -/

/-- The number that digits stand for. -/
def number (base : ℕ) (digits : List UInt8) : ℕ :=
  digits.foldl (fun n c => base * n + digitValue c) 0

/-- The prefix `0x` is skipped in base 16. -/
def skipPrefix (base : ℕ) : List UInt8 → List UInt8
  | 48 :: c :: s => if base = 16 ∧ toLower c = 120 then s else 48 :: c :: s
  | s => s

/-- The number that a text starts with, without blanks and sign. -/
def magnitude (base : ℕ) (s : List UInt8) : ℤ :=
  number base ((skipPrefix base s).takeWhile (IsDigit base ·))

/-- `strtol`: what does not fit is replaced by the nearest number that does. -/
def strtol (base : ℕ) (s : List UInt8) : Int32 :=
  match s.dropWhile isSpace with
  | 45 :: s => Int32.ofIntClamp (-magnitude base s)
  | 43 :: s => Int32.ofIntClamp (magnitude base s)
  | s => Int32.ofIntClamp (magnitude base s)

/-- `atoi`. -/
def atoi (s : List UInt8) : Int32 := strtol 10 s

variable {base : ℕ} {s digits : List UInt8}

theorem number_append_singleton (c : UInt8) :
    number base (digits ++ [c]) = base * number base digits + digitValue c := by
  rw [number, List.foldl_append]
  rfl

/-- Digits in upper case stand for the same number as in lower case. -/
theorem number_map_toLower (digits : List UInt8) :
    number base (digits.map toLower) = number base digits := by
  unfold number
  rw [List.foldl_map]
  congr 1
  funext n c
  rw [digitValue_toLower]

/-- Leading zeros change nothing. -/
theorem number_replicate_append (zeros : ℕ) (digits : List UInt8) :
    number base (List.replicate zeros 48 ++ digits) = number base digits := by
  induction zeros with
  | zero => rfl
  | succ zeros ih =>
    rw [List.replicate_succ, List.cons_append, number, List.foldl_cons]
    exact ih

/-- Digits have no prefix. -/
theorem skipPrefix_of_digits (h : ∀ c ∈ digits, IsDigit base c) :
    skipPrefix base digits = digits := by
  unfold skipPrefix
  split
  · next c s =>
    refine if_neg fun hprefix => ?_
    have hlarge := not_isDigit (Or.inr (Or.inr (Or.inr hprefix.2)))
    have hsmall : digitValue c < base := h c (by simp)
    omega
  · rfl

theorem magnitude_of_digits (h : ∀ c ∈ digits, IsDigit base c) :
    magnitude base digits = number base digits := by
  have hall : ∀ c ∈ digits, decide (IsDigit base c) = true := fun c hc => decide_eq_true (h c hc)
  rw [magnitude, skipPrefix_of_digits h, List.takeWhile_eq_self_iff.mpr hall]

/-- **Digits are read as their number**, as far as that fits. -/
theorem strtol_digits (hbase : base ≤ 16) (h : ∀ c ∈ digits, IsDigit base c) :
    strtol base digits = Int32.ofIntClamp (number base digits) := by
  have hsmall : ∀ c ∈ digits, digitValue c < 33 := fun c hc => by
    have hdigit : digitValue c < base := h c hc
    omega
  have hspace : digits.dropWhile isSpace = digits := by
    cases digits with
    | nil => rfl
    | cons c s =>
      refine List.dropWhile_cons_of_neg fun hc => ?_
      have hlarge := not_isDigit (Or.inl hc)
      have hlt := hsmall c List.mem_cons_self
      omega
  rw [strtol, hspace, ← magnitude_of_digits h]
  split
  · exact absurd (hsmall 45 List.mem_cons_self) (by decide)
  · exact absurd (hsmall 43 List.mem_cons_self) (by decide)
  · rfl

/-- Digits after a minus sign are read as the negative number. -/
theorem strtol_minus_digits (h : ∀ c ∈ digits, IsDigit base c) :
    strtol base (45 :: digits) = Int32.ofIntClamp (-number base digits) := by
  rw [← magnitude_of_digits h]
  rfl

/-- There is no number in a text of blanks. -/
theorem strtol_blank (hblank : Blank s) : strtol base s = 0 := by
  have hnil : s.dropWhile isSpace = [] := List.dropWhile_eq_nil_iff.mpr hblank
  rw [strtol, hnil]
  rfl

/-! ### Numbers that are printed -/

/-- A number in a base, as `%u` and `%x` print it. -/
def numeral (base n : ℕ) : List UInt8 := (Nat.toDigits base n).map Char.toUInt8

/-- The sign of a number that is printed. -/
def sign (n : ℤ) : List UInt8 := if n < 0 then [45] else []

/-- `%d` with a width that is filled with zeros. -/
def printD (width : ℕ) (n : ℤ) : List UInt8 :=
  sign n ++ List.replicate (width - ((sign n).length + (numeral 10 n.natAbs).length)) 48 ++
    numeral 10 n.natAbs

theorem digitValue_digitChar : ∀ d < 16, digitValue (Nat.digitChar d).toUInt8 = d := by decide

theorem numeral_of_lt {n : ℕ} (h : n < base) : numeral base n = [(Nat.digitChar n).toUInt8] := by
  rw [numeral, Nat.toDigits_of_lt_base h]
  rfl

theorem numeral_of_le {n : ℕ} (hbase : 1 < base) (h : base ≤ n) :
    numeral base n = numeral base (n / base) ++ [(Nat.digitChar (n % base)).toUInt8] := by
  rw [numeral, Nat.toDigits_of_base_le hbase h, List.map_append]
  rfl

theorem numeral_ne_nil (base n : ℕ) : numeral base n ≠ [] := by
  rw [numeral, Ne, List.map_eq_nil_iff]
  exact Nat.toDigits_ne_nil

/-- **A printed number is made of digits that stand for it.** -/
theorem numeral_spec (base : ℕ) (hone : 1 < base) (hbase : base ≤ 16) (n : ℕ) :
    (∀ c ∈ numeral base n, IsDigit base c) ∧ number base (numeral base n) = n := by
  induction n using Nat.strong_induction_on with
  | _ n ih =>
    by_cases hlt : n < base
    · have hvalue := digitValue_digitChar n (by omega)
      rw [numeral_of_lt hlt]
      refine ⟨fun c hc => ?_, ?_⟩
      · rw [List.mem_singleton.mp hc, IsDigit, hvalue]
        exact hlt
      · rw [← List.nil_append [_], number_append_singleton, hvalue]
        exact Nat.zero_add n
    · have hle : base ≤ n := by omega
      obtain ⟨hdigits, hnumber⟩ := ih (n / base) (Nat.div_lt_self (by omega) hone)
      have hmod : n % base < base := Nat.mod_lt n (by omega)
      have hvalue := digitValue_digitChar (n % base) (by omega)
      rw [numeral_of_le hone hle]
      refine ⟨fun c hc => ?_, ?_⟩
      · rcases List.mem_append.mp hc with hc | hc
        · exact hdigits c hc
        · rw [List.mem_singleton.mp hc, IsDigit, hvalue]
          exact hmod
      · rw [number_append_singleton, hnumber, hvalue]
        exact Nat.div_add_mod n base

theorem length_numeral_le {n k : ℕ} (hbase : 1 < base) (hk : 0 < k) (h : n < base ^ k) :
    (numeral base n).length ≤ k := by
  rw [numeral, List.length_map]
  exact (Nat.length_toDigits_le_iff hbase hk).mpr h

theorem length_sign_le (n : ℤ) : (sign n).length ≤ 1 := by
  unfold sign
  split
  · exact Nat.le_refl 1
  · exact Nat.zero_le 1

/-- The length of a number that is printed with a width. -/
theorem length_printD_le {width k : ℕ} {n : ℤ} (hk : 0 < k) (h : n.natAbs < 10 ^ k) :
    (printD width n).length ≤ max width (k + 1) := by
  have hdigits := length_numeral_le (by decide) hk h
  have hsign := length_sign_le n
  rw [printD, List.length_append, List.length_append, List.length_replicate]
  omega

/-- The length of a number that is not negative. -/
theorem length_printD_natCast_le {width k n : ℕ} (hk : 0 < k) (h : n < 10 ^ k) :
    (printD width n).length ≤ max width k := by
  have hdigits := length_numeral_le (by decide) hk h
  have hsign : sign (n : ℤ) = [] := if_neg (by omega)
  rw [printD, hsign, List.nil_append, List.length_append, List.length_replicate, List.length_nil,
    Int.natAbs_natCast]
  omega

end CText
end Nx507j
