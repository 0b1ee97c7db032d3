import Mathlib.Data.List.TakeDrop
import Nx507j.Lib.CText

/-!
# Objects with an end

An array that a C function is given is a list, of bytes or of pointers.  An access at an offset
that the array does not have ends the function with that offset; so a function that ends with a
result has read and written its arrays only where they are.  Behind what a loop has done an array
is taken apart as `front ++ c :: rest`, with the offset `front.length`.

## Main definitions

* `Outside` — an access that no array has room for.
* `read`, `write`, `writeAll` — the accesses.
* `strlen`, `strlcpy`, `snprintf` — functions of the C library on an array.

## Main results

* `read_append`, `write_append`, `writeAll_append` — an access behind `front`.
* `succ_eq_length_concat`, `exists_cons_of_lt` — the next offset, and the place for it.
* `strlen_append`, `snprintf_append` — the functions of the C library on an array with a text.
-/

namespace Nx507j

/-- An access at an offset that an array does not have. -/
structure Outside where
  off : ℕ
  deriving DecidableEq, Repr

namespace Buffer

open CText

universe u

variable {α β : Type u}

/-! ### Accesses -/

/-- Reads at an offset. -/
def read (b : List α) (off : ℕ) : Except Outside α :=
  match b[off]? with
  | some c => .ok c
  | none => .error ⟨off⟩

/-- Writes at an offset. -/
def write (b : List α) (off : ℕ) (c : α) : Except Outside (List α) :=
  if off < b.length then .ok (b.set off c) else .error ⟨off⟩

/-- Writes several from an offset on. -/
def writeAll : List α → ℕ → List α → Except Outside (List α)
  | b, _, [] => .ok b
  | b, off, c :: cs => do writeAll (← write b off c) (off + 1) cs

/-- What follows an access that has been made. -/
@[simp] theorem ok_bind (a : α) (f : α → Except Outside β) : (Except.ok a >>= f) = f a := rfl

variable {front rest : List α} {off : ℕ} {c : α}

theorem read_append (hoff : off = front.length) : read (front ++ c :: rest) off = .ok c := by
  subst hoff
  rw [read, List.getElem?_append_right (Nat.le_refl _), Nat.sub_self]
  rfl

theorem write_append (hoff : off = front.length) (d : α) :
    write (front ++ c :: rest) off d = .ok (front ++ d :: rest) := by
  subst hoff
  have hlt : front.length < (front ++ c :: rest).length := by
    rw [List.length_append, List.length_cons]
    omega
  rw [write, if_pos hlt, List.set_append_right _ _ (Nat.le_refl _), Nat.sub_self]
  rfl

/-- The offset behind one more. -/
theorem succ_eq_length_concat (hoff : off = front.length) (c : α) :
    off + 1 = (front ++ [c]).length := by
  rw [hoff, List.length_append, List.length_singleton]

/-- An array that is longer than what is done has a place for one more. -/
theorem exists_cons_of_lt {size : ℕ} (hsize : (front ++ rest).length = size)
    (h : front.length < size) : ∃ d tail, rest = d :: tail := by
  rw [List.length_append] at hsize
  apply List.exists_cons_of_length_pos
  omega

/-- Writes over as much as there is to write. -/
theorem writeAll_append :
    ∀ (cs : List α) {front old : List α} {off : ℕ}, off = front.length → old.length = cs.length →
      writeAll (front ++ (old ++ rest)) off cs = .ok (front ++ (cs ++ rest)) := by
  intro cs
  induction cs with
  | nil =>
    intro front old off _ hold
    rw [List.length_eq_zero_iff.mp hold]
    rfl
  | cons c cs ih =>
    intro front old off hoff hold
    obtain ⟨d, old, rfl⟩ := List.exists_cons_of_length_eq_add_one hold
    have hrest := ih (succ_eq_length_concat hoff c) (Nat.succ_inj.mp hold)
    rw [List.append_assoc, List.append_assoc] at hrest
    rw [writeAll, List.cons_append, write_append hoff, ok_bind]
    exact hrest

/-! ### The C library -/

/-- `strlen`. -/
def strlen (b : List UInt8) : Except Outside ℕ :=
  if 0 ∈ b then .ok (untilNul b).length else .error ⟨b.length⟩

/-- `snprintf` of a text to an offset, with a size. -/
def snprintf (b : List UInt8) (off : ℕ) : ℕ → Text → Except Outside (List UInt8)
  | 0, _ => .ok b
  | size + 1, s => writeAll b off (s.take size ++ [0])

/-- `strlcpy` to an array, with a size. -/
def strlcpy (b : List UInt8) (size : ℕ) (s : Text) : Except Outside (List UInt8) :=
  snprintf b 0 size s

/-- The conversion of an `int` to `size_t`. -/
def sizeT (n : ℤ) : ℕ := (n % 4294967296).toNat

theorem sizeT_natCast {n : ℕ} (h : n < 4294967296) : sizeT n = n := by
  unfold sizeT
  omega

variable {s : Text} {tail : List UInt8}

theorem untilNul_append (h : 0 ∉ s) : untilNul (s ++ 0 :: tail) = s := by
  have hall : ∀ c ∈ s, decide (c ≠ 0) = true := fun c hc =>
    decide_eq_true fun hzero => h (hzero ▸ hc)
  rw [untilNul, List.takeWhile_append_of_pos hall]
  exact List.append_nil s

/-- An array with a NUL holds a text and the NUL behind it. -/
theorem exists_untilNul_append {b : List UInt8} (h : 0 ∈ b) :
    ∃ tail, b = untilNul b ++ 0 :: tail := by
  have hsplit : untilNul b ++ b.dropWhile (· ≠ 0) = b := List.takeWhile_append_dropWhile
  cases hdrop : b.dropWhile (· ≠ 0) with
  | nil => exact absurd (List.dropWhile_eq_nil_iff.mp hdrop 0 h) (by decide)
  | cons c tail =>
    have hhead := List.head?_dropWhile_not (· ≠ 0) b
    rw [hdrop] at hhead hsplit
    have hc : c = 0 := by simpa using hhead
    exact ⟨tail, by rw [← hc, hsplit]⟩

theorem zero_notMem_untilNul (b : List UInt8) : 0 ∉ untilNul b := fun hmem =>
  absurd (List.mem_takeWhile_imp hmem) (by decide)

theorem untilNul_append_zero (got rest : List UInt8) :
    untilNul (got ++ 0 :: rest) = untilNul got := by
  by_cases h : 0 ∈ got
  · obtain ⟨tail, htail⟩ := exists_untilNul_append h
    have hsplit : got ++ 0 :: rest = untilNul got ++ 0 :: (tail ++ 0 :: rest) := by
      rw [← List.cons_append, ← List.append_assoc, ← htail]
    rw [hsplit, untilNul_append (zero_notMem_untilNul got)]
  · rw [untilNul_append h, untilNul_eq_self h]

theorem strlen_append (h : 0 ∉ s) : strlen (s ++ 0 :: tail) = .ok s.length := by
  have hmem : (0 : UInt8) ∈ s ++ 0 :: tail := List.mem_append_right s List.mem_cons_self
  rw [strlen, if_pos hmem, untilNul_append h]

/-- The text is cut off where the size ends, and there is a NUL behind it. -/
theorem snprintf_append {front old : List UInt8} {off size : ℕ} (rest : List UInt8)
    (hoff : off = front.length) (hold : old.length = (s.take size).length + 1) :
    snprintf (front ++ (old ++ rest)) off (size + 1) s =
      .ok (front ++ (s.take size ++ 0 :: rest)) := by
  have hlen : old.length = (s.take size ++ [0]).length := by
    rw [hold, List.length_append, List.length_singleton]
  rw [snprintf, writeAll_append _ hoff hlen, List.append_assoc]
  rfl

end Buffer
end Nx507j
