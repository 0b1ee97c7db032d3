import Mathlib.Data.List.Basic
import Mathlib.Data.List.GetD
import Mathlib.Tactic.Ring

/-!
# Bytes in memory

The memory at an address is a function from offsets to bytes, so that an access is never out of
range and what lies behind an object is there as well.  A number is stored in little endian.

## Main definitions

* `store off bytes m`, `load m off n` — the bytes from an offset on are written and read.
* `leBytes width n`, `leNat bytes` — a number as bytes, and back.
* `Begins values part` — the bytes of one of these numbers begin so.

## Main results

* `load_store_part` — what is read across the end of what has been written.
* `load_store_inside`, `load_store_of_le`, `load_store_of_ge` — what is read within and beside it.
* `leNat_leBytes`, `leBytes_leNat` — the two directions of the encoding.
* `begins_of_mem` — what a part of the bytes says of the number.
-/

namespace Nx507j

/-- The bytes from an address on. -/
abbrev Memory := ℕ → UInt8

namespace Memory

variable {m m' : Memory} {off n : ℕ} {bytes : List UInt8}

/-- The bytes are written from the offset on. -/
def store (off : ℕ) (bytes : List UInt8) (m : Memory) : Memory :=
  fun a => if off ≤ a then bytes.getD (a - off) (m a) else m a

/-- The `n` bytes from the offset on. -/
def load (m : Memory) (off n : ℕ) : List UInt8 := (List.range n).map fun k => m (off + k)

@[simp] theorem length_load : (load m off n).length = n := by simp [load]

@[simp] theorem getElem_load (k : ℕ) (hk : k < (load m off n).length) :
    (load m off n)[k] = m (off + k) := by simp [load]

@[simp] theorem load_zero : load m off 0 = [] := rfl

theorem load_add (k : ℕ) : load m off (n + k) = load m off n ++ load m (off + n) k := by
  unfold load
  rw [List.range_add, List.map_append, List.map_map]
  congr 1
  exact List.map_congr_left fun i _ => congrArg m (Nat.add_assoc off n i).symm

theorem take_load {k : ℕ} (h : k ≤ n) : (load m off n).take k = load m off k := by
  obtain ⟨i, rfl⟩ := Nat.exists_eq_add_of_le h
  rw [load_add, List.take_left' length_load]

theorem load_congr (h : ∀ k < n, m (off + k) = m' (off + k)) : load m off n = load m' off n :=
  List.map_congr_left fun k hk => h k (List.mem_range.mp hk)

/-! ### What is read after a write -/

theorem store_apply_of_lt {a : ℕ} (h : a < off) : store off bytes m a = m a :=
  if_neg (Nat.not_le.mpr h)

theorem store_apply_of_ge {a : ℕ} (h : off + bytes.length ≤ a) : store off bytes m a = m a := by
  unfold store
  split
  · exact List.getD_eq_default _ _ (by omega)
  · rfl

theorem store_apply_add {k : ℕ} (h : k < bytes.length) :
    store off bytes m (off + k) = bytes[k] := by
  unfold store
  rw [if_pos (Nat.le_add_right off k), Nat.add_sub_cancel_left, List.getD_eq_getElem _ _ h]

theorem store_append (m : Memory) (off : ℕ) (bytes cs : List UInt8) :
    store off (bytes ++ cs) m = store (off + bytes.length) cs (store off bytes m) := by
  funext a
  by_cases hlt : a < off
  · rw [store_apply_of_lt hlt, store_apply_of_lt (by omega), store_apply_of_lt hlt]
  · obtain ⟨k, rfl⟩ := Nat.exists_eq_add_of_le (Nat.not_lt.mp hlt)
    by_cases hk : k < bytes.length
    · have hlen : k < (bytes ++ cs).length := by rw [List.length_append]; omega
      have hbehind : off + k < off + bytes.length := by omega
      rw [store_apply_of_lt hbehind, store_apply_add hk, store_apply_add hlen,
        List.getElem_append_left hk]
    · rw [Nat.not_lt] at hk
      obtain ⟨i, rfl⟩ := Nat.exists_eq_add_of_le hk
      by_cases hi : i < cs.length
      · have hlen : bytes.length + i < (bytes ++ cs).length := by rw [List.length_append]; omega
        rw [store_apply_add hlen, List.getElem_append_right hk, ← Nat.add_assoc,
          store_apply_add hi]
        simp only [Nat.add_sub_cancel_left]
      · rw [store_apply_of_ge (by rw [List.length_append]; omega), store_apply_of_ge (by omega),
          store_apply_of_ge (by omega)]

section

variable (m off bytes)

/-- What has been written is read as far as it goes, and then what was there before. -/
theorem load_store_part (i : ℕ) :
    load (store off bytes m) (off + i) n =
      (bytes.drop i).take n ++
        load m (off + i + ((bytes.drop i).take n).length) (n - ((bytes.drop i).take n).length) := by
  have hlen : ((bytes.drop i).take n).length ≤ n := List.length_take_le ..
  have hpart : ((bytes.drop i).take n).length = min n (bytes.length - i) := by
    rw [List.length_take, List.length_drop]
  refine List.ext_getElem (by simp only [length_load, List.length_append]; omega) fun k hk _ => ?_
  rw [length_load] at hk
  rw [getElem_load, Nat.add_assoc, List.getElem_append]
  split
  · next hlt =>
    rw [store_apply_add (by omega), List.getElem_take, List.getElem_drop]
  · next hge =>
    rw [store_apply_of_ge (by omega), getElem_load]
    congr 1
    omega

/-- Within what has been written. -/
theorem load_store_inside {i : ℕ} (h : i + n ≤ bytes.length) :
    load (store off bytes m) (off + i) n = (bytes.drop i).take n := by
  have hlen : ((bytes.drop i).take n).length = n :=
    List.length_take_of_le (by rw [List.length_drop]; omega)
  rw [load_store_part, hlen, Nat.sub_self, load_zero, List.append_nil]

theorem load_store_front (h : n ≤ bytes.length) :
    load (store off bytes m) off n = bytes.take n :=
  load_store_inside m off bytes (i := 0) (by rwa [Nat.zero_add])

theorem load_store_self : load (store off bytes m) off bytes.length = bytes := by
  rw [load_store_front _ _ _ (Nat.le_refl _), List.take_length]

end

/-- A write behind the bytes that are read. -/
theorem load_store_of_le {off' : ℕ} (h : off + n ≤ off') :
    load (store off' bytes m) off n = load m off n :=
  load_congr fun _ _ => store_apply_of_lt (by omega)

/-- A write in front of the bytes that are read. -/
theorem load_store_of_ge {off' : ℕ} (h : off' + bytes.length ≤ off) :
    load (store off' bytes m) off n = load m off n :=
  load_congr fun _ _ => store_apply_of_ge (by omega)

/-! ### Numbers -/

/-- The number in little endian. -/
def leBytes : ℕ → ℕ → List UInt8
  | 0, _ => []
  | width + 1, n => UInt8.ofNat n :: leBytes width (n / 256)

/-- The number that the bytes are in little endian. -/
def leNat : List UInt8 → ℕ
  | [] => 0
  | b :: bs => b.toNat + 256 * leNat bs

@[simp] theorem length_leBytes (width : ℕ) : ∀ n, (leBytes width n).length = width := by
  induction width with
  | zero => intro n; rfl
  | succ width ih => intro n; exact congrArg (· + 1) (ih _)

theorem leNat_lt : ∀ bs : List UInt8, leNat bs < 256 ^ bs.length := by
  intro bs
  induction bs with
  | nil => exact Nat.one_pos
  | cons b bs ih =>
    have hb : b.toNat < 256 := b.toNat_lt
    rw [leNat, List.length_cons, Nat.pow_succ]
    omega

theorem leNat_leBytes (width : ℕ) : ∀ n, leNat (leBytes width n) = n % 256 ^ width := by
  induction width with
  | zero => intro n; exact (Nat.mod_one n).symm
  | succ width ih =>
    intro n
    have hbyte : (UInt8.ofNat n).toNat = n % 256 := UInt8.toNat_ofNat'
    rw [leBytes, leNat, ih, hbyte, Nat.pow_succ, Nat.mul_comm (256 ^ width), Nat.mod_mul]

theorem leNat_append (cs : List UInt8) :
    ∀ bs : List UInt8, leNat (bs ++ cs) = leNat bs + 256 ^ bs.length * leNat cs := by
  intro bs
  induction bs with
  | nil => simp [leNat]
  | cons b bs ih =>
    rw [List.cons_append, leNat, ih, leNat, List.length_cons, Nat.pow_succ]
    ring

theorem leBytes_leNat : ∀ bs : List UInt8, leBytes bs.length (leNat bs) = bs := by
  intro bs
  induction bs with
  | nil => rfl
  | cons b bs ih =>
    have hb : b.toNat < 256 := b.toNat_lt
    have hdiv : (b.toNat + 256 * leNat bs) / 256 = leNat bs := by omega
    have hmod : UInt8.ofNat (b.toNat + 256 * leNat bs) = b := by
      apply UInt8.toNat_inj.mp
      rw [UInt8.toNat_ofNat']
      omega
    rw [List.length_cons, leNat, leBytes, hdiv, hmod, ih]

/-- The bytes of one of these numbers begin so. -/
def Begins (width : ℕ) (values : List ℕ) (part : List UInt8) : Prop :=
  ∃ v ∈ values, part <+: leBytes width v

instance (width : ℕ) (values : List ℕ) (part : List UInt8) :
    Decidable (Begins width values part) :=
  inferInstanceAs (Decidable (∃ v ∈ values, part <+: leBytes width v))

theorem begins_of_mem {width : ℕ} {values : List ℕ} {part rest : List UInt8}
    (hlen : (part ++ rest).length = width) (h : leNat (part ++ rest) ∈ values) :
    Begins width values part := by
  refine ⟨_, h, rest, ?_⟩
  rw [← hlen, leBytes_leNat]

end Memory
end Nx507j
