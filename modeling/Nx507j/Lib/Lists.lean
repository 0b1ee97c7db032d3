import Mathlib.Algebra.GroupWithZero.Nat
import Mathlib.Data.List.Basic

/-!
# Lists with one element replaced or taken out

Facts about `List.replace`, `List.eraseP` and the last element put in front that the
sequences of this development need.

* `mem_or_eq_of_mem_replace`, `mem_replace_self` — what a replaced list holds.
* `map_replace_of_eq` — a replacement with the same image is not seen by `map`.
* `map_update_eq_replace` — changing the image of one element replaces the image.
* `find?_of_imp` — the first match of a narrower condition.
* `not_mem_eraseP_of_find?` — taking out the first match takes it out for good.
* `forall_mem_modify` — what all elements have after a change at a place.
* `sum_map_modify` — a sum after a change at a place.
* `countP_set_add`, `mem_set_iff` — a count, and what is held, after a replacement at a place.
* `lastFirst_perm`, `getElem?_append_lastFirst` — a place filled with the last element.
* `flatten_groups`, `length_of_mem_dropLast_groups` — a list in groups of one size.
-/

namespace Nx507j
namespace Lists

variable {α β : Type*}

section Replace

variable [DecidableEq α]

/-- What a list holds after `b` has replaced `a`. -/
theorem mem_or_eq_of_mem_replace {a b c : α} {l : List α} (h : c ∈ l.replace a b) :
    c ∈ l ∨ a ∈ l ∧ c = b := by
  induction l with
  | nil => simp at h
  | cons d l ih =>
    rw [List.replace_cons] at h
    split at h
    · next hd =>
      rw [beq_iff_eq] at hd
      rcases List.mem_cons.mp h with rfl | h
      · exact Or.inr ⟨by simp [hd], rfl⟩
      · exact Or.inl (List.mem_cons_of_mem _ h)
    · rcases List.mem_cons.mp h with rfl | h
      · exact Or.inl (by simp)
      · rcases ih h with h | ⟨ha, hc⟩
        · exact Or.inl (List.mem_cons_of_mem _ h)
        · exact Or.inr ⟨List.mem_cons_of_mem _ ha, hc⟩

/-- A list of which an element is replaced holds what has replaced it. -/
theorem mem_replace_self {a b : α} {l : List α} (h : a ∈ l) : b ∈ l.replace a b := by
  obtain ⟨l₁, l₂, rfl, ha⟩ := List.eq_append_cons_of_mem h
  rw [List.replace_append_right ha, List.replace_cons_self]
  simp

/-- An element that is not replaced stays. -/
theorem mem_replace_of_ne {a b c : α} {l : List α} (hne : c ≠ a) (h : c ∈ l) :
    c ∈ l.replace a b := by
  induction l with
  | nil => cases h
  | cons d l ih =>
    rw [List.replace_cons]
    split
    · next hd =>
      rcases List.mem_cons.mp h with hc | h
      · exact absurd (hc.trans (beq_iff_eq.mp hd).symm) hne
      · exact List.mem_cons_of_mem _ h
    · rcases List.mem_cons.mp h with rfl | h
      · exact List.mem_cons_self
      · exact List.mem_cons_of_mem _ (ih h)

/-- Replacing an element by one with the same image leaves the images as they are. -/
theorem map_replace_of_eq (f : α → β) {a b : α} (h : f b = f a) (l : List α) :
    (l.replace a b).map f = l.map f := by
  induction l with
  | nil => rfl
  | cons c l ih =>
    rw [List.replace_cons]
    split
    · next hc =>
      rw [beq_iff_eq] at hc
      subst hc
      simp [h]
    · simp [ih]

/-- Changing the image of the first element with that image replaces the image. -/
theorem map_update_eq_replace {γ : Type*} [DecidableEq γ] {f : γ → α} {a : γ} {b : α}
    {l : List γ} (hnd : l.Nodup) (h : l.find? (fun c => f c = f a) = some a) :
    l.map (fun c => if c = a then b else f c) = (l.map f).replace (f a) b := by
  induction l with
  | nil => simp at h
  | cons c l ih =>
    rw [List.nodup_cons] at hnd
    by_cases hc : f c = f a
    · obtain rfl : c = a := by simpa [hc] using h
      have hl : l.map (fun d => if d = c then b else f d) = l.map f := by
        refine List.map_congr_left fun d hd => if_neg ?_
        rintro rfl
        exact hnd.1 hd
      simp [hl]
    · have ha : l.find? (fun c => f c = f a) = some a := by simpa [hc] using h
      have hca : c ≠ a := fun h => hc (by rw [h])
      have hbeq : (f a == f c) = false := by simpa using Ne.symm hc
      rw [List.map_cons, List.map_cons, List.replace_cons, if_neg hca, ih hnd.2 ha, hbeq]

end Replace

/-- The first match is no longer in a list of distinct elements once it is taken out. -/
theorem not_mem_eraseP_of_find? {p : α → Bool} {a : α} {l : List α} (hnd : l.Nodup)
    (h : l.find? p = some a) : a ∉ l.eraseP p := by
  induction l with
  | nil => simp at h
  | cons c l ih =>
    rw [List.nodup_cons] at hnd
    cases hc : p c with
    | true =>
      obtain rfl : c = a := by simpa [hc] using h
      simpa [hc] using hnd.1
    | false =>
      have ha : l.find? p = some a := by simpa [hc] using h
      have hca : a ≠ c := by
        rintro rfl
        exact hnd.1 (List.mem_of_find?_eq_some ha)
      simp [hc, hca, ih hnd.2 ha]

/-- The first match of a condition is the first match of a narrower one that it meets. -/
theorem find?_of_imp {p q : α → Bool} {a : α} {l : List α} (h : l.find? p = some a)
    (ha : q a = true) (himp : ∀ b, q b = true → p b = true) : l.find? q = some a := by
  rw [List.find?_eq_some_iff_append] at h ⊢
  obtain ⟨-, l₁, l₂, rfl, hl⟩ := h
  refine ⟨ha, l₁, l₂, rfl, fun b hb => ?_⟩
  have hp := hl b hb
  cases hq : q b with
  | true => rw [himp b hq] at hp; exact hp
  | false => rfl

/-- What a replacement at a place changes of a count. -/
theorem countP_set_add {p : α → Bool} {l : List α} {i : ℕ} {a : α} (h : l[i]? = some a) (b : α) :
    (l.set i b).countP p + (if p a then 1 else 0) = l.countP p + if p b then 1 else 0 := by
  obtain ⟨hi, rfl⟩ := List.getElem?_eq_some_iff.mp h
  rw [List.countP_set hi]
  have hpos : p l[i] = true → 0 < l.countP p := fun hp =>
    List.countP_pos_iff.mpr ⟨l[i], List.getElem_mem hi, hp⟩
  split
  · next hp =>
    have := hpos hp
    omega
  · omega

/-- What all elements have, they have when one of them is changed and has it again. -/
theorem forall_mem_modify {P : α → Prop} {f : α → α} {l : List α} {i : ℕ} (hl : ∀ a ∈ l, P a)
    (hf : ∀ a, l[i]? = some a → P (f a)) : ∀ a ∈ l.modify i f, P a := by
  intro a ha
  obtain ⟨j, hj⟩ := List.mem_iff_getElem?.mp ha
  rw [List.getElem?_modify, Option.map_eq_map, Option.map_eq_some_iff] at hj
  obtain ⟨b, hb, rfl⟩ := hj
  by_cases hij : i = j
  · subst hij
    simpa using hf b hb
  · simpa [hij] using hl b (List.mem_of_getElem? hb)

/-- What a change at a place changes of a sum. -/
theorem sum_map_modify {f : α → ℕ} {g : α → α} {a : α} :
    ∀ {l : List α} {i : ℕ}, l[i]? = some a →
      ((l.modify i g).map f).sum + f a = (l.map f).sum + f (g a) := by
  intro l
  induction l with
  | nil => intro i h; cases h
  | cons b l ih =>
    intro i h
    cases i with
    | zero =>
      obtain rfl : b = a := Option.some.inj h
      rw [List.modify_zero_cons, List.map_cons, List.map_cons, List.sum_cons, List.sum_cons]
      omega
    | succ i =>
      have hl := ih (i := i) h
      rw [List.modify_succ_cons, List.map_cons, List.map_cons, List.sum_cons, List.sum_cons]
      omega

/-- An element that is neither what a replacement takes away nor what it puts there. -/
theorem mem_set_iff {l : List α} {i : ℕ} {a b c : α} (h : l[i]? = some a) (ha : c ≠ a)
    (hb : c ≠ b) : c ∈ l.set i b ↔ c ∈ l := by
  constructor
  · intro hc
    exact (List.mem_or_eq_of_mem_set hc).resolve_right hb
  · intro hc
    obtain ⟨j, hj⟩ := List.mem_iff_getElem?.mp hc
    have hne : i ≠ j := by
      rintro rfl
      exact ha (Option.some.inj (hj.symm.trans h))
    exact List.mem_iff_getElem?.mpr ⟨j, (List.getElem?_set_ne hne).trans hj⟩

section LastFirst

/-- The last element put in front of the others. -/
def lastFirst (l : List α) : List α := l.getLast?.toList ++ l.dropLast

@[simp] theorem lastFirst_nil : lastFirst ([] : List α) = [] := rfl

@[simp] theorem lastFirst_append_singleton (l : List α) (a : α) :
    lastFirst (l ++ [a]) = a :: l := by
  simp [lastFirst]

theorem lastFirst_perm (l : List α) : (lastFirst l).Perm l := by
  rcases l.eq_nil_or_concat' with rfl | ⟨l, a, rfl⟩
  · exact List.Perm.refl _
  · rw [lastFirst_append_singleton]
    exact (List.perm_append_singleton a l).symm

/-- The places of a list in which the last element has taken the place of `a`. -/
theorem getElem?_append_lastFirst (l₁ : List α) (a : α) (l₂ : List α) (i : ℕ) :
    (l₁ ++ lastFirst l₂)[i]? =
      if i = l₁.length + l₂.length then none
      else if i = l₁.length then (l₁ ++ a :: l₂)[l₁.length + l₂.length]?
      else (l₁ ++ a :: l₂)[i]? := by
  rcases l₂.eq_nil_or_concat' with rfl | ⟨l₂, b, rfl⟩
  · grind [lastFirst_nil]
  · rw [lastFirst_append_singleton]
    grind

end LastFirst

section Groups

/-- The first `m` groups of `n` elements. -/
def groups (n : ℕ) : ℕ → List α → List (List α)
  | 0, _ => []
  | m + 1, l => l.take n :: groups n m (l.drop n)

variable {n m : ℕ} {l : List α}

theorem length_groups (n m : ℕ) (l : List α) : (groups n m l).length = m := by
  induction m generalizing l with
  | zero => rfl
  | succ m ih => rw [groups, List.length_cons, ih]

/-- Enough groups hold all elements, in their order. -/
theorem flatten_groups (h : l.length ≤ m * n) : (groups n m l).flatten = l := by
  induction m generalizing l with
  | zero =>
    rw [Nat.zero_mul] at h
    exact (List.eq_nil_of_length_eq_zero (Nat.le_zero.mp h)).symm
  | succ m ih =>
    have hdrop : (l.drop n).length ≤ m * n := by
      rw [List.length_drop, Nat.sub_le_iff_le_add, ← Nat.succ_mul]
      exact h
    rw [groups, List.flatten_cons, ih hdrop, List.take_append_drop]

theorem length_le_of_mem_groups {g : List α} (hg : g ∈ groups n m l) : g.length ≤ n := by
  induction m generalizing l with
  | zero => cases hg
  | succ m ih =>
    rcases List.mem_cons.mp hg with rfl | hg
    · exact List.length_take_le n l
    · exact ih hg

/-- All groups but the last are full. -/
theorem length_of_mem_dropLast_groups (h : (m - 1) * n ≤ l.length) {g : List α}
    (hg : g ∈ (groups n m l).dropLast) : g.length = n := by
  induction m generalizing l with
  | zero => cases hg
  | succ m ih =>
    cases m with
    | zero => cases hg
    | succ m =>
      rw [Nat.add_sub_cancel, Nat.succ_mul] at h
      rw [groups, List.dropLast_cons_of_ne_nil (by simp [groups])] at hg
      rcases List.mem_cons.mp hg with rfl | hg
      · rw [List.length_take]
        omega
      · refine ih ?_ hg
        rw [Nat.add_sub_cancel, List.length_drop]
        omega

end Groups

/-- Pieces of a bounded length. -/
theorem length_flatMap_le {n : ℕ} {l : List α} {f : α → List β} (h : ∀ a ∈ l, (f a).length ≤ n) :
    (l.flatMap f).length ≤ l.length * n := by
  induction l with
  | nil => exact Nat.zero_le _
  | cons a l ih =>
    have hhead := h a List.mem_cons_self
    have htail := ih fun b hb => h b (List.mem_cons_of_mem a hb)
    rw [List.flatMap_cons, List.length_append, List.length_cons, Nat.succ_mul]
    omega

/-- Pieces that are made with their places, but do not depend on them. -/
theorem flatMap_mapIdx {γ : Type*} {l : List α} {f : ℕ → α → β} {g : β → List γ} {h : α → List γ}
    (hf : ∀ i, ∀ a ∈ l, g (f i a) = h a) : (l.mapIdx f).flatMap g = l.flatMap h := by
  induction l generalizing f with
  | nil => rfl
  | cons a l ih =>
    rw [List.mapIdx_cons, List.flatMap_cons, List.flatMap_cons, hf 0 a List.mem_cons_self,
      ih fun i b hb => hf (i + 1) b (List.mem_cons_of_mem a hb)]

end Lists
end Nx507j
