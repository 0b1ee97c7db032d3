import Mathlib.Data.List.Basic
import Mathlib.Data.List.Nodup

/-!
# Lists linked both ways

Places `A` with a link to the next and a link to the previous place, and what it means that the
links spell a list.  Nothing is said about what else the places hold, or how they are stored.

## Main definitions

* `Chain f p l` — following the links `f` from `p` spells `l` and ends.
* `Linked next prev head tail l` — `l` is linked both ways between its ends.

## Main results

* `Linked.chain`, `Linked.chain_reverse` — a linked list is spelled forwards from its head, and
  backwards from its tail.
* `Linked.cons` — a new place in front.
* `Linked.unlink` — a place taken out, wherever it is.
-/

namespace Nx507j
namespace Links

variable {A : Type*}

/-- Following the links `f` from `p` spells `l` and ends. -/
def Chain (f : A → Option A) : Option A → List A → Prop
  | p, [] => p = none
  | p, a :: l => p = some a ∧ Chain f (f a) l

/-- Links that agree on the list spell it as well. -/
theorem Chain.congr {f g : A → Option A} {l : List A} :
    ∀ {p : Option A}, Chain f p l → (∀ a ∈ l, g a = f a) → Chain g p l := by
  induction l with
  | nil => intro p h _; exact h
  | cons a l ih =>
    intro p h hfg
    refine ⟨h.1, ?_⟩
    rw [hfg a List.mem_cons_self]
    exact ih h.2 fun b hb => hfg b (List.mem_cons_of_mem a hb)

/-- The list `l` of distinct places is linked both ways between its ends. -/
structure Linked (next prev : A → Option A) (head tail : Option A) (l : List A) : Prop where
  nodup : l.Nodup
  head_eq : head = l.head?
  tail_eq : tail = l.getLast?
  next_eq : ∀ l₁ a l₂, l = l₁ ++ a :: l₂ → next a = l₂.head?
  prev_eq : ∀ l₁ a l₂, l = l₁ ++ a :: l₂ → prev a = l₁.getLast?

namespace Linked

variable {next prev next' prev' : A → Option A} {head tail : Option A} {l : List A}

theorem nil (next prev : A → Option A) : Linked next prev none none [] where
  nodup := List.nodup_nil
  head_eq := rfl
  tail_eq := rfl
  next_eq l₁ a l₂ h := by simp at h
  prev_eq l₁ a l₂ h := by simp at h

/-- Read backwards, a linked list is linked with the directions exchanged. -/
theorem reverse (h : Linked next prev head tail l) : Linked prev next tail head l.reverse where
  nodup := List.nodup_reverse.mpr h.nodup
  head_eq := by rw [h.tail_eq, List.head?_reverse]
  tail_eq := by rw [h.head_eq, List.getLast?_reverse]
  next_eq l₁ a l₂ hl := by
    have hl' : l = l₂.reverse ++ a :: l₁.reverse := by
      rw [← l.reverse_reverse, hl]
      simp
    rw [h.prev_eq _ _ _ hl', List.getLast?_reverse]
  prev_eq l₁ a l₂ hl := by
    have hl' : l = l₂.reverse ++ a :: l₁.reverse := by
      rw [← l.reverse_reverse, hl]
      simp
    rw [h.next_eq _ _ _ hl', List.head?_reverse]

/-- From any place on, the links spell the rest of the list. -/
theorem chain_rest (h : Linked next prev head tail l) :
    ∀ (l₂ l₁ : List A), l = l₁ ++ l₂ → Chain next l₂.head? l₂ := by
  intro l₂
  induction l₂ with
  | nil => intro l₁ _; rfl
  | cons a l₂ ih =>
    intro l₁ hl
    refine ⟨rfl, ?_⟩
    rw [h.next_eq l₁ a l₂ hl]
    exact ih (l₁ ++ [a]) (by simpa using hl)

/-- A linked list is spelled from its head. -/
theorem chain (h : Linked next prev head tail l) : Chain next head l := by
  rw [h.head_eq]
  exact h.chain_rest l [] rfl

/-- A linked list is spelled backwards from its tail. -/
theorem chain_reverse (h : Linked next prev head tail l) : Chain prev tail l.reverse :=
  h.reverse.chain

theorem head_eq_none_iff (h : Linked next prev head tail l) : head = none ↔ l = [] := by
  rw [h.head_eq, List.head?_eq_none_iff]

theorem tail_eq_none_iff (h : Linked next prev head tail l) : tail = none ↔ l = [] := by
  rw [h.tail_eq, List.getLast?_eq_none_iff]

variable [DecidableEq A]

/-- **A new place in front**: it points to the old head, which points back to it. -/
theorem cons (h : Linked next prev head tail l) {a : A} (ha : a ∉ l) (hnexta : next' a = head)
    (hpreva : prev' a = none) (hnext : ∀ b ∈ l, next' b = next b)
    (hprev : ∀ b ∈ l, prev' b = if head = some b then some a else prev b) :
    Linked next' prev' (some a) (if head = none then some a else tail) (a :: l) where
  nodup := List.nodup_cons.mpr ⟨ha, h.nodup⟩
  head_eq := rfl
  tail_eq := by
    cases l with
    | nil => rw [if_pos (h.head_eq_none_iff.mpr rfl), List.getLast?_singleton]
    | cons c l =>
      have hne : head ≠ none := fun hnone => List.cons_ne_nil _ _ (h.head_eq_none_iff.mp hnone)
      rw [if_neg hne, h.tail_eq, List.getLast?_cons_cons]
  next_eq l₁ b l₂ hl := by
    cases l₁ with
    | nil =>
      obtain ⟨rfl, rfl⟩ := List.cons.inj hl
      rw [hnexta, h.head_eq]
    | cons c l₁ =>
      obtain ⟨-, hl⟩ := List.cons.inj hl
      rw [hnext b (by simp [hl]), h.next_eq l₁ b l₂ hl]
  prev_eq l₁ b l₂ hl := by
    cases l₁ with
    | nil =>
      obtain ⟨rfl, -⟩ := List.cons.inj hl
      exact hpreva
    | cons c l₁ =>
      obtain rfl : a = c := (List.cons.inj hl).1
      have hlt : l = l₁ ++ b :: l₂ := (List.cons.inj hl).2
      rw [hprev b (by simp [hlt]), h.prev_eq l₁ b l₂ hlt, h.head_eq, hlt]
      cases l₁ with
      | nil => simp
      | cons d l₁ =>
        have hnd := h.nodup
        rw [hlt, List.cons_append, List.nodup_cons] at hnd
        have hdb : d ≠ b := by
          rintro rfl
          exact hnd.1 (by simp)
        rw [List.cons_append, List.head?_cons, if_neg (by simpa using hdb),
          List.getLast?_cons_cons]

/-- Past a place that is taken out, every other place has its successor in the list left. -/
theorem next_unlink {l₁ l₂ : List A} {a : A} (h : Linked next prev head tail (l₁ ++ a :: l₂))
    {k₁ k₂ : List A} {b : A} (hk : l₁ ++ l₂ = k₁ ++ b :: k₂) :
    (if prev a = some b then next a else next b) = k₂.head? := by
  have hpa : prev a = l₁.getLast? := h.prev_eq l₁ a l₂ rfl
  obtain ⟨hnd₁, -, hdisj⟩ := List.nodup_append.mp (h.nodup.sublist (by simp) : (l₁ ++ l₂).Nodup)
  -- no place of `l₂` is the last one of `l₁`
  have hbehind : b ∈ l₂ → prev a ≠ some b := by
    intro hb hlast
    rw [hpa] at hlast
    exact hdisj b (List.mem_of_getLast? hlast) b hb rfl
  rcases List.append_eq_append_iff.mp hk with ⟨m, rfl, hm⟩ | ⟨m, rfl, hm⟩
  · rw [if_neg (hbehind (by simp [hm]))]
    exact h.next_eq (l₁ ++ a :: m) b k₂ (by simp [hm])
  · cases m with
    | nil =>
      obtain rfl : l₂ = b :: k₂ := by simpa using hm.symm
      rw [if_neg (hbehind (by simp))]
      exact h.next_eq (k₁ ++ [a]) b k₂ (by simp)
    | cons c m =>
      obtain ⟨rfl, rfl⟩ := List.cons.inj hm
      cases m with
      | nil =>
        -- `b` is the one before, and takes over the successor
        rw [if_pos (by simp [hpa]), h.next_eq (k₁ ++ [b]) a l₂ (by simp)]
        simp
      | cons c m =>
        have hne : prev a ≠ some b := by
          intro hlast
          rw [hpa, List.getLast?_append] at hlast
          have hb : b ∈ c :: m := by
            apply List.mem_of_getLast?
            simpa [List.getLast?_cons_cons] using hlast
          exact (List.nodup_cons.mp (List.nodup_append.mp hnd₁).2.1).1 hb
        rw [if_neg hne, h.next_eq k₁ b (c :: m ++ a :: l₂) (by simp)]
        rfl

/-- **A place taken out**: its neighbours, or the ends where it has none, are linked past it. -/
theorem unlink {l₁ l₂ : List A} {a : A} (h : Linked next prev head tail (l₁ ++ a :: l₂))
    (hnext : ∀ b ∈ l₁ ++ l₂, next' b = if prev a = some b then next a else next b)
    (hprev : ∀ b ∈ l₁ ++ l₂, prev' b = if next a = some b then prev a else prev b) :
    Linked next' prev' (if prev a = none then next a else head)
      (if next a = none then prev a else tail) (l₁ ++ l₂) where
  nodup := h.nodup.sublist (by simp)
  head_eq := by
    rw [h.prev_eq l₁ a l₂ rfl, h.next_eq l₁ a l₂ rfl, h.head_eq]
    cases l₁ <;> simp
  tail_eq := by
    rw [h.prev_eq l₁ a l₂ rfl, h.next_eq l₁ a l₂ rfl, h.tail_eq]
    cases l₂ <;> simp [List.getLast?_append]
  next_eq k₁ b k₂ hk := by
    rw [hnext b (by simp [hk])]
    exact h.next_unlink hk
  prev_eq k₁ b k₂ hk := by
    rw [hprev b (by simp [hk])]
    have hrev : Linked prev next tail head (l₂.reverse ++ a :: l₁.reverse) := by
      have := h.reverse
      simpa using this
    have hk' : l₂.reverse ++ l₁.reverse = k₂.reverse ++ b :: k₁.reverse := by
      rw [← List.reverse_append, hk]
      simp
    rw [hrev.next_unlink hk', List.head?_reverse]

end Linked
end Links
end Nx507j
