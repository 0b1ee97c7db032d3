import Mathlib.Data.List.Basic

/-!
# Searching a linked list

`linked_list_search` walks a list from its head, asks the caller's `equal` about
each element in turn, and stops at the first it accepts, which it takes out of
the list when told to.  Here a list is the sequence its links spell, head first,
and `equal` may act on the caller's state: the AGPS code passes a comparison
that notifies the subscriber it is asked about.

## Main definitions

* `linkedListSearch equal rm l s` — the element found, the list left, the state.
* `searchLoop equal del n l s` — removing searches repeated until one finds nothing.
* `searchTurns equal del n l s` — the same, where running out of turns shows.

## Main results

* `linkedListSearch_of_pure` — a comparison without effect finds the first match.
* `linkedListSearch_of_effect` — the first match is the only one acted on when
  only accepted elements are.
* `searchLoop_eq_filter` — the loop ends, and takes out every match exactly once.
* `searchTurns_eq_some` — the loop ends whatever the comparison does.
-/

namespace Nx507j

variable {α σ : Type*}

/-- `linked_list_search`.  An empty list writes nothing to the output cell, which
every caller of this development has set to `NULL`. -/
def linkedListSearch (equal : α → σ → Bool × σ) (rmIfFound : Bool) :
    List α → σ → Option α × List α × σ
  | [], s => (none, [], s)
  | a :: as, s =>
    let (found, s) := equal a s
    if found then
      (some a, if rmIfFound then as else a :: as, s)
    else
      let (r, as, s) := linkedListSearch equal rmIfFound as s
      (r, a :: as, s)

@[simp] theorem linkedListSearch_nil (equal : α → σ → Bool × σ) (rm : Bool) (s : σ) :
    linkedListSearch equal rm [] s = (none, [], s) := rfl

/-- A comparison that has no effect finds the first element it accepts. -/
theorem linkedListSearch_of_pure {equal : α → σ → Bool × σ} {p : α → Bool} (rm : Bool) {s : σ}
    {l : List α} (h : ∀ a ∈ l, equal a s = (p a, s)) :
    linkedListSearch equal rm l s = (l.find? p, if rm then l.eraseP p else l, s) := by
  induction l with
  | nil => simp
  | cons a l ih =>
    have hl := ih fun b hb => h b (List.mem_cons_of_mem a hb)
    simp only [linkedListSearch, h a List.mem_cons_self]
    cases hp : p a with
    | true => simp [hp]
    | false => cases rm <;> simp [hp, hl]

/-- A comparison that acts on the elements it accepts, and on no other, acts on
the first of them alone. -/
theorem linkedListSearch_of_effect {equal : α → σ → Bool × σ} {p : α → Bool} {act : α → σ → σ}
    {s : σ} {l : List α} (h : ∀ a ∈ l, equal a s = (p a, if p a then act a s else s)) :
    linkedListSearch equal true l s =
      (l.find? p, l.eraseP p, (l.find? p).elim s (act · s)) := by
  induction l with
  | nil => simp
  | cons a l ih =>
    have hl := ih fun b hb => h b (List.mem_cons_of_mem a hb)
    simp only [linkedListSearch, h a List.mem_cons_self]
    cases hp : p a with
    | true => simp [hp]
    | false => simp [hp, hl]

/-- A comparison that accepts nothing is asked about, and may act on, every
element in turn; `I` is what it may rely on meanwhile. -/
theorem linkedListSearch_of_reject {equal : α → σ → Bool × σ} {act : α → σ → σ} {I : σ → Prop}
    (rm : Bool) {l : List α} {s : σ} (hs : I s)
    (h : ∀ a ∈ l, ∀ s, I s → equal a s = (false, act a s) ∧ I (act a s)) :
    linkedListSearch equal rm l s = (none, l, l.foldl (fun s a => act a s) s) := by
  induction l generalizing s with
  | nil => simp
  | cons a l ih =>
    obtain ⟨ha, hI⟩ := h a List.mem_cons_self s hs
    have hl := ih hI fun b hb => h b (List.mem_cons_of_mem a hb)
    simp [linkedListSearch, ha, hl]

/-! ### Searching until nothing is found -/

/-- Removing searches repeated until one finds nothing; `del` disposes of what a
search took out.  `n` bounds the turns: a turn that finds something shortens the
list, so `l.length + 1` turns are enough. -/
def searchLoop (equal : α → σ → Bool × σ) (del : α → σ → σ) : ℕ → List α → σ → List α × σ
  | 0, l, s => (l, s)
  | n + 1, l, s =>
    match linkedListSearch equal true l s with
    | (none, l, s) => (l, s)
    | (some a, l, s) => searchLoop equal del n l (del a s)

@[simp] theorem searchLoop_nil (equal : α → σ → Bool × σ) (del : α → σ → σ) (n : ℕ) (s : σ) :
    searchLoop equal del n [] s = ([], s) := by
  cases n <;> rfl

/-- A turn begins with a look at the head of the list, and depends on the state
through it alone. -/
theorem searchLoop_congr_head {equal : α → σ → Bool × σ} {a : α} {s s' : σ}
    (h : equal a s = equal a s') (del : α → σ → σ) (n : ℕ) (l : List α) :
    searchLoop equal del (n + 1) (a :: l) s = searchLoop equal del (n + 1) (a :: l) s' := by
  simp only [searchLoop, linkedListSearch, h]

/-- Taking the first match first takes every match in the order of the list. -/
theorem filter_eq_cons_of_find? {p : α → Bool} {a : α} {l : List α}
    (h : l.find? p = some a) : l.filter p = a :: (l.eraseP p).filter p := by
  induction l with
  | nil => simp at h
  | cons b l ih =>
    cases hb : p b with
    | true =>
      simp only [List.find?_cons, hb, Option.some.injEq] at h
      subst h
      simp [hb]
    | false =>
      simp only [List.find?_cons, hb] at h
      simp [hb, ih h]

theorem filter_not_eraseP (p : α → Bool) (l : List α) :
    (l.eraseP p).filter (fun a => !p a) = l.filter fun a => !p a := by
  induction l with
  | nil => rfl
  | cons b l ih => cases hb : p b <;> simp [hb, ih]

/-- **The loop ends, and takes out every match exactly once**, in the order of
the list; the rest stay, in their order.  `I` is what the comparison may rely on,
given the list that is left. -/
theorem searchLoop_eq_filter {equal : α → σ → Bool × σ} {p : α → Bool} {act del : α → σ → σ}
    {I : List α → σ → Prop}
    (h : ∀ l s, I l s → ∀ a ∈ l, equal a s = (p a, if p a then act a s else s))
    (hI : ∀ l s a, I l s → l.find? p = some a → I (l.eraseP p) (del a (act a s))) :
    ∀ (n : ℕ) (l : List α) (s : σ), l.length < n → I l s →
      searchLoop equal del n l s =
        (l.filter fun a => !p a, (l.filter p).foldl (fun s a => del a (act a s)) s) := by
  intro n
  induction n with
  | zero => intro l s hn; omega
  | succ n ih =>
    intro l s hn hs
    rw [searchLoop, linkedListSearch_of_effect (h l s hs)]
    cases hf : l.find? p with
    | none =>
      have hp : ∀ a ∈ l, p a = false := by simpa using List.find?_eq_none.mp hf
      have hno : l.filter p = [] := List.filter_eq_nil_iff.mpr fun a ha => by simp [hp a ha]
      have hall : (l.filter fun a => !p a) = l :=
        List.filter_eq_self.mpr fun a ha => by simp [hp a ha]
      have herase : l.eraseP p = l := List.eraseP_of_forall_not fun a ha => by simp [hp a ha]
      simp [hno, hall, herase]
    | some a =>
      -- the turn takes out `a`, the first match, and the loop goes on over the rest
      have hmem : a ∈ l := List.mem_of_find?_eq_some hf
      have hpa : p a = true := List.find?_some hf
      have hlen : (l.eraseP p).length < n := by
        have := List.length_eraseP_of_mem hmem hpa
        have := List.length_pos_of_mem hmem
        omega
      simp only [Option.elim]
      rw [ih _ _ hlen (hI l s a hs hf), filter_not_eraseP, filter_eq_cons_of_find? hf,
        List.foldl_cons]

/-! ### Turn by turn -/

/-- The same loop as it is written, which goes on as long as a search finds something; `none` if it
has not ended after `n` turns. -/
def searchTurns (equal : α → σ → Bool × σ) (del : α → σ → σ) :
    ℕ → List α → σ → Option (List α × σ)
  | 0, _, _ => none
  | n + 1, l, s =>
    match linkedListSearch equal true l s with
    | (none, l, s) => some (l, s)
    | (some a, l, s) => searchTurns equal del n l (del a s)

/-- A removing search that finds something leaves one element less, whatever it asks. -/
theorem length_of_linkedListSearch {equal : α → σ → Bool × σ} {a : α} {l l' : List α} {s s' : σ}
    (h : linkedListSearch equal true l s = (some a, l', s')) : l'.length + 1 = l.length := by
  induction l generalizing s l' with
  | nil => cases h
  | cons b l ih =>
    unfold linkedListSearch at h
    dsimp only at h
    split at h
    · cases h
      rfl
    · rcases hrest : linkedListSearch equal true l (equal b s).2 with ⟨r, rest, s''⟩
      rw [hrest] at h
      cases h
      exact congrArg Nat.succ (ih hrest)

/-- **The loop ends**, and does what `searchLoop` does. -/
theorem searchTurns_eq_some (equal : α → σ → Bool × σ) (del : α → σ → σ) :
    ∀ (n : ℕ) (l : List α) (s : σ), l.length < n →
      searchTurns equal del n l s = some (searchLoop equal del (l.length + 1) l s) := by
  intro n
  induction n with
  | zero => intro l s hn; omega
  | succ n ih =>
    intro l s hn
    rw [searchTurns, searchLoop]
    rcases hsearch : linkedListSearch equal true l s with ⟨_ | a, l', s'⟩
    · rfl
    · have hlength := length_of_linkedListSearch hsearch
      dsimp only
      rw [ih l' (del a s') (by omega), hlength]

end Nx507j
