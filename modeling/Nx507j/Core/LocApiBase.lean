import Mathlib.Data.Finset.Card
import Mathlib.Data.List.Perm.Basic
import Nx507j.Lib.Lists
import Nx507j.Lib.Run

/-!
# The adapter table

`LocApiBase.cpp`: the table of the adapters that events are dispatched to, with what fills and
clears it, and the two loops of `LocApiBase.h` that every dispatch is one of.  Both stop at the
first `NULL`.

What an adapter's `getEvtMask()` returns is not up to the table: it is given with each call.

## Main definitions

* `LocApiBase`, `LocApiBase.addAdapter`, `LocApiBase.removeAdapter` — the table and its users.
* `LocApiBase.toAllAdapters`, `LocApiBase.toFirstHandlingAdapter` — the two loops.
* `LocApiBase.Holds` — the table is a list of adapters from its first entry on.

## Main results

* `LocApiBase.Holds.addAdapter`, `.removeAdapter` — what each does to the list.
* `LocApiBase.Holds.toAllAdapters`, `.toFirstHandlingAdapter` — the loops are those of the list.
* `LocApiBase.adapters_exec` — the table after any calls.
-/

namespace Nx507j

open Nx507j.Lists Run

variable {α σ : Type*}

/-! ### Data -/

/-- `MAX_ADAPTERS`. -/
def maxAdapters : ℕ := 10

/-- `LocApiBase`: the table, and the events that are left out of every mask. -/
structure LocApiBase (α : Type*) where
  mLocAdapters : Fin maxAdapters → Option α
  mExcludedMask : BitVec 32

namespace LocApiBase

/-- `LocApiBase::LocApiBase`. -/
def init (excludedMask : BitVec 32) : LocApiBase α := ⟨fun _ => none, excludedMask⟩

/-- What a change of the table calls: `close()`, or `sendMsg` with a `LocOpenMsg`. -/
inductive Out
  | close
  | sendMsg (mask : BitVec 32)
  deriving DecidableEq, Repr

/-- The adapter at `i`, if `i < MAX_ADAPTERS` and the entry is not `NULL`. -/
def adapterAt (s : LocApiBase α) (i : ℕ) : Option α :=
  if h : i < maxAdapters then s.mLocAdapters ⟨i, h⟩ else none

/-- Writes the entry `i`. -/
def setAdapter (i : ℕ) (adapter : Option α) (s : LocApiBase α) : LocApiBase α :=
  { s with mLocAdapters := fun k => if k = i then adapter else s.mLocAdapters k }

@[simp] theorem adapterAt_init (mask : BitVec 32) (i : ℕ) :
    (init mask : LocApiBase α).adapterAt i = none := by
  unfold adapterAt
  split <;> rfl

theorem adapterAt_setAdapter (s : LocApiBase α) {i : ℕ} (hi : i < maxAdapters)
    (adapter : Option α) (k : ℕ) :
    (s.setAdapter i adapter).adapterAt k = if k = i then adapter else s.adapterAt k := by
  unfold adapterAt setAdapter
  by_cases hk : k < maxAdapters
  · simp [hk]
  · have hne : k ≠ i := by omega
    simp [hk, hne]

/-! ### The loops -/

/-- `TO_ALL_ADAPTERS` from `i` on, for `n` turns. -/
def toAllFrom (call : α → σ → σ) (s : LocApiBase α) : ℕ → ℕ → σ → σ
  | 0, _, st => st
  | n + 1, i, st =>
    match s.adapterAt i with
    | none => st
    | some adapter => toAllFrom call s n (i + 1) (call adapter st)

/-- `TO_ALL_ADAPTERS`. -/
def toAllAdapters (call : α → σ → σ) (s : LocApiBase α) (st : σ) : σ :=
  s.toAllFrom call maxAdapters 0 st

/-- `TO_1ST_HANDLING_ADAPTER` from `i` on, for `n` turns. -/
def toFirstHandlingFrom (call : α → σ → Bool × σ) (s : LocApiBase α) : ℕ → ℕ → σ → σ
  | 0, _, st => st
  | n + 1, i, st =>
    match s.adapterAt i with
    | none => st
    | some adapter =>
      let (handled, st) := call adapter st
      if handled then st else toFirstHandlingFrom call s n (i + 1) st

/-- `TO_1ST_HANDLING_ADAPTER`. -/
def toFirstHandlingAdapter (call : α → σ → Bool × σ) (s : LocApiBase α) (st : σ) : σ :=
  s.toFirstHandlingFrom call maxAdapters 0 st

/-- `LocApiBase::getEvtMask`. -/
def getEvtMask (evtMask : α → BitVec 32) (s : LocApiBase α) : BitVec 32 :=
  s.toAllAdapters (fun adapter mask => mask ||| evtMask adapter) 0 &&& ~~~s.mExcludedMask

/-- `LocApiBase::isInSession`, whose loop stops when an adapter is in a session. -/
def isInSession (inSession : α → Bool) (s : LocApiBase α) : Bool :=
  s.toFirstHandlingAdapter (fun adapter _ => (inSession adapter, inSession adapter)) false

/-! ### Changes of the table -/

section Changes

variable [DecidableEq α]

/-- The loop of `addAdapter` from `i` on, for `n` turns. -/
def addFrom (evtMask : α → BitVec 32) (adapter : α) (s : LocApiBase α) :
    ℕ → ℕ → List Out × LocApiBase α
  | 0, _ => ([], s)
  | n + 1, i =>
    match s.adapterAt i with
    | none => ([.sendMsg (evtMask adapter)], s.setAdapter i (some adapter))
    | some other => if other = adapter then ([], s) else addFrom evtMask adapter s n (i + 1)

/-- `LocApiBase::addAdapter`. -/
def addAdapter (evtMask : α → BitVec 32) (adapter : α) (s : LocApiBase α) :
    List Out × LocApiBase α :=
  s.addFrom evtMask adapter maxAdapters 0

/-- `while (++i < MAX_ADAPTERS && mLocAdapters[i] != NULL)`, for `n` turns: where `i` is left. -/
def skipFrom (s : LocApiBase α) : ℕ → ℕ → ℕ
  | 0, i => i
  | n + 1, i => if (s.adapterAt (i + 1)).isSome then skipFrom s n (i + 1) else i + 1

/-- The loop of `removeAdapter` from `i` on, for `n` turns. -/
def removeFrom (evtMask : α → BitVec 32) (adapter : α) :
    ℕ → ℕ → LocApiBase α → List Out × LocApiBase α
  | 0, _, s => ([], s)
  | n + 1, i, s =>
    match s.adapterAt i with
    | none => ([], s)
    | some other =>
      if other = adapter then
        let s := s.setAdapter i none
        let j := i
        -- `i` is past the last adapter, and then at it
        let i := s.skipFrom maxAdapters i - 1
        let s := s.setAdapter j (s.adapterAt i)
        let s := s.setAdapter i none
        let out := if i = 0 then .close else .sendMsg (s.getEvtMask evtMask)
        let (outs, s) := removeFrom evtMask adapter n (i + 1) s
        (out :: outs, s)
      else removeFrom evtMask adapter n (i + 1) s

/-- `LocApiBase::removeAdapter`. -/
def removeAdapter (evtMask : α → BitVec 32) (adapter : α) (s : LocApiBase α) :
    List Out × LocApiBase α :=
  s.removeFrom evtMask adapter maxAdapters 0

end Changes

/-! ### The list of the adapters -/

/-- The table is the list `xs` from its first entry on, and `NULL` after that. -/
structure Holds (s : LocApiBase α) (xs : List α) : Prop where
  nodup : xs.Nodup
  length_le : xs.length ≤ maxAdapters
  adapterAt_eq : ∀ i, s.adapterAt i = xs[i]?

variable {s : LocApiBase α} {xs : List α}

theorem holds_init (mask : BitVec 32) : (init mask : LocApiBase α).Holds [] :=
  ⟨List.nodup_nil, Nat.zero_le _, fun i => by simp⟩

theorem Holds.mLocAdapters_eq (h : s.Holds xs) (i : Fin maxAdapters) :
    s.mLocAdapters i = xs[(i : ℕ)]? := by
  rw [← h.adapterAt_eq, adapterAt, dif_pos i.isLt]

theorem Holds.exists_iff (h : s.Holds xs) (a : α) : (∃ i, s.mLocAdapters i = some a) ↔ a ∈ xs := by
  simp only [h.mLocAdapters_eq]
  rw [List.mem_iff_getElem?]
  constructor
  · rintro ⟨i, hi⟩
    exact ⟨i, hi⟩
  · rintro ⟨i, hi⟩
    have hlt : i < xs.length := (List.getElem?_eq_some_iff.mp hi).1
    exact ⟨⟨i, hlt.trans_le h.length_le⟩, hi⟩

theorem Holds.eq_nil_iff (h : s.Holds xs) : (∀ i, s.mLocAdapters i = none) ↔ xs = [] := by
  rw [List.eq_nil_iff_forall_not_mem]
  constructor
  · intro hnone a ha
    obtain ⟨i, hi⟩ := (h.exists_iff a).mpr ha
    rw [hnone i] at hi
    cases hi
  · intro hnot i
    refine Option.eq_none_iff_forall_ne_some.mpr fun a hi => ?_
    exact hnot a ((h.exists_iff a).mp ⟨i, hi⟩)

theorem Holds.toAllFrom (h : s.Holds xs) (call : α → σ → σ) :
    ∀ (n i : ℕ) (st : σ), maxAdapters ≤ n + i →
      s.toAllFrom call n i st = (xs.drop i).foldl (fun st a => call a st) st := by
  intro n
  induction n with
  | zero =>
    intro i st hn
    rw [List.drop_eq_nil_of_le (h.length_le.trans (by omega))]
    rfl
  | succ n ih =>
    intro i st hn
    rw [LocApiBase.toAllFrom, h.adapterAt_eq]
    by_cases hi : i < xs.length
    · rw [List.getElem?_eq_getElem hi, List.drop_eq_getElem_cons hi]
      exact ih (i + 1) _ (by omega)
    · rw [List.getElem?_eq_none (not_lt.mp hi), List.drop_eq_nil_of_le (not_lt.mp hi)]
      rfl

/-- **A call to all adapters** goes to each one in the list, in order. -/
theorem Holds.toAllAdapters (h : s.Holds xs) (call : α → σ → σ) (st : σ) :
    s.toAllAdapters call st = xs.foldl (fun st a => call a st) st :=
  h.toAllFrom call maxAdapters 0 st le_rfl

/-- `TO_1ST_HANDLING_ADAPTER` on a list of adapters. -/
def handle (call : α → σ → Bool × σ) : List α → σ → σ
  | [], st => st
  | a :: as, st =>
    let (handled, st) := call a st
    if handled then st else handle call as st

/-- The adapter `a` handles the call that `as` have had before it. -/
def Handles (call : α → σ → Bool × σ) (st : σ) (as : List α) (a : α) : Prop :=
  (call a (as.foldl (fun st b => (call b st).2) st)).1 = true

/-- The adapters that are called: none after one that handles the call, and all if there is
none. -/
theorem exists_called (call : α → σ → Bool × σ) :
    ∀ (xs : List α) (st : σ), ∃ called rest, xs = called ++ rest ∧
      handle call xs st = called.foldl (fun st a => (call a st).2) st ∧
      (∀ as a bs, called = as ++ a :: bs → Handles call st as a → bs = []) ∧
      (rest ≠ [] → ∃ as a, called = as ++ [a] ∧ Handles call st as a) := by
  intro xs
  induction xs with
  | nil => intro st; exact ⟨[], [], rfl, rfl, by simp, by simp⟩
  | cons x xs ih =>
    intro st
    rcases hcall : call x st with ⟨handled, st'⟩
    cases handled with
    | true =>
      refine ⟨[x], xs, rfl, by simp [handle, hcall], ?_, ?_⟩
      · intro as a bs heq _
        have hlen := congrArg List.length heq
        simp at hlen
        exact List.length_eq_zero_iff.mp (by omega)
      · intro _
        exact ⟨[], x, rfl, by simp [Handles, hcall]⟩
    | false =>
      obtain ⟨called, rest, rfl, hst, hstop, hall⟩ := ih st'
      have hcons : ∀ as a, Handles call st (x :: as) a ↔ Handles call st' as a := by
        intro as a
        simp [Handles, hcall]
      refine ⟨x :: called, rest, rfl, by simp [handle, hcall, hst], ?_, ?_⟩
      · intro as a bs heq hhandles
        cases as with
        | nil =>
          obtain ⟨rfl, -⟩ := List.cons.inj heq
          simp [Handles, hcall] at hhandles
        | cons b as =>
          obtain ⟨rfl, hcalled⟩ := List.cons.inj heq
          exact hstop as a bs hcalled ((hcons as a).mp hhandles)
      · intro hrest
        obtain ⟨as, a, hcalled, hhandles⟩ := hall hrest
        exact ⟨x :: as, a, by rw [hcalled]; rfl, (hcons as a).mpr hhandles⟩

theorem Holds.toFirstHandlingFrom (h : s.Holds xs) (call : α → σ → Bool × σ) :
    ∀ (n i : ℕ) (st : σ), maxAdapters ≤ n + i →
      s.toFirstHandlingFrom call n i st = handle call (xs.drop i) st := by
  intro n
  induction n with
  | zero =>
    intro i st hn
    rw [List.drop_eq_nil_of_le (h.length_le.trans (by omega))]
    rfl
  | succ n ih =>
    intro i st hn
    rw [LocApiBase.toFirstHandlingFrom, h.adapterAt_eq]
    by_cases hi : i < xs.length
    · rw [List.getElem?_eq_getElem hi, List.drop_eq_getElem_cons hi]
      rcases hcall : call xs[i] st with ⟨handled, st'⟩
      simp only [handle, hcall]
      cases handled with
      | true => rfl
      | false => exact ih (i + 1) st' (by omega)
    · rw [List.getElem?_eq_none (not_lt.mp hi), List.drop_eq_nil_of_le (not_lt.mp hi)]
      rfl

/-- **A call to the first adapter that handles it**. -/
theorem Holds.toFirstHandlingAdapter (h : s.Holds xs) (call : α → σ → Bool × σ) (st : σ) :
    s.toFirstHandlingAdapter call st = handle call xs st :=
  h.toFirstHandlingFrom call maxAdapters 0 st le_rfl

theorem Holds.getEvtMask (h : s.Holds xs) (evtMask : α → BitVec 32) :
    s.getEvtMask evtMask =
      xs.foldl (fun mask a => mask ||| evtMask a) 0 &&& ~~~s.mExcludedMask := by
  rw [LocApiBase.getEvtMask, h.toAllAdapters]

/-- Some adapter is in a session exactly when one of those in the list is. -/
theorem Holds.isInSession (h : s.Holds xs) (inSession : α → Bool) :
    s.isInSession inSession = xs.any inSession := by
  rw [LocApiBase.isInSession, h.toFirstHandlingAdapter]
  clear h
  induction xs with
  | nil => rfl
  | cons a xs ih =>
    rw [handle, List.any_cons]
    cases ha : inSession a with
    | true => rfl
    | false => exact ih

/-! ### Changes of the list -/

variable [DecidableEq α] (evtMask : α → BitVec 32) (adapter : α)

theorem Holds.addFrom (h : s.Holds xs) :
    ∀ n i : ℕ, maxAdapters = n + i → i ≤ xs.length → adapter ∉ xs.take i →
      adapter ∈ xs ∧ s.addFrom evtMask adapter n i = ([], s) ∨
      adapter ∉ xs ∧ xs.length = maxAdapters ∧ s.addFrom evtMask adapter n i = ([], s) ∨
      adapter ∉ xs ∧ xs.length < maxAdapters ∧ s.addFrom evtMask adapter n i =
        ([.sendMsg (evtMask adapter)], s.setAdapter xs.length (some adapter)) := by
  intro n
  induction n with
  | zero =>
    intro i hn hi hnot
    have hlen : xs.length = maxAdapters := le_antisymm h.length_le (by omega)
    rw [List.take_of_length_le (by omega)] at hnot
    exact .inr (.inl ⟨hnot, hlen, rfl⟩)
  | succ n ih =>
    intro i hn hi hnot
    rw [LocApiBase.addFrom, h.adapterAt_eq]
    by_cases hi' : i < xs.length
    · rw [List.getElem?_eq_getElem hi']
      by_cases heq : xs[i] = adapter
      · exact .inl ⟨heq ▸ List.getElem_mem hi', if_pos heq⟩
      · simp only [if_neg heq]
        refine ih (i + 1) (by omega) hi' ?_
        rw [List.take_succ_eq_append_getElem hi', List.mem_append, List.mem_singleton, not_or]
        exact ⟨hnot, fun h => heq h.symm⟩
    · obtain rfl : i = xs.length := le_antisymm hi (not_lt.mp hi')
      rw [List.take_length] at hnot
      rw [List.getElem?_eq_none le_rfl]
      exact .inr (.inr ⟨hnot, by omega, rfl⟩)

/-- **What `addAdapter` does**: an adapter that is there, or for which there is no place, changes
nothing; another one comes last. -/
theorem Holds.addAdapter (h : s.Holds xs) :
    (adapter ∈ xs ∨ xs.length = maxAdapters) ∧ s.addAdapter evtMask adapter = ([], s) ∨
    adapter ∉ xs ∧ xs.length < maxAdapters ∧ ∃ s',
      s.addAdapter evtMask adapter = ([.sendMsg (evtMask adapter)], s') ∧
      s'.Holds (xs ++ [adapter]) := by
  rcases h.addFrom evtMask adapter maxAdapters 0 rfl (Nat.zero_le _) (by simp) with
    ⟨hmem, hadd⟩ | ⟨-, hlen, hadd⟩ | ⟨hnot, hlen, hadd⟩
  · exact .inl ⟨.inl hmem, hadd⟩
  · exact .inl ⟨.inr hlen, hadd⟩
  · refine .inr ⟨hnot, hlen, _, hadd, ?_, ?_, ?_⟩
    · exact List.nodup_append.mpr ⟨h.nodup, List.nodup_singleton _, by grind⟩
    · rw [List.length_append]
      exact hlen
    · intro i
      rw [adapterAt_setAdapter s hlen, h.adapterAt_eq]
      grind

/-- A new adapter comes last, if there is a place. -/
theorem Holds.addAdapter_of_notMem (h : s.Holds xs) (hnot : adapter ∉ xs)
    (hlen : xs.length < maxAdapters) :
    (s.addAdapter evtMask adapter).2.Holds (xs ++ [adapter]) := by
  rcases h.addAdapter evtMask adapter with ⟨hmem | hfull, -⟩ | ⟨-, -, s', hadd, h'⟩
  · exact absurd hmem hnot
  · exact absurd hfull hlen.ne
  · rw [hadd]
    exact h'

omit [DecidableEq α] in
theorem skipFrom_eq {j : ℕ} (h : ∀ i, j < i → s.adapterAt i = xs[i]?) :
    ∀ n i : ℕ, j ≤ i → i < xs.length → xs.length ≤ i + n → s.skipFrom n i = xs.length := by
  intro n
  induction n with
  | zero => intro i _ hi hn; omega
  | succ n ih =>
    intro i hj hi hn
    rw [skipFrom, h (i + 1) (by omega)]
    by_cases hi' : i + 1 < xs.length
    · rw [List.getElem?_eq_getElem hi']
      exact ih (i + 1) (by omega) hi' (by omega)
    · rw [List.getElem?_eq_none (not_lt.mp hi')]
      exact le_antisymm hi (not_lt.mp hi')

theorem Holds.removeFrom_of_notMem (h : s.Holds xs) (hnot : adapter ∉ xs) :
    ∀ n i : ℕ, removeFrom evtMask adapter n i s = ([], s) := by
  intro n
  induction n with
  | zero => intro i; rfl
  | succ n ih =>
    intro i
    rw [removeFrom, h.adapterAt_eq]
    by_cases hi : i < xs.length
    · rw [List.getElem?_eq_getElem hi]
      have hne : xs[i] ≠ adapter := fun heq => hnot (heq ▸ List.getElem_mem hi)
      simp only [if_neg hne]
      exact ih (i + 1)
    · rw [List.getElem?_eq_none (not_lt.mp hi)]

variable {l₁ l₂ : List α} {adapter}

omit [DecidableEq α] in
/-- The hole that a removed adapter leaves is filled with the last one. -/
theorem Holds.fill (h : s.Holds (l₁ ++ adapter :: l₂)) :
    let s₁ := s.setAdapter l₁.length none
    let i := l₁.length + l₂.length
    s₁.skipFrom maxAdapters l₁.length - 1 = i ∧
      ((s₁.setAdapter l₁.length (s₁.adapterAt i)).setAdapter i none).Holds
        (l₁ ++ lastFirst l₂) := by
  intro s₁ i
  have hlen : (l₁ ++ adapter :: l₂).length = i + 1 := by simp [i]; omega
  have hi : i < maxAdapters := by
    have := h.length_le
    omega
  have hj : l₁.length < maxAdapters := by omega
  have hs₁ : ∀ k, s₁.adapterAt k = if k = l₁.length then none else (l₁ ++ adapter :: l₂)[k]? := by
    intro k
    rw [adapterAt_setAdapter s hj, h.adapterAt_eq]
  have hperm : (l₁ ++ adapter :: l₂).Perm (adapter :: (l₁ ++ lastFirst l₂)) :=
    List.perm_middle.trans (((lastFirst_perm l₂).symm.append_left l₁).cons adapter)
  refine ⟨?_, ?_, ?_, ?_⟩
  · have hskip : s₁.skipFrom maxAdapters l₁.length = (l₁ ++ adapter :: l₂).length := by
      refine skipFrom_eq (j := l₁.length) ?_ maxAdapters l₁.length le_rfl (by omega) (by omega)
      intro k hk
      rw [hs₁, if_neg (by omega)]
    rw [hskip, hlen]
    rfl
  · exact (List.nodup_cons.mp (hperm.nodup_iff.mp h.nodup)).2
  · have hle := h.length_le
    rw [hperm.length_eq] at hle
    exact Nat.le_of_succ_le hle
  · intro k
    rw [adapterAt_setAdapter _ hi, adapterAt_setAdapter _ hj, hs₁, hs₁,
      getElem?_append_lastFirst l₁ adapter l₂]
    grind

theorem Holds.removeFrom_of_mem (h : s.Holds (l₁ ++ adapter :: l₂)) :
    ∀ n i : ℕ, n + i = maxAdapters → i ≤ l₁.length →
      ∃ s', s'.Holds (l₁ ++ lastFirst l₂) ∧ removeFrom evtMask adapter n i s =
        ([if l₁ ++ l₂ = [] then .close else .sendMsg (s'.getEvtMask evtMask)], s') := by
  have hlen : l₁.length < maxAdapters := by
    have := h.length_le
    simp at this
    omega
  have hnot : adapter ∉ l₁ := by
    have := h.nodup
    grind
  intro n
  induction n with
  | zero => intro i hn hi; omega
  | succ n ih =>
    intro i hn hi
    rw [removeFrom, h.adapterAt_eq]
    rcases Nat.lt_or_eq_of_le hi with hi | rfl
    · have hget : (l₁ ++ adapter :: l₂)[i]? = some l₁[i] := by grind
      have hne : l₁[i] ≠ adapter := fun heq => hnot (heq ▸ List.getElem_mem hi)
      rw [hget]
      simp only [if_neg hne]
      exact ih (i + 1) (by omega) hi
    · obtain ⟨hskip, hfill⟩ := h.fill
      have hget : (l₁ ++ adapter :: l₂)[l₁.length]? = some adapter := by simp
      rw [hget]
      simp only [hskip, if_true]
      refine ⟨_, hfill, ?_⟩
      -- the loop goes on past the last adapter, and ends
      have hend : adapter ∉ l₁ ++ lastFirst l₂ := by
        have := h.nodup
        have := (lastFirst_perm l₂).mem_iff (a := adapter)
        grind
      rw [hfill.removeFrom_of_notMem evtMask adapter hend]
      simp only [← List.length_append, List.length_eq_zero_iff]

variable (adapter)

/-- **What `removeAdapter` does**: an adapter that is not there changes nothing; another one is
taken out, the last one takes its place, and `close()` is called when there is no other. -/
theorem Holds.removeAdapter (h : s.Holds xs) :
    adapter ∉ xs ∧ s.removeAdapter evtMask adapter = ([], s) ∨
    adapter ∈ xs ∧ ∃ s' xs', xs.Perm (adapter :: xs') ∧ s'.Holds xs' ∧
      s.removeAdapter evtMask adapter =
        ([if xs' = [] then .close else .sendMsg (s'.getEvtMask evtMask)], s') := by
  by_cases hmem : adapter ∈ xs
  · obtain ⟨l₁, l₂, rfl⟩ := List.append_of_mem hmem
    obtain ⟨s', h', hrm⟩ := h.removeFrom_of_mem evtMask maxAdapters 0 rfl (Nat.zero_le _)
    have hperm : (l₁ ++ l₂).Perm (l₁ ++ lastFirst l₂) := (lastFirst_perm l₂).symm.append_left l₁
    refine .inr ⟨hmem, s', _, List.perm_middle.trans (hperm.cons adapter), h', hrm.trans ?_⟩
    have hnil : l₁ ++ l₂ = [] ↔ l₁ ++ lastFirst l₂ = [] := by
      constructor <;> intro h
      · rw [h] at hperm
        exact hperm.symm.eq_nil
      · rw [h] at hperm
        exact hperm.eq_nil
    simp only [hnil]
  · exact .inl ⟨hmem, h.removeFrom_of_notMem evtMask adapter hmem maxAdapters 0⟩

/-! ### Runs -/

/-- The calls that change the table. -/
inductive Call (α : Type*)
  | addAdapter (evtMask : α → BitVec 32) (adapter : α)
  | removeAdapter (evtMask : α → BitVec 32) (adapter : α)

/-- What a call calls, and the table after it. -/
def run (s : LocApiBase α) : Call α → List Out × LocApiBase α
  | .addAdapter evtMask adapter => s.addAdapter evtMask adapter
  | .removeAdapter evtMask adapter => s.removeAdapter evtMask adapter

/-- One call. -/
def step (s : LocApiBase α) (c : Call α) : LocApiBase α := (s.run c).2

/-- What a call is for: the adapters that have been added and not removed since.  An adapter is
not added where all places are taken. -/
def registered (adapters : Finset α) : Call α → Finset α
  | .addAdapter _ adapter =>
    if adapters.card = maxAdapters then adapters else insert adapter adapters
  | .removeAdapter _ adapter => adapters.erase adapter

omit adapter in
/-- **What a call does to the adapters**, and when it calls `close()`. -/
theorem Holds.step (h : s.Holds xs) (c : Call α) :
    ∃ xs', (s.step c).Holds xs' ∧ xs'.toFinset = registered xs.toFinset c ∧
      (.close ∈ (s.run c).1 ↔ xs ≠ [] ∧ xs' = []) := by
  have hcard : xs.toFinset.card = xs.length := List.toFinset_card_of_nodup h.nodup
  cases c with
  | addAdapter evtMask adapter =>
    rcases h.addAdapter evtMask adapter with ⟨hwhy, hadd⟩ | ⟨hnot, hlen, s', hadd, h'⟩
    · simp only [LocApiBase.step, run, registered, hadd, hcard]
      refine ⟨xs, h, ?_, by simp⟩
      split
      · rfl
      · next hne =>
        have hmem := hwhy.resolve_right hne
        rw [Finset.insert_eq_of_mem (List.mem_toFinset.mpr hmem)]
    · simp only [LocApiBase.step, run, registered, hadd, hcard, if_neg hlen.ne]
      refine ⟨_, h', ?_, by simp⟩
      rw [List.toFinset_append, Finset.union_comm]
      rfl
  | removeAdapter evtMask adapter =>
    rcases h.removeAdapter evtMask adapter with ⟨hnot, hrm⟩ | ⟨hmem, s', xs', hperm, h', hrm⟩
    · simp only [LocApiBase.step, run, registered, hrm]
      refine ⟨xs, h, ?_, by simp⟩
      rw [Finset.erase_eq_of_notMem (by simpa using hnot)]
    · simp only [LocApiBase.step, run, registered, hrm]
      have hnot : adapter ∉ xs' := (List.nodup_cons.mp (hperm.nodup_iff.mp h.nodup)).1
      refine ⟨xs', h', ?_, ?_⟩
      · rw [List.toFinset_eq_of_perm _ _ hperm, List.toFinset_cons,
          Finset.erase_insert (by simpa using hnot)]
      · have hne : xs ≠ [] := List.ne_nil_of_mem hmem
        by_cases hnil : xs' = [] <;> simp [hnil, hne]

omit adapter in
theorem holds_exec (mask : BitVec 32) (calls : List (Call α)) :
    ∃ xs, (exec LocApiBase.step (init mask) calls).Holds xs ∧
      xs.toFinset = exec registered ∅ calls := by
  have hstep : ∀ (s : LocApiBase α) (adapters : Finset α) c,
      (∃ xs, s.Holds xs ∧ xs.toFinset = adapters) →
      ∃ xs, (s.step c).Holds xs ∧ xs.toFinset = registered adapters c := by
    rintro s adapters c ⟨xs, h, rfl⟩
    obtain ⟨xs', h', hxs', -⟩ := h.step c
    exact ⟨xs', h', hxs'⟩
  exact exec_sim hstep calls (init mask) ∅ ⟨[], holds_init mask, List.toFinset_nil⟩

omit adapter in
/-- **The adapter table**, after any calls: no entry follows a `NULL`, none is there twice, and
the entries are the adapters that have been added and not removed since.  A call to all adapters
goes to each of them once, one to the first that handles it to those up to that one, and
`close()` is called exactly when the table has become empty. -/
theorem adapters_exec (mask : BitVec 32) (calls : List (Call α)) :
    let s := exec step (init mask) calls
    (∀ i j, i < j → s.mLocAdapters i = none → s.mLocAdapters j = none) ∧
    (∀ i j a, s.mLocAdapters i = some a → s.mLocAdapters j = some a → i = j) ∧
    (∀ a, (∃ i, s.mLocAdapters i = some a) ↔ a ∈ exec registered ∅ calls) ∧
    (∃ xs : List α, xs.Nodup ∧ xs.toFinset = exec registered ∅ calls ∧
      (∀ {σ : Type} (call : α → σ → σ) (st : σ),
        s.toAllAdapters call st = xs.foldl (fun st a => call a st) st) ∧
      ∀ {σ : Type} (call : α → σ → Bool × σ) (st : σ), ∃ called rest, xs = called ++ rest ∧
        s.toFirstHandlingAdapter call st = called.foldl (fun st a => (call a st).2) st ∧
        (∀ as a bs, called = as ++ a :: bs → Handles call st as a → bs = []) ∧
        (rest ≠ [] → ∃ as a, called = as ++ [a] ∧ Handles call st as a)) ∧
    ∀ c, .close ∈ (s.run c).1 ↔
      (∃ i, s.mLocAdapters i ≠ none) ∧ ∀ i, (s.step c).mLocAdapters i = none := by
  intro s
  obtain ⟨xs, h, hxs⟩ := holds_exec mask calls
  refine ⟨?_, ?_, ?_, ⟨xs, h.nodup, hxs, h.toAllAdapters, ?_⟩, ?_⟩
  · intro i j hij hi
    rw [h.mLocAdapters_eq, List.getElem?_eq_none_iff] at hi ⊢
    exact hi.trans hij.le
  · intro i j a hi hj
    rw [h.mLocAdapters_eq] at hi hj
    exact Fin.ext (List.getElem?_inj (List.getElem?_eq_some_iff.mp hi).1 h.nodup |>.mp (hi.trans hj.symm))
  · intro a
    rw [← hxs, List.mem_toFinset]
    exact h.exists_iff a
  · intro σ call st
    obtain ⟨called, rest, heq, hst, hstop, hall⟩ := exists_called call xs st
    exact ⟨called, rest, heq, (h.toFirstHandlingAdapter call st).trans hst, hstop, hall⟩
  · intro c
    obtain ⟨xs', h', -, hclose⟩ := h.step c
    rw [hclose, ← h'.eq_nil_iff, ne_eq, ← h.eq_nil_iff, not_forall]

end LocApiBase
end Nx507j
