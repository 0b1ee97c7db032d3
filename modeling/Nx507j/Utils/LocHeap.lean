import Mathlib.Algebra.Order.Group.Multiset
import Mathlib.Order.Defs.Unbundled
import Nx507j.Lib.Run

/-!
# The heap of rankable objects

`LocHeap` keeps references to the client's objects in a binary tree that is
sorted vertically only: a parent is outranked by neither child.  A push goes to
the smaller subtree, a pop pulls the higher ranking child up at every level, and
a removal searches for the object by its address.  The nodes hold the size of
their subtree, which every operation keeps up on its way.

The objects are of any type `α`; two of them are the same object when they are
equal, so `α` is a type of references.  `outRanks` is their ranking.

## Main definitions

* `LocHeapNode`, `LocHeapNode.push`, `LocHeapNode.pop`, `LocHeapNode.remove` — the tree.
* `LocHeapNode.checkNodes` — the code's own check of a tree.
* `LocHeapNode.elems` — what the tree is for: the objects that are in it.
* `LocHeapNode.Valid` — the sizes are right and nothing ranks above its top.
* `LocHeap.Tally` — a heap, with the objects pushed and taken counted.

## Main results

* `LocHeapNode.elems_push`, `LocHeapNode.pop_spec`, `LocHeapNode.remove_spec` — the
  operations on the tree are those on the objects in it.
* `LocHeapNode.remove_of_mem` — an object in the tree is found.
* `LocHeap.checkTree_exec` — the check succeeds after every operation.
* `LocHeap.priorityBag_exec` — what an operation does to the objects in a reachable heap.
-/

namespace Nx507j

variable {α : Type*}

/-- `LocHeapNode*`, with `null` for `NULL`. -/
inductive LocHeapNode (α : Type*) where
  | null
  | node (mSize : ℤ) (mLeft mRight : LocHeapNode α) (mData : α)
  deriving DecidableEq, Repr

namespace LocHeapNode

/-! ### The operations -/

/-- `mSize`.  The size of an empty tree is 0, as in `getTreeSize`. -/
def getSize : LocHeapNode α → ℤ
  | null => 0
  | node mSize _ _ _ => mSize

/-- `mData`. -/
def data? : LocHeapNode α → Option α
  | null => none
  | node _ _ _ mData => some mData

/-- The constructor. -/
def leaf (data : α) : LocHeapNode α := node 1 null null data

/-- `LocHeapNode::push`.  A push swaps data, never nodes, so the incoming node is
the data that it holds.  An empty tree becomes the node, as in `LocHeap::push`. -/
def push (outRanks : α → α → Bool) : LocHeapNode α → α → LocHeapNode α
  | null, data => leaf data
  | node mSize mLeft mRight mData, data =>
    let high := if outRanks data mData then data else mData
    let low := if outRanks data mData then mData else data
    match mLeft, mRight with
    | null, _ => node (mSize + 1) (leaf low) mRight high
    | node .., null => node (mSize + 1) mLeft (leaf low) high
    | node .., node .. =>
      if mLeft.getSize ≤ mRight.getSize then
        node (mSize + 1) (mLeft.push outRanks low) mRight high
      else
        node (mSize + 1) mLeft (mRight.push outRanks low) high

/-- The recursion of `LocHeapNode::pop`, on a tree whose top has been given `data` by
the swap of the level above: the tree that is left, and the data of the popped leaf. -/
def popDown (outRanks : α → α → Bool) : LocHeapNode α → α → LocHeapNode α × α
  | null, data => (null, data)
  | node mSize mLeft mRight _, data =>
    match mLeft, mRight with
    | null, null => (null, data)
    | null, node _ _ _ right =>
      let (mRight, popped) := mRight.popDown outRanks data
      (node (mSize - 1) null mRight right, popped)
    | node _ _ _ left, null =>
      let (mLeft, popped) := mLeft.popDown outRanks data
      (node (mSize - 1) mLeft null left, popped)
    | node _ _ _ left, node _ _ _ right =>
      if outRanks left right then
        let (mLeft, popped) := mLeft.popDown outRanks data
        (node (mSize - 1) mLeft mRight left, popped)
      else
        let (mRight, popped) := mRight.popDown outRanks data
        (node (mSize - 1) mLeft mRight right, popped)

/-- `LocHeapNode::pop`. -/
def pop (outRanks : α → α → Bool) : LocHeapNode α → LocHeapNode α × Option α
  | null => (null, none)
  | node mSize mLeft mRight mData =>
    let (top, popped) := (node mSize mLeft mRight mData).popDown outRanks mData
    (top, some popped)

/-- `LocHeapNode::remove`: the object is found by its address.  A removal from
`NULL` is one the code does not call, and finds nothing. -/
def remove [DecidableEq α] (outRanks : α → α → Bool) :
    LocHeapNode α → α → LocHeapNode α × Option α
  | null, _ => (null, none)
  | node mSize mLeft mRight mData, data =>
    if data = mData then
      (node mSize mLeft mRight mData).pop outRanks
    else if outRanks data mData then
      (node mSize mLeft mRight mData, none)
    else
      match mLeft.remove outRanks data with
      | (mLeft, some removed) => (node (mSize - 1) mLeft mRight mData, some removed)
      | (_, none) =>
        match mRight.remove outRanks data with
        | (mRight, some removed) => (node (mSize - 1) mLeft mRight mData, some removed)
        | (_, none) => (node mSize mLeft mRight mData, none)

/-- What `checkNodes` asks of a child, if there is one. -/
def checkChild (outRanks : α → α → Bool) (mData : α) (checked : Bool) : LocHeapNode α → Bool
  | null => true
  | node _ _ _ top => !(outRanks top mData || !checked)

/-- `LocHeapNode::checkNodes`. -/
def checkNodes (outRanks : α → α → Bool) : LocHeapNode α → Bool
  | null => true
  | node mSize mLeft mRight mData =>
    mLeft.checkChild outRanks mData (mLeft.checkNodes outRanks) &&
      mRight.checkChild outRanks mData (mRight.checkNodes outRanks) &&
        decide (mSize - mLeft.getSize - mRight.getSize = 1)

@[simp] theorem getSize_null : (null : LocHeapNode α).getSize = 0 := rfl

@[simp] theorem getSize_node (n : ℤ) (l r : LocHeapNode α) (a : α) :
    (node n l r a).getSize = n := rfl

/-! ### The objects in a tree -/

/-- The objects in the tree. -/
def elems : LocHeapNode α → Multiset α
  | null => 0
  | node _ mLeft mRight mData => mData ::ₘ (mLeft.elems + mRight.elems)

@[simp] theorem elems_null : (null : LocHeapNode α).elems = 0 := rfl

@[simp] theorem elems_node (n : ℤ) (l r : LocHeapNode α) (a : α) :
    (node n l r a).elems = a ::ₘ (l.elems + r.elems) := rfl

@[simp] theorem elems_leaf (a : α) : (leaf a).elems = {a} := rfl

theorem mem_of_data? {t : LocHeapNode α} {a : α} (h : t.data? = some a) : a ∈ t.elems := by
  cases t with
  | null => cases h
  | node n l r b =>
    obtain rfl := Option.some.inj h
    exact Multiset.mem_cons_self b _

variable {outRanks : α → α → Bool}

variable (outRanks) in
/-- A push puts the lower ranking of the top and the incoming object into one of the
subtrees. -/
theorem push_cases (n : ℤ) (l r : LocHeapNode α) (a d : α) :
    ∃ high low, (outRanks d a = true ∧ high = d ∧ low = a ∨ outRanks d a = false ∧ high = a ∧ low = d) ∧
      ((node n l r a).push outRanks d = node (n + 1) (l.push outRanks low) r high ∨
        (node n l r a).push outRanks d = node (n + 1) l (r.push outRanks low) high) := by
  refine ⟨if outRanks d a then d else a, if outRanks d a then a else d, ?_, ?_⟩
  · cases outRanks d a <;> simp
  · rcases l with _ | ⟨nl, ll, lr, la⟩
    · exact .inl rfl
    rcases r with _ | ⟨nr, rl, rr, ra⟩
    · exact .inr rfl
    · simp only [push]
      split
      · exact .inl rfl
      · exact .inr rfl

theorem elems_push (t : LocHeapNode α) (d : α) : (t.push outRanks d).elems = d ::ₘ t.elems := by
  induction t generalizing d with
  | null => rfl
  | node n l r a ihl ihr =>
    obtain ⟨high, low, hswap, hpush⟩ := push_cases outRanks n l r a d
    have hboth : high ::ₘ low ::ₘ (l.elems + r.elems) = d ::ₘ a ::ₘ (l.elems + r.elems) := by
      rcases hswap with ⟨-, rfl, rfl⟩ | ⟨-, rfl, rfl⟩
      · rfl
      · exact Multiset.cons_swap _ _ _
    rw [elems_node, ← hboth]
    rcases hpush with hpush | hpush
    · rw [hpush, elems_node, ihl, Multiset.cons_add]
    · rw [hpush, elems_node, ihr, Multiset.add_cons]

variable (outRanks) in
/-- What one level of a pop does: the top of a child that the other child does not
outrank comes up, and the pop goes on in that child. -/
theorem popDown_cases (n : ℤ) (l r : LocHeapNode α) (a d : α) :
    (l = null ∧ r = null ∧ (node n l r a).popDown outRanks d = (null, d)) ∨
    (∃ b, l.data? = some b ∧ (∀ c, r.data? = some c → outRanks b c = true) ∧
      (node n l r a).popDown outRanks d =
        (node (n - 1) (l.popDown outRanks d).1 r b, (l.popDown outRanks d).2)) ∨
    (∃ c, r.data? = some c ∧ (∀ b, l.data? = some b → outRanks b c = false) ∧
      (node n l r a).popDown outRanks d =
        (node (n - 1) l (r.popDown outRanks d).1 c, (r.popDown outRanks d).2)) := by
  rcases l with _ | ⟨nl, ll, lr, b⟩ <;> rcases r with _ | ⟨nr, rl, rr, c⟩
  · exact .inl ⟨rfl, rfl, rfl⟩
  · refine .inr (.inr ⟨c, rfl, ?_, rfl⟩)
    intro b hb
    cases hb
  · refine .inr (.inl ⟨b, rfl, ?_, rfl⟩)
    intro c hc
    cases hc
  · rcases hbc : outRanks b c with _ | _
    · refine .inr (.inr ⟨c, rfl, ?_, ?_⟩)
      · intro b' hb'
        obtain rfl := Option.some.inj hb'
        exact hbc
      · rw [popDown]
        simp only [hbc, Bool.false_eq_true, if_false]
    · refine .inr (.inl ⟨b, rfl, ?_, ?_⟩)
      · intro c' hc'
        obtain rfl := Option.some.inj hc'
        exact hbc
      · rw [popDown]
        simp only [hbc, if_true]

variable (outRanks) in
/-- The data that was swapped down is what comes out, and the top's own data goes. -/
theorem popDown_spec (t : LocHeapNode α) (d : α) :
    (t.popDown outRanks d).2 = d ∧
      ∀ a, t.data? = some a → t.elems = a ::ₘ (t.popDown outRanks d).1.elems := by
  induction t with
  | null => exact ⟨rfl, nofun⟩
  | node n l r a ihl ihr =>
    rcases popDown_cases outRanks n l r a d with
      ⟨rfl, rfl, hpop⟩ | ⟨b, hb, -, hpop⟩ | ⟨c, hc, -, hpop⟩
    · rw [hpop]
      refine ⟨rfl, ?_⟩
      intro a' ha'
      obtain rfl := Option.some.inj ha'
      rfl
    · rw [hpop]
      refine ⟨ihl.1, ?_⟩
      intro a' ha'
      obtain rfl := Option.some.inj ha'
      rw [elems_node, elems_node, ihl.2 b hb, Multiset.cons_add]
    · rw [hpop]
      refine ⟨ihr.1, ?_⟩
      intro a' ha'
      obtain rfl := Option.some.inj ha'
      rw [elems_node, elems_node, ihr.2 c hc, Multiset.add_cons]

variable (outRanks) in
/-- A pop takes the top out. -/
theorem pop_spec (t : LocHeapNode α) :
    (t.pop outRanks).2 = t.data? ∧
      ∀ a, t.data? = some a → t.elems = a ::ₘ (t.pop outRanks).1.elems := by
  cases t with
  | null => exact ⟨rfl, nofun⟩
  | node n l r a =>
    obtain ⟨hdata, helems⟩ := popDown_spec outRanks (node n l r a) a
    exact ⟨congrArg some hdata, helems⟩

variable [DecidableEq α]

variable (outRanks) in
/-- What a removal does at one level. -/
theorem remove_cases (n : ℤ) (l r : LocHeapNode α) (a d : α) :
    (d = a ∧ (node n l r a).remove outRanks d = (node n l r a).pop outRanks) ∨
    (d ≠ a ∧ outRanks d a = false ∧ (∃ x, (l.remove outRanks d).2 = some x ∧
      (node n l r a).remove outRanks d = (node (n - 1) (l.remove outRanks d).1 r a, some x))) ∨
    (d ≠ a ∧ outRanks d a = false ∧ (l.remove outRanks d).2 = none ∧
      (∃ x, (r.remove outRanks d).2 = some x ∧
        (node n l r a).remove outRanks d = (node (n - 1) l (r.remove outRanks d).1 a, some x))) ∨
    (d ≠ a ∧ (outRanks d a = true ∨
        (l.remove outRanks d).2 = none ∧ (r.remove outRanks d).2 = none) ∧
      (node n l r a).remove outRanks d = (node n l r a, none)) := by
  rw [remove]
  by_cases hda : d = a
  · exact .inl ⟨hda, if_pos hda⟩
  rw [if_neg hda]
  rcases hrank : outRanks d a with _ | _
  · rcases hl : l.remove outRanks d with ⟨l', _ | x⟩
    · rcases hr : r.remove outRanks d with ⟨r', _ | y⟩
      · exact .inr (.inr (.inr ⟨hda, .inr ⟨rfl, rfl⟩, rfl⟩))
      · exact .inr (.inr (.inl ⟨hda, rfl, rfl, y, rfl, rfl⟩))
    · exact .inr (.inl ⟨hda, rfl, x, rfl, rfl⟩)
  · exact .inr (.inr (.inr ⟨hda, .inl rfl, rfl⟩))

variable (outRanks) in
/-- A removal takes the object out, or leaves the tree as it is and returns `NULL`. -/
theorem remove_spec (t : LocHeapNode α) (d : α) :
    ((t.remove outRanks d).2 = some d ∧ t.elems = d ::ₘ (t.remove outRanks d).1.elems) ∨
      t.remove outRanks d = (t, none) := by
  induction t with
  | null => exact .inr rfl
  | node n l r a ihl ihr =>
    rcases remove_cases outRanks n l r a d with
      ⟨rfl, hrm⟩ | ⟨-, -, x, hx, hrm⟩ | ⟨-, -, -, x, hx, hrm⟩ | ⟨-, -, hrm⟩
    · have hpop := pop_spec outRanks (node n l r d)
      rw [hrm]
      exact .inl ⟨hpop.1, hpop.2 d rfl⟩
    · rcases ihl with ⟨hd, helems⟩ | hnone
      · rw [hrm]
        refine .inl ⟨hx.symm.trans hd, ?_⟩
        rw [elems_node, elems_node, helems, Multiset.cons_add, Multiset.cons_swap]
      · rw [hnone] at hx
        cases hx
    · rcases ihr with ⟨hd, helems⟩ | hnone
      · rw [hrm]
        refine .inl ⟨hx.symm.trans hd, ?_⟩
        rw [elems_node, elems_node, helems, Multiset.add_cons, Multiset.cons_swap]
      · rw [hnone] at hx
        cases hx
    · exact .inr hrm

/-! ### Valid trees -/

/-- The sizes are right, and no object in a tree outranks its top. -/
def Valid (outRanks : α → α → Bool) : LocHeapNode α → Prop
  | null => True
  | node mSize mLeft mRight mData =>
    mSize = 1 + mLeft.getSize + mRight.getSize ∧
      (∀ x ∈ mLeft.elems + mRight.elems, outRanks x mData = false) ∧
        mLeft.Valid outRanks ∧ mRight.Valid outRanks

omit [DecidableEq α] in
/-- The size is the number of objects. -/
theorem Valid.getSize_eq {t : LocHeapNode α} (h : t.Valid outRanks) :
    t.getSize = t.elems.card := by
  induction t with
  | null => rfl
  | node n l r a ihl ihr =>
    obtain ⟨hsize, -, hl, hr⟩ := h
    rw [getSize_node, hsize, ihl hl, ihr hr, elems_node, Multiset.card_cons, Multiset.card_add]
    omega

/-- **A removal finds what is there**: an object of the tree does not outrank the tops it
is below, so the search reaches it. -/
theorem Valid.remove_of_mem {t : LocHeapNode α} (h : t.Valid outRanks) {d : α} (hd : d ∈ t.elems) :
    (t.remove outRanks d).2 = some d := by
  induction t with
  | null => cases hd
  | node n l r a ihl ihr =>
    rcases remove_spec outRanks (node n l r a) d with ⟨hfound, -⟩ | hnone
    · exact hfound
    exfalso
    obtain ⟨-, htop, hl, hr⟩ := h
    rcases remove_cases outRanks n l r a d with
      ⟨rfl, hrm⟩ | ⟨-, -, x, hx, hrm⟩ | ⟨-, -, -, x, hx, hrm⟩ | ⟨hda, hsearch, -⟩
    · have hpop := (pop_spec outRanks (node n l r d)).1
      rw [← hrm, hnone] at hpop
      cases hpop
    · cases (congrArg Prod.snd hrm).symm.trans (congrArg Prod.snd hnone)
    · cases (congrArg Prod.snd hrm).symm.trans (congrArg Prod.snd hnone)
    · rcases Multiset.mem_cons.mp hd with rfl | hd
      · exact hda rfl
      rcases hsearch with hrank | ⟨hnl, hnr⟩
      · rw [htop d hd] at hrank
        cases hrank
      rcases Multiset.mem_add.mp hd with hd | hd
      · rw [ihl hl hd] at hnl
        cases hnl
      · rw [ihr hr hd] at hnr
        cases hnr

section StrictWeakOrder

variable [IsStrictWeakOrder α (fun a b => outRanks a b = true)]

omit [DecidableEq α] in
theorem outRanks_irrefl (a : α) : outRanks a a = false :=
  Bool.eq_false_iff.mpr (irrefl_of (fun a b => outRanks a b = true) a)

omit [DecidableEq α] in
theorem outRanks_trans {a b c : α} (hab : outRanks a b = true) (hbc : outRanks b c = true) :
    outRanks a c = true :=
  trans_of (fun a b => outRanks a b = true) hab hbc

omit [DecidableEq α] in
theorem outRanks_asymm {a b : α} (hab : outRanks a b = true) : outRanks b a = false := by
  rcases hba : outRanks b a with _ | _
  · rfl
  · exact absurd (outRanks_trans hab hba) (Bool.eq_false_iff.mp (outRanks_irrefl a))

omit [DecidableEq α] in
/-- What does not outrank an object outranked by none but its betters does not outrank
those either. -/
theorem not_outRanks_trans {a b c : α} (hab : outRanks a b = false) (hbc : outRanks b c = false) :
    outRanks a c = false := by
  rcases hac : outRanks a c with _ | _
  · rfl
  -- neither end outranks `b`, so all three are incomparable
  have hba : ¬ outRanks b a = true := by
    intro hba
    rw [outRanks_trans hba hac] at hbc
    cases hbc
  have hcb : ¬ outRanks c b = true := by
    intro hcb
    rw [outRanks_trans hac hcb] at hab
    cases hab
  have horder : IsStrictWeakOrder α (fun a b => outRanks a b = true) := inferInstance
  have hinc := horder.incomp_trans a b c ⟨Bool.eq_false_iff.mp hab, hba⟩
    ⟨Bool.eq_false_iff.mp hbc, hcb⟩
  exact absurd hac hinc.1

omit [DecidableEq α] in
/-- Nothing in a valid tree outranks its top. -/
theorem Valid.top {t : LocHeapNode α} (h : t.Valid outRanks) {a : α} (ha : t.data? = some a) :
    ∀ x ∈ t.elems, outRanks x a = false := by
  cases t with
  | null => cases ha
  | node n l r b =>
    obtain rfl := Option.some.inj ha
    intro x hx
    rcases Multiset.mem_cons.mp hx with rfl | hx
    · exact outRanks_irrefl x
    · exact h.2.1 x hx

omit [DecidableEq α] in
theorem Valid.push {t : LocHeapNode α} (h : t.Valid outRanks) (d : α) :
    (t.push outRanks d).Valid outRanks ∧ (t.push outRanks d).getSize = t.getSize + 1 := by
  induction t generalizing d with
  | null => exact ⟨⟨rfl, by simp, trivial, trivial⟩, rfl⟩
  | node n l r a ihl ihr =>
    obtain ⟨hsize, htop, hl, hr⟩ := h
    obtain ⟨high, low, hswap, hpush⟩ := push_cases outRanks n l r a d
    have hlow : outRanks low high = false := by
      rcases hswap with ⟨hda, rfl, rfl⟩ | ⟨hda, rfl, rfl⟩
      · exact outRanks_asymm hda
      · exact hda
    have hrest : ∀ x ∈ l.elems + r.elems, outRanks x high = false := by
      intro x hx
      rcases hswap with ⟨hda, rfl, rfl⟩ | ⟨-, rfl, -⟩
      · exact not_outRanks_trans (htop x hx) (outRanks_asymm hda)
      · exact htop x hx
    rcases hpush with hpush | hpush
    · rw [hpush]
      refine ⟨⟨?_, ?_, (ihl hl low).1, hr⟩, rfl⟩
      · rw [(ihl hl low).2]
        omega
      · intro x hx
        rw [elems_push, Multiset.cons_add] at hx
        rcases Multiset.mem_cons.mp hx with rfl | hx
        · exact hlow
        · exact hrest x hx
    · rw [hpush]
      refine ⟨⟨?_, ?_, hl, (ihr hr low).1⟩, rfl⟩
      · rw [(ihr hr low).2]
        omega
      · intro x hx
        rw [elems_push, Multiset.add_cons] at hx
        rcases Multiset.mem_cons.mp hx with rfl | hx
        · exact hlow
        · exact hrest x hx

omit [DecidableEq α] in
theorem Valid.popDown {t : LocHeapNode α} (h : t.Valid outRanks) (d : α) :
    (t.popDown outRanks d).1.Valid outRanks ∧
      (t ≠ null → (t.popDown outRanks d).1.getSize = t.getSize - 1) := by
  induction t with
  | null => exact ⟨trivial, fun h => absurd rfl h⟩
  | node n l r a ihl ihr =>
    obtain ⟨hsize, htop, hl, hr⟩ := h
    rcases popDown_cases outRanks n l r a d with
      ⟨rfl, rfl, hpop⟩ | ⟨b, hb, hbr, hpop⟩ | ⟨c, hc, hlc, hpop⟩
    · rw [hpop]
      refine ⟨trivial, ?_⟩
      intro _
      simp only [getSize_null, getSize_node] at hsize ⊢
      omega
    · have hlnull : l ≠ null := by
        rintro rfl
        cases hb
      have helems : l.elems = b ::ₘ (l.popDown outRanks d).1.elems :=
        (popDown_spec outRanks l d).2 b hb
      rw [hpop]
      refine ⟨⟨?_, ?_, (ihl hl).1, hr⟩, fun _ => rfl⟩
      · rw [(ihl hl).2 hlnull]
        omega
      · intro x hx
        rcases Multiset.mem_add.mp hx with hx | hx
        · exact hl.top hb x (helems ▸ Multiset.mem_cons_of_mem hx)
        · -- the other child's top is outranked by the one that comes up
          rcases hrd : r.data? with _ | c
          · cases r with
            | null => cases hx
            | node nr rl rr ra => cases hrd
          · exact not_outRanks_trans (hr.top hrd x hx) (outRanks_asymm (hbr c hrd))
    · have hrnull : r ≠ null := by
        rintro rfl
        cases hc
      have helems : r.elems = c ::ₘ (r.popDown outRanks d).1.elems :=
        (popDown_spec outRanks r d).2 c hc
      rw [hpop]
      refine ⟨⟨?_, ?_, hl, (ihr hr).1⟩, fun _ => rfl⟩
      · rw [(ihr hr).2 hrnull]
        omega
      · intro x hx
        rcases Multiset.mem_add.mp hx with hx | hx
        · rcases hld : l.data? with _ | b
          · cases l with
            | null => cases hx
            | node nl ll lr la => cases hld
          · exact not_outRanks_trans (hl.top hld x hx) (hlc b hld)
        · exact hr.top hc x (helems ▸ Multiset.mem_cons_of_mem hx)

omit [DecidableEq α] in
theorem Valid.pop {t : LocHeapNode α} (h : t.Valid outRanks) : (t.pop outRanks).1.Valid outRanks := by
  cases t with
  | null => trivial
  | node n l r a => exact (Valid.popDown h a).1

theorem Valid.remove {t : LocHeapNode α} (h : t.Valid outRanks) (d : α) :
    (t.remove outRanks d).1.Valid outRanks := by
  induction t with
  | null => trivial
  | node n l r a ihl ihr =>
    obtain ⟨hsize, htop, hl, hr⟩ := h
    rcases remove_cases outRanks n l r a d with
      ⟨rfl, hrm⟩ | ⟨-, -, x, hx, hrm⟩ | ⟨-, -, -, x, hx, hrm⟩ | ⟨-, -, hrm⟩
    · rw [hrm]
      exact Valid.pop ⟨hsize, htop, hl, hr⟩
    · rcases remove_spec outRanks l d with ⟨-, helems⟩ | hnone
      · rw [hrm]
        refine ⟨?_, ?_, ihl hl, hr⟩
        · have hcard : l.getSize = (l.remove outRanks d).1.getSize + 1 := by
            rw [hl.getSize_eq, (ihl hl).getSize_eq, helems, Multiset.card_cons]
            omega
          omega
        · intro y hy
          apply htop
          rw [helems, Multiset.cons_add]
          exact Multiset.mem_cons_of_mem hy
      · rw [hnone] at hx
        cases hx
    · rcases remove_spec outRanks r d with ⟨-, helems⟩ | hnone
      · rw [hrm]
        refine ⟨?_, ?_, hl, ihr hr⟩
        · have hcard : r.getSize = (r.remove outRanks d).1.getSize + 1 := by
            rw [hr.getSize_eq, (ihr hr).getSize_eq, helems, Multiset.card_cons]
            omega
          omega
        · intro y hy
          apply htop
          rw [helems, Multiset.add_cons]
          exact Multiset.mem_cons_of_mem hy
      · rw [hnone] at hx
        cases hx
    · rw [hrm]
      exact ⟨hsize, htop, hl, hr⟩

end StrictWeakOrder

/-! ### The code's own check -/

/-- At every node `mSize` is one plus the sizes of the children, and neither child
outranks its parent. -/
def Consistent (outRanks : α → α → Bool) : LocHeapNode α → Prop
  | null => True
  | node mSize mLeft mRight mData =>
    mSize = 1 + mLeft.getSize + mRight.getSize ∧
      (∀ left, mLeft.data? = some left → outRanks left mData = false) ∧
        (∀ right, mRight.data? = some right → outRanks right mData = false) ∧
          mLeft.Consistent outRanks ∧ mRight.Consistent outRanks

omit [DecidableEq α] in
private theorem checkChild_iff {c : LocHeapNode α} {a : α}
    (hc : c.checkNodes outRanks = true ↔ c.Consistent outRanks) :
    c.checkChild outRanks a (c.checkNodes outRanks) = true ↔
      (∀ b, c.data? = some b → outRanks b a = false) ∧ c.Consistent outRanks := by
  cases c with
  | null => simp [checkChild, data?, Consistent]
  | node n l r b =>
    rw [← hc]
    simp [checkChild, data?]

omit [DecidableEq α] in
theorem checkNodes_iff {t : LocHeapNode α} :
    t.checkNodes outRanks = true ↔ t.Consistent outRanks := by
  induction t with
  | null => exact iff_of_true rfl trivial
  | node n l r a ihl ihr =>
    have hsize : n - l.getSize - r.getSize = 1 ↔ n = 1 + l.getSize + r.getSize := by omega
    simp only [checkNodes, Consistent, Bool.and_eq_true, decide_eq_true_eq, checkChild_iff ihl,
      checkChild_iff ihr, hsize]
    tauto

omit [DecidableEq α] in
theorem Valid.consistent {t : LocHeapNode α} (h : t.Valid outRanks) : t.Consistent outRanks := by
  induction t with
  | null => trivial
  | node n l r a ihl ihr =>
    obtain ⟨hsize, htop, hl, hr⟩ := h
    refine ⟨hsize, ?_, ?_, ihl hl, ihr hr⟩
    · intro b hb
      exact htop b (Multiset.mem_add.mpr (.inl (mem_of_data? hb)))
    · intro b hb
      exact htop b (Multiset.mem_add.mpr (.inr (mem_of_data? hb)))

end LocHeapNode

/-! ### The heap -/

/-- `LocHeap`. -/
structure LocHeap (α : Type*) where
  mTree : LocHeapNode α
  deriving DecidableEq, Repr

namespace LocHeap

open Run

/-- The constructor. -/
def empty : LocHeap α := ⟨.null⟩

/-- `LocHeap::push`. -/
def push (outRanks : α → α → Bool) (h : LocHeap α) (data : α) : LocHeap α :=
  ⟨h.mTree.push outRanks data⟩

/-- `LocHeap::peek`. -/
def peek (h : LocHeap α) : Option α := h.mTree.data?

/-- `LocHeap::pop`. -/
def pop (outRanks : α → α → Bool) (h : LocHeap α) : LocHeap α × Option α :=
  let (mTree, popped) := h.mTree.pop outRanks
  (⟨mTree⟩, popped)

/-- `LocHeap::remove`. -/
def remove [DecidableEq α] (outRanks : α → α → Bool) (h : LocHeap α) (data : α) :
    LocHeap α × Option α :=
  let (mTree, removed) := h.mTree.remove outRanks data
  (⟨mTree⟩, removed)

/-- `LocHeap::checkTree`. -/
def checkTree (outRanks : α → α → Bool) (h : LocHeap α) : Bool := h.mTree.checkNodes outRanks

/-- `LocHeap::getTreeSize`. -/
def getTreeSize (h : LocHeap α) : ℤ := h.mTree.getSize

/-- The objects in the heap. -/
def elems (h : LocHeap α) : Multiset α := h.mTree.elems

/-- The heap's tree is valid. -/
def Valid (outRanks : α → α → Bool) (h : LocHeap α) : Prop := h.mTree.Valid outRanks

@[simp] theorem elems_empty : (empty : LocHeap α).elems = 0 := rfl

variable {outRanks : α → α → Bool}

theorem valid_empty : (empty : LocHeap α).Valid outRanks := trivial

theorem mem_of_peek {h : LocHeap α} {a : α} (ha : h.peek = some a) : a ∈ h.elems :=
  LocHeapNode.mem_of_data? ha

/-- A heap without a top is empty. -/
theorem elems_of_peek_none {h : LocHeap α} (hpeek : h.peek = none) : h.elems = 0 := by
  rcases h with ⟨_ | ⟨n, l, r, a⟩⟩
  · rfl
  · cases hpeek

@[simp] theorem elems_push (h : LocHeap α) (d : α) : (h.push outRanks d).elems = d ::ₘ h.elems :=
  LocHeapNode.elems_push h.mTree d

/-- The top after a push into an empty heap. -/
theorem peek_push_of_empty {h : LocHeap α} (hpeek : h.peek = none) (d : α) :
    (h.push outRanks d).peek = some d := by
  rcases h with ⟨_ | ⟨n, l, r, a⟩⟩
  · rfl
  · cases hpeek

/-- The top after a push is the new object or stays what it was. -/
theorem peek_push {h : LocHeap α} {a : α} (hpeek : h.peek = some a) (d : α) :
    (h.push outRanks d).peek = some (if outRanks d a then d else a) := by
  rcases h with ⟨_ | ⟨n, l, r, b⟩⟩
  · cases hpeek
  obtain rfl := Option.some.inj hpeek
  obtain ⟨high, low, hswap, hpush⟩ := LocHeapNode.push_cases outRanks n l r b d
  have htop : (LocHeap.push outRanks ⟨.node n l r b⟩ d).peek = some high := by
    rcases hpush with hpush | hpush <;> simp only [LocHeap.push, hpush, peek, LocHeapNode.data?]
  rw [htop]
  rcases hswap with ⟨hrank, rfl, -⟩ | ⟨hrank, rfl, -⟩
  · rw [if_pos hrank]
  · rw [if_neg (Bool.eq_false_iff.mp hrank)]

/-- A removal that does not return the top leaves it there. -/
theorem peek_remove [DecidableEq α] {h : LocHeap α} {d : α}
    (hne : (h.remove outRanks d).2 ≠ h.peek) : (h.remove outRanks d).1.peek = h.peek := by
  rcases h with ⟨_ | ⟨n, l, r, a⟩⟩
  · rfl
  rcases LocHeapNode.remove_cases outRanks n l r a d with
    ⟨-, hrm⟩ | ⟨-, -, x, -, hrm⟩ | ⟨-, -, -, x, -, hrm⟩ | ⟨-, -, hrm⟩
  · exact absurd ((congrArg Prod.snd hrm).trans (LocHeapNode.pop_spec outRanks _).1) hne
  · simp only [LocHeap.remove, hrm, peek, LocHeapNode.data?]
  · simp only [LocHeap.remove, hrm, peek, LocHeapNode.data?]
  · simp only [LocHeap.remove, hrm]

/-- A pop of an empty heap returns `NULL`. -/
theorem pop_of_empty {h : LocHeap α} (hpeek : h.peek = none) : h.pop outRanks = (h, none) := by
  rcases h with ⟨_ | ⟨n, l, r, a⟩⟩
  · rfl
  · cases hpeek

variable (outRanks) in
/-- A pop returns the top and takes it out. -/
theorem pop_spec (h : LocHeap α) :
    (h.pop outRanks).2 = h.peek ∧
      ∀ a, h.peek = some a → h.elems = a ::ₘ (h.pop outRanks).1.elems :=
  LocHeapNode.pop_spec outRanks h.mTree

variable (outRanks) in
/-- A removal takes the object out, or changes nothing and returns `NULL`. -/
theorem remove_spec [DecidableEq α] (h : LocHeap α) (d : α) :
    ((h.remove outRanks d).2 = some d ∧ h.elems = d ::ₘ (h.remove outRanks d).1.elems) ∨
      h.remove outRanks d = (h, none) := by
  rcases LocHeapNode.remove_spec outRanks h.mTree d with hfound | hnone
  · exact .inl hfound
  · right
    rw [remove, hnone]

theorem Valid.remove_of_mem [DecidableEq α] {h : LocHeap α} (hv : h.Valid outRanks) {d : α}
    (hd : d ∈ h.elems) :
    (h.remove outRanks d).2 = some d ∧ h.elems = d ::ₘ (h.remove outRanks d).1.elems := by
  have hfound := LocHeapNode.Valid.remove_of_mem hv hd
  refine ⟨hfound, ?_⟩
  rcases remove_spec outRanks h d with ⟨-, helems⟩ | hnone
  · exact helems
  · cases (congrArg Prod.snd hnone).symm.trans hfound

section StrictWeakOrder

variable [IsStrictWeakOrder α (fun a b => outRanks a b = true)]

theorem Valid.top {h : LocHeap α} (hv : h.Valid outRanks) {a : α} (ha : h.peek = some a) :
    ∀ x ∈ h.elems, outRanks x a = false :=
  LocHeapNode.Valid.top hv ha

theorem Valid.push {h : LocHeap α} (hv : h.Valid outRanks) (d : α) :
    (h.push outRanks d).Valid outRanks :=
  (LocHeapNode.Valid.push hv d).1

theorem Valid.pop {h : LocHeap α} (hv : h.Valid outRanks) : (h.pop outRanks).1.Valid outRanks :=
  LocHeapNode.Valid.pop hv

theorem Valid.remove [DecidableEq α] {h : LocHeap α} (hv : h.Valid outRanks) (d : α) :
    (h.remove outRanks d).1.Valid outRanks :=
  LocHeapNode.Valid.remove hv d

end StrictWeakOrder

/-! ### Runs -/

/-- A call on the heap. -/
inductive Call (α : Type*) where
  | push (data : α)
  | pop
  | remove (data : α)
  deriving DecidableEq, Repr

/-- A heap, with the objects counted that have been pushed, and that a pop or a removal
has returned. -/
structure Tally (α : Type*) where
  heap : LocHeap α
  pushed : ℕ
  taken : ℕ
  deriving DecidableEq, Repr

namespace Tally

/-- An empty heap. -/
def init : Tally α := ⟨LocHeap.empty, 0, 0⟩

/-- One call.  A pop of an empty heap and a removal that finds nothing return `NULL`. -/
def step [DecidableEq α] (outRanks : α → α → Bool) (t : Tally α) : Call α → Tally α
  | .push data => { t with heap := t.heap.push outRanks data, pushed := t.pushed + 1 }
  | .pop =>
    let (heap, popped) := t.heap.pop outRanks
    { t with heap := heap, taken := t.taken + popped.toList.length }
  | .remove data =>
    let (heap, removed) := t.heap.remove outRanks data
    { t with heap := heap, taken := t.taken + removed.toList.length }

/-- The heap is valid, and the objects in it are those pushed and not taken. -/
structure Inv (outRanks : α → α → Bool) (t : Tally α) : Prop where
  valid : t.heap.Valid outRanks
  count : t.heap.elems.card + t.taken = t.pushed

theorem inv_init : (init : Tally α).Inv outRanks := ⟨valid_empty, rfl⟩

theorem Inv.step [DecidableEq α] [IsStrictWeakOrder α (fun a b => outRanks a b = true)]
    {t : Tally α} (h : t.Inv outRanks) (c : Call α) : (t.step outRanks c).Inv outRanks := by
  have hcount := h.count
  cases c with
  | push data =>
    refine ⟨h.valid.push data, ?_⟩
    simp only [Tally.step, elems_push, Multiset.card_cons]
    omega
  | pop =>
    refine ⟨h.valid.pop, ?_⟩
    obtain ⟨hpopped, helems⟩ := pop_spec outRanks t.heap
    rcases hpeek : t.heap.peek with _ | a
    · simp only [Tally.step, pop_of_empty hpeek, Option.toList_none, List.length_nil]
      exact hcount
    · rw [helems a hpeek, Multiset.card_cons] at hcount
      simp only [Tally.step, hpopped, hpeek, Option.toList_some, List.length_singleton]
      omega
  | remove data =>
    refine ⟨h.valid.remove data, ?_⟩
    rcases remove_spec outRanks t.heap data with ⟨hfound, helems⟩ | hnone
    · rw [helems, Multiset.card_cons] at hcount
      simp only [Tally.step, hfound, Option.toList_some, List.length_singleton]
      omega
    · simp only [Tally.step, hnone, Option.toList_none, List.length_nil]
      exact hcount

end Tally

/-- **The check of the tree succeeds after every operation**: the sizes are right at every
node, no child outranks its parent, and the size of the tree is the number of objects pushed
less the number taken. -/
theorem checkTree_exec [DecidableEq α] (outRanks : α → α → Bool)
    (horder : IsStrictWeakOrder α (fun a b => outRanks a b = true)) (calls : List (Call α)) :
    let t := exec (Tally.step outRanks) Tally.init calls
    t.heap.checkTree outRanks = true ∧ t.heap.mTree.Consistent outRanks ∧
      t.heap.getTreeSize = t.pushed - t.taken := by
  intro t
  have hinv : t.Inv outRanks :=
    exec_inv (fun t c (h : t.Inv outRanks) => h.step c) calls Tally.init Tally.inv_init
  have hconsistent : t.heap.mTree.Consistent outRanks := LocHeapNode.Valid.consistent hinv.valid
  refine ⟨LocHeapNode.checkNodes_iff.mpr hconsistent, hconsistent, ?_⟩
  have hsize : t.heap.getTreeSize = t.heap.elems.card := LocHeapNode.Valid.getSize_eq hinv.valid
  have hcount := hinv.count
  omega

/-- Objects are ranked by a number. -/
theorem isStrictWeakOrder_key (key : α → ℕ) :
    IsStrictWeakOrder α (fun a b => decide (key a < key b) = true) where
  irrefl := by simp
  trans a b c := by simpa using Nat.lt_trans
  incomp_trans a b c := by
    simp only [decide_eq_true_eq]
    omega

/-- Of two numbers the smaller one is taken first. -/
theorem checkTree_exec_numbers :
    (exec (Tally.step fun a b : ℕ => decide (a < b)) Tally.init
      [.push 2, .push 1, .pop, .push 3]).heap.getTreeSize = 2 := by
  have horder : IsStrictWeakOrder ℕ (fun a b => decide (a < b) = true) :=
    isStrictWeakOrder_key fun a => a
  have h := checkTree_exec (fun a b : ℕ => decide (a < b)) horder
    [.push 2, .push 1, .pop, .push 3]
  exact h.2.2

/-! ### The bag -/

/-- **The heap is a priority bag** after every sequence of calls.  A push adds the object; a
pop takes one that nothing in the heap outranks, or finds the heap empty; a removal takes the
object itself, whatever ranks equal to it, or changes nothing. -/
theorem priorityBag_exec [DecidableEq α] (outRanks : α → α → Bool)
    (horder : IsStrictWeakOrder α (fun a b => outRanks a b = true)) (calls : List (Call α)) :
    let h := (exec (Tally.step outRanks) Tally.init calls).heap
    (∀ d, (h.push outRanks d).elems = d ::ₘ h.elems) ∧
      (h.elems = 0 → h.pop outRanks = (h, none)) ∧
      (h.elems ≠ 0 → ∃ a ∈ h.elems, (∀ x ∈ h.elems, outRanks x a = false) ∧
        (h.pop outRanks).2 = some a ∧ (h.pop outRanks).1.elems = h.elems.erase a) ∧
      (∀ d ∈ h.elems, (h.remove outRanks d).2 = some d ∧
        (h.remove outRanks d).1.elems = h.elems.erase d) ∧
      ∀ d ∉ h.elems, h.remove outRanks d = (h, none) := by
  intro h
  have hv : h.Valid outRanks :=
    (exec_inv (fun t c (h : t.Inv outRanks) => h.step c) calls Tally.init Tally.inv_init).valid
  refine ⟨fun d => elems_push h d, ?_, ?_, ?_, ?_⟩
  · intro hempty
    apply pop_of_empty
    rcases hpeek : h.peek with _ | a
    · rfl
    · have hmem := mem_of_peek hpeek
      rw [hempty] at hmem
      cases hmem
  · intro hne
    rcases hpeek : h.peek with _ | a
    · exact absurd (elems_of_peek_none hpeek) hne
    · obtain ⟨hpopped, helems⟩ := pop_spec outRanks h
      refine ⟨a, mem_of_peek hpeek, hv.top hpeek, hpopped.trans hpeek, ?_⟩
      rw [helems a hpeek, Multiset.erase_cons_head]
  · intro d hd
    obtain ⟨hfound, helems⟩ := hv.remove_of_mem hd
    refine ⟨hfound, ?_⟩
    rw [helems, Multiset.erase_cons_head]
  · intro d hd
    rcases remove_spec outRanks h d with ⟨-, helems⟩ | hnone
    · rw [helems] at hd
      exact absurd (Multiset.mem_cons_self d _) hd
    · exact hnone

/-- Of numbers that rank by their tens, the one that was pushed is removed, not its equal. -/
theorem priorityBag_exec_tens :
    ((exec (Tally.step fun a b : ℕ => decide (a / 10 < b / 10)) Tally.init
      [.push 21, .push 25, .push 13]).heap.remove (fun a b => decide (a / 10 < b / 10)) 25).2 =
        some 25 := by
  have horder : IsStrictWeakOrder ℕ (fun a b => decide (a / 10 < b / 10) = true) :=
    isStrictWeakOrder_key fun a => a / 10
  have h := priorityBag_exec (fun a b : ℕ => decide (a / 10 < b / 10)) horder
    [.push 21, .push 25, .push 13]
  exact (h.2.2.2.1 25 (by decide)).1

end LocHeap
end Nx507j
