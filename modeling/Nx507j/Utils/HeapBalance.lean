import Mathlib.Data.Nat.Log
import Nx507j.Utils.LocHeap

/-!
# The balance of the heap

A push goes to the smaller subtree, by the sizes that the nodes hold.  As these are right in every
heap, the new node comes to a smallest place at every level, also after pops and removals, which do
not balance the tree.  A heap that is only pushed to has subtrees that differ by one node at most,
and is as low as its size allows.

## Main definitions

* `LocHeapNode.nodes`, `LocHeapNode.height` — the size and the height of a tree, by its nodes.
* `LocHeapNode.Balanced` — the left subtree is as large as the right one, or one node larger.
* `LocHeapNode.Descends` — a new node has come down into smallest subtrees.

## Main results

* `LocHeapNode.Valid.descends` — a push into a valid tree does so.
* `LocHeapNode.Balanced.height_eq` — the height of a balanced tree.
* `LocHeap.pushes_balanced` — both, for heaps.
-/

namespace Nx507j

variable {α : Type*}

namespace LocHeapNode

/-! ### The shape of a tree -/

def nodes : LocHeapNode α → ℕ
  | null => 0
  | node _ mLeft mRight _ => mLeft.nodes + mRight.nodes + 1

def height : LocHeapNode α → ℕ
  | null => 0
  | node _ mLeft mRight _ => max mLeft.height mRight.height + 1

/-- At every node the left subtree has as many nodes as the right one, or one more. -/
def Balanced : LocHeapNode α → Prop
  | null => True
  | node _ mLeft mRight _ =>
    (mLeft.nodes = mRight.nodes ∨ mLeft.nodes = mRight.nodes + 1) ∧
      mLeft.Balanced ∧ mRight.Balanced

/-- The second tree is the first one with a new leaf, which at every node that it has passed is in
the smaller subtree, or in the left one of two that are equally large. -/
inductive Descends : LocHeapNode α → LocHeapNode α → Prop
  | leaf (data : α) : Descends null (leaf data)
  | left {mLeft mLeft' mRight : LocHeapNode α} (mSize mSize' : ℤ) (mData mData' : α)
      (hsmall : mLeft.nodes ≤ mRight.nodes) (h : Descends mLeft mLeft') :
      Descends (node mSize mLeft mRight mData) (node mSize' mLeft' mRight mData')
  | right {mLeft mRight mRight' : LocHeapNode α} (mSize mSize' : ℤ) (mData mData' : α)
      (hsmall : mRight.nodes < mLeft.nodes) (h : Descends mRight mRight') :
      Descends (node mSize mLeft mRight mData) (node mSize' mLeft mRight' mData')

@[simp] theorem nodes_null : (null : LocHeapNode α).nodes = 0 := rfl

@[simp] theorem nodes_node (n : ℤ) (l r : LocHeapNode α) (a : α) :
    (node n l r a).nodes = l.nodes + r.nodes + 1 := rfl

@[simp] theorem height_node (n : ℤ) (l r : LocHeapNode α) (a : α) :
    (node n l r a).height = max l.height r.height + 1 := rfl

variable {t t' : LocHeapNode α} {outRanks : α → α → Bool}

theorem card_elems (t : LocHeapNode α) : t.elems.card = t.nodes := by
  induction t with
  | null => rfl
  | node n l r a ihl ihr =>
    rw [elems_node, Multiset.card_cons, Multiset.card_add, ihl, ihr, nodes_node]

theorem Valid.getSize_eq_nodes (h : t.Valid outRanks) : t.getSize = t.nodes := by
  rw [h.getSize_eq, card_elems]

/-! ### Pushes -/

/-- **A push goes into the smaller subtree at every node**: the sizes that it compares are right,
and an empty subtree is not larger than the other. -/
theorem Valid.descends (h : t.Valid outRanks) (d : α) : Descends t (t.push outRanks d) := by
  induction t generalizing d with
  | null => exact .leaf d
  | node n l r a ihl ihr =>
    obtain ⟨-, -, hl, hr⟩ := h
    have hleft := hl.getSize_eq_nodes
    have hright := hr.getSize_eq_nodes
    rcases l with _ | ⟨nl, ll, lr, la⟩
    · exact .left _ _ _ _ (Nat.zero_le _) (.leaf _)
    rcases r with _ | ⟨nr, rl, rr, ra⟩
    · exact .right _ _ _ _ (Nat.succ_pos _) (.leaf _)
    rw [LocHeapNode.push]
    split
    · next hle =>
      apply Descends.left
      · omega
      · exact ihl hl _
    · next hlt =>
      apply Descends.right
      · omega
      · exact ihr hr _

theorem Descends.nodes_eq (h : Descends t t') : t'.nodes = t.nodes + 1 := by
  induction h with
  | leaf data => rfl
  | left mSize mSize' mData mData' hsmall h ih =>
    rw [nodes_node, nodes_node, ih]
    omega
  | right mSize mSize' mData mData' hsmall h ih =>
    rw [nodes_node, nodes_node, ih]
    omega

/-- A node that has come down into smallest subtrees keeps the balance. -/
theorem Descends.balanced (h : Descends t t') (hbalanced : t.Balanced) : t'.Balanced := by
  induction h with
  | leaf data => exact ⟨.inl rfl, trivial, trivial⟩
  | left mSize mSize' mData mData' hsmall h ih =>
    obtain ⟨hsizes, hl, hr⟩ := hbalanced
    have hnodes := h.nodes_eq
    refine ⟨.inr ?_, ih hl, hr⟩
    omega
  | right mSize mSize' mData mData' hsmall h ih =>
    obtain ⟨hsizes, hl, hr⟩ := hbalanced
    have hnodes := h.nodes_eq
    refine ⟨.inl ?_, hl, ih hr⟩
    omega

/-! ### The height -/

/-- **The height of a balanced tree**: half of what is below the top is in the left subtree, which
is not lower than the right one. -/
theorem Balanced.height_eq (h : t.Balanced) :
    t.height = if t.nodes = 0 then 0 else Nat.log 2 t.nodes + 1 := by
  induction t with
  | null => rfl
  | node n l r a ihl ihr =>
    obtain ⟨hsizes, hl, hr⟩ := h
    have hhalf : l.nodes = (l.nodes + r.nodes + 1) / 2 := by omega
    have hlog : Nat.log 2 r.nodes ≤ Nat.log 2 l.nodes := Nat.log_mono_right (by omega)
    have hlow : r.height ≤ l.height := by
      rw [ihl hl, ihr hr]
      split_ifs <;> omega
    rw [height_node, Nat.max_eq_left hlow, ihl hl, nodes_node, if_neg (Nat.succ_ne_zero _)]
    split_ifs with hzero
    · have hright : r.nodes = 0 := by omega
      rw [hzero, hright]
      rfl
    · rw [Nat.log_of_one_lt_of_le (n := l.nodes + r.nodes + 1) Nat.one_lt_two (by omega), ← hhalf]

end LocHeapNode

/-! ### Heaps -/

namespace LocHeap

open Run

section StrictWeakOrder

variable {outRanks : α → α → Bool} [IsStrictWeakOrder α (fun a b => outRanks a b = true)]

/-- A heap that is only pushed to is balanced, with a node for each push. -/
theorem balanced_pushes (data : List α) : ∀ {h : LocHeap α}, h.Valid outRanks →
    h.mTree.Balanced → (data.foldl (push outRanks) h).mTree.Balanced ∧
      (data.foldl (push outRanks) h).mTree.nodes = h.mTree.nodes + data.length := by
  induction data with
  | nil => exact fun _ hbalanced => ⟨hbalanced, rfl⟩
  | cons d data ih =>
    intro h hvalid hbalanced
    have hdescends := LocHeapNode.Valid.descends hvalid d
    obtain ⟨hrest, hnodes⟩ := ih (hvalid.push d) (hdescends.balanced hbalanced)
    refine ⟨hrest, hnodes.trans ?_⟩
    rw [List.length_cons, push, hdescends.nodes_eq]
    omega

end StrictWeakOrder

/-- **The balance of the heap**: pushes alone give a balanced heap with the height that its size
asks for; after any calls a push goes into the smaller subtree at every node. -/
theorem pushes_balanced [DecidableEq α] (outRanks : α → α → Bool)
    (horder : IsStrictWeakOrder α (fun a b => outRanks a b = true)) :
    (∀ data : List α,
      let h := data.foldl (push outRanks) empty
      h.mTree.Balanced ∧ h.mTree.nodes = data.length ∧
        (1 ≤ h.mTree.nodes → h.mTree.height = Nat.log 2 h.mTree.nodes + 1)) ∧
    ∀ (calls : List (Call α)) (d : α),
      let h := (exec (Tally.step outRanks) Tally.init calls).heap
      h.mTree.Descends (h.push outRanks d).mTree := by
  constructor
  · intro data h
    have hvalid : (empty : LocHeap α).Valid outRanks := valid_empty
    obtain ⟨hbalanced, hnodes⟩ := balanced_pushes data hvalid trivial
    refine ⟨hbalanced, hnodes.trans (Nat.zero_add _), fun hpos => ?_⟩
    rw [hbalanced.height_eq, if_neg (Nat.ne_of_gt hpos)]
  · intro calls d h
    have hinv : (exec (Tally.step outRanks) Tally.init calls).Inv outRanks :=
      exec_inv (fun t c (h : t.Inv outRanks) => h.step c) calls Tally.init Tally.inv_init
    exact LocHeapNode.Valid.descends hinv.valid d

/-- Five numbers make a heap of height three. -/
theorem pushes_balanced_numbers :
    ([3, 1, 4, 1, 5].foldl (push fun a b : ℕ => decide (a < b)) empty).mTree.height = 3 := by
  have horder : IsStrictWeakOrder ℕ (fun a b => decide (a < b) = true) :=
    isStrictWeakOrder_key fun a => a
  have h := (pushes_balanced (fun a b : ℕ => decide (a < b)) horder).1 [3, 1, 4, 1, 5]
  exact h.2.2 (by decide)

end LocHeap
end Nx507j
