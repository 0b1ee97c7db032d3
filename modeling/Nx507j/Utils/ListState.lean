import Mathlib.Algebra.GroupWithZero.Nat
import Mathlib.Algebra.Order.BigOperators.Group.List
import Mathlib.Algebra.Order.Group.Nat
import Mathlib.Data.List.AList
import Mathlib.Data.List.Perm.Subperm
import Nx507j.Lib.Links
import Nx507j.Lib.Run
import Nx507j.Utils.LinkedList

/-!
# The elements of a linked list

The functions of `linked_list.c` on the elements themselves: records with a link to the next
and one to the previous element, which are allocated, linked, unlinked and freed.  A list that
`linked_list_init` has made spells a sequence, and each function does to the sequence what it
is for.

An element's address is a number.  A look at an address that holds no element, and a loop that
does not come to its end, are a `fault`.

## Main definitions

* `ListElement`, `ListState` — an element, and a list.
* `linkedListAdd`, `linkedListRemove`, `linkedListFlush`, `ListState.search` — the functions.
* `ListState.Spells` — the list is linked both ways and spells a sequence.

## Main results

* `ListState.Spells.add`, `.remove`, `.flush`, `.search` — what each function does to the sequence.
* `ListState.spells_exec` — the sequence after any calls.
-/

namespace Nx507j

open Links

variable {α σ : Type*}

/-! ### Data -/

/-- `linked_list_err_type`. -/
inductive LinkedListErr
  | success
  | failureGeneral
  | invalidParameter
  | invalidHandle
  | unavailableResource
  | insufficientBuffer
  deriving DecidableEq, Repr

/-- `list_element`; `deallocFunc` says whether it has one. -/
structure ListElement (α : Type*) where
  next : Option ℕ
  prev : Option ℕ
  dataPtr : α
  deallocFunc : Bool
  deriving DecidableEq, Repr

/-- `list_state`, with the elements that are allocated. -/
structure ListState (α : Type*) where
  pHead : Option ℕ
  pTail : Option ℕ
  elements : AList fun _ : ℕ => ListElement α
  fault : Bool
  deriving DecidableEq

namespace ListState

/-! ### Memory -/

/-- What `malloc` returns: the address it would like, if no element is there. -/
def malloc (wish : ℕ) (l : ListState α) : ℕ :=
  if wish ∈ l.elements then l.elements.keys.sum + 1 else wish

/-- Writes an element. -/
def modify (a : ℕ) (f : ListElement α → ListElement α) (l : ListState α) : ListState α :=
  match l.elements.lookup a with
  | some e => { l with elements := l.elements.insert a (f e) }
  | none => { l with fault := true }

/-- Writes the link to the next element of `p`, or the head of the list where `p` is `NULL`. -/
def setNext (p next : Option ℕ) (l : ListState α) : ListState α :=
  match p with
  | some p => l.modify p fun e => { e with next := next }
  | none => { l with pHead := next }

/-- Writes the link to the previous element of `p`, or the tail of the list where `p` is
`NULL`. -/
def setPrev (p prev : Option ℕ) (l : ListState α) : ListState α :=
  match p with
  | some p => l.modify p fun e => { e with prev := prev }
  | none => { l with pTail := prev }

/-- `free`. -/
def free (a : ℕ) (l : ListState α) : ListState α :=
  match l.elements.lookup a with
  | some _ => { l with elements := l.elements.erase a }
  | none => { l with fault := true }

section Memory

variable (l : ListState α) (a b : ℕ) (f : ListElement α → ListElement α)

theorem malloc_notMem (wish : ℕ) : l.malloc wish ∉ l.elements := by
  unfold malloc
  split
  · intro hmem
    have hle := List.single_le_sum (fun _ _ => Nat.zero_le _) _ (AList.mem_keys.mp hmem)
    omega
  · assumption

@[simp] theorem pHead_modify : (l.modify a f).pHead = l.pHead := by
  unfold modify
  split <;> rfl

@[simp] theorem pTail_modify : (l.modify a f).pTail = l.pTail := by
  unfold modify
  split <;> rfl

@[simp] theorem pHead_free : (l.free a).pHead = l.pHead := by
  unfold free
  split <;> rfl

@[simp] theorem pTail_free : (l.free a).pTail = l.pTail := by
  unfold free
  split <;> rfl

theorem lookup_free : (l.free a).elements.lookup b = if b = a then none else l.elements.lookup b := by
  unfold free
  by_cases hb : b = a
  · subst hb
    cases he : l.elements.lookup b with
    | none => simp [he]
    | some e => simp
  · cases he : l.elements.lookup a with
    | none => simp [hb]
    | some e => simp [hb, AList.lookup_erase_ne hb]

theorem fault_free : (l.free a).fault = (l.fault || (l.elements.lookup a).isNone) := by
  unfold free
  cases l.elements.lookup a <;> simp

theorem lookup_modify :
    (l.modify a f).elements.lookup b =
      (l.elements.lookup b).map fun e => if a = b then f e else e := by
  unfold modify
  by_cases hb : b = a
  · subst hb
    cases he : l.elements.lookup b with
    | none => simp [he]
    | some e => simp
  · have hab : ¬ a = b := fun heq => hb heq.symm
    cases he : l.elements.lookup a with
    | none => simp [hab]
    | some e => simp [hab, AList.lookup_insert_ne hb]

variable (p q : Option ℕ)

@[simp] theorem pHead_setNext : (l.setNext p q).pHead = if p = none then q else l.pHead := by
  cases p with
  | none => rfl
  | some a => exact pHead_modify l a _

@[simp] theorem pTail_setNext : (l.setNext p q).pTail = l.pTail := by
  cases p with
  | none => rfl
  | some a => exact pTail_modify l a _

@[simp] theorem pHead_setPrev : (l.setPrev p q).pHead = l.pHead := by
  cases p with
  | none => rfl
  | some a => exact pHead_modify l a _

@[simp] theorem pTail_setPrev : (l.setPrev p q).pTail = if p = none then q else l.pTail := by
  cases p with
  | none => rfl
  | some a => exact pTail_modify l a _

theorem lookup_setNext :
    (l.setNext p q).elements.lookup b =
      (l.elements.lookup b).map fun e => { e with next := if p = some b then q else e.next } := by
  unfold setNext
  cases p with
  | none => simp
  | some a => by_cases hab : a = b <;> simp [lookup_modify, hab]

theorem lookup_setPrev :
    (l.setPrev p q).elements.lookup b =
      (l.elements.lookup b).map fun e => { e with prev := if p = some b then q else e.prev } := by
  unfold setPrev
  cases p with
  | none => simp
  | some a => by_cases hab : a = b <;> simp [lookup_modify, hab]

variable {p}

/-- A link of an element that is there is written without a fault. -/
theorem fault_setNext (hp : ∀ a, p = some a → (l.elements.lookup a).isSome) :
    (l.setNext p q).fault = l.fault := by
  unfold setNext modify
  cases p with
  | none => rfl
  | some a =>
    obtain ⟨e, he⟩ := Option.isSome_iff_exists.mp (hp a rfl)
    simp only [he]

theorem fault_setPrev (hp : ∀ a, p = some a → (l.elements.lookup a).isSome) :
    (l.setPrev p q).fault = l.fault := by
  unfold setPrev modify
  cases p with
  | none => rfl
  | some a =>
    obtain ⟨e, he⟩ := Option.isSome_iff_exists.mp (hp a rfl)
    simp only [he]

end Memory

end ListState

/-! ### The functions -/

/-- `linked_list_init`. -/
def linkedListInit : ListState α := ⟨none, none, ∅, false⟩

/-- `linked_list_add`; `malloc` is the address that is wished for, none when there is no memory. -/
def linkedListAdd (malloc : Option ℕ) (dataObj : Option α) (dealloc : Bool) (l : ListState α) :
    LinkedListErr × ListState α :=
  match dataObj with
  | none => (.invalidParameter, l)
  | some dataObj =>
    match malloc with
    | none => (.failureGeneral, l)
    | some wish =>
      let elem := l.malloc wish
      let tmp := l.pHead
      let l :=
        { l with
          elements := l.elements.insert elem ⟨tmp, none, dataObj, dealloc⟩
          pHead := some elem }
      (.success, l.setPrev tmp (some elem))

/-- `linked_list_remove`, with the data that it writes to its output parameter. -/
def linkedListRemove (l : ListState α) : LinkedListErr × Option α × ListState α :=
  match l.pTail with
  | none => (.unavailableResource, none, l)
  | some tmp =>
    match l.elements.lookup tmp with
    | none => (.success, none, { l with fault := true })
    | some e =>
      let l := { l with pTail := e.prev }
      (.success, some e.dataPtr, (l.setNext e.prev none).free tmp)

/-- `linked_list_empty`. -/
def linkedListEmpty (l : ListState α) : Bool := l.pHead.isNone

namespace ListState

/-- The loop of `linked_list_flush`, with the data that is deallocated. -/
def flushLoop : ℕ → ListState α → List α × ListState α
  | 0, l => ([], { l with fault := true })
  | n + 1, l =>
    match l.pHead with
    | none => ([], l)
    | some head =>
      match l.elements.lookup head with
      | none => ([], { l with fault := true })
      | some e =>
        let (deallocated, l) := flushLoop n { l.free head with pHead := e.next }
        (if e.deallocFunc then e.dataPtr :: deallocated else deallocated, l)

end ListState

/-- `linked_list_flush`.  A turn of the loop frees an element, so one turn more than there are
elements is enough. -/
def linkedListFlush (l : ListState α) : List α × ListState α :=
  let (deallocated, l) := l.flushLoop (l.elements.keys.length + 1)
  (deallocated, { l with pTail := none })

namespace ListState

/-- What a search leaves: what is in the output cell, if there is one, the data that was
deallocated, the list, and the state of the comparison. -/
structure Found (α σ : Type*) where
  dataP : Option (Option α)
  deallocated : List α
  list : ListState α
  state : σ

/-- Unlinks an element that a search has found, deallocates its data if it is not copied out,
and frees it. -/
def removeFound (tmp : ℕ) (e : ListElement α) (dataP : Option (Option α)) (l : ListState α) :
    List α × ListState α :=
  (if dataP.isNone && e.deallocFunc then [e.dataPtr] else [],
    ((l.setNext e.prev e.next).setPrev e.next e.prev).free tmp)

/-- The loop of `linked_list_search`. -/
def searchFrom (equal : α → σ → Bool × σ) (rmIfFound : Bool) (dataP : Option (Option α))
    (l : ListState α) : ℕ → Option ℕ → σ → Found α σ
  | 0, _, s => ⟨dataP, [], { l with fault := true }, s⟩
  | n + 1, tmp, s =>
    match tmp with
    | none => ⟨dataP, [], l, s⟩
    | some tmp =>
      match l.elements.lookup tmp with
      | none => ⟨dataP, [], { l with fault := true }, s⟩
      | some e =>
        let (found, s) := equal e.dataPtr s
        if found then
          let (deallocated, l) := if rmIfFound then l.removeFound tmp e dataP else ([], l)
          ⟨dataP.map fun _ => some e.dataPtr, deallocated, l, s⟩
        else searchFrom equal rmIfFound dataP l n e.next s

/-- `linked_list_search`.  `dataP` is what is in the output cell before, `none` for a `NULL`
pointer; a search of an empty list does not write to it. -/
def search (equal : α → σ → Bool × σ) (rmIfFound : Bool) (dataP : Option (Option α))
    (l : ListState α) (s : σ) : LinkedListErr × Found α σ :=
  match l.pTail with
  | none => (.unavailableResource, ⟨dataP, [], l, s⟩)
  | some _ =>
    (.success, l.searchFrom equal rmIfFound (dataP.map fun _ => none)
      (l.elements.keys.length + 1) l.pHead s)

/-! ### The sequence that a list spells -/

/-- The link to the next element. -/
def next (l : ListState α) (a : ℕ) : Option ℕ := (l.elements.lookup a).bind ListElement.next

/-- The link to the previous element. -/
def prev (l : ListState α) (a : ℕ) : Option ℕ := (l.elements.lookup a).bind ListElement.prev

/-- What an element holds: its data, and whether it has a function to deallocate them. -/
def item (l : ListState α) (a : ℕ) : Option (α × Bool) :=
  (l.elements.lookup a).map fun e => (e.dataPtr, e.deallocFunc)

/-- The elements `nodes`, and no others, are allocated and linked both ways, and hold `xs`. -/
structure Spells (l : ListState α) (nodes : List ℕ) (xs : List (α × Bool)) : Prop where
  linked : Linked l.next l.prev l.pHead l.pTail nodes
  items : nodes.map l.item = xs.map some
  live : ∀ a, a ∈ l.elements ↔ a ∈ nodes
  fault : l.fault = false

theorem spells_init : (linkedListInit : ListState α).Spells [] [] where
  linked := Linked.nil _ _
  items := rfl
  live a := iff_of_false (AList.notMem_empty a) List.not_mem_nil
  fault := rfl

namespace Spells

variable {l : ListState α} {nodes : List ℕ} {xs : List (α × Bool)}

theorem length_eq (h : l.Spells nodes xs) : nodes.length = xs.length := by
  simpa using congrArg List.length h.items

theorem length_keys (h : l.Spells nodes xs) : nodes.length ≤ l.elements.keys.length := by
  have hsub : nodes ⊆ l.elements.keys := fun a ha => AList.mem_keys.mp ((h.live a).mpr ha)
  exact (List.subperm_of_subset h.linked.nodup hsub).length_le

theorem pHead_eq_none_iff (h : l.Spells nodes xs) : l.pHead = none ↔ xs = [] := by
  rw [h.linked.head_eq_none_iff, ← List.length_eq_zero_iff, h.length_eq, List.length_eq_zero_iff]

theorem pTail_eq_none_iff (h : l.Spells nodes xs) : l.pTail = none ↔ xs = [] := by
  rw [h.linked.tail_eq_none_iff, ← List.length_eq_zero_iff, h.length_eq, List.length_eq_zero_iff]

/-- The element at a place of the list, and its item. -/
theorem lookup {n₁ n₂ : List ℕ} {a : ℕ} (h : l.Spells (n₁ ++ a :: n₂) xs) :
    ∃ e x₁ x₂, l.elements.lookup a = some e ∧ xs = x₁ ++ (e.dataPtr, e.deallocFunc) :: x₂ ∧
      n₁.map l.item = x₁.map some ∧ n₂.map l.item = x₂.map some ∧
      e.next = n₂.head? ∧ e.prev = n₁.getLast? := by
  have hitems := h.items
  rw [List.map_append, List.map_cons] at hitems
  obtain ⟨x₁, xs', rfl, h₁, hxs'⟩ := List.map_eq_append_iff.mp hitems.symm
  obtain ⟨x, x₂, rfl, hx, h₂⟩ := List.map_eq_cons_iff.mp hxs'
  obtain ⟨e, he, rfl⟩ := Option.map_eq_some_iff.mp hx.symm
  refine ⟨e, x₁, x₂, he, rfl, h₁.symm, h₂.symm, ?_, ?_⟩
  · rw [← h.linked.next_eq n₁ a n₂ rfl, next, he, Option.bind_some]
  · rw [← h.linked.prev_eq n₁ a n₂ rfl, prev, he, Option.bind_some]

/-- A list whose element `a` is unlinked and freed spells the rest. -/
theorem unlink {n₁ n₂ : List ℕ} {a : ℕ} {x₁ x₂ : List (α × Bool)} {e : ListElement α}
    {l' : ListState α} (h : l.Spells (n₁ ++ a :: n₂) xs) (he : l.elements.lookup a = some e)
    (h₁ : n₁.map l.item = x₁.map some) (h₂ : n₂.map l.item = x₂.map some)
    (hfree : l'.elements.lookup a = none)
    (hlookup : ∀ b, b ≠ a → l'.elements.lookup b = (l.elements.lookup b).map fun d =>
      { d with
        next := if e.prev = some b then e.next else d.next
        prev := if e.next = some b then e.prev else d.prev })
    (hhead : l'.pHead = if e.prev = none then e.next else l.pHead)
    (htail : l'.pTail = if e.next = none then e.prev else l.pTail) (hfault : l'.fault = false) :
    l'.Spells (n₁ ++ n₂) (x₁ ++ x₂) := by
  have hna : l.next a = e.next := by rw [next, he, Option.bind_some]
  have hpa : l.prev a = e.prev := by rw [prev, he, Option.bind_some]
  have hne : ∀ b ∈ n₁ ++ n₂, b ≠ a := by
    have hnd := (List.perm_middle.nodup_iff).mp h.linked.nodup
    rintro b hb rfl
    exact (List.nodup_cons.mp hnd).1 hb
  have hsome : ∀ b ∈ n₁ ++ n₂, ∃ d, l.elements.lookup b = some d := by
    intro b hb
    apply Option.isSome_iff_exists.mp
    rw [AList.lookup_isSome, h.live]
    rcases List.mem_append.mp hb with hb | hb <;> simp [hb]
  have hitem : ∀ b ∈ n₁ ++ n₂, l'.item b = l.item b := by
    intro b hb
    rw [item, item, hlookup b (hne b hb), Option.map_map]
    rfl
  refine ⟨?_, ?_, ?_, hfault⟩
  · rw [hhead, htail, ← hna, ← hpa]
    refine h.linked.unlink ?_ ?_
    · intro b hb
      obtain ⟨d, hd⟩ := hsome b hb
      rw [hpa, hna, next, next, hlookup b (hne b hb), hd]
      rfl
    · intro b hb
      obtain ⟨d, hd⟩ := hsome b hb
      rw [hpa, hna, prev, prev, hlookup b (hne b hb), hd]
      rfl
  · rw [List.map_congr_left hitem, List.map_append, h₁, h₂, List.map_append]
  · intro b
    by_cases hb : b = a
    · subst hb
      exact iff_of_false (AList.lookup_eq_none.mp hfree) fun hmem => hne b hmem rfl
    · rw [← AList.lookup_isSome, hlookup b hb, Option.isSome_map, AList.lookup_isSome, h.live]
      simp [hb]

/-- A list that has got the element `a` in front spells its item and the rest. -/
theorem link {a : ℕ} {d : α} {dealloc : Bool} {l' : ListState α} (h : l.Spells nodes xs)
    (ha : a ∉ nodes) (hnew : l'.elements.lookup a = some ⟨l.pHead, none, d, dealloc⟩)
    (hlookup : ∀ b, b ≠ a → l'.elements.lookup b = (l.elements.lookup b).map fun e =>
      { e with prev := if l.pHead = some b then some a else e.prev })
    (hhead : l'.pHead = some a) (htail : l'.pTail = if l.pHead = none then some a else l.pTail)
    (hfault : l'.fault = false) : l'.Spells (a :: nodes) ((d, dealloc) :: xs) := by
  have hold : ∀ b ∈ nodes, ∃ e, l.elements.lookup b = some e ∧ l'.elements.lookup b =
      some { e with prev := if l.pHead = some b then some a else e.prev } := by
    intro b hb
    obtain ⟨e, he⟩ := Option.isSome_iff_exists.mp (AList.lookup_isSome.mpr ((h.live b).mpr hb))
    have hba : b ≠ a := fun heq => ha (heq ▸ hb)
    exact ⟨e, he, by rw [hlookup b hba, he, Option.map_some]⟩
  refine ⟨?_, ?_, ?_, hfault⟩
  · rw [hhead, htail]
    refine h.linked.cons ha ?_ ?_ ?_ ?_
    · rw [next, hnew, Option.bind_some]
    · rw [prev, hnew, Option.bind_some]
    · intro b hb
      obtain ⟨e, he, he'⟩ := hold b hb
      rw [next, next, he, he', Option.bind_some, Option.bind_some]
    · intro b hb
      obtain ⟨e, he, he'⟩ := hold b hb
      rw [prev, prev, he, he', Option.bind_some, Option.bind_some]
  · have hitem : ∀ b ∈ nodes, l'.item b = l.item b := by
      intro b hb
      obtain ⟨e, he, he'⟩ := hold b hb
      rw [item, item, he, he', Option.map_some, Option.map_some]
    rw [List.map_cons, List.map_congr_left hitem, h.items, item, hnew]
    rfl
  · intro b
    rw [← AList.lookup_isSome, List.mem_cons]
    by_cases hb : b = a
    · subst hb
      simp [hnew]
    · rw [hlookup b hb, Option.isSome_map, AList.lookup_isSome, h.live]
      simp [hb]

/-- **An element is added in front.** -/
theorem add (h : l.Spells nodes xs) (wish : ℕ) (d : α) (dealloc : Bool) :
    ∃ l', linkedListAdd (some wish) (some d) dealloc l = (.success, l') ∧
      l'.Spells (l.malloc wish :: nodes) ((d, dealloc) :: xs) := by
  have ha : l.malloc wish ∉ nodes := fun hmem => l.malloc_notMem wish ((h.live _).mpr hmem)
  refine ⟨_, rfl, h.link ha ?_ ?_ ?_ ?_ ?_⟩
  · have hhead : l.pHead ≠ some (l.malloc wish) := fun heq =>
      ha (List.mem_of_head? (h.linked.head_eq.symm.trans heq))
    rw [lookup_setPrev, AList.lookup_insert, Option.map_some, if_neg hhead]
  · intro b hb
    rw [lookup_setPrev, AList.lookup_insert_ne hb]
  · rw [pHead_setPrev]
  · rw [pTail_setPrev]
  · rw [fault_setPrev]
    · exact h.fault
    · intro t ht
      have hmem : t ∈ nodes := List.mem_of_head? (h.linked.head_eq.symm.trans ht)
      rw [AList.lookup_isSome, AList.mem_insert, h.live]
      exact .inr hmem

/-- **The last element is removed**, if there is one. -/
theorem remove (h : l.Spells nodes xs) :
    xs = [] ∧ linkedListRemove l = (.unavailableResource, none, l) ∨
      ∃ xs' x nodes' l', xs = xs' ++ [x] ∧ linkedListRemove l = (.success, some x.1, l') ∧
        l'.Spells nodes' xs' := by
  unfold linkedListRemove
  cases htail : l.pTail with
  | none => exact .inl ⟨h.pTail_eq_none_iff.mp htail, rfl⟩
  | some tmp =>
    obtain ⟨nodes', rfl⟩ := List.getLast?_eq_some_iff.mp (h.linked.tail_eq.symm.trans htail)
    obtain ⟨e, x₁, x₂, he, rfl, h₁, h₂, hnext, hprev⟩ := h.lookup
    obtain rfl : x₂ = [] := by simpa using h₂.symm
    simp only [he]
    refine .inr ⟨x₁, _, nodes' ++ [], _, rfl, rfl, ?_⟩
    rw [← List.append_nil x₁]
    refine h.unlink he h₁ h₂ ?_ ?_ ?_ ?_ ?_
    · rw [lookup_free, if_pos rfl]
    · intro b hb
      rw [lookup_free, if_neg hb, lookup_setNext, hnext]
      rfl
    · rw [pHead_free, pHead_setNext, hnext]
      rfl
    · rw [pTail_free, pTail_setNext, hnext]
      rfl
    · have hlive : ∀ p, e.prev = some p → (l.elements.lookup p).isSome := by
        intro p hp
        rw [AList.lookup_isSome, h.live]
        exact List.mem_append_left _ (List.mem_of_getLast? (hprev.symm.trans hp))
      rw [fault_free, lookup_setNext, fault_setNext { l with pTail := e.prev } none hlive, h.fault, he]
      rfl

/-- What is unlinked after a search has found it is gone, and the rest is as it was. -/
theorem removeFound {n₁ n₂ : List ℕ} {a : ℕ} {x₁ x₂ : List (α × Bool)} {e : ListElement α}
    (h : l.Spells (n₁ ++ a :: n₂) xs) (he : l.elements.lookup a = some e)
    (h₁ : n₁.map l.item = x₁.map some) (h₂ : n₂.map l.item = x₂.map some)
    (hnext : e.next = n₂.head?) (hprev : e.prev = n₁.getLast?) (dataP : Option (Option α)) :
    (l.removeFound a e dataP).2.Spells (n₁ ++ n₂) (x₁ ++ x₂) := by
  refine h.unlink he h₁ h₂ ?_ ?_ ?_ ?_ ?_
  · exact (lookup_free _ _ _).trans (if_pos rfl)
  · intro b hb
    rw [ListState.removeFound, lookup_free, if_neg hb, lookup_setPrev, lookup_setNext, Option.map_map]
    rfl
  · rw [ListState.removeFound, pHead_free, pHead_setPrev, pHead_setNext]
  · rw [ListState.removeFound, pTail_free, pTail_setPrev, pTail_setNext]
  · have hlivePrev : ∀ p, e.prev = some p → (l.elements.lookup p).isSome := by
      intro p hp
      rw [AList.lookup_isSome, h.live]
      exact List.mem_append_left _ (List.mem_of_getLast? (hprev.symm.trans hp))
    have hliveNext : ∀ q, e.next = some q →
        ((l.setNext e.prev e.next).elements.lookup q).isSome := by
      intro q hq
      rw [lookup_setNext, Option.isSome_map, AList.lookup_isSome, h.live]
      exact List.mem_append_right _
        (List.mem_cons_of_mem a (List.mem_of_head? (hnext.symm.trans hq)))
    rw [ListState.removeFound, fault_free, lookup_setPrev, lookup_setNext, he,
      fault_setPrev _ _ hliveNext, fault_setNext _ _ hlivePrev, h.fault]
    rfl

/-- The loop of a flush, from a list of which only the forward links are left. -/
private theorem flushLoop_spec {n : ℕ} :
    ∀ {l : ListState α} {nodes : List ℕ} {xs : List (α × Bool)}, nodes.length < n → nodes.Nodup →
      Chain l.next l.pHead nodes → nodes.map l.item = xs.map some →
      (∀ a, a ∈ l.elements ↔ a ∈ nodes) → l.fault = false →
      ∃ l', l.flushLoop n = ((xs.filter Prod.snd).map Prod.fst, l') ∧ l'.pHead = none ∧
        (∀ a, a ∉ l'.elements) ∧ l'.fault = false := by
  induction n with
  | zero => intro l nodes xs hlen; omega
  | succ n ih =>
    intro l nodes xs hlen hnd hchain hitems hlive hfault
    cases nodes with
    | nil =>
      obtain rfl : xs = [] := by simpa using hitems.symm
      have hhead : l.pHead = none := hchain
      refine ⟨l, ?_, hhead, fun a ha => List.not_mem_nil ((hlive a).mp ha), hfault⟩
      simp only [flushLoop, hhead]
      rfl
    | cons a nodes =>
      obtain ⟨hhead, hchain⟩ := hchain
      obtain ⟨ha, hnd⟩ := List.nodup_cons.mp hnd
      obtain ⟨x, xs, rfl, hx, hrest⟩ := List.map_eq_cons_iff.mp hitems.symm
      obtain ⟨e, he, rfl⟩ := Option.map_eq_some_iff.mp hx.symm
      have hkeep : ∀ b, b ≠ a → (l.free a).elements.lookup b = l.elements.lookup b := fun b hb =>
        (lookup_free l a b).trans (if_neg hb)
      have hne : ∀ b ∈ nodes, b ≠ a := fun b hb heq => ha (heq ▸ hb)
      have hnext : l.next a = e.next := by rw [next, he, Option.bind_some]
      have hchain' : Chain (l.free a).next e.next nodes := by
        rw [hnext] at hchain
        refine hchain.congr ?_
        intro b hb
        rw [next, next, hkeep b (hne b hb)]
      have hitems' : nodes.map (l.free a).item = xs.map some := by
        rw [hrest]
        refine List.map_congr_left ?_
        intro b hb
        rw [item, item, hkeep b (hne b hb)]
      have hlive' : ∀ b, b ∈ (l.free a).elements ↔ b ∈ nodes := by
        intro b
        rw [← AList.lookup_isSome, lookup_free]
        by_cases hb : b = a
        · simp [hb, ha]
        · rw [if_neg hb, AList.lookup_isSome, hlive]
          simp [hb]
      have hfault' : (l.free a).fault = false := by
        rw [fault_free, he, hfault]
        rfl
      obtain ⟨l', hloop, hdone⟩ := ih (l := { l.free a with pHead := e.next }) (by simpa using hlen)
        hnd hchain' hitems' hlive' hfault'
      refine ⟨l', ?_, hdone⟩
      rw [List.filter_cons]
      simp only [flushLoop, hhead, he, hloop]
      cases e.deallocFunc <;> rfl

/-- **Every element is flushed**, head first, and its data deallocated where told to. -/
theorem flush (h : l.Spells nodes xs) :
    ∃ l', linkedListFlush l = ((xs.filter Prod.snd).map Prod.fst, l') ∧ l'.Spells [] [] := by
  obtain ⟨l', hloop, hhead, hlive, hfault⟩ := flushLoop_spec (Nat.lt_succ_of_le h.length_keys)
    h.linked.nodup h.linked.chain h.items h.live h.fault
  refine ⟨{ l' with pTail := none }, by rw [linkedListFlush, hloop], ?_, rfl, ?_, hfault⟩
  · show Linked _ _ l'.pHead none []
    rw [hhead]
    exact Linked.nil _ _
  · exact fun a => iff_of_false (hlive a) List.not_mem_nil

/-- The loop of a search, when the elements `n₁` have been passed. -/
private theorem searchFrom_spec (equal : α → σ → Bool × σ) (rm : Bool) (dataP : Option (Option α))
    {n : ℕ} :
    ∀ {n₁ n₂ : List ℕ} {x₁ x₂ : List (α × Bool)} (s : σ), n₂.length < n →
      l.Spells (n₁ ++ n₂) (x₁ ++ x₂) → n₁.length = x₁.length →
      ∃ nodes' l', l'.Spells nodes'
          (x₁ ++ (linkedListSearch (fun x => equal x.1) rm x₂ s).2.1) ∧
        l.searchFrom equal rm (dataP.map fun _ => none) n n₂.head? s =
          let r := linkedListSearch (fun x => equal x.1) rm x₂ s
          ⟨dataP.map fun _ => r.1.map Prod.fst,
            if rm && dataP.isNone then (r.1.filter Prod.snd).toList.map Prod.fst else [],
            l', r.2.2⟩ := by
  induction n with
  | zero => intro n₁ n₂ x₁ x₂ s hlen; omega
  | succ n ih =>
    intro n₁ n₂ x₁ x₂ s hlen h hlen₁
    cases n₂ with
    | nil =>
      obtain rfl : x₂ = [] := by
        have := h.length_eq
        rw [List.length_append, List.length_append, List.length_nil] at this
        exact List.length_eq_zero_iff.mp (by omega)
      refine ⟨_, l, h, ?_⟩
      simp [searchFrom]
    | cons a n₂ =>
      obtain ⟨e, y₁, y₂, he, hxs, hy₁, hy₂, hnext, hprev⟩ := h.lookup
      obtain ⟨rfl, rfl⟩ : x₁ = y₁ ∧ x₂ = (e.dataPtr, e.deallocFunc) :: y₂ := by
        refine List.append_inj hxs ?_
        rw [← hlen₁]
        simpa using congrArg List.length hy₁
      rcases heq : equal e.dataPtr s with ⟨found, s'⟩
      cases found with
      | true =>
        cases rm with
        | false =>
          refine ⟨n₁ ++ a :: n₂, l, ?_, ?_⟩
          · simp only [linkedListSearch, heq]
            exact h
          · cases dataP <;> simp [searchFrom, linkedListSearch, he, heq]
        | true =>
          refine ⟨n₁ ++ n₂, (l.removeFound a e (dataP.map fun _ => none)).2, ?_, ?_⟩
          · simp only [linkedListSearch, heq]
            exact h.removeFound he hy₁ hy₂ hnext hprev _
          · cases hd : e.deallocFunc <;> cases dataP <;>
              simp [searchFrom, linkedListSearch, he, heq, ListState.removeFound, hd, Option.filter]
      | false =>
        have hnext' : l.Spells ((n₁ ++ [a]) ++ n₂) ((x₁ ++ [(e.dataPtr, e.deallocFunc)]) ++ y₂) := by
          simpa using h
        have hlen₁' : (n₁ ++ [a]).length = (x₁ ++ [(e.dataPtr, e.deallocFunc)]).length := by
          simpa using hlen₁
        obtain ⟨nodes', l', hspells, hsearch⟩ := ih s' (by simpa using hlen) hnext' hlen₁'
        refine ⟨nodes', l', ?_, ?_⟩
        · simpa [linkedListSearch, heq] using hspells
        · simp only [searchFrom, List.head?_cons, he, heq, hnext, linkedListSearch, Bool.false_eq_true,
            if_false]
          exact hsearch

/-- **A search is the search of the sequence.**  It writes the data that it has found, or
`NULL`, to the output cell, if there is one and the list is not empty. -/
theorem search (h : l.Spells nodes xs) (equal : α → σ → Bool × σ) (rm : Bool)
    (dataP : Option (Option α)) (s : σ) :
    xs = [] ∧ l.search equal rm dataP s = (.unavailableResource, ⟨dataP, [], l, s⟩) ∨
      xs ≠ [] ∧ ∃ nodes' l', l'.Spells nodes' (linkedListSearch (fun x => equal x.1) rm xs s).2.1 ∧
        l.search equal rm dataP s =
          let r := linkedListSearch (fun x => equal x.1) rm xs s
          (.success, ⟨dataP.map fun _ => r.1.map Prod.fst,
            if rm && dataP.isNone then (r.1.filter Prod.snd).toList.map Prod.fst else [],
            l', r.2.2⟩) := by
  unfold ListState.search
  cases htail : l.pTail with
  | none => exact .inl ⟨h.pTail_eq_none_iff.mp htail, rfl⟩
  | some tail =>
    have hne : xs ≠ [] := by
      intro hnil
      rw [h.pTail_eq_none_iff.mpr hnil] at htail
      cases htail
    have h' : l.Spells ([] ++ nodes) ([] ++ xs) := h
    obtain ⟨nodes', l', hspells, hsearch⟩ :=
      searchFrom_spec equal rm dataP s (Nat.lt_succ_of_le h.length_keys) h' rfl
    rw [← h.linked.head_eq] at hsearch
    exact .inr ⟨hne, nodes', l', hspells, congrArg _ hsearch⟩

end Spells

/-! ### Runs -/

open Run

/-- A call on a list. -/
inductive Call (α : Type*) where
  | add (malloc : Option ℕ) (dataObj : Option α) (dealloc : Bool)
  | remove
  | search (equal : α → Bool) (rmIfFound : Bool) (dataP : Option (Option α))
  | flush

/-- What a call does to the list. -/
def step (l : ListState α) : Call α → ListState α
  | .add malloc dataObj dealloc => (linkedListAdd malloc dataObj dealloc l).2
  | .remove => (linkedListRemove l).2.2
  | .search equal rmIfFound dataP =>
    (l.search (fun a (s : Unit) => (equal a, s)) rmIfFound dataP ()).2.list
  | .flush => (linkedListFlush l).2

/-- What a call is for: the sequence that it makes of one. -/
def meant (xs : List α) : Call α → List α
  | .add (some _) (some dataObj) _ => dataObj :: xs
  | .add _ _ _ => xs
  | .remove => xs.dropLast
  | .search equal rmIfFound _ => if rmIfFound then xs.eraseP equal else xs
  | .flush => []

/-- A call on a list that spells a sequence makes of it what it is for. -/
theorem Spells.step {l : ListState α} {nodes : List ℕ} {xs : List (α × Bool)}
    (h : l.Spells nodes xs) (c : Call α) :
    ∃ nodes' xs', (l.step c).Spells nodes' xs' ∧ xs'.map Prod.fst = meant (xs.map Prod.fst) c := by
  cases c with
  | add malloc dataObj dealloc =>
    cases dataObj with
    | none => cases malloc <;> exact ⟨nodes, xs, h, rfl⟩
    | some d =>
      cases malloc with
      | none => exact ⟨nodes, xs, h, rfl⟩
      | some wish =>
        obtain ⟨l', hadd, h'⟩ := h.add wish d dealloc
        refine ⟨l.malloc wish :: nodes, (d, dealloc) :: xs, ?_, rfl⟩
        rw [ListState.step, hadd]
        exact h'
  | remove =>
    rcases h.remove with ⟨rfl, hrm⟩ | ⟨xs', x, nodes', l', rfl, hrm, h'⟩
    · refine ⟨nodes, [], ?_, rfl⟩
      rw [ListState.step, hrm]
      exact h
    · refine ⟨nodes', xs', ?_, by simp [meant]⟩
      rw [ListState.step, hrm]
      exact h'
  | search equal rmIfFound dataP =>
    have hpure : linkedListSearch (fun x (s : Unit) => (equal x.1, s)) rmIfFound xs () =
        (xs.find? fun x => equal x.1, if rmIfFound then xs.eraseP fun x => equal x.1 else xs, ()) :=
      linkedListSearch_of_pure rmIfFound fun _ _ => rfl
    have hmeant : (if rmIfFound then xs.eraseP fun x => equal x.1 else xs).map Prod.fst =
        meant (xs.map Prod.fst) (.search equal rmIfFound dataP) := by
      cases rmIfFound
      · rfl
      · exact List.eraseP_map.symm
    rcases h.search (fun a (s : Unit) => (equal a, s)) rmIfFound dataP () with
      ⟨rfl, hs⟩ | ⟨-, nodes', l', h', hs⟩
    · refine ⟨nodes, [], ?_, by cases rmIfFound <;> rfl⟩
      rw [ListState.step, hs]
      exact h
    · rw [hpure] at h'
      refine ⟨nodes', _, ?_, hmeant⟩
      rw [ListState.step, hs]
      exact h'
  | flush =>
    obtain ⟨l', hflush, h'⟩ := h.flush
    refine ⟨[], [], ?_, rfl⟩
    rw [ListState.step, hflush]
    exact h'

/-- **A list refines a sequence**: after any calls on an initialised list, the links from the
head spell the elements, the links from the tail spell them backwards, and their data are what
the calls make of the empty sequence. -/
theorem spells_exec (calls : List (Call α)) :
    let l := exec step linkedListInit calls
    l.fault = false ∧ (l.pHead = none ↔ l.pTail = none) ∧
      ∃ nodes, Chain l.next l.pHead nodes ∧ Chain l.prev l.pTail nodes.reverse ∧
        nodes.map (fun a => (l.elements.lookup a).map ListElement.dataPtr) =
          (exec meant [] calls).map some := by
  intro l
  obtain ⟨nodes, xs, h, hxs⟩ : ∃ nodes xs, l.Spells nodes xs ∧ xs.map Prod.fst = exec meant [] calls := by
    refine exec_sim (R := fun l ys => ∃ nodes xs, Spells l nodes xs ∧ xs.map Prod.fst = ys) ?_
      calls linkedListInit [] ⟨[], [], spells_init, rfl⟩
    rintro l ys c ⟨nodes, xs, h, rfl⟩
    exact h.step c
  refine ⟨h.fault, ?_, nodes, h.linked.chain, h.linked.chain_reverse, ?_⟩
  · rw [h.pHead_eq_none_iff, h.pTail_eq_none_iff]
  · have hdata : ∀ a ∈ nodes, (l.elements.lookup a).map ListElement.dataPtr =
        (l.item a).map Prod.fst := by
      intro a _
      rw [item, Option.map_map]
      rfl
    rw [List.map_congr_left hdata, ← hxs, List.map_map]
    have := congrArg (List.map (Option.map Prod.fst)) h.items
    simpa [Function.comp_def] using this

end ListState
end Nx507j
