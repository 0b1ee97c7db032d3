import Nx507j.Utils.ListState

/-!
# What a search leaves in the output cell

The header of `linked_list.h` says that `linked_list_search` stores the data found in the cell of
its caller, and `NULL` where nothing matches.  A search of an empty list returns before it comes to
the cell.

## Main definitions

* `ListState.searchFor` — `linked_list_search` for a predicate.
* `ListState.Promised` — what the header says of the cell, and what is deallocated without one.

## Main results

* `ListState.Spells.dataP_searchFor`, `.deallocated_searchFor` — what a search leaves.
* `ListState.Spells.promised_iff` — it keeps the promise unless the list is empty and there was
  something else in the cell.
-/

namespace Nx507j
namespace ListState

variable {α : Type*}

/-- `linked_list_search` for a predicate of the data. -/
def searchFor (equal : α → Bool) (rmIfFound : Bool) (dataP : Option (Option α))
    (l : ListState α) : Found α Unit :=
  (l.search (fun a s => (equal a, s)) rmIfFound dataP ()).2

/-- The cell holds the first match, or `NULL` where there is none; and without a cell the data of
an element that is removed are deallocated once, if there is a function for it. -/
def Promised (equal : α → Bool) (rmIfFound : Bool) (cell : Option α) (l : ListState α)
    (xs : List (α × Bool)) : Prop :=
  (l.searchFor equal rmIfFound (some cell)).dataP = some ((xs.map Prod.fst).find? equal) ∧
    (l.searchFor equal rmIfFound none).deallocated =
      if rmIfFound then ((xs.find? fun x => equal x.1).filter Prod.snd).toList.map Prod.fst else []

namespace Spells

variable {l : ListState α} {nodes : List ℕ} {xs : List (α × Bool)}

/-- A search of a list that is not empty, in one record. -/
theorem searchFor_of_ne_nil (h : l.Spells nodes xs) (hne : xs ≠ []) (equal : α → Bool) (rm : Bool)
    (dataP : Option (Option α)) :
    ∃ nodes' l', l'.Spells nodes' (if rm then xs.eraseP fun x => equal x.1 else xs) ∧
      l.searchFor equal rm dataP =
        ⟨dataP.map fun _ => (xs.find? fun x => equal x.1).map Prod.fst,
          if rm && dataP.isNone then
            ((xs.find? fun x => equal x.1).filter Prod.snd).toList.map Prod.fst
          else [],
          l', ()⟩ := by
  have hpure : linkedListSearch (fun (x : α × Bool) s => (equal x.1, s)) rm xs () =
      (xs.find? fun x => equal x.1, if rm then xs.eraseP fun x => equal x.1 else xs, ()) :=
    linkedListSearch_of_pure rm fun _ _ => rfl
  rcases h.search (fun a s => (equal a, s)) rm dataP () with
    ⟨hnil, -⟩ | ⟨-, nodes', l', hspells, hsearch⟩
  · exact absurd hnil hne
  · rw [hpure] at hspells hsearch
    exact ⟨nodes', l', hspells, congrArg Prod.snd hsearch⟩

/-- A search of an empty list leaves everything as it is. -/
theorem searchFor_of_nil (h : l.Spells nodes []) (equal : α → Bool) (rm : Bool)
    (dataP : Option (Option α)) : l.searchFor equal rm dataP = ⟨dataP, [], l, ()⟩ := by
  rcases h.search (fun a s => (equal a, s)) rm dataP () with ⟨-, hsearch⟩ | ⟨hne, -⟩
  · exact congrArg Prod.snd hsearch
  · exact absurd rfl hne

/-- What is in the cell after a search. -/
theorem dataP_searchFor (h : l.Spells nodes xs) (equal : α → Bool) (rm : Bool)
    (cell : Option α) :
    (l.searchFor equal rm (some cell)).dataP =
      some (if xs = [] then cell else (xs.map Prod.fst).find? equal) := by
  by_cases hnil : xs = []
  · subst hnil
    rw [h.searchFor_of_nil, if_pos rfl]
  · obtain ⟨nodes', l', -, hsearch⟩ := h.searchFor_of_ne_nil hnil equal rm (some cell)
    rw [hsearch, if_neg hnil, List.find?_map]
    rfl

/-- What is deallocated by a search without a cell. -/
theorem deallocated_searchFor (h : l.Spells nodes xs) (equal : α → Bool) (rm : Bool) :
    (l.searchFor equal rm none).deallocated =
      if rm then ((xs.find? fun x => equal x.1).filter Prod.snd).toList.map Prod.fst else [] := by
  by_cases hnil : xs = []
  · subst hnil
    rw [h.searchFor_of_nil]
    exact (ite_self []).symm
  · obtain ⟨nodes', l', -, hsearch⟩ := h.searchFor_of_ne_nil hnil equal rm none
    rw [hsearch]
    simp only [Option.isNone_none, Bool.and_true]

/-- **The promise of the header** is kept unless the list is empty and the cell holds something:
what is in it is then still there. -/
theorem promised_iff (h : l.Spells nodes xs) (equal : α → Bool) (rm : Bool) (cell : Option α) :
    l.Promised equal rm cell xs ↔ (xs ≠ [] ∨ cell = none) := by
  unfold Promised
  rw [h.dataP_searchFor, h.deallocated_searchFor, Option.some_inj]
  refine ⟨fun hpromised => ?_, fun hcell => ⟨?_, rfl⟩⟩
  · by_cases hnil : xs = []
    · have hcell := hpromised.1
      rw [if_pos hnil, hnil] at hcell
      exact .inr hcell
    · exact .inl hnil
  · rcases hcell with hne | rfl
    · exact if_neg hne
    · split
      · next hnil => rw [hnil]; rfl
      · rfl

theorem promised_iff_add :
    ∃ l : ListState ℕ, linkedListAdd (some 5) (some 3) true linkedListInit = (.success, l) ∧
      (l.Promised (· == 3) true (some 7) [(3, true)] ↔
        ([(3, true)] ≠ [] ∨ (some 7 : Option ℕ) = none)) := by
  obtain ⟨l, hadd, h⟩ := spells_init.add 5 3 true
  exact ⟨l, hadd, promised_iff h (· == 3) true (some 7)⟩

end Spells

/-- What an earlier search has found stays in the cell when a search of an empty list is made with
it. -/
theorem not_promised_empty :
    (linkedListInit : ListState ℕ).Spells [] [] ∧
      ¬ (linkedListInit : ListState ℕ).Promised (· == 1) false (some 7) [] := by
  refine ⟨spells_init, ?_⟩
  rintro ⟨hcell, -⟩
  exact absurd hcell (by decide)

end ListState
end Nx507j
