import Mathlib.Data.List.Basic
import Mathlib.Data.List.Induction
import Nx507j.Lib.Run

/-!
# A worker

Work is put behind the work that waits, and one piece is done after another.  What waits can be
thrown away.  What a piece does to a state is a parameter.

## Main definitions

* `Worker`, `Worker.step` — a worker, and what can happen to it.

## Main results

* `Worker.exec_prefix` — the pieces that have been done are the first ones that have been put.
-/

namespace Nx507j

open Run

variable {σ α : Type*}

/-- The pieces that wait, oldest first, and the state. -/
structure Worker (σ α : Type*) where
  waiting : List α
  state : σ

namespace Worker

/-- What can happen to a worker. -/
inductive Act (α : Type*)
  | put (a : α)
  | run
  | clear
  deriving DecidableEq, Repr

/-- The piece that is put. -/
def Act.put? : Act α → Option α
  | .put a => some a
  | _ => none

variable (apply : σ → α → σ)

def step (w : Worker σ α) : Act α → Worker σ α
  | .put a => { w with waiting := w.waiting ++ [a] }
  | .run =>
    match w.waiting with
    | [] => w
    | a :: waiting => ⟨waiting, apply w.state a⟩
  | .clear => { w with waiting := [] }

/-- **What has been done are the first pieces**, in their order, where nothing is done after some
have been thrown away; before that, the others wait. -/
theorem exec_prefix (start : σ) (acts : List (Act α))
    (h : acts.Pairwise fun a b => a = .clear → ¬ b = .run) :
    ∃ done, done <+: acts.filterMap Act.put? ∧
      (exec (step apply) ⟨[], start⟩ acts).state = done.foldl apply start ∧
      (.clear ∉ acts →
        acts.filterMap Act.put? = done ++ (exec (step apply) ⟨[], start⟩ acts).waiting) := by
  induction acts using List.reverseRecOn with
  | nil => exact ⟨[], List.prefix_rfl, rfl, fun _ => rfl⟩
  | append_singleton acts act ih =>
    obtain ⟨hacts, -, hact⟩ := List.pairwise_append.mp h
    obtain ⟨done, hprefix, hstate, hwaiting⟩ := ih hacts
    rw [exec_append, exec_cons, exec_nil, List.filterMap_append]
    cases act with
    | put a =>
      refine ⟨done, hprefix.trans (List.prefix_append _ _), hstate, fun hclear => ?_⟩
      rw [hwaiting fun hmem => hclear (List.mem_append_left _ hmem), List.append_assoc]
      rfl
    | run =>
      have hclear : .clear ∉ acts := fun hmem =>
        hact .clear hmem .run (List.mem_singleton_self _) rfl rfl
      have hputs := hwaiting hclear
      rw [List.filterMap_cons_none rfl, List.filterMap_nil, List.append_nil, step]
      split
      · next hnil => exact ⟨done, hprefix, hstate, fun _ => hputs⟩
      · next a waiting hcons =>
        rw [hcons] at hputs
        refine ⟨done ++ [a], ⟨waiting, ?_⟩, ?_, fun _ => ?_⟩
        · rw [hputs, List.append_assoc, List.singleton_append]
        · rw [List.foldl_append, ← hstate]
          rfl
        · rw [hputs, List.append_assoc, List.singleton_append]
    | clear =>
      rw [List.filterMap_cons_none rfl, List.filterMap_nil, List.append_nil]
      refine ⟨done, hprefix, hstate, fun hclear => ?_⟩
      exact absurd (List.mem_append_right _ (List.mem_singleton_self _)) hclear

end Worker
end Nx507j
