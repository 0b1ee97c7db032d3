import Mathlib.Data.List.Induction
import Nx507j.Lib.Run

/-!
# What came before

A log or a list of inputs is read from its end: what stands before an event, and the last value that
something has been given.  A part of a state that is only ever replaced is the last value that the
inputs had for it.

## Main definitions

* `latest f l` — the last value that `f` finds in `l`.

## Main results

* `forall_split_concat` — what holds of each event after those before it.
* `exec_latest` — a part of the state that the inputs replace.
-/

namespace Nx507j
namespace Trace

open Run

variable {α β σ ι : Type*}

/-! ### Events and those before them -/

/-- What holds of each event after those before it holds of one more. -/
theorem forall_split_concat {P : List α → α → Prop} {l : List α} {new : α}
    (h : ∀ before e after, l = before ++ e :: after → P before e) (hnew : P l new) :
    ∀ before e after, l ++ [new] = before ++ e :: after → P before e := by
  intro before e after heq
  rcases List.eq_nil_or_concat' after with rfl | ⟨after, last, rfl⟩
  · obtain ⟨rfl, hlast⟩ := List.append_inj' heq rfl
    obtain rfl := (List.cons.inj hlast).1
    exact hnew
  · rw [← List.cons_append, ← List.append_assoc] at heq
    obtain ⟨rfl, -⟩ := List.append_inj' heq rfl
    exact h before e after rfl

/-! ### The last value -/

/-- The last value that `f` finds. -/
def latest (f : α → Option β) (l : List α) : Option β := l.reverse.findSome? f

variable {f : α → Option β}

@[simp] theorem latest_nil : latest f [] = none := rfl

/-- A value that is found at the end is the last one. -/
theorem latest_concat (l : List α) (a : α) : latest f (l ++ [a]) = (f a).or (latest f l) := by
  rw [latest, List.reverse_append, List.reverse_singleton, List.singleton_append,
    List.findSome?_cons]
  cases f a with
  | none => rfl
  | some b => rfl

theorem latest_append (l l' : List α) : latest f (l ++ l') = (latest f l').or (latest f l) := by
  rw [latest, List.reverse_append, List.findSome?_append]
  rfl

/-- A value is found behind an event, in it, or before it. -/
theorem latest_middle (before : List α) (a : α) (after : List α) :
    latest f (before ++ a :: after) = (latest f after).or ((f a).or (latest f before)) := by
  rw [List.append_cons, latest_append, latest_concat]

/-- There is a last value just where something has been found. -/
theorem latest_eq_none_iff {l : List α} : latest f l = none ↔ ∀ a ∈ l, f a = none := by
  rw [latest, List.findSome?_eq_none_iff]
  simp only [List.mem_reverse]

/-! ### Parts of a state that are replaced -/

/-- A part of the state that each input keeps or replaces is the last value that an input had for
it. -/
theorem exec_latest {step : σ → ι → σ} {part : σ → β} {value : ι → Option β}
    (hstep : ∀ s i, part (step s i) = (value i).getD (part s)) (is : List ι) (s : σ) :
    part (exec step s is) = (latest value is).getD (part s) := by
  induction is using List.reverseRecOn with
  | nil => rfl
  | append_singleton is i ih =>
    rw [exec_append, exec_cons, exec_nil, hstep, ih, latest_concat]
    cases value i with
    | none => rfl
    | some b => rfl

end Trace
end Nx507j
