import Mathlib.Algebra.GroupWithZero.Nat
import Mathlib.Data.List.Basic

/-!
# Runs of a step function

A system is a step function on states and inputs; what the environment decides
(a scheduling choice, the result of a call that leaves the system) is part of
the input.  A run is a list of inputs.  An input that is not enabled leaves the
state as it is, so every list of inputs is a run.

## Main definitions

* `exec step s is` — the state a run reaches.
* `trace step acts s is` — the steps of another system that match those of a run.
* `StepsMeet step C s is` — every step of the run is taken in a state, and with
  an input, that meet `C`.
* `countSteps step C s is` — how many of these steps meet `C`.
* `Always step P s is` — `P` holds at the start and after every step.

## Main results

* `exec_inv`, `exec_inv_of_forall` — the invariant rule.
* `exec_sim` — the simulation rule.
* `exec_trace`, `pairwise_trace` — the rule of refinement, and what comes behind what in the steps
  of the other system.
* `exec_inv_of_stepsMeet`, `always_of_inv` — the invariant rule under a condition on the steps.
* `stepsMeet_of_forall`, `stepsMeet_of_inv`, `stepsMeet_congr` — what the steps of such a run do.
* `exec_balance` — a balance that is kept but for the steps that are counted.
* `exec_account` — an account that is clear when every step has met a condition.
* `always_iff_stepsMeet_of_forall`, `always_iff_stepsMeet` — when a condition is exact.
-/

namespace Nx507j
namespace Run

variable {σ ι : Type*} {step : σ → ι → σ}

/-- The state the run `is` reaches from `s`. -/
def exec (step : σ → ι → σ) (s : σ) (is : List ι) : σ := is.foldl step s

@[simp] theorem exec_nil (s : σ) : exec step s [] = s := rfl

@[simp] theorem exec_cons (s : σ) (i : ι) (is : List ι) :
    exec step s (i :: is) = exec step (step s i) is := rfl

theorem exec_append (s : σ) (is js : List ι) :
    exec step s (is ++ js) = exec step (exec step s is) js := List.foldl_append

/-! ### The invariant rule -/

/-- What every step preserves, every run preserves. -/
theorem exec_inv {Inv : σ → Prop} (hstep : ∀ s i, Inv s → Inv (step s i)) :
    ∀ (is : List ι) (s : σ), Inv s → Inv (exec step s is) := by
  intro is
  induction is with
  | nil => intro s hs; exact hs
  | cons i is ih => intro s hs; exact ih _ (hstep s i hs)

/-- What every step on an input of a kind preserves, every run of such inputs preserves. -/
theorem exec_inv_of_forall {Inv : σ → Prop} {I : ι → Prop}
    (hstep : ∀ s i, I i → Inv s → Inv (step s i)) :
    ∀ (is : List ι) (s : σ), (∀ i ∈ is, I i) → Inv s → Inv (exec step s is) := by
  intro is
  induction is with
  | nil => intro s _ hs; exact hs
  | cons i is ih =>
    intro s hI hs
    have hi : I i := hI i List.mem_cons_self
    exact ih _ (fun j hj => hI j (List.mem_cons_of_mem i hj)) (hstep s i hi hs)

/-- What relates two systems and is kept by every step of both relates what the same inputs
make of them. -/
theorem exec_sim {τ : Type*} {step' : τ → ι → τ} {R : σ → τ → Prop}
    (hstep : ∀ s t i, R s t → R (step s i) (step' t i)) :
    ∀ (is : List ι) (s : σ) (t : τ), R s t → R (exec step s is) (exec step' t is) := by
  intro is
  induction is with
  | nil => intro s t h; exact h
  | cons i is ih => intro s t h; exact ih _ _ (hstep s t i h)

/-! ### Refinement -/

/-- The steps of another system that match those of a run. -/
def trace {κ : Type*} (step : σ → ι → σ) (acts : σ → ι → List κ) : σ → List ι → List κ
  | _, [] => []
  | s, i :: is => acts s i ++ trace step acts (step s i) is

/-- **The rule of refinement**: where each step of a system is matched by some steps of another one,
or by none, each run is matched by a run. -/
theorem exec_trace {τ κ : Type*} {step' : τ → κ → τ} {acts : σ → ι → List κ} {R : σ → τ → Prop}
    (hstep : ∀ s t i, R s t → R (step s i) (exec step' t (acts s i))) :
    ∀ (is : List ι) (s : σ) (t : τ), R s t →
      R (exec step s is) (exec step' t (trace step acts s is)) := by
  intro is
  induction is with
  | nil => intro s t h; exact h
  | cons i is ih =>
    intro s t h
    rw [trace, exec_append]
    exact ih _ _ (hstep s t i h)

/-- No matching step of the second kind comes behind one of the first kind, where one of the first
kind brings the system into states in which there is none of the second. -/
theorem pairwise_trace {κ : Type*} {acts : σ → ι → List κ} {first second : κ → Prop}
    (Inv Closed : σ → Prop) (hinv : ∀ s i, Inv s → Inv (step s i))
    (hclosed : ∀ s i, Closed s → Closed (step s i))
    (hnone : ∀ s i, Closed s → ∀ b ∈ acts s i, ¬ second b)
    (hclose : ∀ s i, Inv s → ∀ a ∈ acts s i, first a → Closed (step s i))
    (hacts : ∀ s i, (acts s i).Pairwise fun a b => first a → ¬ second b) :
    ∀ (is : List ι) (s : σ), Inv s →
      (trace step acts s is).Pairwise fun a b => first a → ¬ second b := by
  have hrest : ∀ (is : List ι) (s : σ), Closed s → ∀ b ∈ trace step acts s is, ¬ second b := by
    intro is
    induction is with
    | nil => intro s _ b hb; exact absurd hb List.not_mem_nil
    | cons i is ih =>
      intro s hs b hb
      rcases List.mem_append.mp hb with hb | hb
      · exact hnone s i hs b hb
      · exact ih _ (hclosed s i hs) b hb
  intro is
  induction is with
  | nil => intro s _; exact List.Pairwise.nil
  | cons i is ih =>
    intro s hs
    refine List.pairwise_append.mpr ⟨hacts s i, ih _ (hinv s i hs), fun a ha b hb hfirst => ?_⟩
    exact hrest is _ (hclose s i hs a ha hfirst) b hb

/-! ### Runs under a condition -/

/-- Every step of the run `is` from `s` meets `C`. -/
def StepsMeet (step : σ → ι → σ) (C : σ → ι → Prop) : σ → List ι → Prop
  | _, [] => True
  | s, i :: is => C s i ∧ StepsMeet step C (step s i) is

instance decidableStepsMeet {C : σ → ι → Prop} [∀ s i, Decidable (C s i)] :
    ∀ (s : σ) (is : List ι), Decidable (StepsMeet step C s is)
  | _, [] => inferInstanceAs (Decidable True)
  | s, i :: is =>
    have := decidableStepsMeet (C := C) (step s i) is
    inferInstanceAs (Decidable (C s i ∧ StepsMeet step C (step s i) is))

/-- What every step that meets `C` preserves, every run whose steps meet `C`
preserves. -/
theorem exec_inv_of_stepsMeet {C : σ → ι → Prop} {Inv : σ → Prop}
    (hstep : ∀ s i, Inv s → C s i → Inv (step s i)) :
    ∀ (is : List ι) (s : σ), Inv s → StepsMeet step C s is → Inv (exec step s is) := by
  intro is
  induction is with
  | nil => intro s hs _; exact hs
  | cons i is ih => intro s hs hC; exact ih _ (hstep s i hs hC.1) hC.2

/-- What every step that meets `C` does in the states that an invariant allows, every step of a
run whose steps meet `C` does. -/
theorem stepsMeet_of_inv {C Q : σ → ι → Prop} {Inv : σ → Prop}
    (hstep : ∀ s i, Inv s → C s i → Inv (step s i)) (hQ : ∀ s i, Inv s → C s i → Q s i) :
    ∀ (is : List ι) (s : σ), Inv s → StepsMeet step C s is → StepsMeet step Q s is := by
  intro is
  induction is with
  | nil => intro s _ _; trivial
  | cons i is ih => intro s hs hC; exact ⟨hQ s i hs hC.1, ih _ (hstep s i hs hC.1) hC.2⟩

/-- What every step does, every step of every run does. -/
theorem stepsMeet_of_forall {C : σ → ι → Prop} (h : ∀ s i, C s i) :
    ∀ (is : List ι) (s : σ), StepsMeet step C s is := by
  intro is
  induction is with
  | nil => intro s; trivial
  | cons i is ih => intro s; exact ⟨h s i, ih _⟩

/-- A run that goes on. -/
theorem stepsMeet_append {C : σ → ι → Prop} {s : σ} {is js : List ι} :
    StepsMeet step C s (is ++ js) ↔
      StepsMeet step C s is ∧ StepsMeet step C (exec step s is) js := by
  induction is generalizing s with
  | nil => exact (and_iff_right trivial).symm
  | cons i is ih => exact (and_congr_right fun _ => ih).trans and_assoc.symm

/-- Steps that leave the state as it is. -/
theorem stepsMeet_of_fixed {C : σ → ι → Prop} {s : σ} {is : List ι}
    (h : ∀ i ∈ is, step s i = s ∧ C s i) : StepsMeet step C s is ∧ exec step s is = s := by
  induction is with
  | nil => exact ⟨trivial, rfl⟩
  | cons i is ih =>
    obtain ⟨hfixed, hmeets⟩ := h i List.mem_cons_self
    obtain ⟨hrest, hexec⟩ := ih fun j hj => h j (List.mem_cons_of_mem i hj)
    rw [StepsMeet, exec_cons, hfixed]
    exact ⟨⟨hmeets, hrest⟩, hexec⟩

/-- Conditions that agree on every step agree on every run. -/
theorem stepsMeet_congr {C D : σ → ι → Prop} (h : ∀ s i, C s i ↔ D s i) :
    ∀ (is : List ι) (s : σ), StepsMeet step C s is ↔ StepsMeet step D s is := by
  intro is
  induction is with
  | nil => intro s; exact Iff.rfl
  | cons i is ih => intro s; exact and_congr (h s i) (ih _)

/-! ### Counting steps -/

/-- The number of the steps of the run `is` from `s` that meet `C`. -/
def countSteps (step : σ → ι → σ) (C : σ → ι → Bool) : σ → List ι → ℕ
  | _, [] => 0
  | s, i :: is => (if C s i then 1 else 0) + countSteps step C (step s i) is

/-- What every step on an input balances, but for the steps that meet `C`, every run balances,
but for these steps. -/
theorem exec_balance (C : σ → ι → Bool) (f : σ → ℕ) (g : ι → ℕ) {Inv : σ → Prop}
    (hinv : ∀ s i, Inv s → Inv (step s i))
    (hstep : ∀ s i, Inv s → f (step s i) + (if C s i then 1 else 0) = f s + g i) :
    ∀ (is : List ι) (s : σ), Inv s →
      f (exec step s is) + countSteps step C s is = f s + (is.map g).sum := by
  intro is
  induction is with
  | nil => intro s _; rfl
  | cons i is ih =>
    intro s hs
    have htail := ih _ (hinv s i hs)
    have hhead := hstep s i hs
    rw [exec_cons, countSteps, List.map_cons, List.sum_cons]
    omega

/-- An account beside the state which a step leaves clear exactly when it was clear and the step
meets `C` is clear after a run exactly when it was before and all the steps meet `C`. -/
theorem exec_account {α : Type*} {C : σ → ι → Prop} {R : σ → α → Prop} {Clear : α → Prop}
    (hstep : ∀ s a i, R s a → ∃ a', R (step s i) a' ∧ (Clear a' ↔ Clear a ∧ C s i)) :
    ∀ (is : List ι) (s : σ) (a : α), R s a →
      ∃ a', R (exec step s is) a' ∧ (Clear a' ↔ Clear a ∧ StepsMeet step C s is) := by
  intro is
  induction is with
  | nil => intro s a h; exact ⟨a, h, (and_iff_left trivial).symm⟩
  | cons i is ih =>
    intro s a h
    obtain ⟨a', h', hclear⟩ := hstep s a i h
    obtain ⟨a'', h'', hclear'⟩ := ih _ a' h'
    refine ⟨a'', h'', ?_⟩
    rw [hclear', hclear, and_assoc]
    rfl

/-- `P` holds at the start of the run and after each of its steps. -/
def Always (step : σ → ι → σ) (P : σ → Prop) : σ → List ι → Prop
  | s, [] => P s
  | s, i :: is => P s ∧ Always step P (step s i) is

theorem Always.head {P : σ → Prop} {s : σ} {is : List ι} (h : Always step P s is) : P s := by
  cases is with
  | nil => exact h
  | cons i is => exact h.1

theorem Always.last {P : σ → Prop} :
    ∀ {is : List ι} {s : σ}, Always step P s is → P (exec step s is)
  | [], _, h => h
  | _ :: _, _, h => h.2.last

/-- What every state has that an invariant allows, every state has of a run whose steps keep the
invariant. -/
theorem always_of_inv {C : σ → ι → Prop} {P Inv : σ → Prop}
    (hstep : ∀ s i, Inv s → C s i → Inv (step s i)) (hP : ∀ s, Inv s → P s) :
    ∀ (is : List ι) (s : σ), Inv s → StepsMeet step C s is → Always step P s is := by
  intro is
  induction is with
  | nil => intro s hs _; exact hP s hs
  | cons i is ih => intro s hs hC; exact ⟨hP s hs, ih _ (hstep s i hs hC.1) hC.2⟩

/-- **When a condition on the steps is exact.**  If, in the states an invariant
allows and on the inputs of a kind, a step keeps `P` exactly when it meets `C`, then
`P` holds throughout a run of such inputs exactly when all its steps meet `C`. -/
theorem always_iff_stepsMeet_of_forall {C : σ → ι → Prop} {P Inv : σ → Prop} {I : ι → Prop}
    (hstep : ∀ s i, I i → Inv s → P s → Inv (step s i))
    (hexact : ∀ s i, I i → Inv s → P s → (P (step s i) ↔ C s i)) :
    ∀ (is : List ι) (s : σ), (∀ i ∈ is, I i) → Inv s → P s →
      (Always step P s is ↔ StepsMeet step C s is) := by
  intro is
  induction is with
  | nil => intro s _ _ hP; exact iff_of_true hP trivial
  | cons i is ih =>
    intro s hI hs hP
    have hi : I i := hI i List.mem_cons_self
    have his : ∀ j ∈ is, I j := fun j hj => hI j (List.mem_cons_of_mem i hj)
    constructor
    · rintro ⟨-, h⟩
      exact ⟨(hexact s i hi hs hP).mp h.head, (ih _ his (hstep s i hi hs hP) h.head).mp h⟩
    · rintro ⟨hC, h⟩
      have hP' : P (step s i) := (hexact s i hi hs hP).mpr hC
      exact ⟨hP, (ih _ his (hstep s i hi hs hP) hP').mpr h⟩

theorem always_iff_stepsMeet {C : σ → ι → Prop} {P Inv : σ → Prop}
    (hstep : ∀ s i, Inv s → P s → Inv (step s i))
    (hexact : ∀ s i, Inv s → P s → (P (step s i) ↔ C s i)) (is : List ι) (s : σ) (hs : Inv s)
    (hP : P s) : Always step P s is ↔ StepsMeet step C s is :=
  always_iff_stepsMeet_of_forall (I := fun _ => True) (fun s i _ => hstep s i)
    (fun s i _ => hexact s i) is s (fun _ _ => trivial) hs hP

end Run
end Nx507j
