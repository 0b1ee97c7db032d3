import Mathlib.Data.List.Basic
import Nx507j.Lib.Run

/-!
# The launch of a thread helper

`loc_eng_dmn_conn_launch_thelper` creates the thread of a helper and waits until `thelper_main`
has initialised it.  There are two flags, `thread_ready` and `thread_exit`, and one wait, which
is not in a loop: a wait that ends without a signal is taken for the signal.

A section that holds the mutex is one step, and so is every other access to the flags.  The calls
of the helper's functions are a step each way; what they return is part of the input.

## Main definitions

* `LocEngDmnConnThelper` — the helper.
* `Launch`, `Launch.step` — the launching thread and `thelper_main`.
* `Launch.WaitEnds` — a wait ends with one of the flags set.

## Main results

* `Launch.initialised_exec` — a launch that returns 0 has initialised the helper, in the runs in
  which the waits end so.
-/

namespace Nx507j
namespace Dmn

open Run

/-! ### Data -/

/-- The functions of a helper; each is there or not. -/
structure ThreadProcs where
  threadProcInit : Bool
  threadProcPre : Bool
  threadProc : Bool
  threadProcPost : Bool
  deriving DecidableEq, Repr

/-- `struct loc_eng_dmn_conn_thelper`, without its mutex and its condition variable. -/
structure LocEngDmnConnThelper extends ThreadProcs where
  threadExit : Bool
  threadReady : Bool
  deriving DecidableEq, Repr

/-- Where `loc_eng_dmn_conn_launch_thelper` is; each of the first three is before the step that
it names. -/
inductive Launcher
  | signalInit
  | create
  | wait
  /-- Blocked in `pthread_cond_wait`. -/
  | condWait (signalled : Bool)
  /-- Before the last look at `thread_exit`, with what `thelper_signal_wait` has returned. -/
  | returning (waited : ℤ)
  | returned (result : ℤ)
  deriving DecidableEq, Repr

/-- Where `thelper_main` is.  `inInit` and the like are inside a call of the helper's function. -/
inductive ThelperMain
  | notCreated
  | start
  | inInit
  | initFailed
  | readyFailed
  | ready
  | pre
  | inPre
  | preFailed
  | loop
  | inProc
  | procFailed
  | test
  | post
  | inPost
  | done
  deriving DecidableEq, Repr

/-- The launching thread and the thread that it creates; `initResult` is what
`thread_proc_init` has returned. -/
structure Launch where
  args : ThreadProcs
  thelper : LocEngDmnConnThelper
  launcher : Launcher
  main : ThelperMain
  initResult : Option Int32
  deriving DecidableEq, Repr

/-! ### The flags -/

namespace LocEngDmnConnThelper

/-- `thelper_signal_init`. -/
def signalInit (t : LocEngDmnConnThelper) : LocEngDmnConnThelper :=
  { t with threadExit := false, threadReady := false }

/-- What `thelper_signal_wait` returns when its wait is over. -/
def signalWait (t : LocEngDmnConnThelper) : ℤ := if t.threadExit then -1 else 0

end LocEngDmnConnThelper

namespace Launch

/-- A helper that is all zero, and a launch of it with the functions `args`. -/
def init (args : ThreadProcs) : Launch where
  args := args
  thelper := ⟨⟨false, false, false, false⟩, false, false⟩
  launcher := .signalInit
  main := .notCreated
  initResult := none

/-- `thelper->thread_exit = 1`. -/
def setExit (s : Launch) : Launch := { s with thelper := { s.thelper with threadExit := true } }

/-- `thelper_signal_ready`. -/
def signalReady (s : Launch) : Launch :=
  { s with
    thelper := { s.thelper with threadReady := true }
    launcher :=
      match s.launcher with
      | .condWait _ => .condWait true
      | launcher => launcher }

/-! ### Steps -/

/-- A step of `loc_eng_dmn_conn_launch_thelper`; `created` is what `pthread_create` returns.  A
thread that is blocked may go on at any time. -/
def launcherStep (created : Int32) (s : Launch) : Launch :=
  match s.launcher with
  | .signalInit =>
    { s with
      thelper := { s.thelper.signalInit with toThreadProcs := s.args }
      launcher := .create }
  | .create =>
    if created ≠ 0 then { s with launcher := .returned (-1) }
    else { s with launcher := .wait, main := .start }
  | .wait =>
    if !s.thelper.threadReady && !s.thelper.threadExit then { s with launcher := .condWait false }
    else { s with launcher := .returning s.thelper.signalWait }
  | .condWait _ => { s with launcher := .returning s.thelper.signalWait }
  | .returning _ => { s with launcher := .returned (if s.thelper.threadExit then 1 else 0) }
  | .returned _ => s

/-- A step of `thelper_main`; `result` is what the function returns that it is in. -/
def mainStep (result : Int32) (s : Launch) : Launch :=
  match s.main with
  | .notCreated => s
  | .start => { s with main := if s.thelper.threadProcInit then .inInit else .ready }
  | .inInit =>
    { s with initResult := some result, main := if result < 0 then .initFailed else .ready }
  | .initFailed => { s.setExit with main := .readyFailed }
  | .readyFailed => { s.signalReady with main := .done }
  | .ready => { s.signalReady with main := .pre }
  | .pre => { s with main := if s.thelper.threadProcPre then .inPre else .loop }
  | .inPre => { s with main := if result < 0 then .preFailed else .loop }
  | .preFailed => { s.setExit with main := .done }
  | .loop => { s with main := if s.thelper.threadProc then .inProc else .test }
  | .inProc => { s with main := if result < 0 then .procFailed else .test }
  | .procFailed => { s.setExit with main := .test }
  | .test => { s with main := if s.thelper.threadExit then .post else .loop }
  | .post => { s with main := if s.thelper.threadProcPost then .inPost else .done }
  | .inPost => { s with main := .done }
  | .done => s

/-- Which of the two threads takes a step. -/
inductive Input
  | launcher (created : Int32)
  | main (result : Int32)
  deriving DecidableEq, Repr

/-- One step. -/
def step (s : Launch) : Input → Launch
  | .launcher created => s.launcherStep created
  | .main result => s.mainStep result

/-- The launching thread is blocked. -/
def blocked (s : Launch) : Bool :=
  match s.launcher with
  | .condWait _ => true
  | _ => false

/-- `pthread_cond_wait` does not return while neither flag is set. -/
def WaitEnds (s : Launch) : Input → Prop
  | .launcher _ =>
    s.blocked = true → s.thelper.threadReady = true ∨ s.thelper.threadExit = true
  | .main _ => True

instance (s : Launch) : (i : Input) → Decidable (s.WaitEnds i)
  | .launcher _ => inferInstanceAs (Decidable (_ → _))
  | .main _ => inferInstanceAs (Decidable True)

/-! ### What is kept -/

/-- `thread_proc_init` has returned, if there is one, and its result was not negative. -/
def Initialised (s : Launch) : Prop :=
  s.args.threadProcInit = true → ∃ r, s.initResult = some r ∧ 0 ≤ r

end Launch

/-- `thelper_main` is behind an initialisation that has not failed. -/
def ThelperMain.pastInit : ThelperMain → Bool
  | .notCreated | .start | .inInit | .initFailed | .readyFailed | .done => false
  | _ => true

/-- `thread_proc_init` has not returned. -/
def ThelperMain.beforeResult : ThelperMain → Bool
  | .notCreated | .start | .inInit => true
  | _ => false

namespace Launch

/-- What the flags and the places of the two threads say of the initialisation. -/
structure Inv (s : Launch) : Prop where
  notCreated : s.launcher = .signalInit ∨ s.launcher = .create → s.main = .notCreated
  procs : s.launcher ≠ .signalInit → s.thelper.toThreadProcs = s.args
  noResult : s.main.beforeResult = true → s.initResult = none
  pastInit : s.main.pastInit = true → s.Initialised
  readyFailed : s.main = .readyFailed → s.thelper.threadExit = true
  ready : s.thelper.threadReady = true → s.Initialised ∨ s.thelper.threadExit = true
  returning : ∀ waited, s.launcher = .returning waited →
    s.thelper.threadReady = true ∨ s.thelper.threadExit = true
  returned : s.launcher = .returned 0 → s.Initialised

theorem inv_init (args : ThreadProcs) : (init args).Inv := by
  refine ⟨fun _ => rfl, fun h => absurd rfl h, fun _ => rfl, ?_, ?_, ?_, ?_, ?_⟩ <;>
    simp [init, ThelperMain.pastInit]

variable {s : Launch}

/-! ### The created thread -/

@[simp] theorem main_setExit : s.setExit.main = s.main := rfl

@[simp] theorem main_signalReady : s.signalReady.main = s.main := rfl

/-- `thelper_main` goes on. -/
theorem Inv.goto (h : s.Inv) (hmain : s.main ≠ .notCreated) {m : ThelperMain}
    (hresult : m.beforeResult = true → s.initResult = none)
    (hpast : m.pastInit = true → s.Initialised)
    (hfailed : m = .readyFailed → s.thelper.threadExit = true) : { s with main := m }.Inv where
  notCreated hl := absurd (h.notCreated hl) hmain
  procs := h.procs
  noResult := hresult
  pastInit := hpast
  readyFailed := hfailed
  ready := h.ready
  returning := h.returning
  returned := h.returned

theorem Inv.setExit (h : s.Inv) : s.setExit.Inv where
  notCreated := h.notCreated
  procs := h.procs
  noResult := h.noResult
  pastInit := h.pastInit
  readyFailed _ := rfl
  ready _ := .inr rfl
  returning _ _ := .inr rfl
  returned := h.returned

/-- A signal leaves the launching thread where it is. -/
theorem launcher_signalReady (s : Launch) :
    s.signalReady.launcher = s.launcher ∨
      ∃ signalled, s.launcher = .condWait signalled ∧
        s.signalReady.launcher = .condWait true := by
  unfold signalReady
  dsimp only
  split
  · next signalled hwait => exact .inr ⟨signalled, hwait, rfl⟩
  · exact .inl rfl

theorem Inv.signalReady (h : s.Inv) (hinit : s.Initialised ∨ s.thelper.threadExit = true) :
    s.signalReady.Inv := by
  refine ⟨fun hl => ?_, fun hl => ?_, h.noResult, h.pastInit, h.readyFailed, fun _ => hinit,
    fun _ _ => .inl rfl, fun hl => ?_⟩
  all_goals rcases s.launcher_signalReady with heq | ⟨signalled, hwait, heq⟩
  · exact h.notCreated (heq ▸ hl)
  · simp [heq] at hl
  · exact h.procs (heq ▸ hl)
  · exact h.procs (by simp [hwait])
  · exact h.returned (heq ▸ hl)
  · simp [heq] at hl

/-- Behind the initialisation `thelper_main` goes where it wants. -/
theorem Inv.goto_pastInit (h : s.Inv) (hmain : s.main.pastInit = true) {m : ThelperMain}
    (hresult : m.beforeResult = false) (hm : m ≠ .readyFailed) : { s with main := m }.Inv := by
  have hcreated : s.main ≠ .notCreated := by
    intro hmain'
    rw [hmain'] at hmain
    cases hmain
  refine h.goto hcreated (fun hbefore => ?_) (fun _ => h.pastInit hmain) fun h => absurd h hm
  rw [hresult] at hbefore
  cases hbefore

/-- The initialisation returns. -/
theorem Inv.inInit (h : s.Inv) (hmain : s.main = .inInit) (result : Int32) :
    { s with
      initResult := some result
      main := if result < 0 then .initFailed else .ready }.Inv := by
  -- before, the helper counted as initialised only if it has nothing to initialise it
  have hnone : s.initResult = none := h.noResult (by rw [hmain]; rfl)
  have hkeep : ∀ m, s.Initialised →
      { s with initResult := some result, main := m }.Initialised := by
    intro m hinit hargs
    obtain ⟨r, hr, -⟩ := hinit hargs
    rw [hnone] at hr
    cases hr
  have hcreated : s.main ≠ .notCreated := by rw [hmain]; decide
  refine ⟨fun hl => absurd (h.notCreated hl) hcreated, h.procs, fun hbefore => ?_,
    fun hpast => ?_, fun hfailed => ?_, fun hready => (h.ready hready).imp_left (hkeep _),
    h.returning, fun hl => hkeep _ (h.returned hl)⟩
  · split at hbefore <;> cases hbefore
  · dsimp only at hpast
    split at hpast
    · cases hpast
    · next hnonneg => exact fun _ => ⟨result, rfl, Int32.not_lt.mp hnonneg⟩
  · split at hfailed <;> cases hfailed

/-- **A step of `thelper_main`** sets no flag before its time. -/
theorem Inv.mainStep (h : s.Inv) (result : Int32) : (s.mainStep result).Inv := by
  unfold Launch.mainStep
  cases hmain : s.main with
  | notCreated => exact h
  | done => exact h
  | start =>
    have hnone := h.noResult (by rw [hmain]; rfl)
    have hprocs := h.procs fun hl => by simp [h.notCreated (.inl hl)] at hmain
    refine h.goto (by rw [hmain]; decide) (fun _ => hnone) (fun hpast hinit => ?_) fun hfailed => ?_
    · rw [hprocs, hinit] at hpast
      cases hpast
    · split at hfailed <;> cases hfailed
  | inInit => exact h.inInit hmain result
  | initFailed =>
    refine h.setExit.goto (by simp [hmain]) (fun hbefore => ?_) (fun hpast => ?_) fun _ => rfl
    · cases hbefore
    · cases hpast
  | readyFailed =>
    have hexit := h.readyFailed hmain
    refine (h.signalReady (.inr hexit)).goto (by simp [hmain]) (fun hbefore => ?_)
      (fun hpast => ?_) fun _ => hexit
    · cases hbefore
    · cases hpast
  | ready =>
    have hinit := h.pastInit (by rw [hmain]; rfl)
    exact (h.signalReady (.inl hinit)).goto_pastInit (by rw [main_signalReady, hmain]; rfl) rfl
      (by decide)
  | preFailed | procFailed =>
    exact h.setExit.goto_pastInit (by rw [main_setExit, hmain]; rfl) rfl (by decide)
  | inPost => exact h.goto_pastInit (by rw [hmain]; rfl) rfl (by decide)
  | _ => exact h.goto_pastInit (by rw [hmain]; rfl) (by split <;> rfl) (by split <;> decide)

/-! ### The launching thread -/

/-- The launching thread goes on. -/
theorem Inv.goLauncher (h : s.Inv) (hl : s.launcher ≠ .signalInit) {l : Launcher}
    (hstart : l ≠ .signalInit ∧ l ≠ .create)
    (hflag : ∀ waited, l = .returning waited →
      s.thelper.threadReady = true ∨ s.thelper.threadExit = true)
    (hreturned : l = .returned 0 → s.Initialised) : { s with launcher := l }.Inv where
  notCreated h := (h.elim hstart.1 hstart.2).elim
  procs _ := h.procs hl
  noResult := h.noResult
  pastInit := h.pastInit
  readyFailed := h.readyFailed
  ready := h.ready
  returning := hflag
  returned := hreturned

/-- **A step of the launching thread** whose wait ends with a flag set. -/
theorem Inv.launcherStep (h : s.Inv) (created : Int32) (hwait : s.WaitEnds (.launcher created)) :
    (s.launcherStep created).Inv := by
  unfold Launch.launcherStep
  cases hl : s.launcher with
  | signalInit =>
    have hmain := h.notCreated (.inl hl)
    have hpast : s.main.pastInit = false := by rw [hmain]; rfl
    refine ⟨fun _ => hmain, fun _ => rfl, h.noResult, h.pastInit, ?_, ?_, ?_, ?_⟩ <;>
      simp [hmain, LocEngDmnConnThelper.signalInit]
  | create =>
    have hmain := h.notCreated (.inr hl)
    have hgo : s.launcher ≠ .signalInit := by rw [hl]; decide
    dsimp only
    split
    · exact h.goLauncher hgo (by decide) (by simp) (by simp)
    · have hnone := h.noResult (by rw [hmain]; rfl)
      refine ⟨?_, fun _ => h.procs hgo, fun _ => hnone, ?_, ?_, h.ready, ?_, ?_⟩ <;>
        simp [ThelperMain.pastInit]
  | wait =>
    have hgo : s.launcher ≠ .signalInit := by rw [hl]; decide
    dsimp only
    split
    · exact h.goLauncher hgo (by simp) (by simp) (by simp)
    · next hflags =>
      refine h.goLauncher hgo (by simp) (fun _ _ => ?_) (by simp)
      by_contra hnot
      simp at hflags hnot
      exact absurd (hflags hnot.1) (by simp [hnot.2])
  | condWait signalled =>
    have hflag := hwait (by rw [blocked, hl])
    exact h.goLauncher (by simp [hl]) (by simp) (fun _ _ => hflag) (by simp)
  | returning waited =>
    refine h.goLauncher (by simp [hl]) (by simp) (by simp) fun hzero => ?_
    have hexit : s.thelper.threadExit = false := by simpa using hzero
    -- with no failure it is the other flag that has ended the wait
    have hready : s.thelper.threadReady = true := by simpa [hexit] using h.returning waited hl
    simpa [hexit] using h.ready hready
  | returned result => exact h

theorem Inv.step (h : s.Inv) (i : Input) (hwait : s.WaitEnds i) : (s.step i).Inv := by
  cases i with
  | launcher created => exact h.launcherStep created hwait
  | main result => exact h.mainStep result

theorem args_step (s : Launch) (i : Input) : (s.step i).args = s.args := by
  cases i with
  | launcher created =>
    simp only [Launch.step, launcherStep]
    split <;> try split_ifs
    all_goals rfl
  | main result =>
    simp only [Launch.step, mainStep]
    split <;> rfl

/-- **A launch that returns 0 has initialised the helper**, in every run in which no wait ends
while neither flag is set: `thread_proc_init` has returned, and not a negative value. -/
theorem initialised_exec (args : ThreadProcs) (inputs : List Input)
    (hwait : StepsMeet step WaitEnds (init args) inputs) :
    let s := exec step (init args) inputs
    s.launcher = .returned 0 → args.threadProcInit = true →
      ∃ r, s.initResult = some r ∧ 0 ≤ r := by
  have hstep : ∀ (s : Launch) i, s.Inv ∧ s.args = args → s.WaitEnds i →
      (s.step i).Inv ∧ (s.step i).args = args := fun s i hs hi =>
    ⟨hs.1.step i hi, (s.args_step i).trans hs.2⟩
  obtain ⟨h, hargs⟩ :=
    exec_inv_of_stepsMeet hstep inputs (init args) ⟨inv_init args, rfl⟩ hwait
  intro s hl hinit
  exact h.returned hl (hargs.symm ▸ hinit)

/-- A launch whose wait ends by the signal. -/
theorem initialised_exec_signalled :
    let s := exec step (init ⟨true, true, true, true⟩)
      [.launcher 0, .launcher 0, .launcher 0, .main 0, .main 3, .main 0, .launcher 0, .launcher 0]
    ∃ r, s.initResult = some r ∧ 0 ≤ r :=
  initialised_exec ⟨true, true, true, true⟩ _
    (by decide) (by decide) rfl

/-- A wait that ends before the initialisation: the launch returns 0 all the same. -/
theorem not_initialised_spurious :
    let s := exec step (init ⟨true, true, true, true⟩)
      [.launcher 0, .launcher 0, .launcher 0, .launcher 0, .launcher 0]
    s.launcher = .returned 0 ∧ s.initResult = none ∧ s.main = .start := by
  decide

end Launch
end Dmn
end Nx507j
