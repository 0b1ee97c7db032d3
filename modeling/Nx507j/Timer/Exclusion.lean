import Nx507j.Timer.Lifecycle

/-!
# Stop and callback

Of a client's `stop` and the callback, one at most comes about for a start: whoever takes the
delegate out of `mTimer` has it.  But `LocTimerDelegate::expire` stops its client, not itself.
A client that stops and starts again between the read of `mClient` and `client->stop()` has
its new timer stopped, and is called back for it.

## Main definitions

* `NotRestarted` — `client->stop()` finds the delegate that is in `expire()`, or none.

## Main results

* `stop_or_callback` — one at most, in every run.
* `ownCallback_exec` — callbacks are for delegates that have been popped, unless a client has
  started again in between.
-/

namespace Nx507j
namespace Timer

open Run LocHeap

variable {s : Service} {d : LocTimerDelegate}

/-- **A start is stopped by its client, or called back, and not both or twice.** -/
theorem stop_or_callback (inputs : List Input) (d : LocTimerDelegate) :
    let s := exec Service.step Service.init inputs
    s.log.count (.stopped d) + s.log.countP (Event.isCallback d) ≤ 1 := by
  intro s
  have hanswered : Answered s := answered_exec inputs
  have hstops := hanswered.stops d
  have hsent : s.log.count (.removeSent d) ≤ 1 := ((kept_exec inputs).balanced d).removeSent_le
  omega

/-- What `client->stop()` is about to find satisfies `P`, given the delegate that is in
`expire()`. -/
def MsgThread.Finds (P : LocTimerDelegate → LocTimerDelegate → Prop)
    (mTimer : ℕ → Option LocTimerDelegate) : MsgThread → Prop
  | stopping _ _ timer client => ∀ found ∈ mTimer client, P timer found
  | _ => True

instance (P : LocTimerDelegate → LocTimerDelegate → Prop) [∀ d e, Decidable (P d e)]
    (mTimer : ℕ → Option LocTimerDelegate) : (t : MsgThread) → Decidable (t.Finds P mTimer)
  | .stopping _ _ timer client => inferInstanceAs (Decidable (∀ found ∈ mTimer client, P timer found))
  | .waiting | .updating .. | .popped .. | .calling .. | .looping .. =>
    inferInstanceAs (Decidable True)

/-- `client->stop()` finds the delegate that is in `expire()`, or none. -/
def NotRestarted (s : Service) (i : Input) : Prop :=
  i = .msgThread → s.msgThread.Finds (fun timer found => found = timer) s.mTimer

instance (s : Service) (i : Input) : Decidable (NotRestarted s i) :=
  inferInstanceAs (Decidable (i = .msgThread → _))

/-- A delegate that is called back, or about to be, has been popped. -/
structure Popped (s : Service) : Prop where
  called : ∀ d clock, .timeOutCallback d clock ∈ s.log → .popped d ∈ s.log
  calling : ∀ k now d, s.msgThread = .calling k now d → .popped d ∈ s.log

theorem popped_init : Popped Service.init where
  called d clock h := by cases h
  calling k now d h := by cases h

/-- Steps that make no callback, and go to none. -/
theorem Popped.of_log (h : Popped s) {s' : Service} (hlog : s.log <+: s'.log)
    (hcalled : ∀ d clock, .timeOutCallback d clock ∈ s'.log → .timeOutCallback d clock ∈ s.log)
    (hcalling : ∀ k now d, s'.msgThread = .calling k now d → s.msgThread = .calling k now d) :
    Popped s' where
  called d clock hmem := hlog.subset (h.called d clock (hcalled d clock hmem))
  calling k now d hthread := hlog.subset (h.calling k now d (hcalling k now d hthread))

theorem Popped.step (h : Popped s) (hkept : Kept s) (i : Input) (hi : NotRestarted s i) :
    Popped (s.step i) := by
  have hlog := log_prefix_step hkept.linked i
  rcases Service.step_cases hkept.linked i with heq | hstep
  · rw [heq]
    exact h
  generalize s.step i = s' at hstep hlog
  cases hstep with
  | clientStop hthread hrun =>
    rename_i k now timer stopped
    have hfinds := hi rfl
    rw [hthread] at hfinds
    obtain rfl : stopped = timer := hfinds stopped hrun
    have hpopped : .popped stopped ∈ s.log := by
      have hexp : 0 < (s.ledger stopped).expiring := by
        simp [Service.ledger, hthread, MsgThread.expiring]
      exact List.count_pos_iff.mp ((hkept.balanced stopped).expired hexp)
    constructor
    · intro d clock hmem
      apply hlog.subset
      apply h.called d clock
      simpa [Service.unhooked] using hmem
    · intro k' now' d hcalling
      cases hcalling
      exact hlog.subset hpopped
  | callback hthread =>
    rename_i k now timer
    constructor
    · intro d clock hmem
      apply hlog.subset
      rcases List.mem_append.mp hmem with hmem | hmem
      · exact h.called d clock hmem
      · cases List.mem_singleton.mp hmem
        exact h.calling k now timer hthread
    · intro k' now' d hcalling
      cases hcalling
  | kernelCall hthread =>
    rename_i k call calls toDelete
    cases call <;>
      exact h.of_log hlog (fun d clock hmem => hmem) (fun k now d hcalling => by cases hcalling)
  | start | stop | destroyRunning | destroy | tick | epollWait | disarm | removePoll | sendExpire =>
    apply h.of_log hlog
    · intro d clock hmem
      simpa [Service.started, Service.unhooked] using hmem
    · intro k now d hcalling
      exact hcalling
  | _ =>
    apply h.of_log hlog
    · intro d clock hmem
      simpa [Service.pushed, Service.removed, Service.popped] using hmem
    · intro k now d hcalling
      cases hcalling

/-- **Stop and callback exclude each other, per start**, and a callback is only made for a
start whose own delegate was popped, in every run in which `client->stop()` never finds a
timer started anew. -/
theorem ownCallback_exec (inputs : List Input)
    (hinputs : StepsMeet Service.step NotRestarted Service.init inputs) (d : LocTimerDelegate) :
    let s := exec Service.step Service.init inputs
    s.log.count (.stopped d) + s.log.countP (Event.isCallback d) ≤ 1 ∧
      ∀ clock, .timeOutCallback d clock ∈ s.log → .popped d ∈ s.log := by
  intro s
  have hpopped : Kept s ∧ Popped s :=
    exec_inv_of_stepsMeet (fun s i (h : Kept s ∧ Popped s) hi => ⟨h.1.step i, h.2.step h.1 i hi⟩)
      inputs _ ⟨kept_init, popped_init⟩ hinputs
  exact ⟨stop_or_callback inputs d, fun clock hmem => hpopped.2.called d clock hmem⟩

/-- A timer is started for one second, and its kernel timer runs out.  It is popped, and
its `mClient` read. -/
def expireFirst : List Input :=
  [.start 0 1000 false, .msgThread, .msgThread, .msgThread, .msgThread,
    .tick ⟨2, 0, by decide, by decide⟩, .epollWait [false], .pollThread, .pollThread, .pollThread,
    .msgThread, .msgThread]

/-- The delegate of that start. -/
def firstTimer : LocTimerDelegate :=
  ⟨0, 0, ⟨1, 1, Nat.le_of_ble_eq_true rfl, Nat.le_of_ble_eq_true rfl⟩, false⟩

/-- Nobody interferes, and it is called back. -/
theorem ownCallback_exec_expireFirst :
    .popped firstTimer ∈
      (exec Service.step Service.init (expireFirst ++ [.msgThread, .msgThread])).log := by
  have hown := ownCallback_exec (expireFirst ++ [.msgThread, .msgThread]) (by decide +kernel)
    firstTimer
  exact hown.2 ⟨2, 0, by decide, by decide⟩ (by decide +kernel)

/-- The client stops the timer then and starts another one, for 100 seconds: `client->stop()`
stops that one, and the client is called back for it at once. -/
theorem restarted_calledBack :
    ¬ ∀ d clock,
      .timeOutCallback d clock ∈ (exec Service.step Service.init
        (expireFirst ++ [.stop 0, .start 0 100000 false, .msgThread, .msgThread])).log →
      .popped d ∈ (exec Service.step Service.init
        (expireFirst ++ [.stop 0, .start 0 100000 false, .msgThread, .msgThread])).log := by
  intro h
  have hpopped := h ⟨1, 0, ⟨102, 0, by decide, by decide⟩, false⟩ ⟨2, 0, by decide, by decide⟩
    (by decide +kernel)
  exact absurd hpopped (by decide +kernel)

end Timer
end Nx507j
