import Nx507j.Timer.Exclusion

/-!
# Timers that fire early

A callback is due when the boot clock has reached the time that the delegate was started for.
Three things can make it early: the first pop of a `MsgTimerExpire` takes the top whatever it
is, the later ones look at the second only, and `client->stop()` may find a timer that has been
started anew.

## Main definitions

* `Punctual` — a step of the timer thread that does none of these to a timer that runs.
* `OnTime` — callbacks are due when they are made, and those under way will be.

## Main results

* `onTime_exec` — no timer fires early, in a run whose steps are all punctual.
-/

namespace Nx507j
namespace Timer

open Run LocHeap

variable {s : Service} {d : LocTimerDelegate}

/-! ### Punctual steps -/

/-- The container whose `MsgTimerExpire` the timer thread is about to take. -/
def Service.expireReceived (s : Service) : Option ContainerId :=
  match s.msgThread, s.queue with
  | .waiting, .expire k :: _ => some k
  | _, _ => none

/-- The container that the timer thread is about to pop from, with the time of now. -/
def Service.popsFrom (s : Service) : Option (ContainerId × Timespec) :=
  match s.msgThread with
  | .looping k now => some (k, now)
  | _ => s.expireReceived.map fun k => (k, s.clock)

/-- The top of the heap, if its client has not stopped it. -/
def Service.running (s : Service) (k : ContainerId) : Option LocTimerDelegate :=
  (s.heap k).peek.filter fun top => (s.mClient top).isSome

/-- The first pop is one that `popIfOutRanks` would make; a delegate of the second of now is due
when it is popped; and a delegate that `client->stop()` finds in place of the one in `expire()`
is due. -/
def Punctual (s : Service) (i : Input) : Prop :=
  i = .msgThread →
    (∀ k ∈ s.expireReceived, ∀ top ∈ s.running k, ¬ Outranked s.clock top) ∧
    (∀ p ∈ s.popsFrom, ∀ top ∈ s.running p.1, top.mFutureTime.tvSec = p.2.tvSec →
      top.mFutureTime.tvNsec ≤ p.2.tvNsec) ∧
    s.msgThread.Finds (fun timer found => found = timer ∨ found.mFutureTime ≤ s.clock) s.mTimer

instance (s : Service) (i : Input) : Decidable (Punctual s i) :=
  inferInstanceAs (Decidable (i = .msgThread → _ ∧ _ ∧ _))

theorem running_eq_some {k : ContainerId} (hpeek : (s.heap k).peek = some d)
    (hclient : s.mClient d ≠ none) : s.running k = some d := by
  have hsome : (s.mClient d).isSome = true := Option.isSome_iff_ne_none.mpr hclient
  simp only [Service.running, hpeek, Option.filter_some, hsome, if_true]

/-- A time that is not outranked by now, nor later in the second of now, has come. -/
theorem le_of_not_outranked {now : Timespec} (hrank : ¬ Outranked now d)
    (hnsec : d.mFutureTime.tvSec = now.tvSec → d.mFutureTime.tvNsec ≤ now.tvNsec) :
    d.mFutureTime ≤ now := by
  rw [Outranked, ranks_pos_iff, not_lt] at hrank
  rw [Timespec.le_iff]
  omega

/-! ### The invariant -/

/-- The time of now that a `MsgTimerExpire` goes by. -/
def MsgThread.now? : MsgThread → Option Timespec
  | popped _ now _ => some now
  | stopping _ now _ _ => some now
  | calling _ now _ => some now
  | looping _ now => some now
  | _ => none

/-- The callbacks that have been made were due, and those are due that the delegate in
`expire()` will lead to. -/
structure OnTime (s : Service) : Prop where
  called : ∀ d clock, .timeOutCallback d clock ∈ s.log → d.mFutureTime ≤ clock
  now : ∀ now, s.msgThread.now? = some now → now ≤ s.clock
  popped : ∀ k now d, s.msgThread = .popped k now d → s.mClient d ≠ none → d.mFutureTime ≤ s.clock
  stopping : ∀ k now d client, s.msgThread = .stopping k now d client →
    s.mTimer client = some d → d.mFutureTime ≤ s.clock
  calling : ∀ k now d, s.msgThread = .calling k now d → d.mFutureTime ≤ s.clock

theorem onTime_init : OnTime Service.init where
  called d clock h := by cases h
  now now h := by cases h
  popped k now d h := by cases h
  stopping k now d client h := by cases h
  calling k now d h := by cases h

/-- The steps of the other parties. -/
theorem OnTime.of_msgThread (h : OnTime s) {s' : Service} (hthread : s'.msgThread = s.msgThread)
    (hclock : s.clock ≤ s'.clock)
    (hcalled : ∀ d clock, .timeOutCallback d clock ∈ s'.log → .timeOutCallback d clock ∈ s.log)
    (hclient : ∀ d, 0 < s.msgThread.expiring d → s'.mClient d ≠ none → s.mClient d ≠ none)
    (htimer : ∀ d c, 0 < s.msgThread.expiring d → s'.mTimer c = some d → s.mTimer c = some d) :
    OnTime s' where
  called d clock hmem := h.called d clock (hcalled d clock hmem)
  now now hnow := (h.now now (hthread ▸ hnow)).trans hclock
  popped k now d hpop hd := by
    rw [hthread] at hpop
    have hexp : 0 < s.msgThread.expiring d := by simp [hpop, MsgThread.expiring]
    exact (h.popped k now d hpop (hclient d hexp hd)).trans hclock
  stopping k now d client hstop hd := by
    rw [hthread] at hstop
    have hexp : 0 < s.msgThread.expiring d := by simp [hstop, MsgThread.expiring]
    exact (h.stopping k now d client hstop (htimer d client hexp hd)).trans hclock
  calling k now d hcall := by
    rw [hthread] at hcall
    exact (h.calling k now d hcall).trans hclock

/-- Steps of the timer thread that neither pop, nor stop, nor call. -/
theorem OnTime.of_now (h : OnTime s) {s' : Service} (hclock : s'.clock = s.clock)
    (hlog : ∀ d clock, .timeOutCallback d clock ∈ s'.log → .timeOutCallback d clock ∈ s.log)
    (hnow : ∀ now, s'.msgThread.now? = some now → s.msgThread.now? = some now)
    (hexp : ∀ d, s'.msgThread.expiring d = 0) (hcalls : ∀ d, s'.msgThread.calls d = 0) :
    OnTime s' where
  called d clock hmem := h.called d clock (hlog d clock hmem)
  now now h' := by
    rw [hclock]
    exact h.now now (hnow now h')
  popped k now d hpop := by
    have hzero := hexp d
    simp [hpop, MsgThread.expiring] at hzero
  stopping k now d client hstop := by
    have hzero := hexp d
    simp [hstop, MsgThread.expiring] at hzero
  calling k now d hcall := by
    have hzero := hcalls d
    simp [hcall, MsgThread.calls] at hzero

/-- A pop of a delegate that is due if its client runs it. -/
theorem OnTime.popped_step (h : OnTime s) {k : ContainerId} {now : Timespec} {queue : List Msg}
    (hnow : now ≤ s.clock) (hd : s.mClient d ≠ none → d.mFutureTime ≤ now) :
    OnTime (s.popped k now d queue) where
  called e clock hmem := by
    apply h.called e clock
    simpa [Service.popped] using hmem
  now now' h' := by
    cases h'
    exact hnow
  popped k' now' e hpop hclient := by
    cases hpop
    exact (hd hclient).trans hnow
  stopping _ _ _ _ hstop := by cases hstop
  calling _ _ _ hcall := by cases hcall

/-- A start: the new delegate is not the one in `expire()`. -/
theorem OnTime.started (h : OnTime s) {timer : LocTimerDelegate}
    (hne : ∀ d, 0 < s.msgThread.expiring d → d ≠ timer) : OnTime (s.started timer) := by
  refine h.of_msgThread rfl le_rfl ?_ ?_ ?_
  · intro d clock hmem
    simpa [Service.started] using hmem
  · intro d hexp hd
    simpa [Service.started, Function.update_of_ne (hne d hexp)] using hd
  · intro d c hexp hd
    by_cases hc : c = timer.client
    · simp only [Service.started, hc, Function.update_self, Option.some.injEq] at hd
      exact absurd hd.symm (hne d hexp)
    · simpa [Service.started, Function.update_of_ne hc] using hd

/-- The read of `mClient`. -/
theorem OnTime.readClient (h : OnTime s) {k : ContainerId} {now : Timespec} {client : ℕ}
    (hthread : s.msgThread = .popped k now d) (hclient : s.mClient d = some client) :
    OnTime { s with msgThread := .stopping k now d client } where
  called := h.called
  now now' h' := by
    cases h'
    exact h.now now (by rw [hthread]; rfl)
  popped _ _ _ hpop := by cases hpop
  stopping k' now' d' client' hstop _ := by
    cases hstop
    refine h.popped k now d hthread ?_
    rw [hclient]
    exact Option.some_ne_none _
  calling _ _ _ hcall := by cases hcall

/-- `client->stop()` finds a delegate that is due. -/
theorem OnTime.clientStop (h : OnTime s) {k : ContainerId} {now : Timespec} {client : ℕ}
    {stopped : LocTimerDelegate} (hthread : s.msgThread = .stopping k now d client)
    (hdue : stopped.mFutureTime ≤ s.clock) :
    OnTime { s.unhooked stopped with msgThread := .calling k now stopped } where
  called e clock hmem := by
    apply h.called e clock
    simpa [Service.unhooked] using hmem
  now now' h' := by
    cases h'
    exact h.now now (by rw [hthread]; rfl)
  popped _ _ _ hpop := by cases hpop
  stopping _ _ _ _ hstop := by cases hstop
  calling _ _ _ hcall := by
    cases hcall
    exact hdue

/-- The callback. -/
theorem OnTime.callback (h : OnTime s) {k : ContainerId} {now : Timespec}
    (hthread : s.msgThread = .calling k now d) :
    OnTime
      { s with
        log := s.log ++ [.timeOutCallback d s.clock]
        msgThread := .looping k now } where
  called e clock hmem := by
    rcases List.mem_append.mp hmem with hmem | hmem
    · exact h.called e clock hmem
    · cases List.mem_singleton.mp hmem
      exact h.calling k now d hthread
  now now' h' := by
    cases h'
    exact h.now now (by rw [hthread]; rfl)
  popped _ _ _ hpop := by cases hpop
  stopping _ _ _ _ hstop := by cases hstop
  calling _ _ _ hcall := by cases hcall

/-- **A punctual step leads to no early callback.** -/
theorem OnTime.step (h : OnTime s) (hkept : Kept s) (i : Input) (hi : Punctual s i) :
    OnTime (s.step i) := by
  rcases Service.step_cases hkept.linked i with heq | hstep
  · rw [heq]
    exact h
  generalize s.step i = s' at hstep
  cases hstep with
  | start timer hgone hfree haddress hclock =>
    apply h.started
    rintro d hexp rfl
    have hlt := hkept.address_lt hexp
    omega
  | stop timer | destroyRunning timer =>
    refine h.of_msgThread rfl le_rfl ?_ ?_ ?_
    · intro d clock hmem
      simpa using hmem
    · intro d _ hd hnone
      apply hd
      by_cases hdt : d = timer
      · simp [Service.unhooked, hdt]
      · simpa [Service.unhooked, Function.update_of_ne hdt] using hnone
    · intro d c _ hd
      by_cases hc : c = timer.client
      · simp [Service.unhooked, hc] at hd
      · simpa [Service.unhooked, Function.update_of_ne hc] using hd
  | tick hle =>
    exact h.of_msgThread rfl hle (fun d clock hmem => hmem) (fun d _ hd => hd) (fun d c _ hd => hd)
  | destroy | epollWait | disarm | removePoll | sendExpire =>
    exact h.of_msgThread rfl le_rfl (fun d clock hmem => hmem) (fun d _ hd => hd)
      (fun d c _ hd => hd)
  | expire hwait hqueue hpeek =>
    rename_i k timer queue
    apply h.popped_step le_rfl
    intro hclient
    have hrunning := running_eq_some hpeek hclient
    have hrec : s.expireReceived = some k := by simp [Service.expireReceived, hwait, hqueue]
    have hfrom : s.popsFrom = some (k, s.clock) := by simp [Service.popsFrom, hwait, hrec]
    obtain ⟨hfirst, hsecond, -⟩ := hi rfl
    exact le_of_not_outranked (hfirst k hrec timer hrunning) (hsecond _ hfrom timer hrunning)
  | popDue hthread hpeek hnow =>
    rename_i k now timer
    apply h.popped_step (h.now now (by rw [hthread]; rfl))
    intro hclient
    have hrunning := running_eq_some hpeek hclient
    have hfrom : s.popsFrom = some (k, now) := by simp [Service.popsFrom, hthread]
    obtain ⟨-, hsecond, -⟩ := hi rfl
    exact le_of_not_outranked hnow (hsecond _ hfrom timer hrunning)
  | readClient hthread hclient => exact h.readClient hthread hclient
  | clientStop hthread hrun =>
    rename_i k now timer stopped
    apply h.clientStop hthread
    obtain ⟨-, -, hfinds⟩ := hi rfl
    rw [hthread] at hfinds
    rcases hfinds stopped hrun with rfl | hle
    · exact h.stopping k now stopped _ hthread hrun
    · exact hle
  | callback hthread => exact h.callback hthread
  | kernelCall hthread =>
    rename_i k call calls toDelete
    cases call <;>
      exact h.of_now rfl (fun _ _ hmem => hmem) (fun _ hnow => by cases hnow) (fun _ => rfl)
        (fun _ => rfl)
  | readNull hthread | clientStopped hthread =>
    refine h.of_now rfl (fun _ _ hmem => hmem) ?_ (fun _ => rfl) (fun _ => rfl)
    intro now hnow
    rw [hthread]
    exact hnow
  | _ =>
    refine h.of_now rfl ?_ (fun _ hnow => by cases hnow) (fun _ => rfl) (fun _ => rfl)
    intro d clock hmem
    simpa [Service.pushed, Service.removed] using hmem

/-- **Timers never fire early**, in every run whose steps are all punctual: a callback is made
when the boot clock is at or past the time that its start has computed. -/
theorem onTime_exec (inputs : List Input)
    (hinputs : StepsMeet Service.step Punctual Service.init inputs) :
    ∀ d clock, .timeOutCallback d clock ∈ (exec Service.step Service.init inputs).log →
      d.mFutureTime ≤ clock := by
  have h : Kept (exec Service.step Service.init inputs) ∧
      OnTime (exec Service.step Service.init inputs) :=
    exec_inv_of_stepsMeet (fun s i (h : Kept s ∧ OnTime s) hi => ⟨h.1.step i, h.2.step h.1 i hi⟩)
      inputs _ ⟨kept_init, onTime_init⟩ hinputs
  exact h.2.called

/-- The timer of one second is called back when two have passed. -/
theorem onTime_exec_expireFirst :
    firstTimer.mFutureTime ≤ ⟨2, 0, by decide, by decide⟩ :=
  onTime_exec (expireFirst ++ [.msgThread, .msgThread]) (by decide +kernel) firstTimer
    ⟨2, 0, by decide, by decide⟩ (by decide +kernel)

/-- A timer of one second runs out.  Before the poll thread sends the `MsgTimerExpire` its
client stops it, and starts it for 1000 seconds.  The message finds that delegate alone in the
heap and pops it, and the client is called back at once. -/
theorem restartedBeforeExpire_early :
    ¬ ∀ d clock, .timeOutCallback d clock ∈ (exec Service.step Service.init
        [.start 0 1000 false, .msgThread, .msgThread, .msgThread, .msgThread,
          .tick ⟨2, 0, by decide, by decide⟩, .epollWait [false], .pollThread, .pollThread,
          .stop 0, .start 0 1000000 false, .pollThread,
          .msgThread, .msgThread, .msgThread, .msgThread, .msgThread, .msgThread,
          .msgThread, .msgThread, .msgThread, .msgThread]).log →
      d.mFutureTime ≤ clock := by
  intro h
  have hdue := h ⟨1, 0, ⟨1002, 0, by decide, by decide⟩, false⟩ ⟨2, 0, by decide, by decide⟩
    (by decide +kernel)
  exact absurd hdue (by decide)

end Timer
end Nx507j
