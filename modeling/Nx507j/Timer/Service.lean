import Mathlib.Logic.Function.Basic
import Nx507j.Timer.Delegate

/-!
# The timer service

Clients, the timer thread and the poll thread of `LocTimer.cpp`, with the two containers
and their kernel timers.  A section under a client's lock is one step; so is each kernel
call, and on the timer thread each pop, the read of `mClient`, the call of `client->stop()`
and the callback.  The threads and the clients take their steps in any order.

What happens to a delegate is kept in the `log`, oldest first.

## Main definitions

* `Service` — the state: memory, containers, kernel timers, queue, threads.
* `start`, `stop`, `updateSoonestTime` — the functions of the source.
* `Service.step` — the steps of all parties as inputs of one step function.
* `Step` — what a step can do, one constructor each.

## Main results

* `step_cases` — a step does nothing or is one of these.
-/

namespace Nx507j
namespace Timer

open LocHeap

/-! ### Data -/

/-- A container, by the flag it is selected with: `mHwTimers` for `true`. -/
abbrev ContainerId := Bool

/-- A message of the timer thread. -/
inductive Msg
  | push (container : ContainerId) (timer : LocTimerDelegate)
  | remove (container : ContainerId) (timer : LocTimerDelegate)
  | expire (container : ContainerId)
  deriving DecidableEq, Repr

/-- A kernel call of `updateSoonestTime`. -/
inductive KernelCall
  | addPoll
  | removePoll
  /-- `timerfd_settime`; `none` is the zero `it_value`, which disarms. -/
  | setTime (value : Option Timespec)
  deriving DecidableEq, Repr

/-- Where the timer thread is. -/
inductive MsgThread
  | waiting
  /-- In `updateSoonestTime`, with the kernel calls that are left to make; then the delegate
  of a `MsgTimerRemove` is deleted. -/
  | updating (container : ContainerId) (calls : List KernelCall)
      (toDelete : Option LocTimerDelegate)
  /-- At the start of `timer->expire()`. -/
  | popped (container : ContainerId) (now : Timespec) (timer : LocTimerDelegate)
  /-- In `timer->expire()`, before `client->stop()`. -/
  | stopping (container : ContainerId) (now : Timespec) (timer : LocTimerDelegate) (client : ℕ)
  /-- `client->stop()` has stopped `timer` and returned true. -/
  | calling (container : ContainerId) (now : Timespec) (timer : LocTimerDelegate)
  /-- Before `popIfOutRanks`. -/
  | looping (container : ContainerId) (now : Timespec)
  deriving DecidableEq, Repr

/-- The next thing that `LocTimerContainer::expire` does on the poll thread. -/
inductive ExpireStage
  | disarm
  | removePoll
  | sendMsg
  deriving DecidableEq, Repr

/-- Where the poll thread is: in `epoll_wait`, or in the `expire` of a container, with the
containers of the events that are left. -/
inductive PollThread
  | waiting
  | expiring (container : ContainerId) (stage : ExpireStage) (rest : List ContainerId)
  deriving DecidableEq, Repr

/-- The poll thread goes on with the events that are left. -/
def PollThread.next : List ContainerId → PollThread
  | [] => .waiting
  | k :: rest => .expiring k .disarm rest

/-- What happens to a delegate. -/
inductive Event
  /-- `start` returned true. -/
  | started (timer : LocTimerDelegate)
  /-- A client's call of `stop` returned true. -/
  | stopped (timer : LocTimerDelegate)
  /-- A `MsgTimerRemove` was sent. -/
  | removeSent (timer : LocTimerDelegate)
  /-- It was pushed into the heap. -/
  | pushed (timer : LocTimerDelegate)
  /-- A `MsgTimerExpire` popped it. -/
  | popped (timer : LocTimerDelegate)
  | deleted (timer : LocTimerDelegate)
  /-- `timeOutCallback` was called for the start that created it. -/
  | timeOutCallback (timer : LocTimerDelegate) (clock : Timespec)
  deriving DecidableEq, Repr

/-- The state.  `mTimer` and `gone` are of the `LocTimer` at an address; `mClient` and
`mContainer` are the pointers of a delegate. -/
structure Service where
  clock : Timespec
  heap : ContainerId → Container
  /-- The time the timer fd was last set to.  The fd is readable from then on. -/
  armed : ContainerId → Option Timespec
  polled : ContainerId → Bool
  queue : List Msg
  msgThread : MsgThread
  pollThread : PollThread
  mTimer : ℕ → Option LocTimerDelegate
  gone : ℕ → Bool
  mClient : LocTimerDelegate → Option ℕ
  mContainer : LocTimerDelegate → Option ContainerId
  nextAddress : ℕ
  log : List Event

namespace Service

/-- Before the first timer is started.  The boot clock has left zero, so no time that a
timer is set to is the zero that disarms. -/
def init : Service where
  clock := ⟨0, 1, by decide, by decide⟩
  heap _ := LocHeap.empty
  armed _ := none
  polled _ := false
  queue := []
  msgThread := .waiting
  pollThread := .waiting
  mTimer _ := none
  gone _ := false
  mClient _ := none
  mContainer _ := none
  nextAddress := 0
  log := []

/-! ### Clients -/

/-- `LocTimerDelegate::destroyLocked`. -/
def destroyLocked (s : Service) (timer : LocTimerDelegate) : Service :=
  let s := { s with mClient := Function.update s.mClient timer none }
  match s.mContainer timer with
  | some container =>
    { s with
      mContainer := Function.update s.mContainer timer none
      queue := s.queue ++ [.remove container timer]
      log := s.log ++ [.removeSent timer] }
  | none => s

/-- The locked section of `LocTimer::stop`: the delegate that it has stopped, if it returns
true. -/
def stop (s : Service) (client : ℕ) : Service × Option LocTimerDelegate :=
  match s.mTimer client with
  | some timer =>
    ({ s with mTimer := Function.update s.mTimer client none }.destroyLocked timer, some timer)
  | none => (s, none)

/-- `LocTimer::start`, with the constructor of the delegate that it makes. -/
def start (s : Service) (client : ℕ) (timeOutInMs : UInt32) (wakeOnExpire : Bool) : Service :=
  match s.mTimer client, s.clock.after? timeOutInMs with
  | none, some futureTime =>
    let timer : LocTimerDelegate := ⟨s.nextAddress, client, futureTime, wakeOnExpire⟩
    { s with
      mTimer := Function.update s.mTimer client (some timer)
      mClient := Function.update s.mClient timer (some client)
      mContainer := Function.update s.mContainer timer (some wakeOnExpire)
      nextAddress := s.nextAddress + 1
      queue := s.queue ++ [.push wakeOnExpire timer]
      log := s.log ++ [.started timer] }
  | _, _ => s

/-- A client's call of `LocTimer::stop`. -/
def clientStop (s : Service) (client : ℕ) : Service :=
  match s.stop client with
  | (s, some timer) => { s with log := s.log ++ [.stopped timer] }
  | (s, none) => s

/-! ### The poll thread -/

/-- The timer fd is readable: the time it was set to has come. -/
def Readable (s : Service) (container : ContainerId) : Prop :=
  ∃ time ∈ s.armed container, time ≤ s.clock

instance (s : Service) (container : ContainerId) : Decidable (s.Readable container) :=
  match h : s.armed container with
  | none => isFalse (by rintro ⟨time, htime, -⟩; rw [h] at htime; cases htime)
  | some time =>
    decidable_of_iff (time ≤ s.clock) (by
      constructor
      · intro hle
        exact ⟨time, h, hle⟩
      · rintro ⟨time', htime', hle⟩
        obtain rfl := Option.some.inj (h.symm.trans htime')
        exact hle)

/-- `epoll_wait` returns with events for these containers. -/
def epollWait (s : Service) (ready : List ContainerId) : Service :=
  if s.pollThread = .waiting ∧ ready.Nodup ∧ ∀ k ∈ ready, s.polled k = true ∧ s.Readable k then
    { s with pollThread := PollThread.next ready }
  else s

/-- The next step of `LocTimerContainer::expire` on the poll thread. -/
def pollStep (s : Service) : Service :=
  match s.pollThread with
  | .waiting => s
  | .expiring k .disarm rest =>
    { s with armed := Function.update s.armed k none, pollThread := .expiring k .removePoll rest }
  | .expiring k .removePoll rest =>
    { s with polled := Function.update s.polled k false, pollThread := .expiring k .sendMsg rest }
  | .expiring k .sendMsg rest =>
    { s with queue := s.queue ++ [.expire k], pollThread := PollThread.next rest }

/-! ### The timer thread -/

/-- The kernel calls that `updateSoonestTime(priorTop)` makes. -/
def updateSoonestTime (priorTop : Option LocTimerDelegate) (c : Container) : List KernelCall :=
  if c.peek = priorTop then []
  else
    match c.peek with
    | none => [.removePoll, .setTime none]
    | some curTop =>
      match priorTop with
      | none => [.addPoll, .setTime (some curTop.mFutureTime)]
      | some prior =>
        if outRanks curTop prior then [.addPoll, .setTime (some curTop.mFutureTime)] else []

/-- One kernel call. -/
def kernelCall (s : Service) (k : ContainerId) : KernelCall → Service
  | .addPoll => { s with polled := Function.update s.polled k true }
  | .removePoll => { s with polled := Function.update s.polled k false }
  | .setTime value => { s with armed := Function.update s.armed k value }

/-- A message's `proc`, up to the first step that other threads can come before. -/
def receive (s : Service) : Msg → Service
  | .push k timer =>
    let heap := (s.heap k).push outRanks timer
    { s with
      heap := Function.update s.heap k heap
      log := s.log ++ [.pushed timer]
      msgThread := .updating k (updateSoonestTime (s.heap k).peek heap) none }
  | .remove k timer =>
    let (heap, removed) := (s.heap k).remove outRanks timer
    { s with
      heap := Function.update s.heap k heap
      msgThread :=
        .updating k (if (s.heap k).peek = removed then updateSoonestTime none heap else [])
          (some timer) }
  | .expire k =>
    match (s.heap k).pop outRanks with
    | (heap, some timer) =>
      { s with
        heap := Function.update s.heap k heap
        log := s.log ++ [.popped timer]
        msgThread := .popped k s.clock timer }
    | (heap, none) =>
      { s with
        heap := Function.update s.heap k heap
        msgThread := .updating k (updateSoonestTime none heap) none }

/-- The next step of the timer thread.  `expire` may call `client->stop()` on a `LocTimer` that has
been destroyed since it read `mClient`.  What C++ leaves undefined there is assumed to do nothing:
the destructor has stopped the timer, and there is no `mTimer` in what is left of it. -/
def msgStep (s : Service) : Service :=
  match s.msgThread with
  | .waiting =>
    match s.queue with
    | [] => s
    | m :: queue => { s with queue := queue }.receive m
  | .updating k (call :: calls) toDelete =>
    { s.kernelCall k call with msgThread := .updating k calls toDelete }
  | .updating _ [] (some timer) =>
    { s with log := s.log ++ [.deleted timer], msgThread := .waiting }
  | .updating _ [] none => { s with msgThread := .waiting }
  | .popped k now timer =>
    match s.mClient timer with
    | some client => { s with msgThread := .stopping k now timer client }
    | none => { s with msgThread := .looping k now }
  | .stopping k now _ client =>
    match s.stop client with
    | (s, some stopped) => { s with msgThread := .calling k now stopped }
    | (s, none) => { s with msgThread := .looping k now }
  | .calling k now timer =>
    { s with log := s.log ++ [.timeOutCallback timer s.clock], msgThread := .looping k now }
  | .looping k now =>
    match popIfOutRanks (s.heap k) now with
    | (heap, some timer) =>
      { s with
        heap := Function.update s.heap k heap
        log := s.log ++ [.popped timer]
        msgThread := .popped k now timer }
    | (heap, none) =>
      { s with
        heap := Function.update s.heap k heap
        msgThread := .updating k (updateSoonestTime none heap) none }

/-! ### Steps -/

end Service

/-- Who takes the next step. -/
inductive Input
  | start (client : ℕ) (timeOutInMs : UInt32) (wakeOnExpire : Bool)
  | stop (client : ℕ)
  /-- The `LocTimer`'s destructor. -/
  | destroy (client : ℕ)
  | tick (now : Timespec)
  | epollWait (ready : List ContainerId)
  | pollThread
  | msgThread
  deriving DecidableEq, Repr

namespace Service

/-- One step.  A `LocTimer` that is gone is not called, and the clock does not go back. -/
def step (s : Service) : Input → Service
  | .start client timeOutInMs wakeOnExpire =>
    if s.gone client then s else s.start client timeOutInMs wakeOnExpire
  | .stop client => if s.gone client then s else s.clientStop client
  | .destroy client =>
    if s.gone client then s
    else
      let s := s.clientStop client
      { s with gone := Function.update s.gone client true }
  | .tick now => if s.clock ≤ now then { s with clock := now } else s
  | .epollWait ready => s.epollWait ready
  | .pollThread => s.pollStep
  | .msgThread => s.msgStep

/-! ### Clients and delegates -/

/-- What `start` leaves when it has made the delegate. -/
def started (s : Service) (timer : LocTimerDelegate) : Service :=
  { s with
    mTimer := Function.update s.mTimer timer.client (some timer)
    mClient := Function.update s.mClient timer (some timer.client)
    mContainer := Function.update s.mContainer timer (some timer.wakeOnExpire)
    nextAddress := s.nextAddress + 1
    queue := s.queue ++ [.push timer.wakeOnExpire timer]
    log := s.log ++ [.started timer] }

/-- What `stop` leaves when it has stopped the delegate. -/
def unhooked (s : Service) (timer : LocTimerDelegate) : Service :=
  { s with
    mTimer := Function.update s.mTimer timer.client none
    mClient := Function.update s.mClient timer none
    mContainer := Function.update s.mContainer timer none
    queue := s.queue ++ [.remove timer.wakeOnExpire timer]
    log := s.log ++ [.removeSent timer] }

/-- What a `MsgTimerPush` leaves before its kernel calls. -/
def pushed (s : Service) (k : ContainerId) (timer : LocTimerDelegate) (queue : List Msg) : Service :=
  { s with
    queue := queue
    heap := Function.update s.heap k ((s.heap k).push outRanks timer)
    log := s.log ++ [.pushed timer]
    msgThread := .updating k
      (updateSoonestTime (s.heap k).peek ((s.heap k).push outRanks timer)) none }

/-- What a `MsgTimerRemove` leaves before its kernel calls. -/
def removed (s : Service) (k : ContainerId) (timer : LocTimerDelegate) (queue : List Msg) :
    Service :=
  { s with
    queue := queue
    heap := Function.update s.heap k ((s.heap k).remove outRanks timer).1
    msgThread := .updating k
      (if (s.heap k).peek = ((s.heap k).remove outRanks timer).2 then
        updateSoonestTime none ((s.heap k).remove outRanks timer).1 else [])
      (some timer) }

/-- What a pop in a `MsgTimerExpire` leaves. -/
def popped (s : Service) (k : ContainerId) (now : Timespec) (timer : LocTimerDelegate)
    (queue : List Msg) : Service :=
  { s with
    queue := queue
    heap := Function.update s.heap k ((s.heap k).pop outRanks).1
    log := s.log ++ [.popped timer]
    msgThread := .popped k now timer }

/-- A client and its delegate refer to each other, and a delegate loses its client and its
container together. -/
structure Linked (s : Service) : Prop where
  timer : ∀ c d, s.mTimer c = some d ↔ s.mClient d = some c
  client : ∀ c d, s.mClient d = some c → d.client = c ∧ s.mContainer d = some d.wakeOnExpire ∧
    d.address < s.nextAddress
  container : ∀ d, s.mClient d = none → s.mContainer d = none

theorem linked_init : Linked init where
  timer := by simp [init]
  client := by simp [init]
  container := by simp [init]

theorem Linked.stop_eq {s : Service} (h : Linked s) {c : ℕ} {d : LocTimerDelegate}
    (hd : s.mTimer c = some d) : s.stop c = (s.unhooked d, some d) := by
  obtain ⟨rfl, hcontainer, -⟩ := h.client c d ((h.timer c d).mp hd)
  simp only [stop, hd, destroyLocked, hcontainer]
  rfl

theorem stop_eq_none {s : Service} {c : ℕ} (hd : s.mTimer c = none) : s.stop c = (s, none) := by
  simp only [stop, hd]

/-- Nothing else is written with the pointers. -/
theorem Linked.of_eq {s s' : Service} (h : Linked s) (htimer : s'.mTimer = s.mTimer)
    (hclient : s'.mClient = s.mClient) (hcontainer : s'.mContainer = s.mContainer)
    (hnext : s'.nextAddress = s.nextAddress) : Linked s' := by
  constructor
  · rw [htimer, hclient]
    exact h.timer
  · rw [hclient, hcontainer, hnext]
    exact h.client
  · rw [hclient, hcontainer]
    exact h.container

theorem Linked.started {s : Service} (h : Linked s) {d : LocTimerDelegate}
    (hfree : s.mTimer d.client = none) (hd : d.address = s.nextAddress) :
    Linked (s.started d) := by
  have hfresh : ∀ c, s.mClient d ≠ some c := by
    intro c hc
    have := (h.client c d hc).2.2
    omega
  constructor
  · intro c e
    simp only [Service.started, Function.update_apply]
    by_cases hc : c = d.client <;> by_cases he : e = d
    · simp [hc, he]
    · have hne : s.mClient e ≠ some c := by
        intro hce
        have hrun := (h.timer c e).mpr hce
        rw [hc, hfree] at hrun
        cases hrun
      simp [hc, he, Ne.symm he, hc ▸ hne]
    · have hne : s.mTimer c ≠ some d := fun hce => hfresh c ((h.timer c d).mp hce)
      simp [hc, he, hne, Ne.symm hc]
    · simpa [hc, he] using h.timer c e
  · intro c e he
    simp only [Service.started, Function.update_apply] at he ⊢
    by_cases hed : e = d
    · subst hed
      simp only [if_true, Option.some.injEq] at he
      exact ⟨he, by simp, by omega⟩
    · rw [if_neg hed] at he ⊢
      obtain ⟨hclient, hcontainer, hlt⟩ := h.client c e he
      exact ⟨hclient, hcontainer, by omega⟩
  · intro e he
    simp only [Service.started, Function.update_apply] at he ⊢
    by_cases hed : e = d
    · rw [if_pos hed] at he
      cases he
    · rw [if_neg hed] at he ⊢
      exact h.container e he

theorem Linked.unhooked {s : Service} (h : Linked s) {d : LocTimerDelegate}
    (hd : s.mTimer d.client = some d) : Linked (s.unhooked d) := by
  constructor
  · intro c e
    simp only [Service.unhooked, Function.update_apply]
    by_cases hc : c = d.client <;> by_cases he : e = d
    · simp [hc, he]
    · have hne : s.mClient e ≠ some c := by
        intro hce
        have hrun := (h.timer c e).mpr hce
        rw [hc, hd] at hrun
        exact he (Option.some.inj hrun).symm
      simp [hc, he, hc ▸ hne]
    · have hne : s.mTimer c ≠ some d := fun hce =>
        hc (h.client c d ((h.timer c d).mp hce)).1.symm
      simp [hc, he, hne]
    · simpa [hc, he] using h.timer c e
  · intro c e he
    simp only [Service.unhooked, Function.update_apply] at he ⊢
    by_cases hed : e = d
    · rw [if_pos hed] at he
      cases he
    · rw [if_neg hed] at he ⊢
      exact h.client c e he
  · intro e he
    simp only [Service.unhooked, Function.update_apply] at he ⊢
    by_cases hed : e = d
    · rw [if_pos hed]
    · rw [if_neg hed] at he ⊢
      exact h.container e he

end Service

/-! ### What a step can do -/

/-- The steps that change something.  Those that find nothing to do are left out. -/
inductive Step (s : Service) : Input → Service → Prop
  | start {client : ℕ} {timeOutInMs : UInt32} {wakeOnExpire : Bool} (timer : LocTimerDelegate) :
    s.gone timer.client = false → s.mTimer timer.client = none → timer.address = s.nextAddress →
      s.clock ≤ timer.mFutureTime → Step s (.start client timeOutInMs wakeOnExpire) (s.started timer)
  | stop (timer : LocTimerDelegate) : s.mTimer timer.client = some timer →
    Step s (.stop timer.client)
      { s.unhooked timer with log := s.log ++ [.removeSent timer] ++ [.stopped timer] }
  | destroyRunning (timer : LocTimerDelegate) : s.mTimer timer.client = some timer →
    Step s (.destroy timer.client)
      { s.unhooked timer with
        gone := Function.update s.gone timer.client true
        log := s.log ++ [.removeSent timer] ++ [.stopped timer] }
  | destroy {client : ℕ} : s.mTimer client = none →
    Step s (.destroy client) { s with gone := Function.update s.gone client true }
  | tick {now : Timespec} : s.clock ≤ now → Step s (.tick now) { s with clock := now }
  | epollWait {ready : List ContainerId} : s.pollThread = .waiting → ready.Nodup →
    (∀ k ∈ ready, s.polled k = true ∧ s.Readable k) →
      Step s (.epollWait ready) { s with pollThread := PollThread.next ready }
  | disarm {k : ContainerId} {rest : List ContainerId} :
    s.pollThread = .expiring k .disarm rest → Step s .pollThread
      { s with armed := Function.update s.armed k none, pollThread := .expiring k .removePoll rest }
  | removePoll {k : ContainerId} {rest : List ContainerId} :
    s.pollThread = .expiring k .removePoll rest → Step s .pollThread
      { s with polled := Function.update s.polled k false, pollThread := .expiring k .sendMsg rest }
  | sendExpire {k : ContainerId} {rest : List ContainerId} :
    s.pollThread = .expiring k .sendMsg rest → Step s .pollThread
      { s with queue := s.queue ++ [.expire k], pollThread := PollThread.next rest }
  | push {k : ContainerId} {timer : LocTimerDelegate} {queue : List Msg} :
    s.msgThread = .waiting → s.queue = .push k timer :: queue →
      Step s .msgThread (s.pushed k timer queue)
  | remove {k : ContainerId} {timer : LocTimerDelegate} {queue : List Msg} :
    s.msgThread = .waiting → s.queue = .remove k timer :: queue →
      Step s .msgThread (s.removed k timer queue)
  | expire {k : ContainerId} {timer : LocTimerDelegate} {queue : List Msg} :
    s.msgThread = .waiting → s.queue = .expire k :: queue → (s.heap k).peek = some timer →
      Step s .msgThread (s.popped k s.clock timer queue)
  | expireNone {k : ContainerId} {queue : List Msg} :
    s.msgThread = .waiting → s.queue = .expire k :: queue → (s.heap k).peek = none →
      Step s .msgThread { s with queue := queue, msgThread := .updating k [] none }
  | kernelCall {k : ContainerId} {call : KernelCall} {calls : List KernelCall}
      {toDelete : Option LocTimerDelegate} :
    s.msgThread = .updating k (call :: calls) toDelete → Step s .msgThread
      { s.kernelCall k call with msgThread := .updating k calls toDelete }
  | delete {k : ContainerId} {timer : LocTimerDelegate} :
    s.msgThread = .updating k [] (some timer) → Step s .msgThread
      { s with log := s.log ++ [.deleted timer], msgThread := .waiting }
  | updated {k : ContainerId} : s.msgThread = .updating k [] none →
    Step s .msgThread { s with msgThread := .waiting }
  | readClient {k : ContainerId} {now : Timespec} {timer : LocTimerDelegate} {client : ℕ} :
    s.msgThread = .popped k now timer → s.mClient timer = some client →
      Step s .msgThread { s with msgThread := .stopping k now timer client }
  | readNull {k : ContainerId} {now : Timespec} {timer : LocTimerDelegate} :
    s.msgThread = .popped k now timer → s.mClient timer = none →
      Step s .msgThread { s with msgThread := .looping k now }
  | clientStop {k : ContainerId} {now : Timespec} {timer stopped : LocTimerDelegate} :
    s.msgThread = .stopping k now timer stopped.client →
      s.mTimer stopped.client = some stopped →
        Step s .msgThread { s.unhooked stopped with msgThread := .calling k now stopped }
  | clientStopped {k : ContainerId} {now : Timespec} {timer : LocTimerDelegate} {client : ℕ} :
    s.msgThread = .stopping k now timer client → s.mTimer client = none →
      Step s .msgThread { s with msgThread := .looping k now }
  | callback {k : ContainerId} {now : Timespec} {timer : LocTimerDelegate} :
    s.msgThread = .calling k now timer → Step s .msgThread
      { s with
        log := s.log ++ [.timeOutCallback timer s.clock]
        msgThread := .looping k now }
  | popDue {k : ContainerId} {now : Timespec} {timer : LocTimerDelegate} :
    s.msgThread = .looping k now → (s.heap k).peek = some timer → ¬ Outranked now timer →
      Step s .msgThread (s.popped k now timer s.queue)
  | popNone {k : ContainerId} {now : Timespec} : s.msgThread = .looping k now →
    (∀ top, (s.heap k).peek = some top → Outranked now top) → Step s .msgThread
      { s with msgThread := .updating k (Service.updateSoonestTime none (s.heap k)) none }

namespace Service

theorem Linked.client_eq {s : Service} (h : Linked s) {c : ℕ} {d : LocTimerDelegate}
    (hd : s.mTimer c = some d) : d.client = c :=
  (h.client c d ((h.timer c d).mp hd)).1

theorem start_cases (s : Service) {client : ℕ} (hgone : s.gone client = false)
    (timeOutInMs : UInt32) (wakeOnExpire : Bool) :
    s.start client timeOutInMs wakeOnExpire = s ∨
      Step s (.start client timeOutInMs wakeOnExpire)
        (s.start client timeOutInMs wakeOnExpire) := by
  rcases hfree : s.mTimer client with _ | d
  · rcases hfuture : s.clock.after? timeOutInMs with _ | futureTime
    · left
      simp only [start, hfree, hfuture]
    · right
      have hstart : s.start client timeOutInMs wakeOnExpire =
          s.started ⟨s.nextAddress, client, futureTime, wakeOnExpire⟩ := by
        simp only [start, hfree, hfuture]
        rfl
      rw [hstart]
      exact .start _ hgone hfree rfl (Timespec.le_of_after? hfuture)
  · left
    simp only [start, hfree]

theorem Linked.stop_cases {s : Service} (h : Linked s) (client : ℕ) :
    s.clientStop client = s ∨ Step s (.stop client) (s.clientStop client) := by
  rcases hrun : s.mTimer client with _ | d
  · left
    simp only [clientStop, stop_eq_none hrun]
  · right
    obtain rfl := h.client_eq hrun
    simp only [clientStop, h.stop_eq hrun]
    exact .stop d hrun

theorem Linked.destroy_step {s : Service} (h : Linked s) (client : ℕ) :
    Step s (.destroy client) { s.clientStop client with
      gone := Function.update (s.clientStop client).gone client true } := by
  rcases hrun : s.mTimer client with _ | d
  · simp only [clientStop, stop_eq_none hrun]
    exact .destroy hrun
  · obtain rfl := h.client_eq hrun
    simp only [clientStop, h.stop_eq hrun]
    exact .destroyRunning d hrun

theorem pollStep_cases (s : Service) : s.pollStep = s ∨ Step s .pollThread s.pollStep := by
  rw [pollStep]
  split
  · exact .inl rfl
  · next hpoll => exact .inr (.disarm hpoll)
  · next hpoll => exact .inr (.removePoll hpoll)
  · next hpoll => exact .inr (.sendExpire hpoll)

/-- The timer thread takes the first message. -/
theorem receive_step {s : Service} (hwait : s.msgThread = .waiting) {m : Msg} {queue : List Msg}
    (hqueue : s.queue = m :: queue) :
    Step s .msgThread ({ s with queue := queue }.receive m) := by
  cases m with
  | push k timer => exact .push hwait hqueue
  | remove k timer => exact .remove hwait hqueue
  | expire k =>
    simp only [receive]
    split
    · next heap timer hpop =>
      have hpeek : (s.heap k).peek = some timer :=
        (pop_spec outRanks _).1.symm.trans (congrArg Prod.snd hpop)
      obtain rfl : ((s.heap k).pop outRanks).1 = heap := congrArg Prod.fst hpop
      exact .expire hwait hqueue hpeek
    · next heap hpop =>
      have hpeek : (s.heap k).peek = none :=
        (pop_spec outRanks _).1.symm.trans (congrArg Prod.snd hpop)
      rw [pop_of_empty hpeek] at hpop
      obtain rfl : s.heap k = heap := congrArg Prod.fst hpop
      have hcalls : updateSoonestTime none (s.heap k) = [] := by
        simp only [updateSoonestTime, hpeek, if_true]
      rw [hcalls, Function.update_eq_self]
      exact .expireNone hwait hqueue hpeek

theorem Linked.msgStep_cases {s : Service} (h : Linked s) :
    s.msgStep = s ∨ Step s .msgThread s.msgStep := by
  rw [msgStep]
  split
  · next hwait =>
    rcases hqueue : s.queue with _ | ⟨m, queue⟩
    · exact .inl rfl
    · exact .inr (receive_step hwait hqueue)
  · next hcall => exact .inr (.kernelCall hcall)
  · next hdel => exact .inr (.delete hdel)
  · next hupd => exact .inr (.updated hupd)
  · next k now timer hpop =>
    right
    split
    · next client hclient => exact .readClient hpop hclient
    · next hclient => exact .readNull hpop hclient
  · next k now timer client hstop =>
    right
    rcases hrun : s.mTimer client with _ | d
    · simp only [stop_eq_none hrun]
      exact .clientStopped hstop hrun
    · obtain rfl := h.client_eq hrun
      simp only [h.stop_eq hrun]
      exact .clientStop hstop hrun
  · next hcall => exact .inr (.callback hcall)
  · next k now hloop =>
    right
    rcases popIfOutRanks_cases (s.heap k) now with ⟨hnone, hall⟩ | ⟨timer, hpeek, hnow, hpop⟩
    · simp only [hnone, Function.update_eq_self]
      exact .popNone hloop hall
    · simp only [hpop]
      exact .popDue hloop hpeek hnow

/-- **What a step does**: nothing, or one of these. -/
theorem step_cases {s : Service} (h : Linked s) (i : Input) :
    s.step i = s ∨ Step s i (s.step i) := by
  cases i with
  | start client timeOutInMs wakeOnExpire =>
    rw [step]
    split
    · exact .inl rfl
    · next hgone => exact s.start_cases (Bool.eq_false_iff.mpr hgone) timeOutInMs wakeOnExpire
  | stop client =>
    rw [step]
    split
    · exact .inl rfl
    · exact h.stop_cases client
  | destroy client =>
    rw [step]
    split
    · exact .inl rfl
    · exact .inr (h.destroy_step client)
  | tick now =>
    rw [step]
    split
    · next hle => exact .inr (.tick hle)
    · exact .inl rfl
  | epollWait ready =>
    rw [step, epollWait]
    split
    · next hready => exact .inr (.epollWait hready.1 hready.2.1 hready.2.2)
    · exact .inl rfl
  | pollThread => exact s.pollStep_cases
  | msgThread => exact h.msgStep_cases

/-- A step keeps the clients and their delegates linked. -/
theorem Linked.step {s : Service} (h : Linked s) (i : Input) : Linked (s.step i) := by
  rcases step_cases h i with heq | hstep
  · rw [heq]
    exact h
  generalize s.step i = s' at hstep
  cases hstep with
  | start timer hgone hfree haddress hclock => exact h.started hfree haddress
  | stop timer hrun => exact (h.unhooked hrun).of_eq rfl rfl rfl rfl
  | destroyRunning timer hrun => exact (h.unhooked hrun).of_eq rfl rfl rfl rfl
  | clientStop hstop hrun => exact (h.unhooked hrun).of_eq rfl rfl rfl rfl
  | kernelCall =>
    rename_i call _ _ _
    cases call <;> exact h.of_eq rfl rfl rfl rfl
  | _ => exact h.of_eq rfl rfl rfl rfl

end Service
end Timer
end Nx507j
