import Mathlib.Algebra.Order.Group.Int
import Mathlib.Data.List.Basic
import Nx507j.Lib.Lists
import Nx507j.Lib.Run

/-!
# Threads and what they run

`LocThread.cpp`: a client starts a thread with a runnable, and stops it; the spawned thread runs
the runnable and deletes it.  Both threads work on a `LocThreadDelegate`, which is deleted by the
last of the two that gives it up.

`mRunnable` says that there is something to run, and that the thread has been created, and whose
the runnable is.  It is written by both threads without a lock: the spawned thread may have cleared
it before the creator looks at it, and the creator may clear it before the spawned thread has
looked at it.

Each access to a member is a step, and so is the decrement under the mutex.  A start that finds
`mThread` set, or has no runnable, returns false at once and leaves everything as it is.

## Main definitions

* `LocThreadDelegate` — a delegate, with the places of its two threads and what has become of its
  runnable.
* `LocThread`, `LocThread.step` — a client with the threads that it has started.
* `LocThreadDelegate.Owned` — the delegate and the runnable are deleted as they should be.
* `LocThread.KeepsOwner` — a step that does not mistake whose the runnable is.

## Main results

* `LocThread.shared_exec` — the delegates are deleted as they should be, in every run.
* `LocThread.owned_exec` — so are the runnables, in the runs in which nobody is mistaken.
-/

namespace Nx507j

open Run

/-! ### Data -/

namespace LocThreadDelegate

/-- Where a thread is in `destroy()`: before the look at `mRefCount`, before the decrement, or
before `delete this`. -/
inductive Destroy
  | test
  | dec
  | delete
  deriving DecidableEq, Repr

/-- Where the client is with a delegate. -/
inductive Client
  /-- In the constructor, after `pthread_create` has failed. -/
  | fail
  /-- In the constructor, before `mThandle` is set and read. -/
  | setup
  /-- In `create()`, before the look at `mRunnable`. -/
  | look
  /-- In the `destroy()` of `create()`. -/
  | createDestroy (place : Destroy)
  /-- `mThread` points to the delegate. -/
  | held
  /-- In `bye()`. -/
  | bye
  /-- In `stop()`, before the look at `mRunnable`, before it is cleared, and before the look at
  `mJoinable`. -/
  | stopTest
  | stopClear
  | stopJoinable
  | join
  | destroy (place : Destroy)
  | released
  deriving DecidableEq, Repr

/-- Where the spawned thread is in `threadMain()`: before a look at `mRunnable`, in `run()`, before
`mRunnable` is cleared, or before the runnable is deleted. -/
inductive Thread
  | notCreated
  | read
  | prerun
  | loop
  | run
  | postrun
  | clear
  | deleteRunnable
  | destroy (place : Destroy)
  | done
  deriving DecidableEq, Repr

end LocThreadDelegate

open LocThreadDelegate in
/-- A `LocThreadDelegate`: `mRunnable` says that the member is not `NULL`.  Beside it, where its two
threads are, how often it and the runnable have been deleted, whether it has been accessed after
it was deleted, and what `start()` has returned. -/
structure LocThreadDelegate where
  mRunnable : Bool
  mJoinable : Bool
  mRefCount : ℤ
  client : Client
  thread : Thread
  deletes : ℕ
  touched : Bool
  runnableDeletes : ℕ
  started : Option Bool
  deriving DecidableEq, Repr

namespace LocThreadDelegate

/-- The constructor up to the creation of the thread, which may fail. -/
def new (created joinable : Bool) : LocThreadDelegate where
  mRunnable := true
  mJoinable := joinable
  mRefCount := 2
  client := if created then .setup else .fail
  thread := if created then .read else .notCreated
  deletes := 0
  touched := false
  runnableDeletes := 0
  started := none

/-- An access to the delegate. -/
def touch (d : LocThreadDelegate) : LocThreadDelegate :=
  { d with touched := d.touched || decide (0 < d.deletes) }

/-- A step of `destroy()`, and where it leads. -/
def destroyStep (place : Destroy) (d : LocThreadDelegate) : Option Destroy × LocThreadDelegate :=
  match place with
  | .test => (if d.mRefCount > 0 then some .dec else none, d.touch)
  | .dec =>
    (if d.mRefCount = 1 then some .delete else none,
      { d.touch with mRefCount := d.mRefCount - 1 })
  | .delete => (none, { d.touch with deletes := d.deletes + 1 })

/-- A step of the client. -/
def clientStep (d : LocThreadDelegate) : LocThreadDelegate :=
  match d.client with
  | .fail =>
    { d.touch with mRunnable := false, mJoinable := false, mRefCount := 1, client := .look }
  | .setup => { d.touch with client := .look }
  | .look =>
    if d.mRunnable then { d.touch with client := .held, started := some true }
    else { d.touch with client := .createDestroy .test }
  | .createDestroy place =>
    let (next, d) := d.destroyStep place
    { d with
      client := next.elim .released .createDestroy
      started := if next.isNone then some false else d.started }
  | .held => d
  | .bye => { d.touch with client := if d.mJoinable then .stopTest else .destroy .test }
  | .stopTest => { d.touch with client := if d.mRunnable then .stopClear else .stopJoinable }
  | .stopClear => { d.touch with mRunnable := false, client := .stopJoinable }
  | .stopJoinable =>
    if d.mJoinable then { d.touch with mJoinable := false, client := .join }
    else { d.touch with client := .destroy .test }
  | .join => if d.thread = .done then { d with client := .destroy .test } else d
  | .destroy place =>
    let (next, d) := d.destroyStep place
    { d with client := next.elim .released .destroy }
  | .released => d

/-- A step of the spawned thread; `more` is what `run()` returns. -/
def threadStep (more : Bool) (d : LocThreadDelegate) : LocThreadDelegate :=
  match d.thread with
  | .notCreated => d
  | .read => { d.touch with thread := if d.mRunnable then .prerun else .destroy .test }
  | .prerun => { d.touch with thread := .loop }
  | .loop => { d.touch with thread := if d.mRunnable then .run else .postrun }
  | .run => { d with thread := if more then .loop else .postrun }
  | .postrun => { d.touch with thread := .clear }
  | .clear => { d.touch with mRunnable := false, thread := .deleteRunnable }
  | .deleteRunnable =>
    { d with runnableDeletes := d.runnableDeletes + 1, thread := .destroy .test }
  | .destroy place =>
    let (next, d) := d.destroyStep place
    { d with thread := next.elim .done .destroy }
  | .done => d

end LocThreadDelegate

/-- A `LocThread` with the delegates that it has made, oldest first.  `mThread` is one of them;
`busy` is the one that the client is at in a call. -/
structure LocThread where
  mThread : Option ℕ
  busy : Option ℕ
  deleted : Bool
  delegates : List LocThreadDelegate
  deriving DecidableEq, Repr

namespace LocThread

open LocThreadDelegate

/-- The constructor. -/
def init : LocThread := ⟨none, none, false, []⟩

/-- The client calls `stop()` or `bye()` of the delegate that `mThread` points to. -/
def enter (place : Client) (s : LocThread) : LocThread :=
  match s.mThread with
  | some i =>
    { s with busy := some i, delegates := s.delegates.modify i fun d => { d with client := place } }
  | none => s

/-- The client goes on, and comes back from its call when it holds the delegate or has released
it. -/
def goOn (s : LocThread) : LocThread :=
  match s.busy with
  | none => s
  | some i =>
    let s' := { s with delegates := s.delegates.modify i clientStep }
    match (s'.delegates[i]?).map LocThreadDelegate.client with
    | some .held => { s' with mThread := some i, busy := none }
    | some .released => { s' with mThread := none, busy := none }
    | _ => s'

/-- What can happen: the client calls `start()`, `stop()` or the destructor, it goes on in a call,
or one of the threads goes on. -/
inductive Input
  | start (runnable created joinable : Bool)
  | stop
  | delete
  | client
  | thread (i : ℕ) (more : Bool)
  deriving DecidableEq, Repr

/-- One step.  A client makes one call at a time, and none after the destructor. -/
def step (s : LocThread) : Input → LocThread
  | .start runnable created joinable =>
    if s.busy.isSome || s.deleted || s.mThread.isSome || !runnable then s
    else
      { s with
        busy := some s.delegates.length
        delegates := s.delegates ++ [.new created joinable] }
  | .stop => if s.busy.isSome || s.deleted then s else s.enter .stopTest
  | .delete => if s.busy.isSome || s.deleted then s else { s.enter .bye with deleted := true }
  | .client => s.goOn
  | .thread i more => { s with delegates := s.delegates.modify i (threadStep more) }

end LocThread

/-! ### Deleting the delegate -/

namespace LocThreadDelegate

/-- The references that a thread in `destroy()` has. -/
def Destroy.refs : Destroy → ℕ
  | .test | .dec => 1
  | .delete => 0

/-- A thread in `destroy()` is about to delete. -/
def Destroy.deleting : Destroy → ℕ
  | .test | .dec => 0
  | .delete => 1

/-- The references that the client has; those of a thread that has not been created are its
own until it corrects `mRefCount`. -/
def Client.refs : Client → ℕ
  | .fail => 2
  | .createDestroy place | .destroy place => place.refs
  | .released => 0
  | _ => 1

def Client.deleting : Client → ℕ
  | .createDestroy place | .destroy place => place.deleting
  | _ => 0

/-- The references that the spawned thread has. -/
def Thread.refs : Thread → ℕ
  | .destroy place => place.refs
  | .notCreated | .done => 0
  | _ => 1

def Thread.deleting : Thread → ℕ
  | .destroy place => place.deleting
  | _ => 0

/-- `refs` references are left, and `deleting` threads are about to delete: the delegate is there
as long as there is a reference, and then one thread deletes it. -/
structure Counted (refs deleting : ℕ) (d : LocThreadDelegate) : Prop where
  mRefCount_eq : d.mRefCount = refs
  deletes_add : d.deletes + deleting = if refs = 0 then 1 else 0
  not_touched : d.touched = false

/-- The two threads share the delegate. -/
structure Shared (d : LocThreadDelegate) : Prop where
  counted : Counted (d.client.refs + d.thread.refs) (d.client.deleting + d.thread.deleting) d
  notCreated : d.client = .fail → d.thread = .notCreated

variable {refs deleting : ℕ} {d : LocThreadDelegate}

theorem touch_eq_self (h : d.deletes = 0) : d.touch = d := by
  have htouched : (d.touched || decide (0 < d.deletes)) = d.touched := by simp [h]
  rw [touch, htouched]

namespace Counted

theorem deletes_eq_zero (h : Counted refs deleting d) (hrefs : refs ≠ 0) : d.deletes = 0 := by
  have := h.deletes_add
  rw [if_neg hrefs] at this
  omega

/-- A thread with a reference does not access a deleted delegate. -/
theorem touch_eq (h : Counted refs deleting d) (hrefs : refs ≠ 0) : d.touch = d :=
  touch_eq_self (h.deletes_eq_zero hrefs)

end Counted

/-- What a step of `destroy()` leaves of the thread's references, and whether it is about to
delete. -/
theorem destroyStep_counted (place : Destroy)
    (h : Counted (place.refs + refs) (place.deleting + deleting) d) :
    Counted (((d.destroyStep place).1.elim 0 Destroy.refs) + refs)
      (((d.destroyStep place).1.elim 0 Destroy.deleting) + deleting) (d.destroyStep place).2 := by
  obtain ⟨hcount, hdeletes, htouched⟩ := h
  cases place with
  | test =>
    have hzero : d.deletes = 0 := by simp [Destroy.refs] at hdeletes; omega
    have hpos : d.mRefCount > 0 := by simp [Destroy.refs] at hcount; omega
    simp only [destroyStep, if_pos hpos, touch_eq_self hzero]
    exact ⟨hcount, hdeletes, htouched⟩
  | dec =>
    have hzero : d.deletes = 0 := by simp [Destroy.refs] at hdeletes; omega
    have hdeleting : deleting = 0 := by
      simp [Destroy.refs, Destroy.deleting] at hdeletes; omega
    simp only [destroyStep, touch_eq_self hzero]
    simp only [Destroy.refs] at hcount
    by_cases hrefs : refs = 0
    · rw [if_pos (by omega)]
      exact ⟨by simp [Destroy.refs]; omega, by simp [Destroy.refs, Destroy.deleting, *], htouched⟩
    · rw [if_neg (by omega)]
      exact ⟨by simp; omega, by simp [*], htouched⟩
  | delete =>
    have hrefs : refs = 0 := by
      by_contra hrefs
      simp [Destroy.refs, Destroy.deleting, hrefs] at hdeletes
    have hzero : d.deletes = 0 := by
      simp [Destroy.refs, Destroy.deleting, hrefs] at hdeletes; omega
    simp only [destroyStep, touch_eq_self hzero]
    refine ⟨by simpa [Destroy.refs] using hcount, ?_, htouched⟩
    simp [Destroy.refs, Destroy.deleting, hrefs] at hdeletes ⊢
    omega

@[simp] theorem destroyStep_client (place : Destroy) :
    (d.destroyStep place).2.client = d.client := by cases place <;> rfl

@[simp] theorem destroyStep_thread (place : Destroy) :
    (d.destroyStep place).2.thread = d.thread := by cases place <;> rfl

@[simp] theorem destroyStep_mRunnable (place : Destroy) :
    (d.destroyStep place).2.mRunnable = d.mRunnable := by cases place <;> rfl

@[simp] theorem destroyStep_runnableDeletes (place : Destroy) :
    (d.destroyStep place).2.runnableDeletes = d.runnableDeletes := by cases place <;> rfl

@[simp] theorem destroyStep_started (place : Destroy) :
    (d.destroyStep place).2.started = d.started := by cases place <;> rfl

namespace Shared

/-- With a reference of its own, a thread does not access a deleted delegate. -/
theorem touch_eq (h : Shared d) (hrefs : d.client.refs + d.thread.refs ≠ 0) : d.touch = d :=
  h.counted.touch_eq hrefs

/-- The client changes what does not count, and stays at a place with as many references. -/
theorem move {d' : LocThreadDelegate} (h : Shared d) (hcount : d'.mRefCount = d.mRefCount)
    (hdeletes : d'.deletes = d.deletes) (htouched : d'.touched = d.touched)
    (hrefs : d'.client.refs + d'.thread.refs = d.client.refs + d.thread.refs)
    (hdeleting : d'.client.deleting + d'.thread.deleting = d.client.deleting + d.thread.deleting)
    (hfail : d'.client = .fail → d'.thread = .notCreated) : Shared d' where
  counted := by
    rw [hrefs, hdeleting]
    exact ⟨hcount.trans h.counted.mRefCount_eq, by rw [hdeletes, h.counted.deletes_add],
      htouched.trans h.counted.not_touched⟩
  notCreated := hfail

/-- The spawned thread changes what does not count, and stays at a place with as many
references. -/
theorem move_thread {d' : LocThreadDelegate} (h : Shared d) (hcount : d'.mRefCount = d.mRefCount)
    (hdeletes : d'.deletes = d.deletes) (htouched : d'.touched = d.touched)
    (hclient : d'.client = d.client) (hrefs : d'.thread.refs = d.thread.refs)
    (hdeleting : d'.thread.deleting = d.thread.deleting) (hthread : d.thread ≠ .notCreated) :
    Shared d' := by
  refine h.move hcount hdeletes htouched (by rw [hclient, hrefs]) (by rw [hclient, hdeleting]) ?_
  intro hfail
  exact absurd (h.notCreated (hclient.symm.trans hfail)) hthread

/-- The client goes on in `destroy()`, at places that count as those of `destroy()` do. -/
theorem client_destroy {at' : Destroy → Client} {place : Destroy} (h : Shared d)
    (hclient : d.client = at' place) (hrefs : ∀ p, (at' p).refs = p.refs)
    (hdeleting : ∀ p, (at' p).deleting = p.deleting) (hfail : ∀ p, at' p ≠ .fail)
    (started : Option Bool) :
    Shared { (d.destroyStep place).2 with
      client := (d.destroyStep place).1.elim .released at', started := started } where
  counted := by
    have hcounted := h.counted
    rw [hclient, hrefs, hdeleting] at hcounted
    have hstep := destroyStep_counted place hcounted
    rw [destroyStep_thread]
    cases hnext : (d.destroyStep place).1 with
    | none =>
      rw [hnext] at hstep
      exact ⟨hstep.mRefCount_eq, hstep.deletes_add, hstep.not_touched⟩
    | some next =>
      rw [hnext] at hstep
      simp only [Option.elim, hrefs, hdeleting]
      exact ⟨hstep.mRefCount_eq, hstep.deletes_add, hstep.not_touched⟩
  notCreated := by
    cases (d.destroyStep place).1 with
    | none => intro h; cases h
    | some next => intro h; exact absurd h (hfail next)

/-- The spawned thread goes on in `destroy()`. -/
theorem thread_destroy {place : Destroy} (h : Shared d) (hthread : d.thread = .destroy place) :
    Shared { (d.destroyStep place).2 with
      thread := (d.destroyStep place).1.elim .done .destroy } where
  counted := by
    have hcounted := h.counted
    rw [hthread, add_comm, add_comm d.client.deleting] at hcounted
    have hstep := destroyStep_counted place hcounted
    rw [add_comm, add_comm _ d.client.deleting] at hstep
    rw [destroyStep_client]
    cases hnext : (d.destroyStep place).1 <;> rw [hnext] at hstep <;>
      exact ⟨hstep.mRefCount_eq, hstep.deletes_add, hstep.not_touched⟩
  notCreated := by
    rw [destroyStep_client]
    intro hclient
    have hnot := h.notCreated hclient
    rw [hthread] at hnot
    cases hnot

theorem new (created joinable : Bool) : Shared (.new created joinable) := by
  cases created <;> exact ⟨⟨rfl, rfl, rfl⟩, fun h => by first | rfl | cases h⟩

/-- The client enters `stop()` or `bye()`. -/
theorem enter {place : Client} (h : Shared d) (hclient : d.client = .held)
    (hplace : place = .stopTest ∨ place = .bye) : Shared { d with client := place } := by
  obtain rfl | rfl := hplace <;>
    exact h.move rfl rfl rfl (by rw [hclient]; rfl) (by rw [hclient]; rfl) (fun h => by cases h)

/-- **A step of the client** keeps count of the references. -/
theorem clientStep (h : Shared d) : Shared d.clientStep := by
  unfold LocThreadDelegate.clientStep
  cases hclient : d.client with
  | fail =>
    have hthread : d.thread = .notCreated := h.notCreated hclient
    have hcounted := h.counted
    rw [hclient, hthread] at hcounted
    simp only [hcounted.touch_eq (by decide)]
    refine ⟨⟨by simp [hthread, Client.refs, Thread.refs], ?_, hcounted.not_touched⟩,
      fun h => by cases h⟩
    simpa [hthread, Client.refs, Thread.refs, Client.deleting, Thread.deleting]
      using hcounted.deletes_add
  | createDestroy place =>
    exact h.client_destroy hclient (fun _ => rfl) (fun _ => rfl) (fun _ => by simp) _
  | destroy place =>
    exact h.client_destroy hclient (fun _ => rfl) (fun _ => rfl) (fun _ => by simp) _
  | held => exact h
  | released => exact h
  | join =>
    simp only
    split_ifs
    · exact h.move rfl rfl rfl (by rw [hclient]; rfl) (by rw [hclient]; rfl) (fun h => by cases h)
    · exact h
  | setup | stopClear =>
    have htouch : d.touch = d := h.touch_eq (by simp [hclient, Client.refs])
    simp only [htouch]
    exact h.move rfl rfl rfl (by rw [hclient]; rfl) (by rw [hclient]; rfl) (fun h => by cases h)
  | look | bye | stopTest | stopJoinable =>
    have htouch : d.touch = d := h.touch_eq (by simp [hclient, Client.refs])
    simp only [htouch]
    split_ifs <;>
      exact h.move rfl rfl rfl (by rw [hclient]; rfl) (by rw [hclient]; rfl) (fun h => by cases h)

/-- **A step of the spawned thread** keeps count of the references. -/
theorem threadStep (more : Bool) (h : Shared d) : Shared (d.threadStep more) := by
  unfold LocThreadDelegate.threadStep
  cases hthread : d.thread with
  | notCreated => exact h
  | done => exact h
  | destroy place => exact h.thread_destroy hthread
  | deleteRunnable =>
    exact h.move_thread rfl rfl rfl rfl (by rw [hthread]; rfl) (by rw [hthread]; rfl)
      (by rw [hthread]; decide)
  | run =>
    simp only
    split_ifs <;>
      exact h.move_thread rfl rfl rfl rfl (by rw [hthread]; rfl) (by rw [hthread]; rfl)
        (by rw [hthread]; decide)
  | read | loop =>
    have htouch : d.touch = d := h.touch_eq (by simp [hthread, Thread.refs])
    simp only [htouch]
    split_ifs <;>
      exact h.move_thread rfl rfl rfl rfl (by rw [hthread]; rfl) (by rw [hthread]; rfl)
        (by rw [hthread]; decide)
  | prerun | postrun | clear =>
    have htouch : d.touch = d := h.touch_eq (by simp [hthread, Thread.refs])
    simp only [htouch]
    exact h.move_thread rfl rfl rfl rfl (by rw [hthread]; rfl) (by rw [hthread]; rfl)
      (by rw [hthread]; decide)

end Shared

/-! ### Deleting the runnable -/

/-- The spawned thread has deleted the runnable, if it has found one. -/
def Thread.runnableDeletes : Thread → ℕ
  | .destroy _ | .done => 1
  | _ => 0

/-- The client is giving the delegate up in `create()`. -/
def Client.CreateFails (client : Client) : Prop := ∃ place, client = .createDestroy place

/-- The client is not mistaken: `create()` finds `mRunnable` cleared only when there is no
thread, and `stop()` clears it only when the thread has read it. -/
def KeepsOwner (d : LocThreadDelegate) : Prop :=
  (d.client = .look → d.mRunnable = true ∨ d.thread = .notCreated) ∧
    (d.client = .stopClear → d.thread ≠ .read)

instance : DecidablePred KeepsOwner := fun d => by unfold KeepsOwner; infer_instance

/-- The runnable is the thread's, if there is one. -/
structure HasOwner (d : LocThreadDelegate) : Prop where
  mRunnable_of_read : d.thread = .read → d.mRunnable = true
  runnableDeletes_eq : d.runnableDeletes = d.thread.runnableDeletes
  notCreated_of_fails : d.client.CreateFails → d.thread = .notCreated
  notCreated_of_started : d.started = some false → d.thread = .notCreated
  mRunnable_of_notCreated : d.thread = .notCreated → d.client = .fail ∨ d.mRunnable = false
  created_of_started : d.started = some true → d.thread ≠ .notCreated

namespace HasOwner

theorem new (created joinable : Bool) : HasOwner (.new created joinable) := by
  cases created <;> constructor <;> simp [LocThreadDelegate.new, Client.CreateFails,
    Thread.runnableDeletes]

/-- The client goes on to a place in a call after `create()`. -/
theorem move {d' : LocThreadDelegate} (h : HasOwner d) (hrunnable : d'.mRunnable = d.mRunnable)
    (hthread : d'.thread = d.thread) (hdeletes : d'.runnableDeletes = d.runnableDeletes)
    (hstarted : d'.started = d.started) (hfails : ¬d'.client.CreateFails)
    (hclient : d.client ≠ .fail) : HasOwner d' := by
  obtain ⟨h₁, h₂, -, h₄, h₅, h₆⟩ := h
  rw [← hthread, ← hrunnable] at h₁ h₅
  rw [← hthread, ← hdeletes] at h₂
  rw [← hthread, ← hstarted] at h₄ h₆
  exact ⟨h₁, h₂, fun h => absurd h hfails, h₄, fun h => .inr ((h₅ h).resolve_left hclient), h₆⟩

/-- The client enters `stop()` or `bye()`. -/
theorem enter {place : Client} (h : HasOwner d) (hclient : d.client = .held)
    (hplace : place = .stopTest ∨ place = .bye) : HasOwner { d with client := place } := by
  obtain rfl | rfl := hplace <;>
    exact h.move rfl rfl rfl rfl (by simp [Client.CreateFails]) (by simp [hclient])

/-- **A step of the client** that is not mistaken. -/
theorem clientStep (hshared : Shared d) (h : HasOwner d) (hkeeps : d.KeepsOwner) :
    HasOwner d.clientStep := by
  unfold LocThreadDelegate.clientStep
  cases hclient : d.client with
  | fail =>
    have hthread : d.thread = .notCreated := hshared.notCreated hclient
    obtain ⟨-, h₂, -, -, -, h₆⟩ := h
    exact ⟨by simp [touch, hthread], h₂, by simp [Client.CreateFails], fun _ => hthread,
      fun _ => .inr rfl, h₆⟩
  | look =>
    simp only
    split_ifs with hrunnable
    · have hthread : d.thread ≠ .notCreated := by
        intro hthread
        obtain hfail | hnot := h.mRunnable_of_notCreated hthread
        · rw [hclient] at hfail; cases hfail
        · rw [hrunnable] at hnot; cases hnot
      exact ⟨h.mRunnable_of_read, h.runnableDeletes_eq, by simp [Client.CreateFails], by simp,
        fun h => absurd h hthread, fun _ => hthread⟩
    · -- nobody has cleared `mRunnable` but the constructor
      have hthread : d.thread = .notCreated := (hkeeps.1 hclient).resolve_left hrunnable
      exact ⟨h.mRunnable_of_read, h.runnableDeletes_eq, fun _ => hthread, fun _ => hthread,
        fun _ => .inr (by simpa [touch] using hrunnable), h.created_of_started⟩
  | createDestroy place =>
    have hthread : d.thread = .notCreated := h.notCreated_of_fails ⟨place, hclient⟩
    have hrunnable : d.mRunnable = false :=
      (h.mRunnable_of_notCreated hthread).resolve_left (by simp [hclient])
    have hstarted : d.started ≠ some true := fun hs => h.created_of_started hs hthread
    have hdeletes := h.runnableDeletes_eq
    constructor <;> simp [hthread, hrunnable, hdeletes]
    split_ifs <;> simp [hstarted]
  | stopClear =>
    have hread : d.thread ≠ .read := hkeeps.2 hclient
    exact ⟨fun h => absurd h hread, h.runnableDeletes_eq, by simp [Client.CreateFails],
      h.notCreated_of_started, fun _ => .inr rfl, h.created_of_started⟩
  | destroy place =>
    refine h.move (by simp) (by simp) (by simp) (by simp) ?_ (by simp [hclient])
    rintro ⟨_, hfails⟩
    cases hnext : (d.destroyStep place).1 <;> simp [hnext] at hfails
  | held => exact h
  | released => exact h
  | setup => exact h.move rfl rfl rfl rfl (by simp [Client.CreateFails]) (by simp [hclient])
  | join =>
    simp only
    split_ifs
    · exact h.move rfl rfl rfl rfl (by simp [Client.CreateFails]) (by simp [hclient])
    · exact h
  | bye | stopTest | stopJoinable =>
    simp only
    split_ifs <;>
      exact h.move rfl rfl rfl rfl (by simp [Client.CreateFails]) (by simp [hclient])

/-- The spawned thread goes on, after it has read `mRunnable`. -/
theorem move_thread {d' : LocThreadDelegate} (h : HasOwner d) (hclient : d'.client = d.client)
    (hstarted : d'.started = d.started) (hcreated : d.thread ≠ .notCreated)
    (hcreated' : d'.thread ≠ .notCreated) (hread : d'.thread ≠ .read)
    (hdeletes : d'.runnableDeletes = d'.thread.runnableDeletes) : HasOwner d' where
  mRunnable_of_read h' := absurd h' hread
  runnableDeletes_eq := hdeletes
  notCreated_of_fails h' := absurd (h.notCreated_of_fails (hclient ▸ h')) hcreated
  notCreated_of_started h' := absurd (h.notCreated_of_started (hstarted ▸ h')) hcreated
  mRunnable_of_notCreated h' := absurd h' hcreated'
  created_of_started _ := hcreated'

/-- **A step of the spawned thread.** -/
theorem threadStep (more : Bool) (h : HasOwner d) : HasOwner (d.threadStep more) := by
  have hdeletes := h.runnableDeletes_eq
  unfold LocThreadDelegate.threadStep
  cases hthread : d.thread with
  | notCreated => exact h
  | done => exact h
  | read =>
    have hrunnable : d.mRunnable = true := h.mRunnable_of_read hthread
    rw [hthread] at hdeletes
    simp only [if_pos hrunnable]
    exact h.move_thread rfl rfl (by simp [hthread]) (by simp) (by simp) hdeletes
  | destroy place =>
    rw [hthread] at hdeletes
    cases hnext : (d.destroyStep place).1 <;>
      exact h.move_thread (by simp) (by simp) (by simp [hthread]) (by simp [hnext])
        (by simp [hnext]) (by simpa [hnext, Thread.runnableDeletes] using hdeletes)
  | deleteRunnable =>
    rw [hthread] at hdeletes
    exact h.move_thread rfl rfl (by simp [hthread]) (by simp) (by simp)
      (by simp [hdeletes, Thread.runnableDeletes])
  | loop | run =>
    rw [hthread] at hdeletes
    simp only
    split_ifs <;> exact h.move_thread rfl rfl (by simp [hthread]) (by simp) (by simp) hdeletes
  | prerun | postrun | clear =>
    rw [hthread] at hdeletes
    exact h.move_thread rfl rfl (by simp [hthread]) (by simp) (by simp) hdeletes

end HasOwner

/-! ### Runs -/

/-- The delegate is deleted once, when both threads have given it up, and is not accessed
afterwards; the runnable is deleted by the spawned thread, once, if `start()` has returned true,
and never if it has returned false. -/
structure Owned (d : LocThreadDelegate) : Prop where
  deletes_le : d.deletes ≤ 1
  deletes_eq : d.client = .released → d.thread = .done ∨ d.thread = .notCreated → d.deletes = 1
  not_touched : d.touched = false
  runnableDeletes_eq_zero : d.started = some false → d.runnableDeletes = 0
  runnableDeletes_le : d.started = some true → d.runnableDeletes ≤ 1
  runnableDeletes_eq_one : d.started = some true → d.thread = .done → d.runnableDeletes = 1

theorem Shared.deletes_le (h : Shared d) : d.deletes ≤ 1 := by
  have := h.counted.deletes_add
  split_ifs at this <;> omega

theorem Shared.deletes_eq (h : Shared d) (hclient : d.client = .released)
    (hthread : d.thread = .done ∨ d.thread = .notCreated) : d.deletes = 1 := by
  have := h.counted.deletes_add
  obtain hthread | hthread := hthread <;>
    simpa [hclient, hthread, Client.refs, Thread.refs, Client.deleting, Thread.deleting] using this

theorem owned_of_hasOwner (hshared : Shared d) (h : HasOwner d) : Owned d where
  deletes_le := hshared.deletes_le
  deletes_eq := hshared.deletes_eq
  not_touched := hshared.counted.not_touched
  runnableDeletes_eq_zero hs := by rw [h.runnableDeletes_eq, h.notCreated_of_started hs]; rfl
  runnableDeletes_le _ := by
    rw [h.runnableDeletes_eq]
    cases d.thread <;> simp [Thread.runnableDeletes]
  runnableDeletes_eq_one _ hthread := by rw [h.runnableDeletes_eq, hthread]; rfl

end LocThreadDelegate

namespace LocThread

open LocThreadDelegate Nx507j.Lists

variable {P C : LocThreadDelegate → Prop} {s : LocThread}

/-- Between its calls, the client is in no call of the delegate that `mThread` points to. -/
def Held (s : LocThread) : Prop :=
  s.busy = none → ∀ i, s.mThread = some i → (s.delegates[i]?).map (·.client) = some .held

@[simp] theorem threadStep_client (more : Bool) (d : LocThreadDelegate) :
    (d.threadStep more).client = d.client := by
  unfold threadStep
  cases d.thread with
  | destroy place => exact destroyStep_client place
  | _ => rfl

theorem enter_held (place : Client) (h : Held s) : Held (s.enter place) := by
  unfold enter
  cases hthread : s.mThread with
  | none => exact h
  | some i => intro hbusy; cases hbusy

theorem goOn_delegates {i : ℕ} (hbusy : s.busy = some i) :
    s.goOn.delegates = s.delegates.modify i clientStep := by
  unfold goOn
  simp only [hbusy]
  split <;> rfl

theorem goOn_held (h : Held s) : Held s.goOn := by
  unfold goOn
  cases hbusy : s.busy with
  | none => exact h
  | some i =>
    simp only
    split
    · rename_i hclient
      intro _ j hj
      cases hj
      exact hclient
    · intro _ j hj
      cases hj
    · intro hbusy'
      cases hbusy'

theorem step_held (i : Input) (h : Held s) : Held (s.step i) := by
  cases i with
  | start runnable created joinable =>
    simp only [step]
    split_ifs
    · exact h
    · intro hbusy; cases hbusy
  | stop =>
    simp only [step]
    split_ifs
    · exact h
    · exact enter_held _ h
  | delete =>
    simp only [step]
    split_ifs
    · exact h
    · exact enter_held _ h
  | client => exact goOn_held h
  | thread j more =>
    intro hbusy k hk
    have hheld := h hbusy k hk
    simp only [step, List.getElem?_modify, Option.map_eq_map, Option.map_map]
    rw [← hheld]
    congr 1
    funext d
    simp only [Function.comp]
    split_ifs <;> simp

/-- The step of the client meets the condition. -/
def ClientMeets (C : LocThreadDelegate → Prop) (s : LocThread) (i : Input) : Prop :=
  i = .client → ∀ j, s.busy = some j → ∀ d, s.delegates[j]? = some d → C d

/-- What a new delegate has, and the threads leave each delegate, all the delegates have. -/
theorem step_forall (hnew : ∀ created joinable, P (.new created joinable))
    (hclient : ∀ d, P d → C d → P d.clientStep) (hthread : ∀ d more, P d → P (d.threadStep more))
    (henter : ∀ d place, P d → d.client = .held → place = .stopTest ∨ place = .bye →
      P { d with client := place })
    {i : Input} (hheld : Held s) (hmeets : ClientMeets C s i) (h : ∀ d ∈ s.delegates, P d) :
    ∀ d ∈ (s.step i).delegates, P d := by
  have hcall : s.busy = none → ∀ place, place = .stopTest ∨ place = .bye →
      ∀ d ∈ (s.enter place).delegates, P d := by
    intro hbusy place hplace
    unfold enter
    cases hthread : s.mThread with
    | none => exact h
    | some j =>
      refine forall_mem_modify h fun d hd => ?_
      refine henter d place (h d (List.mem_of_getElem? hd)) ?_ hplace
      simpa [hd] using hheld hbusy j hthread
  cases i with
  | start runnable created joinable =>
    simp only [step]
    split_ifs
    · exact h
    · intro d hd
      obtain hd | hd := List.mem_append.mp hd
      · exact h d hd
      · rw [List.mem_singleton.mp hd]
        exact hnew created joinable
  | stop =>
    simp only [step]
    split_ifs with hbusy
    · exact h
    · exact hcall (by simp at hbusy; exact hbusy.1) .stopTest (.inl rfl)
  | delete =>
    simp only [step]
    split_ifs with hbusy
    · exact h
    · exact hcall (by simp at hbusy; exact hbusy.1) .bye (.inr rfl)
  | client =>
    cases hbusy : s.busy with
    | none =>
      simp only [step, goOn, hbusy]
      exact h
    | some j =>
      rw [step, goOn_delegates hbusy]
      exact forall_mem_modify h fun d hd =>
        hclient d (h d (List.mem_of_getElem? hd)) (hmeets rfl j hbusy d hd)
  | thread j more =>
    exact forall_mem_modify h fun d hd => hthread d more (h d (List.mem_of_getElem? hd))

/-- **The delegates of every run are deleted as they should be**: at most once, once when both
threads have given the delegate up, and neither accesses it afterwards. -/
theorem shared_exec (is : List Input) : ∀ d ∈ (exec step init is).delegates, Shared d := by
  have hstep : ∀ s i, (Held s ∧ ∀ d ∈ s.delegates, Shared d) →
      Held (step s i) ∧ ∀ d ∈ (step s i).delegates, Shared d := by
    rintro s i ⟨hheld, h⟩
    refine ⟨step_held i hheld, step_forall (C := fun _ => True) Shared.new
      (fun d h _ => h.clientStep) (fun d more h => h.threadStep more)
      (fun d place h hclient hplace => ?_) hheld (fun _ _ _ _ _ => trivial) h⟩
    exact h.enter hclient hplace
  exact (exec_inv hstep is init ⟨(fun _ i hi => by cases hi), by simp [init]⟩).2

/-- A step that does not mistake whose the runnable is: when `create()` finds `mRunnable` cleared,
the thread has not been created, and when `stop()` clears it, the thread has read it. -/
def KeepsOwner (s : LocThread) (i : Input) : Prop :=
  i = .client → ∀ j ∈ s.busy, ∀ d ∈ s.delegates[j]?, d.KeepsOwner

instance (s : LocThread) (i : Input) : Decidable (KeepsOwner s i) := by
  unfold KeepsOwner; infer_instance

/-- **Whose the runnable is.**  In a run in which nobody is mistaken, each runnable is deleted by
its thread, once, if `start()` has returned true, and never if it has returned false; and each
delegate is deleted once, and not accessed afterwards. -/
theorem owned_exec (is : List Input) (h : StepsMeet step KeepsOwner init is) :
    Always step (fun s => ∀ d ∈ s.delegates, Owned d) init is := by
  have hstep : ∀ s i, (Held s ∧ ∀ d ∈ s.delegates, Shared d ∧ HasOwner d) → KeepsOwner s i →
      Held (step s i) ∧ ∀ d ∈ (step s i).delegates, Shared d ∧ HasOwner d := by
    rintro s i ⟨hheld, h⟩ hkeeps
    exact ⟨step_held i hheld, step_forall (C := LocThreadDelegate.KeepsOwner)
      (fun c j => ⟨.new c j, .new c j⟩) (fun d h hd => ⟨h.1.clientStep, h.2.clientStep h.1 hd⟩)
      (fun d more h => ⟨h.1.threadStep more, h.2.threadStep more⟩)
      (fun d place h hclient hplace => ⟨h.1.enter hclient hplace, h.2.enter hclient hplace⟩) hheld
      hkeeps h⟩
  have howned : ∀ s, (Held s ∧ ∀ d ∈ s.delegates, Shared d ∧ HasOwner d) →
      ∀ d ∈ s.delegates, Owned d := fun s h d hd => owned_of_hasOwner (h.2 d hd).1 (h.2 d hd).2
  exact always_of_inv hstep howned is init ⟨(fun _ i hi => by cases hi), by simp [init]⟩ h

/-- A runnable that runs twice, and is then stopped by a client that joins the thread. -/
theorem owned_exec_join :
    let is : List Input :=
      [.start true true true] ++ List.replicate 2 .client ++ List.replicate 5 (.thread 0 true) ++
        [.stop] ++ List.replicate 3 .client ++ List.replicate 7 (.thread 0 true) ++
        List.replicate 4 .client
    Always step (fun s => ∀ d ∈ s.delegates, Owned d) init is ∧
      (exec step init is).delegates.map (fun d => (d.started, d.runnableDeletes, d.deletes)) =
        [(some true, 1, 1)] :=
  ⟨owned_exec _ (by decide), by decide⟩

/-- A thread that ends before `create()` looks at `mRunnable`: `start()` returns false, and the
runnable has been run and deleted. -/
def endsEarly : List Input :=
  [.start true true false] ++ List.replicate 7 (.thread 0 false) ++ List.replicate 4 .client

/-- A thread that is stopped before it has read `mRunnable`: `start()` has returned true, and
nobody deletes the runnable. -/
def stopsEarly : List Input :=
  [.start true true false] ++ List.replicate 2 .client ++ [.stop] ++ List.replicate 6 .client ++
    List.replicate 4 (.thread 0 false)

theorem not_owned :
    (exec step init endsEarly).delegates.map (fun d => (d.started, d.runnableDeletes)) =
        [(some false, 1)] ∧
      (exec step init stopsEarly).delegates.map
          (fun d => (d.started, d.runnableDeletes, d.client, d.thread)) =
        [(some true, 0, .released, .done)] ∧
      ¬Always step (fun s => ∀ d ∈ s.delegates, Owned d) init endsEarly ∧
      ¬Always step (fun s => ∀ d ∈ s.delegates, Owned d) init stopsEarly := by
  have hends : ¬∀ d ∈ (exec step init endsEarly).delegates, Owned d := by
    intro h
    have hzero := (h ((exec step init endsEarly).delegates.get ⟨0, by decide⟩) (by decide)
      ).runnableDeletes_eq_zero (by decide)
    revert hzero
    decide
  have hstops : ¬∀ d ∈ (exec step init stopsEarly).delegates, Owned d := by
    intro h
    have hone := (h ((exec step init stopsEarly).delegates.get ⟨0, by decide⟩) (by decide)
      ).runnableDeletes_eq_one (by decide) (by decide)
    revert hone
    decide
  exact ⟨by decide, by decide, fun h => hends h.last, fun h => hstops h.last⟩

end LocThread
end Nx507j
