import Nx507j.Lib.Lists
import Nx507j.Lib.Run

/-!
# The timers of the C interface

`LocTimer.cpp`, `loc_timer.h`: `loc_timer_start` returns a `LocTimerWrapper` as the handle of a
timer, and the wrapper deletes itself: in `loc_timer_stop`, or on the message thread after the
callback.  Both go through `destroy()`, which finds out from the members of the wrapper whether it
is there.

By `loc_timer.h` the handle becomes invalid upon the return of the callback, so until then
`loc_timer_stop` may be called, by the callback or by other threads; a call that finds the handle
before is let go on.  `destroy()` holds a mutex and is one step, as is `LocTimer::stop()`; other
reads of a member, and those of the handle, are a step each.  What is read from a wrapper that has
been deleted is part of the input.

## Main definitions

* `LocTimerWrapper` — a wrapper with the threads that are at it.
* `LocTimerWrapper.step`, `LocTimers.step` — what happens to one wrapper, and to all.
* `LocTimers.StopsBefore` — a stop that comes before the timer's expiry and before other stops.

## Main results

* `LocTimers.safe_exec` — with such stops, each wrapper is deleted once, and not read afterwards.
-/

namespace Nx507j
namespace Timer

open Run Nx507j.Lists

/-! ### Data -/

/-- Where the message thread is with the timer's expiry. -/
inductive Expiry
  | waiting
  /-- In `LocTimerDelegate::expire`, with the client that it has found. -/
  | claimed
  /-- In `timeOutCallback`, before `mCb` is read. -/
  | timeOut
  /-- Before `mCallerData` is read. -/
  | callerData (cb : Bool)
  | callback
  /-- In a `loc_timer_stop` of the callback, before `destroy()` and before the handle is cleared. -/
  | callbackStop
  | callbackClear
  /-- Before the `destroy()` of `timeOutCallback`. -/
  | returned
  | done
  /-- The timer had been stopped. -/
  | stopped
  deriving DecidableEq, Repr

/-- The callback has returned: the handle is not valid any more. -/
def Expiry.over : Expiry → Bool
  | .returned | .done => true
  | _ => false

/-- A `LocTimerWrapper`: whether `mCb` and `mTimer` are not `NULL` and whether `mMe` is the
wrapper; `mClient` is the delegate's.  `handle` says that the client's handle is not `NULL`;
`entered` are the calls of `loc_timer_stop` that have found it so, and `leaving` those that are
going to clear it.  `staleReads` says that a member has been read after the wrapper was deleted. -/
structure LocTimerWrapper where
  mCb : Bool
  mMe : Bool
  mTimer : Bool
  mClient : Bool
  expiry : Expiry
  handle : Bool
  entered : ℕ
  leaving : ℕ
  deletes : ℕ
  staleReads : Bool
  deriving DecidableEq, Repr

namespace LocTimerWrapper

/-- The constructor and `start()`. -/
def new : LocTimerWrapper where
  mCb := true
  mMe := true
  mTimer := true
  mClient := true
  expiry := .waiting
  handle := true
  entered := 0
  leaving := 0
  deletes := 0
  staleReads := false

/-! ### Steps -/

/-- A read of members. -/
def read (w : LocTimerWrapper) : LocTimerWrapper :=
  { w with staleReads := w.staleReads || decide (0 < w.deletes) }

/-- What a read finds: `value`, or anything, when the wrapper has been deleted. -/
def found (freed value : Bool) (w : LocTimerWrapper) : Bool :=
  if w.deletes = 0 then value else freed

/-- `LocTimer::stop()`. -/
def stop (freed : Bool) (w : LocTimerWrapper) : Bool × LocTimerWrapper :=
  if w.found freed w.mTimer then (true, { w.read with mTimer := false, mClient := false })
  else (false, w.read)

/-- `delete this`. -/
def delete (freed : Bool) (w : LocTimerWrapper) : LocTimerWrapper :=
  let w' := ({ w with mCb := false, mMe := false }.stop freed).2
  { w' with deletes := w'.deletes + 1 }

def destroy (freed : Bool) (w : LocTimerWrapper) : LocTimerWrapper :=
  if w.found freed (w.mCb && w.mMe) then w.read.delete freed else w.read

/-- The message thread goes on. -/
def expire (freed : Bool) (w : LocTimerWrapper) : LocTimerWrapper :=
  match w.expiry with
  | .waiting => { w with expiry := if w.mClient then .claimed else .stopped }
  | .claimed =>
    let (success, w) := w.stop freed
    { w with expiry := if success then .timeOut else .stopped }
  | .timeOut => { w.read with expiry := .callerData (w.found freed w.mCb) }
  | .callerData cb => { w.read with expiry := if cb then .callback else .returned }
  | .callback => { w with expiry := .returned }
  | .callbackStop => { w.destroy freed with expiry := .callbackClear }
  | .callbackClear => { w with handle := false, expiry := .callback }
  | .returned => { w.destroy freed with expiry := .done }
  | .done => w
  | .stopped => w

/-- What can happen to a wrapper: the message thread goes on, `loc_timer_stop` is called by the
callback or by another thread, or such a call goes on. -/
inductive Input
  | expire (freed : Bool)
  | callbackStop
  | stop
  | destroy (freed : Bool)
  | clear
  deriving DecidableEq, Repr

/-- One step. -/
def step (w : LocTimerWrapper) : Input → LocTimerWrapper
  | .expire freed => w.expire freed
  | .callbackStop =>
    if w.handle && w.expiry = .callback then { w with expiry := .callbackStop } else w
  | .stop => if w.handle && !w.expiry.over then { w with entered := w.entered + 1 } else w
  | .destroy freed =>
    if 0 < w.entered then
      { w.destroy freed with entered := w.entered - 1, leaving := w.leaving + 1 }
    else w
  | .clear => if 0 < w.leaving then { w with handle := false, leaving := w.leaving - 1 } else w

end LocTimerWrapper

/-- The wrappers of all the timers that have been started. -/
abbrev LocTimers := List LocTimerWrapper

namespace LocTimers

/-- What can happen: a timer is started, with a callback or without, or something happens to one
of the wrappers. -/
inductive Input
  | start (cb : Bool)
  | wrapper (i : ℕ) (input : LocTimerWrapper.Input)
  deriving DecidableEq, Repr

/-- One step. -/
def step (s : LocTimers) : Input → LocTimers
  | .start cb => if cb then s ++ [.new] else s
  | .wrapper i input => s.modify i (·.step input)

end LocTimers

/-! ### Stops that come before -/

/-- The wrapper is deleted at most once, and once when the expiry is over or the handle has been
cleared; no member is read afterwards. -/
structure LocTimerWrapper.Safe (w : LocTimerWrapper) : Prop where
  deletes_le : w.deletes ≤ 1
  deletes_eq : w.expiry = .done ∨ w.expiry = .stopped ∨ w.handle = false → w.deletes = 1
  not_stale : w.staleReads = false

/-- The wrapper may have been deleted `deletes` times at this place of the expiry. -/
def Expiry.Allows (deletes : ℕ) : Expiry → Prop
  | .waiting => deletes ≤ 1
  | .claimed | .timeOut | .callerData _ | .callback | .returned => deletes = 0
  | .callbackStop | .callbackClear => False
  | .done | .stopped => deletes = 1

/-- The timer has not been taken from its wrapper. -/
def Expiry.armed : Expiry → Bool
  | .waiting | .claimed => true
  | _ => false

namespace LocTimerWrapper

/-- Stops that come before: the callback calls `loc_timer_stop` only with a handle that has been
cleared, and `destroy()` in a stop finds the wrapper before the expiry has begun and before
another stop has deleted it. -/
def StopsBefore (w : LocTimerWrapper) : Input → Prop
  | .callbackStop => w.expiry = .callback → w.handle = false
  | .destroy _ => 0 < w.entered → w.expiry = .waiting ∧ w.deletes = 0
  | _ => True

instance (w : LocTimerWrapper) (i : Input) : Decidable (w.StopsBefore i) := by
  unfold StopsBefore; split <;> infer_instance

/-- The members of the wrapper fit to the place of the expiry as long as it has not been
deleted. -/
structure Whole (w : LocTimerWrapper) : Prop where
  allows : w.expiry.Allows w.deletes
  members : w.deletes = 0 → w.mCb = true ∧ w.mMe = true
  mTimer_eq : w.deletes = 0 → w.mTimer = w.expiry.armed
  mClient_eq : w.mClient = (w.expiry.armed && decide (w.deletes = 0))
  cleared : w.handle = false ∨ 0 < w.leaving → w.deletes = 1
  not_stale : w.staleReads = false

variable {w : LocTimerWrapper} {freed : Bool}

theorem read_eq_self (h : w.deletes = 0) : w.read = w := by
  have hstale : (w.staleReads || decide (0 < w.deletes)) = w.staleReads := by simp [h]
  rw [read, hstale]

theorem found_eq (h : w.deletes = 0) (value : Bool) : w.found freed value = value := if_pos h

/-- `stop()` of a timer that has not been taken. -/
theorem stop_eq (h : w.deletes = 0) (htimer : w.mTimer = true) :
    w.stop freed = (true, { w with mTimer := false, mClient := false }) := by
  rw [stop, found_eq h, if_pos htimer, read_eq_self h]

/-- What `stop()` leaves, whether the timer has been taken or not. -/
theorem stop_snd (h : w.deletes = 0) (hclient : w.mClient = w.mTimer) :
    (w.stop freed).2 = { w with mTimer := false, mClient := false } := by
  cases htimer : w.mTimer with
  | true => rw [stop_eq h htimer]
  | false =>
    rw [htimer] at hclient
    rw [stop, found_eq h, if_neg (by simp [htimer]), read_eq_self h, ← htimer]
    cases w
    simp_all

namespace Whole

/-- `destroy()` of a wrapper that is there deletes it, once and for all. -/
theorem destroy_eq (h : Whole w) (hzero : w.deletes = 0) :
    w.destroy freed =
      { w with mCb := false, mMe := false, mTimer := false, mClient := false, deletes := 1 } := by
  obtain ⟨hcb, hme⟩ := h.members hzero
  have hclient := h.mClient_eq
  have htimer := h.mTimer_eq hzero
  rw [destroy, found_eq hzero, hcb, hme, if_pos (by decide), read_eq_self hzero, delete]
  have hstop : (stop freed { w with mCb := false, mMe := false }).2 =
      { w with mCb := false, mMe := false, mTimer := false, mClient := false } := by
    refine stop_snd hzero ?_
    simp [htimer, hclient, hzero]
  simp only [hstop]
  rw [hzero]

/-- The expiry goes on in a wrapper that is there, and leaves its members as they are. -/
theorem goto (h : Whole w) {expiry : Expiry} (hzero : w.deletes = 0)
    (harmed : expiry.armed = w.expiry.armed) (hallows : expiry.Allows 0) :
    Whole { w with expiry := expiry } where
  allows := by rw [hzero]; exact hallows
  members := h.members
  mTimer_eq h' := by rw [harmed]; exact h.mTimer_eq h'
  mClient_eq := by rw [harmed]; exact h.mClient_eq
  cleared := h.cleared
  not_stale := h.not_stale

/-- The wrapper is deleted, before the expiry or at its end. -/
theorem deleted (h : Whole w) (hzero : w.deletes = 0) {w' : LocTimerWrapper}
    (hw' : { w' with expiry := w.expiry, entered := w.entered, leaving := w.leaving } =
      w.destroy freed) (hallows : w'.expiry.Allows 1) : Whole w' := by
  rw [h.destroy_eq hzero, LocTimerWrapper.mk.injEq] at hw'
  obtain ⟨-, -, -, hclient, -, -, -, -, hone, hstale⟩ := hw'
  refine ⟨by rw [hone]; exact hallows, ?_, ?_, by simp [hclient, hone], fun _ => hone,
    hstale.trans h.not_stale⟩
  all_goals
    intro hnone
    rw [hone] at hnone
    cases hnone

/-- **The message thread goes on.** -/
theorem expire (h : Whole w) (freed : Bool) : Whole (w.expire freed) := by
  have hallows := h.allows
  unfold LocTimerWrapper.expire
  cases hexpiry : w.expiry with
  | waiting =>
    have hclient := h.mClient_eq
    rw [hexpiry] at hallows hclient
    by_cases hzero : w.deletes = 0
    · rw [if_pos (by simpa [hzero, Expiry.armed] using hclient)]
      exact h.goto hzero (by rw [hexpiry]; rfl) rfl
    · have hone : w.deletes = 1 := by
        have : w.deletes ≤ 1 := hallows
        omega
      rw [if_neg (by simp [hclient, hzero])]
      exact ⟨hone, fun h => absurd h hzero, fun h => absurd h hzero, by simp [hclient, hzero],
        h.cleared, h.not_stale⟩
  | claimed =>
    rw [hexpiry] at hallows
    have htimer : w.mTimer = true := (h.mTimer_eq hallows).trans (by rw [hexpiry]; rfl)
    rw [stop_eq hallows htimer]
    exact ⟨hallows, h.members, fun _ => rfl, rfl, h.cleared, h.not_stale⟩
  | timeOut =>
    rw [hexpiry] at hallows
    rw [read_eq_self hallows, found_eq hallows]
    exact h.goto hallows (by rw [hexpiry]; rfl) rfl
  | callerData cb =>
    rw [hexpiry] at hallows
    rw [read_eq_self hallows]
    cases cb <;> exact h.goto hallows (by rw [hexpiry]; rfl) rfl
  | callback =>
    rw [hexpiry] at hallows
    exact h.goto hallows (by rw [hexpiry]; rfl) rfl
  | callbackStop => rw [hexpiry] at hallows; exact hallows.elim
  | callbackClear => rw [hexpiry] at hallows; exact hallows.elim
  | returned =>
    rw [hexpiry] at hallows
    exact h.deleted hallows (by rw [h.destroy_eq hallows]) rfl
  | done => exact h
  | stopped => exact h

/-- **A step** with stops that come before. -/
theorem step (h : Whole w) {i : Input} (hbefore : w.StopsBefore i) : Whole (w.step i) := by
  cases i with
  | expire freed => exact h.expire freed
  | callbackStop =>
    simp only [LocTimerWrapper.step]
    split_ifs with hcall
    · -- the callback has found the handle cleared
      simp only [Bool.and_eq_true, decide_eq_true_eq] at hcall
      rw [hbefore hcall.2] at hcall
      cases hcall.1
    · exact h
  | stop =>
    simp only [LocTimerWrapper.step]
    split_ifs
    · exact ⟨h.allows, h.members, h.mTimer_eq, h.mClient_eq, h.cleared, h.not_stale⟩
    · exact h
  | destroy freed =>
    simp only [LocTimerWrapper.step]
    split_ifs with hentered
    · obtain ⟨hwaiting, hzero⟩ := hbefore hentered
      have hexpiry : (w.destroy freed).expiry = .waiting := by rw [h.destroy_eq hzero, hwaiting]
      exact h.deleted hzero (by rw [h.destroy_eq hzero]) (by rw [hexpiry]; exact Nat.le_refl 1)
    · exact h
  | clear =>
    simp only [LocTimerWrapper.step]
    split_ifs with hleaving
    · have hone : w.deletes = 1 := h.cleared (.inr hleaving)
      exact ⟨h.allows, h.members, h.mTimer_eq, h.mClient_eq, fun _ => hone, h.not_stale⟩
    · exact h

theorem new : Whole .new := ⟨by simp [LocTimerWrapper.new, Expiry.Allows], fun _ => ⟨rfl, rfl⟩,
  fun _ => rfl, rfl, by simp [LocTimerWrapper.new], rfl⟩

theorem safe (h : Whole w) : Safe w where
  deletes_le := by
    have hallows := h.allows
    cases hexpiry : w.expiry <;> rw [hexpiry] at hallows <;> simp [Expiry.Allows] at hallows <;>
      omega
  deletes_eq := by
    have hallows := h.allows
    rintro (hexpiry | hexpiry | hhandle)
    · rw [hexpiry] at hallows
      exact hallows
    · rw [hexpiry] at hallows
      exact hallows
    · exact h.cleared (.inl hhandle)
  not_stale := h.not_stale

end Whole
end LocTimerWrapper

namespace LocTimers

open LocTimerWrapper

/-- A step in which the stops of each wrapper come before its expiry and before each other. -/
def StopsBefore (s : LocTimers) : Input → Prop
  | .start _ => True
  | .wrapper i input => ∀ w ∈ s[i]?, w.StopsBefore input

instance (s : LocTimers) (i : Input) : Decidable (s.StopsBefore i) := by
  unfold StopsBefore; split <;> infer_instance

theorem step_whole {s : LocTimers} (i : Input) (h : ∀ w ∈ s, Whole w) (hbefore : s.StopsBefore i) :
    ∀ w ∈ s.step i, Whole w := by
  cases i with
  | start cb =>
    simp only [step]
    split_ifs
    · intro w hw
      obtain hw | hw := List.mem_append.mp hw
      · exact h w hw
      · rw [List.mem_singleton.mp hw]
        exact Whole.new
    · exact h
  | wrapper i input =>
    exact forall_mem_modify h fun w hw => (h w (List.mem_of_getElem? hw)).step (hbefore w hw)

/-- **Stopping a timer.**  In a run in which the stops of each timer come before its expiry and
before each other, each wrapper is deleted once, and no member of it is read afterwards. -/
theorem safe_exec (is : List Input) (h : StepsMeet step StopsBefore [] is) :
    Always step (fun s => ∀ w ∈ s, Safe w) [] is :=
  always_of_inv (fun _ i hs hbefore => step_whole i hs hbefore) (fun _ hs w hw => (hs w hw).safe)
    is [] (fun _ hw => by cases hw) h

/-- A timer that expires, and one that is stopped twice before it does. -/
theorem safe_exec_expire_stop :
    let is : List Input := [.start true, .start true] ++
      List.replicate 6 (.wrapper 0 (.expire false)) ++
      [.wrapper 1 .stop, .wrapper 1 (.destroy false), .wrapper 1 .clear, .wrapper 1 .stop,
        .wrapper 1 (.expire false)]
    Always step (fun s => ∀ w ∈ s, Safe w) [] is ∧
      (exec step [] is).map (fun w => (w.expiry, w.deletes, w.handle)) =
        [(.done, 1, true), (.stopped, 1, false)] :=
  ⟨safe_exec _ (by decide), by decide⟩

/-- The callback calls `loc_timer_stop`: `destroy()` reads `mCb` and `mMe` of a wrapper that has
been deleted, and deletes it again when it finds what was there. -/
def stopsInCallback (freed : Bool) : List Input :=
  [.start true] ++ List.replicate 4 (.wrapper 0 (.expire false)) ++ [.wrapper 0 .callbackStop] ++
    List.replicate 4 (.wrapper 0 (.expire freed))

theorem not_safe_callback :
    (exec step [] (stopsInCallback false)).map (fun w => (w.deletes, w.staleReads)) = [(1, true)] ∧
      (exec step [] (stopsInCallback true)).map (fun w => (w.deletes, w.staleReads)) =
        [(2, true)] ∧
      ¬Always step (fun s => ∀ w ∈ s, Safe w) [] (stopsInCallback false) := by
  refine ⟨by decide, by decide, fun h => ?_⟩
  have hsafe := h.last ((exec step [] (stopsInCallback false)).get ⟨0, by decide⟩) (by decide)
  have hstale := hsafe.not_stale
  revert hstale
  decide

end LocTimers
end Timer
end Nx507j
