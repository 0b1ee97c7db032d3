import Nx507j.Timer.Service

/-!
# The kernel timer and the heap

The kernel timer of a container is set by the timer thread, and disarmed by the poll thread
before it sends a `MsgTimerExpire`.  When all that is under way has been done, it is armed for
the top of the heap.  It is also disarmed when the heap is empty, but for one case:
`updateSoonestTime(NULL)` takes an empty heap for one that has not changed.

## Main definitions

* `Agrees` — the kernel timer is what the heap asks for.
* `Quiet` — the kernel timer is disarmed and not polled, or the poll thread is about to see to it.
* `DisarmedIfEmpty` — `updateSoonestTime(NULL)` finds an empty heap only if that holds.

## Main results

* `Tracked.step` — the invariant, for the steps of every party.
* `agrees_exec` — the kernel timer agrees with the heap when nothing is under way.
-/

namespace Nx507j
namespace Timer

open Run LocHeap

/-! ### Where the poll thread is -/

namespace PollThread

/-- The containers that it has yet to send a `MsgTimerExpire` of. -/
def toExpire : PollThread → List ContainerId
  | waiting => []
  | expiring k _ rest => k :: rest

/-- Those whose kernel timer it has yet to disarm. -/
def toDisarm : PollThread → List ContainerId
  | expiring k .disarm rest => k :: rest
  | expiring _ _ rest => rest
  | waiting => []

/-- Those whose fd it has yet to take out of the poll. -/
def toRemove : PollThread → List ContainerId
  | expiring _ .sendMsg rest => rest
  | expiring k _ rest => k :: rest
  | waiting => []

variable (k : ContainerId) (rest : List ContainerId)

@[simp] theorem toExpire_expiring (stage : ExpireStage) :
    (expiring k stage rest).toExpire = k :: rest := rfl

@[simp] theorem toDisarm_disarm : (expiring k .disarm rest).toDisarm = k :: rest := rfl

@[simp] theorem toDisarm_removePoll : (expiring k .removePoll rest).toDisarm = rest := rfl

@[simp] theorem toDisarm_sendMsg : (expiring k .sendMsg rest).toDisarm = rest := rfl

@[simp] theorem toRemove_disarm : (expiring k .disarm rest).toRemove = k :: rest := rfl

@[simp] theorem toRemove_removePoll : (expiring k .removePoll rest).toRemove = k :: rest := rfl

@[simp] theorem toRemove_sendMsg : (expiring k .sendMsg rest).toRemove = rest := rfl

@[simp] theorem toExpire_next (ks : List ContainerId) : (next ks).toExpire = ks := by
  cases ks <;> rfl

@[simp] theorem toDisarm_next (ks : List ContainerId) : (next ks).toDisarm = ks := by
  cases ks <;> rfl

@[simp] theorem toRemove_next (ks : List ContainerId) : (next ks).toRemove = ks := by
  cases ks <;> rfl

end PollThread

/-! ### What the kernel timer is to be -/

/-- The kernel timer is armed for the top of the heap, if there is one, and polled then. -/
def Agrees (s : Service) (k : ContainerId) : Prop :=
  s.armed k = (s.heap k).peek.map LocTimerDelegate.mFutureTime ∧
    s.polled k = (s.heap k).peek.isSome

instance (s : Service) (k : ContainerId) : Decidable (Agrees s k) :=
  inferInstanceAs (Decidable (_ ∧ _))

/-- The kernel timer is disarmed and its fd not polled, but for what the poll thread is about
to do. -/
def Quiet (s : Service) (k : ContainerId) : Prop :=
  k ∈ s.pollThread.toDisarm ∨
    s.armed k = none ∧ (s.polled k = false ∨ k ∈ s.pollThread.toRemove)

instance (s : Service) (k : ContainerId) : Decidable (Quiet s k) :=
  inferInstanceAs (Decidable (_ ∨ _ ∧ (_ ∨ _)))

/-- A `MsgTimerExpire` is queued, or the poll thread will send one. -/
def Underway (s : Service) (k : ContainerId) : Prop :=
  k ∈ s.pollThread.toExpire ∨ .expire k ∈ s.queue

/-- The container for which the next step of the timer thread calls `updateSoonestTime(NULL)`
with the heap empty. -/
def Service.emptied (s : Service) : Option ContainerId :=
  match s.msgThread, s.queue with
  | .waiting, .remove k timer :: _ =>
    if (s.heap k).peek = ((s.heap k).remove outRanks timer).2 ∧
        ((s.heap k).remove outRanks timer).1.peek = none then some k else none
  | .looping k _, _ => if (s.heap k).peek = none then some k else none
  | _, _ => none

/-- `updateSoonestTime(NULL)` finds the heap empty only if the kernel timer is quiet. -/
def DisarmedIfEmpty (s : Service) (i : Input) : Prop :=
  i = .msgThread → ∀ k ∈ s.emptied, Quiet s k

instance (s : Service) (i : Input) : Decidable (DisarmedIfEmpty s i) :=
  inferInstanceAs (Decidable (i = .msgThread → _))

/-! ### The invariant -/

/-- The timer thread is in a `MsgTimerExpire` of the container, or has kernel calls to make
for it. -/
def MsgThread.Busy (k : ContainerId) : MsgThread → Prop
  | waiting => False
  | updating k' calls _ => k' = k ∧ calls ≠ []
  | popped k' _ _ => k' = k
  | stopping k' _ _ _ => k' = k
  | calling k' _ _ => k' = k
  | looping k' _ => k' = k

/-- What the kernel timer is while the timer thread has nothing to do with it. -/
structure Settled (s : Service) (k : ContainerId) : Prop where
  empty : (s.heap k).peek = none → Quiet s k
  top : ∀ top, (s.heap k).peek = some top →
    Underway s k ∨ s.polled k = true ∧ s.armed k = some top.mFutureTime

/-- What it is while the timer thread has these calls left to make. -/
def Midway (s : Service) (k : ContainerId) (calls : List KernelCall) : Prop :=
  ∃ top, (s.heap k).peek = some top ∧
    (calls = [.addPoll, .setTime (some top.mFutureTime)] ∨
      calls = [.setTime (some top.mFutureTime)] ∧ (s.polled k = true ∨ Underway s k))

structure Tracked (s : Service) (k : ContainerId) : Prop where
  settled : ¬ s.msgThread.Busy k → Settled s k
  midway : ∀ calls toDelete, s.msgThread = .updating k calls toDelete → calls ≠ [] →
    Midway s k calls

theorem tracked_init (k : ContainerId) : Tracked Service.init k where
  settled _ := {
    empty := fun _ => .inr ⟨rfl, .inl rfl⟩
    top := fun _ h => by cases h }
  midway calls toDelete h := by cases h

variable {s s' : Service} {k : ContainerId}

/-! ### The kernel calls of `updateSoonestTime` -/

/-- `updateSoonestTime(NULL)` sets the timer for the top, and does nothing if there is none. -/
theorem updateSoonestTime_null (c : Container) :
    c.peek = none ∧ Service.updateSoonestTime none c = [] ∨
      ∃ top, c.peek = some top ∧
        Service.updateSoonestTime none c = [.addPoll, .setTime (some top.mFutureTime)] := by
  rcases hpeek : c.peek with _ | top
  · exact .inl ⟨rfl, by simp only [Service.updateSoonestTime, hpeek, if_true]⟩
  · exact .inr ⟨top, rfl, by simp [Service.updateSoonestTime, hpeek]⟩

/-- After a push it sets the timer for the new top, if there is one. -/
theorem updateSoonestTime_push (c : Container) (d : LocTimerDelegate) :
    (c.push outRanks d).peek = c.peek ∧
        Service.updateSoonestTime c.peek (c.push outRanks d) = [] ∨
      (c.push outRanks d).peek = some d ∧
        Service.updateSoonestTime c.peek (c.push outRanks d) =
          [.addPoll, .setTime (some d.mFutureTime)] := by
  rcases hpeek : c.peek with _ | a
  · have htop : (c.push outRanks d).peek = some d := peek_push_of_empty hpeek d
    exact .inr ⟨htop, by simp [Service.updateSoonestTime, htop]⟩
  · have htop : (c.push outRanks d).peek = some (if outRanks d a then d else a) :=
      peek_push hpeek d
    rcases hrank : outRanks d a with _ | _
    · left
      simp only [hrank, Bool.false_eq_true, if_false] at htop
      exact ⟨htop, by simp [Service.updateSoonestTime, htop]⟩
    · right
      simp only [hrank, if_true] at htop
      have hne : d ≠ a := by
        rintro rfl
        have hself : outRanks d d = false := LocHeapNode.outRanks_irrefl d
        rw [hself] at hrank
        cases hrank
      exact ⟨htop, by simp [Service.updateSoonestTime, htop, hne, hrank]⟩

/-! ### Steps -/

/-- What a step leaves of a container whose top, fd and timer it does not touch. -/
theorem Settled.of_eq (h : Settled s k) (hsame : (s'.heap k).peek = (s.heap k).peek)
    (hquiet : Quiet s k → Quiet s' k) (hunderway : Underway s k → Underway s' k)
    (harmed : s.polled k = true ∧ (∃ t, s.armed k = some t) →
      Underway s' k ∨ s'.polled k = true ∧ s'.armed k = s.armed k) : Settled s' k where
  empty hpeek := hquiet (h.empty (hsame ▸ hpeek))
  top top hpeek := by
    rw [hsame] at hpeek
    rcases h.top top hpeek with hu | ⟨hpolled, ht⟩
    · exact .inl (hunderway hu)
    · rcases harmed ⟨hpolled, _, ht⟩ with hu | ⟨hpolled', heq⟩
      · exact .inl hu
      · exact .inr ⟨hpolled', heq.trans ht⟩

/-- The steps of the other parties. -/
theorem Tracked.of_msgThread (h : Tracked s k) (hthread : s'.msgThread = s.msgThread)
    (hheap : s'.heap k = s.heap k) (hquiet : Quiet s k → Quiet s' k)
    (hunderway : Underway s k → Underway s' k)
    (hpolled : s.polled k = true → Underway s' k ∨ s'.polled k = true)
    (harmed : Underway s' k ∨ s'.armed k = s.armed k) : Tracked s' k where
  settled hbusy := by
    rw [hthread] at hbusy
    refine (h.settled hbusy).of_eq (congrArg peek hheap) hquiet hunderway ?_
    rintro ⟨hp, -⟩
    rcases hpolled hp with hu | hp'
    · exact .inl hu
    · exact harmed.imp id fun heq => ⟨hp', heq⟩
  midway calls toDelete hupdating hcalls := by
    rw [hthread] at hupdating
    obtain ⟨top, hpeek, hcalls | ⟨hcalls, hp⟩⟩ := h.midway calls toDelete hupdating hcalls
    · exact ⟨top, hheap ▸ hpeek, .inl hcalls⟩
    · refine ⟨top, hheap ▸ hpeek, .inr ⟨hcalls, ?_⟩⟩
      rcases hp with hp | hu
      · exact (hpolled hp).symm
      · exact .inr (hunderway hu)

/-- A step of the timer thread that leaves the container's top, its fd and its timer as they
are, as one about the other container does. -/
theorem Tracked.of_idle (h : Tracked s k) (hbusy : ¬ s.msgThread.Busy k)
    (hbusy' : ¬ s'.msgThread.Busy k) (hsame : (s'.heap k).peek = (s.heap k).peek)
    (hpoll : s'.pollThread = s.pollThread) (hqueue : .expire k ∈ s.queue → .expire k ∈ s'.queue)
    (hpolled : s'.polled k = s.polled k) (harmed : s'.armed k = s.armed k) : Tracked s' k where
  settled _ := by
    refine (h.settled hbusy).of_eq hsame ?_ ?_ ?_
    · rw [Quiet, Quiet, hpoll, hpolled, harmed]
      exact id
    · rw [Underway, Underway, hpoll]
      exact Or.imp id hqueue
    · rintro ⟨hp, -⟩
      exact .inr ⟨hpolled.trans hp, harmed⟩
  midway calls toDelete hupdating hcalls := by
    rw [hupdating] at hbusy'
    exact absurd ⟨rfl, hcalls⟩ hbusy'

/-- The timer thread is in a `MsgTimerExpire` of the container. -/
theorem Tracked.of_expire (hbusy : s.msgThread.Busy k)
    (hthread : ∀ calls toDelete, s.msgThread ≠ .updating k calls toDelete) : Tracked s k where
  settled hidle := absurd hbusy hidle
  midway calls toDelete hupdating := absurd hupdating (hthread calls toDelete)

/-- A step into a `MsgTimerExpire` of the container `k'`, or within it. -/
theorem Tracked.of_expireStep (h : Tracked s k) {k' : ContainerId}
    (hbusy : s.msgThread.Busy k → k' = k) (hbusy' : s'.msgThread.Busy k ↔ k' = k)
    (hthread : ∀ calls toDelete, s'.msgThread ≠ .updating k calls toDelete)
    (hheap : k ≠ k' → s'.heap k = s.heap k) (hpoll : s'.pollThread = s.pollThread)
    (hqueue : k ≠ k' → .expire k ∈ s.queue → .expire k ∈ s'.queue)
    (hpolled : s'.polled = s.polled) (harmed : s'.armed = s.armed) : Tracked s' k := by
  by_cases hk : k = k'
  · exact Tracked.of_expire (hbusy'.mpr hk.symm) hthread
  · exact h.of_idle (fun hb => hk (hbusy hb).symm) (fun hb => hk (hbusy'.mp hb).symm)
      (congrArg peek (hheap hk)) hpoll (hqueue hk) (congrFun hpolled k) (congrFun harmed k)

/-- The heap is empty, and the kernel timer quiet. -/
theorem Tracked.of_empty (hpeek : (s.heap k).peek = none) (hquiet : Quiet s k)
    (hthread : ∀ calls toDelete, s.msgThread = .updating k calls toDelete → calls = []) :
    Tracked s k where
  settled _ := {
    empty := fun _ => hquiet
    top := fun _ htop => nomatch hpeek.symm.trans htop }
  midway calls toDelete hupdating hcalls := absurd (hthread calls toDelete hupdating) hcalls

/-- The timer thread is about to set the timer for the top. -/
theorem Tracked.of_calls {top : LocTimerDelegate} {toDelete : Option LocTimerDelegate}
    (hpeek : (s.heap k).peek = some top)
    (hthread : s.msgThread = .updating k [.addPoll, .setTime (some top.mFutureTime)] toDelete) :
    Tracked s k where
  settled hidle := by
    rw [hthread] at hidle
    exact absurd ⟨rfl, nofun⟩ hidle
  midway calls toDelete' hupdating _ := by
    rw [hthread] at hupdating
    cases hupdating
    exact ⟨top, hpeek, .inl rfl⟩

/-- The poll thread disarms the kernel timer. -/
theorem Tracked.disarm (h : Tracked s k) {k' : ContainerId} {rest : List ContainerId}
    (hpoll : s.pollThread = .expiring k' .disarm rest) :
    Tracked
      { s with
        armed := Function.update s.armed k' none
        pollThread := .expiring k' .removePoll rest } k := by
  by_cases hk : k = k'
  · subst hk
    refine h.of_msgThread rfl rfl ?_ ?_ .inr ?_
    · intro _
      exact .inr ⟨Function.update_self .., .inr List.mem_cons_self⟩
    · intro _
      exact .inl List.mem_cons_self
    · exact .inl (.inl List.mem_cons_self)
  · refine h.of_msgThread rfl rfl ?_ ?_ .inr (.inr (Function.update_of_ne hk ..))
    · simp [Quiet, hpoll, hk]
    · simp [Underway, hpoll]

/-- It takes the fd out of the poll. -/
theorem Tracked.removePoll (h : Tracked s k) {k' : ContainerId} {rest : List ContainerId}
    (hpoll : s.pollThread = .expiring k' .removePoll rest) :
    Tracked
      { s with
        polled := Function.update s.polled k' false
        pollThread := .expiring k' .sendMsg rest } k := by
  by_cases hk : k = k'
  · subst hk
    have hsend : k ∈ (PollThread.expiring k .sendMsg rest).toExpire := List.mem_cons_self
    refine h.of_msgThread rfl rfl ?_ (fun _ => .inl hsend) (fun _ => .inl (.inl hsend)) (.inr rfl)
    rintro (hdisarm | ⟨harmed, -⟩)
    · rw [hpoll] at hdisarm
      exact .inl hdisarm
    · exact .inr ⟨harmed, .inl (Function.update_self ..)⟩
  · refine h.of_msgThread rfl rfl ?_ ?_ ?_ (.inr rfl)
    · simp [Quiet, hpoll, hk]
    · simp [Underway, hpoll]
    · intro hpolled
      exact .inr ((Function.update_of_ne hk ..).trans hpolled)

/-- A push of a new top sets the kernel timer for it. -/
theorem Tracked.pushed (h : Tracked s k) (hwait : s.msgThread = .waiting) {k' : ContainerId}
    {timer : LocTimerDelegate} {queue : List Msg} (hqueue : s.queue = .push k' timer :: queue) :
    Tracked (s.pushed k' timer queue) k := by
  have hrest : .expire k ∈ s.queue → .expire k ∈ queue := by simp [hqueue]
  have hidle : ¬ s.msgThread.Busy k := by simp [hwait, MsgThread.Busy]
  by_cases hk : k = k'
  · subst hk
    rcases updateSoonestTime_push (s.heap k) timer with ⟨hsame, hcalls⟩ | ⟨htop, hcalls⟩
    · refine h.of_idle hidle ?_ ?_ rfl hrest rfl rfl
      · simp [Service.pushed, hcalls, MsgThread.Busy]
      · simpa [Service.pushed] using hsame
    · have hthread : (s.pushed k timer queue).msgThread =
          .updating k [.addPoll, .setTime (some timer.mFutureTime)] none := by
        simp only [Service.pushed, hcalls]
      refine Tracked.of_calls ?_ hthread
      simpa [Service.pushed] using htop
  · refine h.of_idle hidle ?_ ?_ rfl hrest rfl rfl
    · simp [Service.pushed, MsgThread.Busy, Ne.symm hk]
    · simp [Service.pushed, Function.update_of_ne hk]

/-- A removal of the top sets the kernel timer for the next one. -/
theorem Tracked.removed (h : Tracked s k) (hwait : s.msgThread = .waiting) {k' : ContainerId}
    {timer : LocTimerDelegate} {queue : List Msg} (hqueue : s.queue = .remove k' timer :: queue)
    (hquiet : ∀ k ∈ s.emptied, Quiet s k) : Tracked (s.removed k' timer queue) k := by
  have hrest : .expire k ∈ s.queue → .expire k ∈ queue := by simp [hqueue]
  have hidle : ¬ s.msgThread.Busy k := by simp [hwait, MsgThread.Busy]
  by_cases hk : k = k'
  · subst hk
    have hheap : (s.removed k timer queue).heap k = ((s.heap k).remove outRanks timer).1 :=
      Function.update_self ..
    by_cases htop : (s.heap k).peek = ((s.heap k).remove outRanks timer).2
    · -- the top is removed, or the heap was empty
      rcases updateSoonestTime_null ((s.heap k).remove outRanks timer).1 with
        ⟨hempty, hcalls⟩ | ⟨top, hpeek, hcalls⟩
      · have hemptied : s.emptied = some k := by
          simp only [Service.emptied, hwait, hqueue]
          exact if_pos ⟨htop, hempty⟩
        refine Tracked.of_empty (hheap ▸ hempty) (hquiet k hemptied) ?_
        intro calls toDelete hupdating
        simp only [Service.removed, if_pos htop, hcalls] at hupdating
        cases hupdating
        rfl
      · have hthread : (s.removed k timer queue).msgThread =
            .updating k [.addPoll, .setTime (some top.mFutureTime)] (some timer) := by
          simp only [Service.removed, if_pos htop, hcalls]
        exact Tracked.of_calls (hheap ▸ hpeek) hthread
    · refine h.of_idle hidle ?_ ?_ rfl hrest rfl rfl
      · simp [Service.removed, htop, MsgThread.Busy]
      · rw [hheap]
        exact peek_remove (Ne.symm htop)
  · refine h.of_idle hidle ?_ ?_ rfl hrest rfl rfl
    · simp [Service.removed, MsgThread.Busy, Ne.symm hk]
    · simp [Service.removed, Function.update_of_ne hk]

/-- A kernel call of `updateSoonestTime`. -/
theorem Tracked.kernelCall (h : Tracked s k) {k' : ContainerId} {call : KernelCall}
    {calls : List KernelCall} {toDelete : Option LocTimerDelegate}
    (hthread : s.msgThread = .updating k' (call :: calls) toDelete) :
    Tracked { s.kernelCall k' call with msgThread := .updating k' calls toDelete } k := by
  by_cases hk : k = k'
  · subst hk
    obtain ⟨top, hpeek, heq | ⟨heq, hpolled⟩⟩ := h.midway _ toDelete hthread nofun
    · obtain ⟨rfl, rfl⟩ := List.cons.inj heq
      constructor
      · intro hidle
        exact absurd ⟨rfl, nofun⟩ hidle
      · intro calls toDelete' hupdating _
        cases hupdating
        exact ⟨top, hpeek, .inr ⟨rfl, .inl (Function.update_self ..)⟩⟩
    · obtain ⟨rfl, rfl⟩ := List.cons.inj heq
      constructor
      · intro _
        constructor
        · intro hnone
          exact absurd (hpeek.symm.trans hnone) nofun
        · intro top' htop'
          obtain rfl := Option.some.inj (hpeek.symm.trans htop')
          rcases hpolled with hp | hu
          · exact .inr ⟨hp, Function.update_self ..⟩
          · exact .inl hu
      · intro calls toDelete' hupdating hcalls
        cases hupdating
        exact absurd rfl hcalls
  · have hidle : ¬ s.msgThread.Busy k := by simp [hthread, MsgThread.Busy, Ne.symm hk]
    have hidle' : ∀ calls toDelete, ¬ (MsgThread.updating k' calls toDelete).Busy k :=
      fun calls toDelete hbusy => hk hbusy.1.symm
    cases call with
    | addPoll | removePoll =>
      exact h.of_idle hidle (hidle' _ _) rfl rfl id (Function.update_of_ne hk ..) rfl
    | setTime value =>
      exact h.of_idle hidle (hidle' _ _) rfl rfl id rfl (Function.update_of_ne hk ..)

/-- The end of a `MsgTimerExpire` sets the kernel timer for what is left. -/
theorem Tracked.popNone (h : Tracked s k) {k' : ContainerId} {now : Timespec}
    (hthread : s.msgThread = .looping k' now) (hquiet : ∀ k ∈ s.emptied, Quiet s k) :
    Tracked
      { s with msgThread := .updating k' (Service.updateSoonestTime none (s.heap k')) none } k := by
  by_cases hk : k = k'
  · subst hk
    rcases updateSoonestTime_null (s.heap k) with ⟨hempty, hcalls⟩ | ⟨top, hpeek, hcalls⟩
    · have hemptied : s.emptied = some k := by
        simp only [Service.emptied, hthread]
        exact if_pos hempty
      refine Tracked.of_empty hempty (hquiet k hemptied) ?_
      intro calls toDelete hupdating
      simp only [hcalls] at hupdating
      cases hupdating
      rfl
    · exact Tracked.of_calls hpeek (congrArg (MsgThread.updating k · none) hcalls)
  · refine h.of_idle ?_ ?_ rfl rfl id rfl rfl
    · simp [hthread, MsgThread.Busy, Ne.symm hk]
    · simp [MsgThread.Busy, Ne.symm hk]

/-- **Every step of every party keeps track of the kernel timer.** -/
theorem Tracked.step (h : Tracked s k) (hlinked : s.Linked) (i : Input) (hi : DisarmedIfEmpty s i) :
    Tracked (s.step i) k := by
  rcases Service.step_cases hlinked i with heq | hstep
  · rw [heq]
    exact h
  generalize s.step i = s' at hstep
  cases hstep with
  | start timer | stop timer | destroyRunning timer =>
    refine h.of_msgThread rfl rfl id ?_ .inr (.inr rfl)
    exact Or.imp id (List.mem_append_left _)
  | destroy | tick => exact h.of_msgThread rfl rfl id id .inr (.inr rfl)
  | epollWait hpoll hnodup hready =>
    rename_i ready
    refine h.of_msgThread rfl rfl ?_ ?_ .inr (.inr rfl)
    · rintro (hdisarm | ⟨harmed, hpolled | hremove⟩)
      · rw [hpoll] at hdisarm
        cases hdisarm
      · exact .inr ⟨harmed, .inl hpolled⟩
      · rw [hpoll] at hremove
        cases hremove
    · rintro (hexpire | hqueue)
      · rw [hpoll] at hexpire
        cases hexpire
      · exact .inr hqueue
  | disarm hpoll => exact h.disarm hpoll
  | removePoll hpoll => exact h.removePoll hpoll
  | sendExpire hpoll =>
    rename_i k' rest
    refine h.of_msgThread rfl rfl ?_ ?_ .inr (.inr rfl)
    · simp [Quiet, hpoll]
    · simp only [Underway, hpoll, PollThread.toExpire_expiring, PollThread.toExpire_next,
        List.mem_cons, List.mem_append, Msg.expire.injEq, List.not_mem_nil, or_false]
      tauto
  | push hwait hqueue => exact h.pushed hwait hqueue
  | remove hwait hqueue => exact h.removed hwait hqueue (hi rfl)
  | expire hwait hqueue hpeek =>
    refine h.of_expireStep ?_ Iff.rfl nofun ?_ rfl ?_ rfl rfl
    · simp [hwait, MsgThread.Busy]
    · intro hk
      exact Function.update_of_ne hk ..
    · intro hk
      simp [Service.popped, hqueue, hk]
  | expireNone hwait hqueue hpeek =>
    rename_i k' queue
    have hidle : ¬ s.msgThread.Busy k := by simp [hwait, MsgThread.Busy]
    by_cases hk : k = k'
    · subst hk
      refine Tracked.of_empty hpeek ((h.settled hidle).empty hpeek) ?_
      intro calls toDelete hupdating
      cases hupdating
      rfl
    · refine h.of_idle hidle ?_ rfl rfl ?_ rfl rfl
      · simp [MsgThread.Busy]
      · simp [hqueue, hk]
  | kernelCall hthread => exact h.kernelCall hthread
  | delete hthread | updated hthread =>
    refine h.of_idle ?_ ?_ rfl rfl id rfl rfl
    · simp [hthread, MsgThread.Busy]
    · simp [MsgThread.Busy]
  | readClient hthread | readNull hthread | clientStopped hthread | callback hthread =>
    refine h.of_expireStep ?_ Iff.rfl nofun (fun _ => rfl) rfl (fun _ => id) rfl rfl
    rw [hthread]
    exact id
  | clientStop hthread =>
    refine h.of_expireStep ?_ Iff.rfl nofun (fun _ => rfl) rfl ?_ rfl rfl
    · rw [hthread]
      exact id
    · intro _ hmem
      exact List.mem_append_left _ hmem
  | popDue hthread hpeek hnow =>
    refine h.of_expireStep ?_ Iff.rfl nofun ?_ rfl (fun _ => id) rfl rfl
    · rw [hthread]
      exact id
    · intro hk
      exact Function.update_of_ne hk ..
  | popNone hthread hall => exact h.popNone hthread (hi rfl)

/-- **The kernel timer agrees with the heap** when no message is queued or being processed
and the poll thread waits, in every run in which `updateSoonestTime(NULL)` finds an empty
heap only if the kernel timer is quiet. -/
theorem agrees_exec (inputs : List Input)
    (hinputs : StepsMeet Service.step DisarmedIfEmpty Service.init inputs) :
    let s := exec Service.step Service.init inputs
    s.queue = [] → s.msgThread = .waiting → s.pollThread = .waiting → ∀ k, Agrees s k := by
  intro s hqueue hwait hpoll k
  have h : s.Linked ∧ Tracked s k :=
    exec_inv_of_stepsMeet
      (fun s i (h : s.Linked ∧ Tracked s k) hi => ⟨h.1.step i, h.2.step h.1 i hi⟩) inputs _
      ⟨Service.linked_init, tracked_init k⟩ hinputs
  have hidle : ¬ s.msgThread.Busy k := by
    rw [hwait]
    exact id
  obtain ⟨hempty, htop⟩ := h.2.settled hidle
  rcases hpeek : (s.heap k).peek with _ | top
  · rcases hempty hpeek with hdisarm | ⟨harmed, hpolled | hremove⟩
    · rw [hpoll] at hdisarm
      cases hdisarm
    · simp only [Agrees, hpeek]
      exact ⟨harmed, hpolled⟩
    · rw [hpoll] at hremove
      cases hremove
  · rcases htop top hpeek with (hexpire | hqueued) | ⟨hpolled, harmed⟩
    · rw [hpoll] at hexpire
      cases hexpire
    · rw [hqueue] at hqueued
      cases hqueued
    · simp only [Agrees, hpeek]
      exact ⟨harmed, hpolled⟩

/-- A timer of ten seconds is started and one of five, and the sooner one is stopped. -/
def stopSooner : List Input :=
  [.start 0 10000 false, .start 1 5000 false, .msgThread, .msgThread, .msgThread, .msgThread,
    .msgThread, .msgThread, .msgThread, .msgThread, .stop 1, .msgThread, .msgThread, .msgThread,
    .msgThread]

/-- The kernel timer is set for the other one again. -/
theorem agrees_exec_stopSooner : Agrees (exec Service.step Service.init stopSooner) false :=
  agrees_exec stopSooner (by decide +kernel) (by decide +kernel) (by decide +kernel)
    (by decide +kernel) false

/-- The only timer is started and stopped: the heap is empty, and the kernel timer stays armed
and polled. -/
theorem stopLast_staysArmed :
    let s := exec Service.step Service.init
      [.start 0 1000 false, .msgThread, .msgThread, .msgThread, .msgThread,
        .stop 0, .msgThread, .msgThread]
    ¬ (s.queue = [] → s.msgThread = .waiting → s.pollThread = .waiting → ∀ k, Agrees s k) := by
  intro s h
  have hagrees : Agrees s false :=
    h (by decide +kernel) (by decide +kernel) (by decide +kernel) false
  exact absurd hagrees (by decide +kernel)

end Timer
end Nx507j
