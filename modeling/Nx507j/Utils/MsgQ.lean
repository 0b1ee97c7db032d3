import Nx507j.Utils.ListState

/-!
# The message queue

`msg_q.c`: a linked list under a mutex, with a condition variable on which receivers wait for a
message.  What a function does while it holds the mutex is one step; a receiver that waits gives
the mutex up, and looks at the queue again when it has got it back.

## Main definitions

* `MsgQ`, `msgQSnd`, `msgQRcv`, `msgQRcvLoop`, `msgQUnblock`, `msgQFlush` — the queue, and the
  parts of the functions that hold the mutex.
* `MsgQ.Users` — a queue with the receives that wait on it, and what has been returned so far.

## Main results

* `MsgQ.Users.fifo_exec` — what is received is a prefix of what was sent, and nothing is sent,
  or received by a receive that starts then, once the queue has been unblocked.
-/

namespace Nx507j

open Links Run

variable {α : Type*}

/-! ### The queue -/

/-- `msq_q_err_type`. -/
inductive MsgQErr
  | success
  | failureGeneral
  | invalidParameter
  | invalidHandle
  | unavailableResource
  | insufficientBuffer
  deriving DecidableEq, Repr

/-- `convert_linked_list_err_type`. -/
def convertLinkedListErrType : LinkedListErr → MsgQErr
  | .success => .success
  | .invalidParameter => .invalidParameter
  | .invalidHandle => .invalidHandle
  | .unavailableResource => .unavailableResource
  | .insufficientBuffer => .insufficientBuffer
  | .failureGeneral => .failureGeneral

/-- `msg_q`, without its mutex and its condition variable. -/
structure MsgQ (α : Type*) where
  msgList : ListState α
  unblocked : Bool
  deriving DecidableEq

/-- `msg_q_init`, when there is memory. -/
def msgQInit : MsgQ α := ⟨linkedListInit, false⟩

/-- `msg_q_snd`: what it returns, the queue, and whether it signals the condition. -/
def msgQSnd (malloc : Option ℕ) (msgObj : Option α) (dealloc : Bool) (q : MsgQ α) :
    MsgQErr × MsgQ α × Bool :=
  if msgObj.isNone then (.invalidParameter, q, false)
  else if q.unblocked then (.unavailableResource, q, false)
  else
    let (rv, msgList) := linkedListAdd malloc msgObj dealloc q.msgList
    (convertLinkedListErrType rv, { q with msgList := msgList }, true)

/-- What `msg_q_rcv` comes to while it holds the mutex: it waits, or it returns. -/
inductive RcvResult (α : Type*)
  | wait
  | ret (rv : MsgQErr) (msgObj : Option α)
  deriving DecidableEq, Repr

/-- `msg_q_rcv` from the test of its loop on. -/
def msgQRcvLoop (q : MsgQ α) : RcvResult α × MsgQ α :=
  if linkedListEmpty q.msgList && !q.unblocked then (.wait, q)
  else
    let (rv, msgObj, msgList) := linkedListRemove q.msgList
    (.ret (convertLinkedListErrType rv) msgObj, { q with msgList := msgList })

/-- `msg_q_rcv`. -/
def msgQRcv (q : MsgQ α) : RcvResult α × MsgQ α :=
  if q.unblocked then (.ret .unavailableResource none, q) else msgQRcvLoop q

/-- `msg_q_unblock`. -/
def msgQUnblock (q : MsgQ α) : MsgQErr × MsgQ α :=
  if q.unblocked then (.unavailableResource, q) else (.success, { q with unblocked := true })

/-- `msg_q_flush`, with the messages that are deallocated. -/
def msgQFlush (q : MsgQ α) : List α × MsgQ α :=
  let (deallocated, msgList) := linkedListFlush q.msgList
  (deallocated, { q with msgList := msgList })

/-- `msg_q_destroy`: the messages that are deallocated by the flush in `linked_list_destroy`. -/
def msgQDestroy (q : MsgQ α) : List α := (linkedListFlush q.msgList).1

namespace MsgQ

/-- The queue holds the messages `xs`, oldest first, each with whether it is deallocated. -/
def Holds (q : MsgQ α) (xs : List (α × Bool)) : Prop := ∃ nodes, q.msgList.Spells nodes xs.reverse

theorem holds_init : (msgQInit : MsgQ α).Holds [] := ⟨[], ListState.spells_init⟩

variable {q : MsgQ α} {xs : List (α × Bool)}

theorem Holds.empty_iff (h : q.Holds xs) : linkedListEmpty q.msgList = true ↔ xs = [] := by
  obtain ⟨nodes, h⟩ := h
  rw [linkedListEmpty, Option.isNone_iff_eq_none, h.pHead_eq_none_iff, List.reverse_eq_nil_iff]

/-- **What a send does**: it succeeds and puts the message behind the others, or it fails and
changes nothing. -/
theorem Holds.snd (h : q.Holds xs) (malloc : Option ℕ) (msgObj : Option α) (dealloc : Bool) :
    (∃ a q', msgObj = some a ∧ malloc.isSome ∧ q.unblocked = false ∧
      msgQSnd malloc msgObj dealloc q = (.success, q', true) ∧ q'.unblocked = false ∧
      q'.Holds (xs ++ [(a, dealloc)])) ∨
    ∃ rv signal, rv ≠ .success ∧ (msgObj = none ∨ malloc = none ∨ q.unblocked = true) ∧
      msgQSnd malloc msgObj dealloc q = (rv, q, signal) := by
  obtain ⟨nodes, h⟩ := h
  unfold msgQSnd
  cases msgObj with
  | none => exact .inr ⟨.invalidParameter, false, by decide, .inl rfl, rfl⟩
  | some a =>
    by_cases hu : q.unblocked = true
    · exact .inr ⟨.unavailableResource, false, by decide, .inr (.inr hu), if_pos hu⟩
    · have hu' : q.unblocked = false := Bool.eq_false_iff.mpr hu
      simp only [Option.isNone_some, Bool.false_eq_true, if_false, if_neg hu]
      cases malloc with
      | none => exact .inr ⟨.failureGeneral, true, by decide, .inr (.inl rfl), rfl⟩
      | some wish =>
        obtain ⟨l', hadd, h'⟩ := h.add wish a dealloc
        refine .inl ⟨a, { q with msgList := l' }, rfl, rfl, hu', ?_, hu', q.msgList.malloc wish :: nodes, ?_⟩
        · rw [hadd]
          rfl
        · rw [List.reverse_append]
          exact h'

/-- **What a receive does at the test of its loop**: it waits, takes the oldest message, or
finds the queue unblocked. -/
theorem Holds.rcvLoop (h : q.Holds xs) :
    (xs = [] ∧ q.unblocked = false ∧ msgQRcvLoop q = (.wait, q)) ∨
    (xs = [] ∧ q.unblocked = true ∧ msgQRcvLoop q = (.ret .unavailableResource none, q)) ∨
    ∃ x xs' q', xs = x :: xs' ∧ msgQRcvLoop q = (.ret .success (some x.1), q') ∧
      q'.unblocked = q.unblocked ∧ q'.Holds xs' := by
  have hempty := h.empty_iff
  obtain ⟨nodes, h⟩ := h
  unfold msgQRcvLoop
  rcases h.remove with ⟨hnil, hrm⟩ | ⟨ys, x, nodes', l', hys, hrm, h'⟩
  · rw [List.reverse_eq_nil_iff] at hnil
    by_cases hu : q.unblocked = true
    · refine .inr (.inl ⟨hnil, hu, ?_⟩)
      rw [if_neg (by simp [hu]), hrm]
      rfl
    · refine .inl ⟨hnil, Bool.eq_false_iff.mpr hu, if_pos ?_⟩
      rw [hempty.mpr hnil, Bool.eq_false_iff.mpr hu]
      rfl
  · have hxs : xs = x :: ys.reverse := by
      rw [← xs.reverse_reverse, hys]
      simp
    have hne : linkedListEmpty q.msgList = false := by
      rw [Bool.eq_false_iff, ne_eq, hempty, hxs]
      simp
    refine .inr (.inr ⟨x, ys.reverse, { q with msgList := l' }, hxs, ?_, rfl, nodes', ?_⟩)
    · rw [hne, hrm]
      rfl
    · rw [List.reverse_reverse]
      exact h'

/-- **What a receive does when it starts**. -/
theorem Holds.rcv (h : q.Holds xs) :
    (xs = [] ∧ q.unblocked = false ∧ msgQRcv q = (.wait, q)) ∨
    (q.unblocked = true ∧ msgQRcv q = (.ret .unavailableResource none, q)) ∨
    ∃ x xs' q', xs = x :: xs' ∧ q.unblocked = false ∧ msgQRcv q = (.ret .success (some x.1), q') ∧
      q'.unblocked = false ∧ q'.Holds xs' := by
  unfold msgQRcv
  cases hu : q.unblocked with
  | true => exact .inr (.inl ⟨rfl, rfl⟩)
  | false =>
    rcases h.rcvLoop with ⟨hnil, -, hloop⟩ | ⟨-, hu', -⟩ | ⟨x, xs', q', hxs, hloop, hq', h'⟩
    · exact .inl ⟨hnil, rfl, hloop⟩
    · rw [hu] at hu'
      cases hu'
    · exact .inr (.inr ⟨x, xs', q', hxs, rfl, hloop, hq'.trans hu, h'⟩)

theorem Holds.unblock (h : q.Holds xs) : (msgQUnblock q).2.Holds xs := by
  unfold msgQUnblock
  split <;> exact h

/-- A flush deallocates every message that it is told to, and leaves none. -/
theorem Holds.flush (h : q.Holds xs) :
    ∃ q', msgQFlush q = (((xs.filter Prod.snd).map Prod.fst).reverse, q') ∧
      q'.unblocked = q.unblocked ∧ q'.Holds [] := by
  obtain ⟨nodes, h⟩ := h
  obtain ⟨l', hflush, h'⟩ := h.flush
  refine ⟨{ q with msgList := l' }, ?_, rfl, [], h'⟩
  rw [msgQFlush, hflush, List.filter_reverse, List.map_reverse]

/-- The destruction of a queue deallocates every message that it is told to. -/
theorem Holds.destroy (h : q.Holds xs) :
    msgQDestroy q = ((xs.filter Prod.snd).map Prod.fst).reverse := by
  obtain ⟨nodes, h⟩ := h
  obtain ⟨l', hflush, -⟩ := h.flush
  rw [msgQDestroy, hflush, List.filter_reverse, List.map_reverse]

/-! ### The users of a queue -/

/-- A receive that is blocked in `pthread_cond_wait`, and whether it has been signalled. -/
structure Waiter where
  rcv : ℕ
  signalled : Bool
  deriving DecidableEq, Repr

/-- What a call on the queue has returned. -/
inductive Event (α : Type*)
  | snd (rv : MsgQErr) (msgObj : Option α)
  | rcv (rcv : ℕ) (rv : MsgQErr) (msgObj : Option α)
  | unblock (rv : MsgQErr)
  deriving DecidableEq, Repr

/-- A queue and its users: the receives are numbered as they start, `log` is what has been
returned, oldest first. -/
structure Users (α : Type*) where
  q : MsgQ α
  waiters : List Waiter
  started : ℕ
  log : List (Event α)
  deriving DecidableEq

namespace Users

def init : Users α := ⟨msgQInit, [], 0, []⟩

/-- `pthread_cond_signal`: one receive that waits and has not been signalled, if there is one;
the one at `pick`, if that is one. -/
def signal (pick : ℕ) (waiters : List Waiter) : List Waiter :=
  let waits (w : Waiter) : Bool := !w.signalled
  waiters.modify (if waiters[pick]?.any waits then pick else waiters.findIdx waits)
    fun w => { w with signalled := true }

/-- `pthread_cond_broadcast`. -/
def broadcast (waiters : List Waiter) : List Waiter := waiters.map fun w => ⟨w.rcv, true⟩

/-- A receive waits or returns. -/
def settle (rcv : ℕ) (r : RcvResult α × MsgQ α) (s : Users α) : Users α :=
  match r with
  | (.wait, q) => { s with q := q, waiters := s.waiters ++ [⟨rcv, false⟩] }
  | (.ret rv msgObj, q) => { s with q := q, log := s.log ++ [.rcv rcv rv msgObj] }

/-- What the threads can do.  `pick` is the choice of a receive that waits: the one that a
signal wakes, or the one that gets the mutex back, having been signalled or not. -/
inductive Input (α : Type*)
  | snd (malloc : Option ℕ) (msgObj : Option α) (dealloc : Bool) (pick : ℕ)
  | rcv
  | wake (pick : ℕ)
  | unblock
  deriving DecidableEq, Repr

/-- One step. -/
def step (s : Users α) : Input α → Users α
  | .snd malloc msgObj dealloc pick =>
    let (rv, q, signals) := msgQSnd malloc msgObj dealloc s.q
    { s with
      q := q
      waiters := if signals then signal pick s.waiters else s.waiters
      log := s.log ++ [.snd rv msgObj] }
  | .rcv => { s with started := s.started + 1 }.settle s.started (msgQRcv s.q)
  | .wake pick =>
    match s.waiters[pick]? with
    | some w => { s with waiters := s.waiters.eraseIdx pick }.settle w.rcv (msgQRcvLoop s.q)
    | none => s
  | .unblock =>
    let (rv, q) := msgQUnblock s.q
    { s with
      q := q
      waiters := if rv = .success then broadcast s.waiters else s.waiters
      log := s.log ++ [.unblock rv] }

/-! ### What a queue hands on -/

/-- The objects of the sends that succeeded, in the order of their sections. -/
def accepted (log : List (Event α)) : List (Option α) :=
  log.filterMap fun
    | .snd .success msgObj => some msgObj
    | _ => none

/-- The objects of the receives that succeeded, in the order of their sections. -/
def returned (log : List (Event α)) : List (Option α) :=
  log.filterMap fun
    | .rcv _ .success msgObj => some msgObj
    | _ => none

section Log

variable (log : List (Event α)) (rcv : ℕ) (rv : MsgQErr) (msgObj : Option α)

@[simp] theorem accepted_snd_success :
    accepted (log ++ [.snd .success msgObj]) = accepted log ++ [msgObj] := by
  simp [accepted]

@[simp] theorem accepted_rcv : accepted (log ++ [.rcv rcv rv msgObj]) = accepted log := by
  simp [accepted]

@[simp] theorem accepted_unblock : accepted (log ++ [.unblock rv]) = accepted log := by
  simp [accepted]

@[simp] theorem returned_rcv_success :
    returned (log ++ [.rcv rcv .success msgObj]) = returned log ++ [msgObj] := by
  simp [returned]

@[simp] theorem returned_snd : returned (log ++ [.snd rv msgObj]) = returned log := by
  simp [returned]

@[simp] theorem returned_unblock : returned (log ++ [.unblock rv]) = returned log := by
  simp [returned]

variable {rv}

theorem accepted_snd_failure (hrv : rv ≠ .success) :
    accepted (log ++ [.snd rv msgObj]) = accepted log := by
  cases rv <;> simp [accepted] at hrv ⊢

theorem returned_rcv_failure (hrv : rv ≠ .success) :
    returned (log ++ [.rcv rcv rv msgObj]) = returned log := by
  cases rv <;> simp [returned] at hrv ⊢

end Log

/-- A signal wakes receives; it makes none. -/
theorem mem_signal {pick : ℕ} {waiters : List Waiter} {w : Waiter} (h : w ∈ signal pick waiters) :
    ∃ w' ∈ waiters, w'.rcv = w.rcv := by
  obtain ⟨k, hk⟩ := List.mem_iff_getElem?.mp h
  rw [signal, List.getElem?_modify] at hk
  obtain ⟨w', hw', rfl⟩ := Option.map_eq_some_iff.mp hk
  refine ⟨w', List.mem_of_getElem? hw', ?_⟩
  rw [apply_ite Waiter.rcv, ite_self]

theorem mem_broadcast {waiters : List Waiter} {w : Waiter} (h : w ∈ broadcast waiters) :
    ∃ w' ∈ waiters, w'.rcv = w.rcv := by
  obtain ⟨w', hw', rfl⟩ := List.mem_map.mp h
  exact ⟨w', hw', rfl⟩

/-- The queue holds `xs`, which is what was accepted and has not been returned. -/
structure HandsOn (s : Users α) (xs : List (α × Bool)) : Prop where
  holds : s.q.Holds xs
  accepted_eq : accepted s.log = returned s.log ++ xs.map fun x => some x.1
  unblocked : .unblock .success ∈ s.log → s.q.unblocked = true
  lt_started : ∀ rcv rv msgObj, .rcv rcv rv msgObj ∈ s.log → rcv < s.started
  waiter_lt_started : ∀ w ∈ s.waiters, w.rcv < s.started

/-- No receive that starts as the `n`th or later has a message, and what was accepted is `log`. -/
structure Shut (n : ℕ) (sent : List (Option α)) (s : Users α) : Prop where
  unblocked : s.q.unblocked = true
  accepted_eq : accepted s.log = sent
  le_started : n ≤ s.started
  waiter_lt : ∀ w ∈ s.waiters, w.rcv < n
  lt_of_success : ∀ rcv msgObj, .rcv rcv .success msgObj ∈ s.log → rcv < n

variable {s : Users α}

theorem handsOn_init : (init : Users α).HandsOn [] := by
  refine ⟨holds_init, rfl, ?_, ?_, ?_⟩ <;> simp [init]

/-- A receive that has not started before keeps what is promised of the numbers. -/
theorem HandsOn.start (h : s.HandsOn xs) : { s with started := s.started + 1 }.HandsOn xs :=
  ⟨h.holds, h.accepted_eq, h.unblocked,
    fun rcv rv msgObj hmem => Nat.lt_succ_of_lt (h.lt_started rcv rv msgObj hmem),
    fun w hw => Nat.lt_succ_of_lt (h.waiter_lt_started w hw)⟩

theorem HandsOn.eraseIdx (h : s.HandsOn xs) (k : ℕ) :
    { s with waiters := s.waiters.eraseIdx k }.HandsOn xs :=
  ⟨h.holds, h.accepted_eq, h.unblocked, h.lt_started,
    fun w hw => h.waiter_lt_started w (List.mem_of_mem_eraseIdx hw)⟩

/-- What a receive comes to keeps the order. -/
theorem HandsOn.settle (h : s.HandsOn xs) {n : ℕ} (hn : n < s.started)
    {r : RcvResult α × MsgQ α}
    (hr : r = (.wait, s.q) ∨ r = (.ret .unavailableResource none, s.q) ∨
      ∃ x xs' q', xs = x :: xs' ∧ r = (.ret .success (some x.1), q') ∧
        q'.unblocked = s.q.unblocked ∧ q'.Holds xs') :
    ∃ xs', (s.settle n r).HandsOn xs' := by
  -- the log grows by one return of the `n`th receive
  have hlog : ∀ (rv : MsgQErr) (obj : Option α) (m : ℕ) (rv' : MsgQErr) (obj' : Option α),
      .rcv m rv' obj' ∈ s.log ++ [.rcv n rv obj] → m < s.started := by
    intro rv obj m rv' obj' hmem
    rcases List.mem_append.mp hmem with hmem | hmem
    · exact h.lt_started m rv' obj' hmem
    · cases List.mem_singleton.mp hmem
      exact hn
  rcases hr with rfl | rfl | ⟨x, xs', q', rfl, rfl, hq', h'⟩
  · refine ⟨xs, h.holds, h.accepted_eq, h.unblocked, h.lt_started, ?_⟩
    intro w hw
    rcases List.mem_append.mp hw with hw | hw
    · exact h.waiter_lt_started w hw
    · cases List.mem_singleton.mp hw
      exact hn
  · refine ⟨xs, h.holds, ?_, ?_, hlog _ _, h.waiter_lt_started⟩
    · show accepted (s.log ++ _) = returned (s.log ++ _) ++ _
      rw [accepted_rcv, returned_rcv_failure _ _ _ (by decide)]
      exact h.accepted_eq
    · intro hmem
      exact h.unblocked (by simpa [Users.settle] using hmem)
  · refine ⟨xs', h', ?_, ?_, hlog _ _, h.waiter_lt_started⟩
    · show accepted (s.log ++ _) = returned (s.log ++ _) ++ _
      rw [accepted_rcv, returned_rcv_success, h.accepted_eq]
      simp
    · intro hmem
      exact hq'.trans (h.unblocked (by simpa [Users.settle] using hmem))

theorem HandsOn.snd (h : s.HandsOn xs) (malloc : Option ℕ) (msgObj : Option α) (dealloc : Bool)
    (pick : ℕ) : ∃ xs', (s.step (.snd malloc msgObj dealloc pick)).HandsOn xs' := by
  have hwait : ∀ (b : Bool), ∀ w ∈ (if b then signal pick s.waiters else s.waiters),
      w.rcv < s.started := by
    intro b w hw
    cases b with
    | false => exact h.waiter_lt_started w hw
    | true =>
      obtain ⟨w', hw', heq⟩ := mem_signal hw
      exact heq ▸ h.waiter_lt_started w' hw'
  rcases h.holds.snd malloc msgObj dealloc with
    ⟨a, q', rfl, -, hu, hsnd, hu', h'⟩ | ⟨rv, signals, hrv, -, hsnd⟩
  · simp only [step, hsnd]
    refine ⟨_, h', ?_, ?_, ?_, hwait true⟩
    · rw [accepted_snd_success, returned_snd, h.accepted_eq]
      simp
    · intro hmem
      have hunb := h.unblocked (by simpa using hmem)
      rw [hu] at hunb
      cases hunb
    · intro rcv rv msgObj hmem
      exact h.lt_started rcv rv msgObj (by simpa using hmem)
  · simp only [step, hsnd]
    refine ⟨xs, h.holds, ?_, ?_, ?_, hwait signals⟩
    · rw [accepted_snd_failure _ _ hrv, returned_snd]
      exact h.accepted_eq
    · intro hmem
      exact h.unblocked (by simpa using hmem)
    · intro rcv rv msgObj hmem
      exact h.lt_started rcv rv msgObj (by simpa using hmem)

theorem HandsOn.unblock (h : s.HandsOn xs) : (s.step .unblock).HandsOn xs := by
  have hlog : ∀ rv m rv' (obj' : Option α),
      .rcv m rv' obj' ∈ s.log ++ [.unblock rv] → m < s.started := by
    intro rv m rv' obj' hmem
    exact h.lt_started m rv' obj' (by simpa using hmem)
  have haccepted : ∀ rv, accepted (s.log ++ [.unblock rv]) =
      returned (s.log ++ [.unblock rv]) ++ xs.map fun x => some x.1 := by
    intro rv
    rw [accepted_unblock, returned_unblock]
    exact h.accepted_eq
  by_cases hu : s.q.unblocked = true
  · simp only [step, msgQUnblock, if_pos hu]
    exact ⟨h.holds, haccepted _, fun _ => hu, hlog _, h.waiter_lt_started⟩
  · simp only [step, msgQUnblock, if_neg hu]
    refine ⟨h.holds, haccepted _, fun _ => rfl, hlog _, ?_⟩
    intro w hw
    obtain ⟨w', hw', heq⟩ := mem_broadcast hw
    exact heq ▸ h.waiter_lt_started w' hw'

/-- **One step hands on in order**. -/
theorem HandsOn.step (h : s.HandsOn xs) (i : Input α) : ∃ xs', (s.step i).HandsOn xs' := by
  cases i with
  | snd malloc msgObj dealloc pick => exact h.snd malloc msgObj dealloc pick
  | rcv =>
    refine h.start.settle (Nat.lt_succ_self _) ?_
    rcases h.holds.rcv with ⟨-, -, hrcv⟩ | ⟨-, hrcv⟩ | ⟨x, xs', q', hxs, hu, hrcv, hu', h'⟩
    · exact .inl hrcv
    · exact .inr (.inl hrcv)
    · exact .inr (.inr ⟨x, xs', q', hxs, hrcv, hu'.trans hu.symm, h'⟩)
  | wake pick =>
    cases hw : s.waiters[pick]? with
    | none =>
      simp only [Users.step, hw]
      exact ⟨xs, h⟩
    | some w =>
      simp only [Users.step, hw]
      refine (h.eraseIdx pick).settle (h.waiter_lt_started w (List.mem_of_getElem? hw)) ?_
      rcases h.holds.rcvLoop with ⟨-, -, hloop⟩ | ⟨-, -, hloop⟩ | hloop
      · exact .inl hloop
      · exact .inr (.inl hloop)
      · exact .inr (.inr hloop)
  | unblock => exact ⟨xs, h.unblock⟩

/-- **A successful unblock shuts the queue**: the receives that are still waiting take what is
left, and no other receive takes anything. -/
theorem HandsOn.shut (h : s.HandsOn xs) (hlog : .unblock .success ∈ s.log) :
    s.Shut s.started (accepted s.log) :=
  ⟨h.unblocked hlog, rfl, le_rfl, h.waiter_lt_started,
    fun rcv msgObj hmem => h.lt_started rcv .success msgObj hmem⟩

theorem Shut.settle {n m : ℕ} {sent : List (Option α)} (h : s.Shut n sent)
    {r : RcvResult α × MsgQ α}
    (hr : r = (.ret .unavailableResource none, s.q) ∨
      m < n ∧ ∃ obj q', r = (.ret .success obj, q') ∧ q'.unblocked = s.q.unblocked) :
    (s.settle m r).Shut n sent := by
  rcases hr with rfl | ⟨hm, obj, q', rfl, hq'⟩
  · refine ⟨h.unblocked, (accepted_rcv _ _ _ _).trans h.accepted_eq, h.le_started, h.waiter_lt, ?_⟩
    intro rcv msgObj hmem
    exact h.lt_of_success rcv msgObj (by simpa [Users.settle] using hmem)
  · refine ⟨hq'.trans h.unblocked, (accepted_rcv _ _ _ _).trans h.accepted_eq, h.le_started,
      h.waiter_lt, ?_⟩
    intro rcv msgObj hmem
    rcases List.mem_append.mp hmem with hmem | hmem
    · exact h.lt_of_success rcv msgObj hmem
    · cases List.mem_singleton.mp hmem
      exact hm

/-- **A shut queue stays shut**. -/
theorem Shut.step {n : ℕ} {sent : List (Option α)} (hs : s.Shut n sent) (h : s.HandsOn xs)
    (i : Input α) : (s.step i).Shut n sent := by
  have hu := hs.unblocked
  cases i with
  | snd malloc msgObj dealloc pick =>
    rcases h.holds.snd malloc msgObj dealloc with
      ⟨a, q', -, -, hu', -⟩ | ⟨rv, signals, hrv, -, hsnd⟩
    · rw [hu] at hu'
      cases hu'
    · simp only [Users.step, hsnd]
      refine ⟨hu, (accepted_snd_failure _ _ hrv).trans hs.accepted_eq, hs.le_started, ?_, ?_⟩
      · intro w hw
        cases signals with
        | false => exact hs.waiter_lt w hw
        | true =>
          obtain ⟨w', hw', heq⟩ := mem_signal hw
          exact heq ▸ hs.waiter_lt w' hw'
      · intro rcv msgObj' hmem
        exact hs.lt_of_success rcv msgObj' (by simpa using hmem)
  | rcv =>
    have hstart : ({ s with started := s.started + 1 } : Users α).Shut n sent :=
      ⟨hu, hs.accepted_eq, Nat.le_succ_of_le hs.le_started, hs.waiter_lt, hs.lt_of_success⟩
    exact hstart.settle (.inl (if_pos hu))
  | wake pick =>
    cases hw : s.waiters[pick]? with
    | none =>
      simp only [Users.step, hw]
      exact hs
    | some w =>
      simp only [Users.step, hw]
      have herase : ({ s with waiters := s.waiters.eraseIdx pick } : Users α).Shut n sent :=
        ⟨hu, hs.accepted_eq, hs.le_started,
          fun w hw => hs.waiter_lt w (List.mem_of_mem_eraseIdx hw), hs.lt_of_success⟩
      refine herase.settle ?_
      rcases h.holds.rcvLoop with ⟨-, hu', -⟩ | ⟨-, -, hloop⟩ | ⟨x, xs', q', -, hloop, hq', -⟩
      · rw [hu] at hu'
        cases hu'
      · exact .inl hloop
      · exact .inr ⟨hs.waiter_lt w (List.mem_of_getElem? hw), _, q', hloop, hq'⟩
  | unblock =>
    simp only [Users.step, msgQUnblock, if_pos hu]
    refine ⟨hu, (accepted_unblock _ _).trans hs.accepted_eq, hs.le_started, hs.waiter_lt, ?_⟩
    intro rcv msgObj hmem
    exact hs.lt_of_success rcv msgObj (by simpa using hmem)

/-- **A run hands on in order**. -/
theorem handsOn_exec (inputs : List (Input α)) : ∃ xs, (exec step init inputs).HandsOn xs := by
  have hstep : ∀ (s : Users α) i, (∃ xs, s.HandsOn xs) → ∃ xs, (s.step i).HandsOn xs := by
    rintro s i ⟨xs, h⟩
    exact h.step i
  exact exec_inv hstep inputs init ⟨[], handsOn_init⟩

theorem shut_exec {n : ℕ} {sent : List (Option α)} (inputs : List (Input α))
    (hs : s.Shut n sent) (h : s.HandsOn xs) : (exec step s inputs).Shut n sent := by
  have hstep : ∀ (s : Users α) i, (∃ xs, s.HandsOn xs) ∧ s.Shut n sent →
      (∃ xs, (s.step i).HandsOn xs) ∧ (s.step i).Shut n sent := by
    rintro s i ⟨⟨xs, h⟩, hs⟩
    exact ⟨h.step i, hs.step h i⟩
  exact (exec_inv hstep inputs s ⟨⟨xs, h⟩, hs⟩).2

/-- **First in, first out**: in every run, what the receives have returned is the beginning of
what the sends have put in.  After an unblock that succeeds no send succeeds, and of the
receives that start then none. -/
theorem fifo_exec (inputs : List (Input α)) :
    let s := exec step init inputs
    returned s.log <+: accepted s.log ∧
    (.unblock .success ∈ s.log → ∀ later : List (Input α),
      let s' := exec step s later
      accepted s'.log = accepted s.log ∧
      ∀ rcv msgObj, s.started ≤ rcv → .rcv rcv .success msgObj ∉ s'.log) := by
  obtain ⟨xs, h⟩ := handsOn_exec (α := α) inputs
  refine ⟨⟨_, h.accepted_eq.symm⟩, ?_⟩
  intro hlog later
  have hs := shut_exec later (h.shut hlog) h
  refine ⟨hs.accepted_eq, ?_⟩
  intro rcv msgObj hrcv hmem
  exact absurd (hs.lt_of_success rcv msgObj hmem) (by omega)

end Users
end MsgQ
end Nx507j
