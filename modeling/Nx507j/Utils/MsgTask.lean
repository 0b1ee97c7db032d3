import Mathlib.Data.List.Perm.Subperm
import Mathlib.Data.List.Nodup
import Nx507j.Utils.MsgQ

/-!
# The message task

`MsgTask.cpp`, on the thread of `LocThread.cpp`: any thread puts messages into the queue, the
task's own thread takes them out, runs and deletes them, and `destroy()` ends the task.  The
parts of these between which another thread can run are steps of their own.

The messages are numbered as they are handed to `sendMsg`.  A run is followed up to the end of
the destructor: what `destroy()` still does when the thread has deleted the object is not.

## Main definitions

* `MsgTask`, `MsgTask.step` — a task with its thread and the thread that destroys it.
* `MsgTask.history` — what has been done with a message.
* `MsgTask.Accepts` — the queue takes a message that is sent now.

## Main results

* `MsgTask.disposed_exec_iff` — when the destructor has returned, every message has been disposed
  of exactly once, if and only if the queue has taken every message.
* `MsgTask.not_disposed_unblocked` — a message that is sent after `msg_q_unblock` is never deleted.
-/

namespace Nx507j

open Run

/-! ### Data -/

namespace MsgTask

/-- Where the thread of the task is: before `threadMain` looks at the runnable, before the test of
the loop, in `run()` with or without the message that it has received, or in the destructor. -/
inductive Phase
  | start
  | loop
  | run
  | waiting
  | received (msg : ℕ)
  | proced (msg : ℕ)
  | leave
  | flushed
  | ended
  deriving DecidableEq, Repr

/-- Where the thread that calls `destroy()` is. -/
inductive Destroyer
  | idle
  | unblocked
  | deleteThread
  | deleteThis
  | flushed
  | left
  deriving DecidableEq, Repr

/-- What is done with a message: `proc()` runs, `run()` deletes it, a flush deletes it. -/
inductive Deed
  | proc
  | delete
  | flush
  deriving DecidableEq, Repr

end MsgTask

open MsgTask in
/-- A `MsgTask` with its thread, the messages that it has been handed, and what has been done with
which.  `mRunnable` and `mJoinable` are the thread's; `gone` when the destructor has returned. -/
structure MsgTask where
  mQ : Option (MsgQ ℕ)
  mThread : Bool
  mJoinable : Bool
  mRunnable : Bool
  thread : Phase
  destroyer : Destroyer
  gone : Bool
  fault : Bool
  handed : ℕ
  log : List (ℕ × Deed)
  deriving DecidableEq

namespace MsgTask

/-- `MsgTask::MsgTask`; whether `msg_q_init2` and `LocThread::start` succeed is not up to it. -/
def init (queueCreated threadCreated joinable : Bool) : MsgTask where
  mQ := if queueCreated then some msgQInit else none
  mThread := threadCreated
  mJoinable := joinable
  mRunnable := threadCreated
  thread := if threadCreated then .start else .ended
  destroyer := .idle
  gone := false
  fault := false
  handed := 0
  log := []

/-! ### Steps -/

/-- `MsgTask::sendMsg`, which does not look at what `msg_q_snd` returns. -/
def sendMsg (malloc : Option ℕ) (s : MsgTask) : MsgTask :=
  { s with
    mQ := s.mQ.map fun q => (msgQSnd malloc (some s.handed) true q).2.1
    handed := s.handed + 1 }

/-- The call of `msg_q_flush` in `MsgTask::~MsgTask`. -/
def flush (s : MsgTask) : MsgTask :=
  match s.mQ with
  | none => s
  | some q =>
    let (deallocated, q) := msgQFlush q
    { s with mQ := some q, log := s.log ++ deallocated.map fun m => (m, .flush) }

/-- The call of `msg_q_destroy` in `MsgTask::~MsgTask`; it looks into a queue that was never made. -/
def destroyQ (s : MsgTask) : MsgTask :=
  match s.mQ with
  | none => { s with fault := true }
  | some q =>
    { s with
      mQ := none
      gone := true
      log := s.log ++ (msgQDestroy q).map fun m => (m, .flush) }

/-- What the receive in `MsgTask::run` comes to. -/
def rcv (r : RcvResult ℕ × MsgQ ℕ) (s : MsgTask) : MsgTask :=
  match r with
  | (.wait, q) => { s with mQ := some q, thread := .waiting }
  | (.ret .success (some m), q) => { s with mQ := some q, thread := .received m }
  | (.ret _ _, q) => { s with mQ := some q, thread := .leave }

/-- The next part of `LocThreadDelegate::threadMain` and, in it, of `MsgTask::run` and
`MsgTask::~MsgTask`. -/
def threadMain (s : MsgTask) : MsgTask :=
  match s.thread with
  | .start => { s with thread := if s.mRunnable then .loop else .ended }
  | .loop => { s with thread := if s.mRunnable then .run else .leave }
  | .run =>
    match s.mQ with
    | none => { s with thread := .leave }
    | some q => s.rcv (msgQRcv q)
  | .waiting =>
    match s.mQ with
    | none => s
    | some q => s.rcv (msgQRcvLoop q)
  | .received m => { s with thread := .proced m, log := s.log ++ [(m, .proc)] }
  | .proced m => { s with thread := .loop, log := s.log ++ [(m, .delete)] }
  | .leave => { s.flush with mRunnable := false, thread := .flushed }
  | .flushed => { s.destroyQ with thread := .ended }
  | .ended => s

/-- The next part of `MsgTask::destroy`.  The thread is joined only when it is joinable, and stopped
only then. -/
def destroy (s : MsgTask) : MsgTask :=
  match s.destroyer with
  | .idle => { s with mQ := s.mQ.map fun q => (msgQUnblock q).2, destroyer := .unblocked }
  | .unblocked =>
    if s.mThread then { s with mThread := false, destroyer := .deleteThread }
    else { s with destroyer := .deleteThis }
  | .deleteThread => { s with mRunnable := s.mRunnable && !s.mJoinable, destroyer := .left }
  | .deleteThis => { s.flush with destroyer := .flushed }
  | .flushed => { s.destroyQ with destroyer := .left }
  | .left => s

/-- What can happen next; a message is sent from any thread, and from a `proc()`. -/
inductive Input
  | sendMsg (malloc : Option ℕ)
  | threadMain
  | destroy
  deriving DecidableEq, Repr

/-- One step, as long as there is an object. -/
def step (s : MsgTask) (i : Input) : MsgTask :=
  if s.gone then s
  else
    match i with
    | .sendMsg malloc => s.sendMsg malloc
    | .threadMain => s.threadMain
    | .destroy => s.destroy

/-! ### What is done with a message -/

/-- What has been done with the message `m`, first to last. -/
def history (m : ℕ) (log : List (ℕ × Deed)) : List Deed :=
  (log.filter fun x => x.1 = m).map Prod.snd

/-- Its `proc()` has run and then it was deleted, or a flush has deleted it, and that is all. -/
def Disposed (deeds : List Deed) : Prop := deeds = [.proc, .delete] ∨ deeds = [.flush]

instance (deeds : List Deed) : Decidable (Disposed deeds) := inferInstanceAs (Decidable (_ ∨ _))

/-- The queue takes a message that is sent now: there is a queue, it has not been unblocked, and
there is memory. -/
def Accepts (s : MsgTask) (malloc : Option ℕ) : Prop :=
  malloc.isSome ∧ (s.mQ.any fun q => !q.unblocked) = true

instance (s : MsgTask) (malloc : Option ℕ) : Decidable (s.Accepts malloc) :=
  inferInstanceAs (Decidable (_ ∧ _))

/-- A message that is sent while there is an object is taken by the queue. -/
def SendAccepted (s : MsgTask) : Input → Prop
  | .sendMsg malloc => s.gone = true ∨ s.Accepts malloc
  | _ => True

instance (s : MsgTask) : ∀ i, Decidable (s.SendAccepted i)
  | .sendMsg _ => inferInstanceAs (Decidable (_ ∨ _))
  | .threadMain | .destroy => inferInstanceAs (Decidable True)

section History

variable (m : ℕ)

@[simp] theorem history_append (log log' : List (ℕ × Deed)) :
    history m (log ++ log') = history m log ++ history m log' := by
  simp [history]

theorem history_self (deed : Deed) : history m [(m, deed)] = [deed] := by
  simp [history]

variable {m}

theorem history_of_ne {n : ℕ} (h : n ≠ m) (deed : Deed) : history m [(n, deed)] = [] := by
  simp [history, h]

theorem history_of_notMem {xs : List ℕ} (h : m ∉ xs) (deed : Deed) :
    history m (xs.map fun n => (n, deed)) = [] := by
  rw [history, List.map_eq_nil_iff, List.filter_eq_nil_iff]
  intro x hx
  obtain ⟨n, hn, rfl⟩ := List.mem_map.mp hx
  rw [decide_eq_true_eq]
  rintro rfl
  exact h hn

theorem history_of_mem {xs : List ℕ} (hnodup : xs.Nodup) (h : m ∈ xs) (deed : Deed) :
    history m (xs.map fun n => (n, deed)) = [deed] := by
  obtain ⟨as, bs, rfl⟩ := List.append_of_mem h
  have hm : m ∉ as ++ bs := (List.nodup_middle.mp hnodup).notMem
  rw [List.mem_append, not_or] at hm
  rw [List.map_append, List.map_cons, ← List.singleton_append, history_append, history_append,
    history_of_notMem hm.1, history_of_notMem hm.2, history_self]
  rfl

end History

/-! ### Where the messages are -/

/-- The message that the thread of the task has in hand. -/
def Phase.hand : Phase → List ℕ
  | .received m | .proced m => [m]
  | _ => []

/-- The queue holds the messages `xs`, oldest first; there are none where there is no queue. -/
def Held : Option (MsgQ ℕ) → List ℕ → Prop
  | some q, xs => q.Holds (xs.map fun m => (m, true))
  | none, xs => xs = []

/-- **The account of the messages**: `done` have been disposed of, `xs` are in the queue, oldest
first, `lost` are nowhere. -/
structure Account (s : MsgTask) (done xs lost : List ℕ) : Prop where
  held : Held s.mQ xs
  perm : (done ++ s.thread.hand ++ xs ++ lost).Perm (List.range s.handed)
  disposed : ∀ m ∈ done, Disposed (history m s.log)
  fresh : ∀ m, s.thread = .received m ∨ m ∈ xs ∨ m ∈ lost ∨ s.handed ≤ m → history m s.log = []
  proced : ∀ m, s.thread = .proced m → history m s.log = [.proc]
  ended : s.mThread = false →
    s.destroyer = .deleteThread ∨ s.destroyer = .left ∨ s.thread = .ended
  deleted : s.destroyer = .deleteThis ∨ s.destroyer = .flushed → s.mThread = false
  gone : s.gone = true → s.thread = .ended ∧ s.mQ = none

variable {s : MsgTask} {done xs lost : List ℕ}

theorem account_init (queueCreated threadCreated joinable : Bool) :
    (init queueCreated threadCreated joinable).Account [] [] [] where
  held := by
    cases queueCreated with
    | true => exact MsgQ.holds_init
    | false => rfl
  perm := by cases threadCreated <;> exact List.Perm.refl _
  disposed m hm := absurd hm List.not_mem_nil
  fresh _ _ := rfl
  proced m hm := by cases threadCreated <;> cases hm
  ended hthread := by
    cases threadCreated with
    | true => cases hthread
    | false => exact .inr (.inr rfl)
  deleted hdeleted := by rcases hdeleted with h | h <;> cases h
  gone hgone := by cases hgone

theorem Account.nodup (h : s.Account done xs lost) :
    (done ++ s.thread.hand ++ xs ++ lost).Nodup :=
  h.perm.nodup_iff.mpr List.nodup_range

theorem Account.lt_handed (h : s.Account done xs lost) {m : ℕ}
    (hm : m ∈ done ++ s.thread.hand ++ xs ++ lost) : m < s.handed :=
  List.mem_range.mp (h.perm.mem_iff.mp hm)

theorem Account.nodup_queue (h : s.Account done xs lost) : xs.Nodup :=
  (List.nodup_append.mp (List.nodup_append.mp h.nodup).1).2.1

theorem Account.notMem_queue_of_hand (h : s.Account done xs lost) {m : ℕ}
    (hm : m ∈ s.thread.hand) : m ∉ xs := fun hmx =>
  (List.nodup_append.mp (List.nodup_append.mp h.nodup).1).2.2 m (by simp [hm]) m hmx rfl

theorem Account.notMem_queue_of_lost (h : s.Account done xs lost) {m : ℕ} (hm : m ∈ lost) :
    m ∉ xs := fun hmx => (List.nodup_append.mp h.nodup).2.2 m (by simp [hmx]) m hm rfl

theorem Account.ended_of_ne (h : s.Account done xs lost) (hthread : s.thread ≠ .ended) {p : Phase}
    (hnone : s.mThread = false) :
    s.destroyer = .deleteThread ∨ s.destroyer = .left ∨ p = .ended := by
  rcases h.ended hnone with hleft | hleft | hleft
  · exact .inl hleft
  · exact .inr (.inl hleft)
  · exact absurd hleft hthread

theorem Account.ended_of_destroyer (h : s.Account done xs lost) (hnone : s.mThread = false)
    (hdelete : s.destroyer ≠ .deleteThread) (hleft : s.destroyer ≠ .left) : s.thread = .ended := by
  rcases h.ended hnone with hd | hd | hended
  · exact absurd hd hdelete
  · exact absurd hd hleft
  · exact hended

theorem hand_received {p : Phase} {m : ℕ} (h : p = .received m) : m ∈ p.hand := by
  rw [h]
  exact List.mem_singleton_self m

theorem hand_proced {p : Phase} {m : ℕ} (h : p = .proced m) : m ∈ p.hand := by
  rw [h]
  exact List.mem_singleton_self m

/-- The thread goes on without a message in hand. -/
theorem Account.goOn (h : s.Account done xs lost) (hhand : s.thread.hand = [])
    (hthread : s.thread ≠ .ended) {p : Phase} (hp : p.hand = []) :
    { s with thread := p }.Account done xs lost where
  held := h.held
  perm := by
    have hperm := h.perm
    rw [hhand] at hperm
    rw [hp]
    exact hperm
  disposed := h.disposed
  fresh m hm := by
    rcases hm with rfl | hm
    · cases hp
    · exact h.fresh m (.inr hm)
  proced m hm := by
    cases hm
    cases hp
  ended := h.ended_of_ne hthread
  deleted := h.deleted
  gone hgone := absurd (h.gone hgone).1 hthread

/-- A flush disposes of what is in the queue. -/
theorem Account.flushed (h : s.Account done xs lost) {mQ : Option (MsgQ ℕ)} {gone : Bool}
    (hmQ : ∀ q, mQ = some q → q.Holds []) (hgone : gone = true → s.thread = .ended ∧ mQ = none) :
    { s with
      mQ := mQ
      gone := gone
      log := s.log ++ xs.reverse.map fun m => (m, Deed.flush) }.Account (done ++ xs) [] lost := by
  -- a message that is not in the queue keeps its history
  have hkeep : ∀ {m}, m ∉ xs →
      history m (s.log ++ xs.reverse.map fun m => (m, Deed.flush)) = history m s.log := by
    intro m hm
    rw [history_append, history_of_notMem (by simpa using hm), List.append_nil]
  refine ⟨?_, ?_, ?_, ?_, ?_, h.ended, h.deleted, hgone⟩
  · cases mQ with
    | none => rfl
    | some q => exact hmQ q rfl
  · refine List.Perm.trans ?_ h.perm
    simp only [List.append_nil, List.append_assoc]
    refine List.Perm.append_left _ ?_
    rw [← List.append_assoc, ← List.append_assoc]
    exact List.perm_append_comm.append_right _
  · intro m hm
    by_cases hmx : m ∈ xs
    · right
      show history m (_ ++ _) = _
      rw [history_append, h.fresh m (.inr (.inl hmx)),
        history_of_mem (List.nodup_reverse.mpr h.nodup_queue) (List.mem_reverse.mpr hmx)]
      rfl
    · rcases List.mem_append.mp hm with hm | hm
      · show Disposed (history m (_ ++ _))
        rw [hkeep hmx]
        exact h.disposed m hm
      · exact absurd hm hmx
  · intro m hm
    show history m (_ ++ _) = _
    rcases hm with hm | hm | hm | hm
    · rw [hkeep (h.notMem_queue_of_hand (hand_received hm))]
      exact h.fresh m (.inl hm)
    · exact absurd hm List.not_mem_nil
    · rw [hkeep (h.notMem_queue_of_lost hm)]
      exact h.fresh m (.inr (.inr (.inl hm)))
    · rw [hkeep fun hmx => Nat.not_lt.mpr hm (h.lt_handed (by simp [hmx]))]
      exact h.fresh m (.inr (.inr (.inr hm)))
  · intro m hm
    show history m (_ ++ _) = _
    rw [hkeep (h.notMem_queue_of_hand (hand_proced hm))]
    exact h.proced m hm

/-- Every message in a queue is one that a flush deletes. -/
theorem flush_dealloc (xs : List ℕ) :
    (((xs.map fun m => (m, true)).filter Prod.snd).map Prod.fst).reverse = xs.reverse := by
  rw [List.filter_eq_self.mpr (by simp), List.map_map]
  exact congrArg List.reverse (List.map_id xs)

theorem Account.held_of_eq (h : s.Account done xs lost) {q : MsgQ ℕ} (hq : s.mQ = some q) :
    q.Holds (xs.map fun m => (m, true)) := by
  have hheld := h.held
  rw [hq] at hheld
  exact hheld

theorem Account.queue_eq_nil (h : s.Account done xs lost) (hq : s.mQ = none) : xs = [] := by
  have hheld := h.held
  rw [hq] at hheld
  exact hheld

theorem Account.flush (h : s.Account done xs lost) (hgone : s.gone = false) :
    ∃ done' xs', s.flush.Account done' xs' lost := by
  unfold MsgTask.flush
  cases hq : s.mQ with
  | none => exact ⟨done, xs, h⟩
  | some q =>
    obtain ⟨q', hflush, -, hq'⟩ := (h.held_of_eq hq).flush
    rw [flush_dealloc] at hflush
    simp only [hflush]
    have hempty : ∀ q, some q' = some q → q.Holds [] := by
      rintro q ⟨⟩
      exact hq'
    exact ⟨_, _, h.flushed hempty fun hgone' => absurd (hgone.symm.trans hgone') nofun⟩

theorem Account.destroyQ (h : s.Account done xs lost) (hended : s.thread = .ended) :
    ∃ done' xs', s.destroyQ.Account done' xs' lost := by
  cases hq : s.mQ with
  | none =>
    simp only [MsgTask.destroyQ, hq]
    exact ⟨done, xs, h.queue_eq_nil hq, h.perm, h.disposed, h.fresh, h.proced, h.ended, h.deleted,
      fun hgone => ⟨(h.gone hgone).1, rfl⟩⟩
  | some q =>
    simp only [MsgTask.destroyQ, hq, (h.held_of_eq hq).destroy, flush_dealloc]
    exact ⟨_, _, h.flushed nofun fun _ => ⟨hended, rfl⟩⟩

/-- The thread waits, leaves its loop, or takes the oldest message in hand. -/
theorem Account.rcv (h : s.Account done xs lost) {q : MsgQ ℕ} (hq : s.mQ = some q)
    (hhand : s.thread.hand = []) (hthread : s.thread ≠ .ended) {r : RcvResult ℕ × MsgQ ℕ}
    (hr : r = (.wait, q) ∨ r = (.ret .unavailableResource none, q) ∨
      ∃ x ys q', xs.map (fun m => (m, true)) = x :: ys ∧ r = (.ret .success (some x.1), q') ∧
        q'.Holds ys) :
    ∃ done' xs', (s.rcv r).Account done' xs' lost := by
  rcases hr with rfl | rfl | ⟨x, ys, q', hxs, rfl, hq'⟩
  · simp only [MsgTask.rcv, ← hq]
    exact ⟨done, xs, h.goOn hhand hthread rfl⟩
  · simp only [MsgTask.rcv, ← hq]
    exact ⟨done, xs, h.goOn hhand hthread rfl⟩
  · obtain ⟨m, xs', rfl, rfl, rfl⟩ := List.map_eq_cons_iff.mp hxs
    refine ⟨done, xs', hq', ?_, h.disposed, ?_, nofun, h.ended_of_ne hthread, h.deleted,
      fun hgone => absurd (h.gone hgone).1 hthread⟩
    · have hperm := h.perm
      rw [hhand, List.append_nil] at hperm
      simp only [MsgTask.rcv, Phase.hand]
      rw [List.append_assoc done [m] xs']
      exact hperm
    · intro n hn
      rcases hn with hn | hn | hn
      · cases hn
        exact h.fresh m (.inr (.inl List.mem_cons_self))
      · exact h.fresh n (.inr (.inl (List.mem_cons_of_mem m hn)))
      · exact h.fresh n (.inr (.inr hn))

theorem Account.notMem_of_hand (h : s.Account done xs lost) {m : ℕ} (hm : m ∈ s.thread.hand) :
    m ∉ done ∧ m ∉ xs ∧ m ∉ lost ∧ m < s.handed := by
  refine ⟨fun hmem => ?_, h.notMem_queue_of_hand hm, fun hmem => ?_, h.lt_handed (by simp [hm])⟩
  · have hnodup := (List.nodup_append.mp (List.nodup_append.mp h.nodup).1).1
    exact (List.nodup_append.mp hnodup).2.2 m hmem m hm rfl
  · exact (List.nodup_append.mp h.nodup).2.2 m (by simp [hm]) m hmem rfl

/-- What is done with the message in hand is done with no other one. -/
theorem history_deed {m n : ℕ} (hn : m ≠ n) (deed : Deed) :
    history n (s.log ++ [(m, deed)]) = history n s.log := by
  rw [history_append, history_of_ne hn, List.append_nil]

theorem Account.disposed_deed (h : s.Account done xs lost) {m n : ℕ} (hm : m ∈ s.thread.hand)
    (hn : n ∈ done) (deed : Deed) : Disposed (history n (s.log ++ [(m, deed)])) := by
  have hne : m ≠ n := by
    rintro rfl
    exact (h.notMem_of_hand hm).1 hn
  rw [history_deed hne]
  exact h.disposed n hn

theorem Account.fresh_deed (h : s.Account done xs lost) {m n : ℕ} (hm : m ∈ s.thread.hand)
    (hn : n ∈ xs ∨ n ∈ lost ∨ s.handed ≤ n) (deed : Deed) :
    history n (s.log ++ [(m, deed)]) = [] := by
  obtain ⟨-, hxs, hlost, hlt⟩ := h.notMem_of_hand hm
  have hne : m ≠ n := by
    rintro rfl
    rcases hn with hn | hn | hn
    · exact hxs hn
    · exact hlost hn
    · exact absurd hlt (Nat.not_lt.mpr hn)
  rw [history_deed hne]
  exact h.fresh n (.inr hn)

/-- The `proc()` of the message in hand runs. -/
theorem Account.proc (h : s.Account done xs lost) {m : ℕ} (hm : s.thread = .received m) :
    { s with thread := .proced m, log := s.log ++ [(m, Deed.proc)] }.Account done xs lost := by
  have hhand := hand_received hm
  have hthread : s.thread ≠ .ended := by
    rw [hm]
    nofun
  refine ⟨h.held, ?_, fun n hn => h.disposed_deed hhand hn _, ?_, ?_, h.ended_of_ne hthread,
    h.deleted, fun hgone => absurd (h.gone hgone).1 hthread⟩
  · have hperm := h.perm
    rw [hm] at hperm
    exact hperm
  · intro n hn
    rcases hn with hn | hn
    · cases hn
    · exact h.fresh_deed hhand hn _
  · intro n hn
    cases hn
    show history m (s.log ++ _) = _
    rw [history_append, h.fresh m (.inl hm), history_self]
    rfl

/-- The message in hand is deleted. -/
theorem Account.delete (h : s.Account done xs lost) {m : ℕ} (hm : s.thread = .proced m) :
    { s with thread := .loop, log := s.log ++ [(m, Deed.delete)] }.Account
      (done ++ [m]) xs lost := by
  have hhand := hand_proced hm
  have hthread : s.thread ≠ .ended := by
    rw [hm]
    nofun
  refine ⟨h.held, ?_, ?_, ?_, nofun, h.ended_of_ne hthread, h.deleted,
    fun hgone => absurd (h.gone hgone).1 hthread⟩
  · have hperm := h.perm
    rw [hm] at hperm
    exact (List.append_nil (done ++ [m])).symm ▸ hperm
  · intro n hn
    rcases List.mem_append.mp hn with hn | hn
    · exact h.disposed_deed hhand hn _
    · cases List.mem_singleton.mp hn
      show Disposed (history m (s.log ++ _))
      rw [history_append, h.proced m hm, history_self]
      exact .inl rfl
  · intro n hn
    rcases hn with hn | hn
    · cases hn
    · exact h.fresh_deed hhand hn _

/-- A message is handed over: to the queue, if that takes it. -/
theorem Account.sendMsg (h : s.Account done xs lost) (hgone : s.gone = false)
    (malloc : Option ℕ) :
    ∃ xs' lost', (s.sendMsg malloc).Account done xs' lost' ∧
      (lost' = [] ↔ lost = [] ∧ s.Accepts malloc) := by
  have hrange : List.range (s.handed + 1) = List.range s.handed ++ [s.handed] := List.range_succ
  have hnew := h.fresh s.handed (.inr (.inr (.inr le_rfl)))
  -- the queue does not take it
  have hlost : ∀ mQ, Held mQ xs → ¬ s.Accepts malloc →
      { s with mQ := mQ, handed := s.handed + 1 }.Account done xs (lost ++ [s.handed]) ∧
        (lost ++ [s.handed] = [] ↔ lost = [] ∧ s.Accepts malloc) := by
    intro mQ hheld hno
    refine ⟨⟨hheld, ?_, h.disposed, ?_, h.proced, h.ended, h.deleted, ?_⟩, ?_⟩
    · rw [hrange, ← List.append_assoc]
      exact h.perm.append_right _
    · intro n hn
      rcases hn with hn | hn | hn | hn
      · exact h.fresh n (.inl hn)
      · exact h.fresh n (.inr (.inl hn))
      · rcases List.mem_append.mp hn with hn | hn
        · exact h.fresh n (.inr (.inr (.inl hn)))
        · cases List.mem_singleton.mp hn
          exact hnew
      · exact h.fresh n (.inr (.inr (.inr (Nat.le_of_succ_le hn))))
    · rw [hgone]
      nofun
    · simp [hno]
  cases hq : s.mQ with
  | none =>
    have hno : ¬ s.Accepts malloc := by simp [Accepts, hq]
    simp only [MsgTask.sendMsg, hq]
    exact ⟨xs, _, hlost none (h.queue_eq_nil hq) hno⟩
  | some q =>
    rcases (h.held_of_eq hq).snd malloc (some s.handed) true with
      ⟨m, q', hm, hmalloc, hu, hsnd, -, hq'⟩ | ⟨rv, signals, -, hwhy, hsnd⟩
    · cases hm
      have hyes : s.Accepts malloc := ⟨hmalloc, by simp [hq, hu]⟩
      simp only [MsgTask.sendMsg, hq, Option.map_some, hsnd]
      refine ⟨xs ++ [s.handed], lost, ⟨?_, ?_, h.disposed, ?_, h.proced, h.ended, h.deleted, ?_⟩,
        (and_iff_left hyes).symm⟩
      · simpa [Held] using hq'
      · rw [hrange]
        refine List.Perm.trans ?_ (h.perm.append_right _)
        simp only [List.append_assoc]
        exact ((List.perm_append_comm.append_left _).append_left _).append_left _
      · intro n hn
        rcases hn with hn | hn | hn | hn
        · exact h.fresh n (.inl hn)
        · rcases List.mem_append.mp hn with hn | hn
          · exact h.fresh n (.inr (.inl hn))
          · cases List.mem_singleton.mp hn
            exact hnew
        · exact h.fresh n (.inr (.inr (.inl hn)))
        · exact h.fresh n (.inr (.inr (.inr (Nat.le_of_succ_le hn))))
      · rw [hgone]
        nofun
    · have hno : ¬ s.Accepts malloc := by
        rintro ⟨hmalloc, hu⟩
        rcases hwhy with hwhy | hwhy | hwhy
        · cases hwhy
        · rw [hwhy] at hmalloc
          cases hmalloc
        · simp [hq, hwhy] at hu
      simp only [MsgTask.sendMsg, hq, Option.map_some, hsnd]
      exact ⟨xs, _, hlost (some q) (h.held_of_eq hq) hno⟩

theorem flush_eq (s : MsgTask) : ∃ mQ log, s.flush = { s with mQ := mQ, log := log } := by
  unfold MsgTask.flush
  cases s.mQ with
  | none => exact ⟨_, _, rfl⟩
  | some q => exact ⟨_, _, rfl⟩

theorem destroyQ_thread (s : MsgTask) (p : Phase) :
    { s.destroyQ with thread := p } = { s with thread := p }.destroyQ := by
  unfold MsgTask.destroyQ
  cases s.mQ <;> rfl

/-- **One part of the task's thread loses no message**. -/
theorem Account.threadMain (h : s.Account done xs lost) (hgone : s.gone = false) :
    ∃ done' xs', s.threadMain.Account done' xs' lost := by
  unfold MsgTask.threadMain
  cases ht : s.thread with
  | start =>
    refine ⟨done, xs, h.goOn (by rw [ht]; rfl) (by rw [ht]; nofun) ?_⟩
    split <;> rfl
  | loop =>
    refine ⟨done, xs, h.goOn (by rw [ht]; rfl) (by rw [ht]; nofun) ?_⟩
    split <;> rfl
  | run =>
    cases hq : s.mQ with
    | none =>
      simp only [← hq]
      exact ⟨done, xs, h.goOn (by rw [ht]; rfl) (by rw [ht]; nofun) rfl⟩
    | some q =>
      refine h.rcv hq (by rw [ht]; rfl) (by rw [ht]; nofun) ?_
      rcases (h.held_of_eq hq).rcv with
        ⟨-, -, hrcv⟩ | ⟨-, hrcv⟩ | ⟨x, ys, q', hxs, -, hrcv, -, hq'⟩
      · exact .inl hrcv
      · exact .inr (.inl hrcv)
      · exact .inr (.inr ⟨x, ys, q', hxs, hrcv, hq'⟩)
  | waiting =>
    cases hq : s.mQ with
    | none => exact ⟨done, xs, h⟩
    | some q =>
      refine h.rcv hq (by rw [ht]; rfl) (by rw [ht]; nofun) ?_
      rcases (h.held_of_eq hq).rcvLoop with
        ⟨-, -, hloop⟩ | ⟨-, -, hloop⟩ | ⟨x, ys, q', hxs, hloop, -, hq'⟩
      · exact .inl hloop
      · exact .inr (.inl hloop)
      · exact .inr (.inr ⟨x, ys, q', hxs, hloop, hq'⟩)
  | received m => exact ⟨done, xs, h.proc ht⟩
  | proced m => exact ⟨_, xs, h.delete ht⟩
  | leave =>
    obtain ⟨done', xs', h'⟩ := h.flush hgone
    have hthread : s.flush.thread = .leave := by
      obtain ⟨mQ, log, heq⟩ := flush_eq s
      rw [heq]
      exact ht
    have h'' := h'.goOn (p := .flushed) (by rw [hthread]; rfl) (by rw [hthread]; nofun) rfl
    exact ⟨done', xs', h''.held, h''.perm, h''.disposed, h''.fresh, h''.proced, h''.ended,
      h''.deleted, h''.gone⟩
  | flushed =>
    rw [destroyQ_thread]
    exact (h.goOn (by rw [ht]; rfl) (by rw [ht]; nofun) rfl).destroyQ rfl
  | ended => exact ⟨done, xs, h⟩

/-- The thread that destroys the task goes on. -/
theorem Account.destroyer (h : s.Account done xs lost) {d : Destroyer}
    (hended : s.mThread = false → d = .deleteThread ∨ d = .left ∨ s.thread = .ended)
    (hdeleted : d = .deleteThis ∨ d = .flushed → s.mThread = false) :
    { s with destroyer := d }.Account done xs lost :=
  ⟨h.held, h.perm, h.disposed, h.fresh, h.proced, hended, hdeleted, h.gone⟩

/-- **One part of `destroy()` loses no message**. -/
theorem Account.destroy (h : s.Account done xs lost) (hgone : s.gone = false) :
    ∃ done' xs', s.destroy.Account done' xs' lost := by
  unfold MsgTask.destroy
  cases hd : s.destroyer with
  | idle =>
    refine ⟨done, xs, ?_, h.perm, h.disposed, h.fresh, h.proced, ?_, nofun, ?_⟩
    · cases hq : s.mQ with
      | none => exact h.queue_eq_nil hq
      | some q => exact (h.held_of_eq hq).unblock
    · intro hnone
      exact .inr (.inr (h.ended_of_destroyer hnone (by rw [hd]; nofun) (by rw [hd]; nofun)))
    · rw [hgone]
      nofun
  | unblocked =>
    by_cases hthread : s.mThread = true
    · simp only [if_pos hthread]
      exact ⟨done, xs, h.held, h.perm, h.disposed, h.fresh, h.proced, fun _ => .inl rfl, nofun,
        h.gone⟩
    · simp only [if_neg hthread]
      have hnone : s.mThread = false := Bool.eq_false_iff.mpr hthread
      have hended := h.ended_of_destroyer hnone (by rw [hd]; nofun) (by rw [hd]; nofun)
      exact ⟨done, xs, h.destroyer (fun _ => .inr (.inr hended)) fun _ => hnone⟩
  | deleteThread =>
    exact ⟨done, xs, h.held, h.perm, h.disposed, h.fresh, h.proced, fun _ => .inr (.inl rfl),
      nofun, h.gone⟩
  | deleteThis =>
    obtain ⟨done', xs', h'⟩ := h.flush hgone
    have hnone := h.deleted (.inl hd)
    have hended := h.ended_of_destroyer hnone (by rw [hd]; nofun) (by rw [hd]; nofun)
    obtain ⟨mQ, log, heq⟩ := flush_eq s
    refine ⟨done', xs', h'.destroyer (fun _ => .inr (.inr ?_)) fun _ => ?_⟩
    · rw [heq]
      exact hended
    · rw [heq]
      exact hnone
  | flushed =>
    have hnone := h.deleted (.inr hd)
    have hended := h.ended_of_destroyer hnone (by rw [hd]; nofun) (by rw [hd]; nofun)
    obtain ⟨done', xs', h'⟩ := h.destroyQ hended
    exact ⟨done', xs', h'.destroyer (fun _ => .inr (.inl rfl)) nofun⟩
  | left => exact ⟨done, xs, h⟩

/-- **One step loses a message exactly when the queue does not take it**. -/
theorem Account.step (h : s.Account done xs lost) (i : Input) :
    ∃ done' xs' lost', (s.step i).Account done' xs' lost' ∧
      (lost' = [] ↔ lost = [] ∧ s.SendAccepted i) := by
  unfold MsgTask.step
  by_cases hgone : s.gone = true
  · rw [if_pos hgone]
    refine ⟨done, xs, lost, h, (and_iff_left ?_).symm⟩
    cases i with
    | sendMsg malloc => exact .inl hgone
    | threadMain => trivial
    | destroy => trivial
  · rw [if_neg hgone]
    have hgone' : s.gone = false := Bool.eq_false_iff.mpr hgone
    cases i with
    | sendMsg malloc =>
      obtain ⟨xs', lost', h', hlost⟩ := h.sendMsg hgone' malloc
      exact ⟨done, xs', lost', h', hlost.trans (and_congr_right fun _ => (or_iff_right hgone).symm)⟩
    | threadMain =>
      obtain ⟨done', xs', h'⟩ := h.threadMain hgone'
      exact ⟨done', xs', lost, h', (and_iff_left trivial).symm⟩
    | destroy =>
      obtain ⟨done', xs', h'⟩ := h.destroy hgone'
      exact ⟨done', xs', lost, h', (and_iff_left trivial).symm⟩

/-- **A run loses a message exactly when the queue has not taken one**. -/
theorem account_exec (queueCreated threadCreated joinable : Bool) (inputs : List Input) :
    ∃ lost, (∃ done xs,
      (exec step (init queueCreated threadCreated joinable) inputs).Account done xs lost) ∧
      (lost = [] ↔
        StepsMeet step SendAccepted (init queueCreated threadCreated joinable) inputs) := by
  have hstep : ∀ (s : MsgTask) (lost : List ℕ) i, (∃ done xs, s.Account done xs lost) →
      ∃ lost', (∃ done xs, (s.step i).Account done xs lost') ∧
        (lost' = [] ↔ lost = [] ∧ s.SendAccepted i) := by
    rintro s lost i ⟨done, xs, h⟩
    obtain ⟨done', xs', lost', h', hlost⟩ := h.step i
    exact ⟨lost', ⟨done', xs', h'⟩, hlost⟩
  obtain ⟨lost, h, hlost⟩ := exec_account hstep inputs _ []
    ⟨[], [], account_init queueCreated threadCreated joinable⟩
  exact ⟨lost, h, hlost.trans (and_iff_right rfl)⟩

/-- When the object is gone, the messages that were not lost have been disposed of. -/
theorem Account.disposed_iff (h : s.Account done xs lost) (hgone : s.gone = true) :
    (∀ m < s.handed, Disposed (history m s.log)) ↔ lost = [] := by
  obtain ⟨hended, hq⟩ := h.gone hgone
  have hperm := h.perm
  rw [hended, h.queue_eq_nil hq] at hperm
  simp only [Phase.hand, List.append_nil] at hperm
  constructor
  · intro hdisposed
    refine List.eq_nil_iff_forall_not_mem.mpr fun m hm => ?_
    have hm' := hdisposed m (h.lt_handed (by simp [hm]))
    rw [h.fresh m (.inr (.inr (.inl hm)))] at hm'
    rcases hm' with hm' | hm' <;> cases hm'
  · rintro rfl m hm
    rw [List.append_nil] at hperm
    exact h.disposed m (hperm.mem_iff.mpr (List.mem_range.mpr hm))

/-- **When every message is disposed of exactly once**: in every run to the end of the destructor,
each message that was handed over has been run and deleted, or flushed, once, if and only if the
queue has taken each one. -/
theorem disposed_exec_iff (queueCreated threadCreated joinable : Bool) (inputs : List Input)
    (hgone : (exec step (init queueCreated threadCreated joinable) inputs).gone = true) :
    (let s := exec step (init queueCreated threadCreated joinable) inputs
      ∀ m < s.handed, Disposed (history m s.log)) ↔
      StepsMeet step SendAccepted (init queueCreated threadCreated joinable) inputs := by
  obtain ⟨lost, ⟨done, xs, h⟩, hlost⟩ := account_exec queueCreated threadCreated joinable inputs
  exact (h.disposed_iff hgone).trans hlost

/-- One message runs and is deleted, one is flushed, and the destructor returns. -/
theorem disposed_exec_two :
    let s := init true true true
    let inputs : List Input :=
      [.sendMsg (some 0), .threadMain, .threadMain, .threadMain, .sendMsg (some 1), .destroy,
        .destroy, .destroy, .threadMain, .threadMain, .threadMain, .threadMain, .threadMain]
    (exec step s inputs).gone = true ∧
      (∀ m < (exec step s inputs).handed, Disposed (history m (exec step s inputs).log)) := by
  refine ⟨by decide, ?_⟩
  exact (disposed_exec_iff true true true _ (by decide)).mpr (by decide)

/-- A message that is sent after `msg_q_unblock` and before the end of the destructor is not
deleted by anyone. -/
theorem not_disposed_unblocked :
    let s := exec step (init true true true)
      [.threadMain, .threadMain, .threadMain, .destroy, .sendMsg (some 0), .threadMain, .threadMain,
        .threadMain]
    s.gone = true ∧ s.handed = 1 ∧ history 0 s.log = [] ∧
      ¬ ∀ m < s.handed, Disposed (history m s.log) := by
  decide

end MsgTask
end Nx507j
