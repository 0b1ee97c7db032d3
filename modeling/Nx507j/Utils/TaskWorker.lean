import Nx507j.Lib.Worker
import Nx507j.Utils.MsgTask

/-!
# What a message task does for its senders

A `MsgTask` is a worker: what the threads do between them comes to one thread that runs the
`proc()` of one message after another, in the order in which the queue has taken them, and throws
away at the end what it has not run.

## Main definitions

* `MsgTask.acts` — what a step of the task is for the worker.

## Main results

* `MsgTask.worker_exec` — the task refines the worker: what is run is the beginning of what was
  taken, nothing that was taken is missing before the end, and no message is run before the last
  one is deleted.
-/

namespace Nx507j
namespace MsgTask

open Run

/-! ### The steps of the worker -/

/-- The messages whose `proc()` has run, first to last. -/
def procs (log : List (ℕ × Deed)) : List ℕ :=
  log.filterMap fun
    | (m, .proc) => some m
    | _ => none

/-- What has been done with the messages but for the flushes. -/
def ran (log : List (ℕ × Deed)) : List (ℕ × Deed) := log.filter fun x => x.2 ≠ .flush

/-- What has been done with messages that have been run and deleted, one after another. -/
def oneByOne (done : List ℕ) : List (ℕ × Deed) :=
  done.flatMap fun m => [(m, .proc), (m, .delete)]

/-- The message that is still to be run. -/
def Phase.todo : Phase → List ℕ
  | .received m => [m]
  | _ => []

/-- What has been done with the message that is still to be deleted. -/
def Phase.half : Phase → List (ℕ × Deed)
  | .proced m => [(m, .proc)]
  | _ => []

/-- What the next part of the task's thread is for the worker. -/
def threadActs : Phase → List (Worker.Act ℕ)
  | .received _ => [.run]
  | .leave | .flushed => [.clear]
  | _ => []

/-- What the next part of `destroy()` is for the worker. -/
def destroyActs : Destroyer → List (Worker.Act ℕ)
  | .deleteThis | .flushed => [.clear]
  | _ => []

/-- What a step of the task is for the worker: the queue takes a message, a `proc()` runs, or what
is in the queue is thrown away. -/
def acts (s : MsgTask) (i : Input) : List (Worker.Act ℕ) :=
  if s.gone then []
  else
    match i with
    | .sendMsg malloc => if s.Accepts malloc then [.put s.handed] else []
    | .threadMain => threadActs s.thread
    | .destroy => destroyActs s.destroyer

/-- The messages that the queue has taken in a run, first to last. -/
def sent (s : MsgTask) (inputs : List Input) : List ℕ :=
  (trace step acts s inputs).filterMap Worker.Act.put?

section Log

variable (log log' : List (ℕ × Deed)) (xs : List ℕ)

@[simp] theorem procs_append : procs (log ++ log') = procs log ++ procs log' :=
  List.filterMap_append

@[simp] theorem procs_flush : procs (xs.map fun m => (m, .flush)) = [] := by
  simp [procs, List.filterMap_map]

@[simp] theorem ran_append : ran (log ++ log') = ran log ++ ran log' := List.filter_append ..

@[simp] theorem ran_flush : ran (xs.map fun m => (m, .flush)) = [] := by simp [ran]

end Log

/-! ### One step -/

section Worker

variable {σ : Type*} (apply : σ → ℕ → σ) (start : σ)

/-- The worker has before it the message in hand and then those in the queue, and what it has done
is what the `proc()`s that have run have done. -/
structure Works (s : MsgTask) (w : Worker σ ℕ) (xs : List ℕ) : Prop where
  held : Held s.mQ xs
  waiting : w.waiting = s.thread.todo ++ xs
  state : w.state = (procs s.log).foldl apply start

variable {apply start} {s : MsgTask} {w : Worker σ ℕ} {xs : List ℕ}

theorem works_init (queueCreated threadCreated joinable : Bool) :
    Works apply start (init queueCreated threadCreated joinable) ⟨[], start⟩ [] := by
  refine ⟨?_, ?_, rfl⟩
  · cases queueCreated with
    | true => exact MsgQ.holds_init
    | false => rfl
  · cases threadCreated <;> rfl

theorem Works.holds (h : Works apply start s w xs) {q : MsgQ ℕ} (hq : s.mQ = some q) :
    q.Holds (xs.map fun m => (m, true)) := by
  have hheld := h.held
  rw [hq] at hheld
  exact hheld

theorem Works.queue_eq_nil (h : Works apply start s w xs) (hq : s.mQ = none) : xs = [] := by
  have hheld := h.held
  rw [hq] at hheld
  exact hheld

/-- A step that neither takes nor gives a message is none of the worker's. -/
theorem Works.goOn (h : Works apply start s w xs) {s' : MsgTask} (hmQ : Held s'.mQ xs)
    (htodo : s'.thread.todo = s.thread.todo) (hprocs : procs s'.log = procs s.log) :
    Works apply start s' w xs :=
  ⟨hmQ, htodo ▸ h.waiting, hprocs ▸ h.state⟩

/-- A queue is flushed, or destroyed, when no message is in hand. -/
theorem Works.clear (h : Works apply start s w xs) {s' : MsgTask} (hmQ : Held s'.mQ [])
    (htodo : s'.thread.todo = []) (hprocs : procs s'.log = procs s.log) :
    Works apply start s' (w.step apply .clear) [] :=
  ⟨hmQ, by rw [htodo]; rfl, hprocs ▸ h.state⟩

theorem Works.sendMsg (h : Works apply start s w xs) (malloc : Option ℕ) :
    ∃ xs', Works apply start (s.sendMsg malloc)
      (exec (Worker.step apply) w (if s.Accepts malloc then [.put s.handed] else [])) xs' := by
  cases hq : s.mQ with
  | none =>
    have hno : ¬ s.Accepts malloc := by simp [Accepts, hq]
    rw [if_neg hno]
    refine ⟨xs, h.goOn ?_ rfl rfl⟩
    simp only [MsgTask.sendMsg, hq]
    exact h.queue_eq_nil hq
  | some q =>
    rcases (h.holds hq).snd malloc (some s.handed) true with
      ⟨m, q', hm, hmalloc, hu, hsnd, -, hq'⟩ | ⟨rv, signals, -, hwhy, hsnd⟩
    · cases hm
      have hyes : s.Accepts malloc := ⟨hmalloc, by simp [hq, hu]⟩
      rw [if_pos hyes]
      refine ⟨xs ++ [s.handed], ?_, ?_, h.state⟩
      · simpa [MsgTask.sendMsg, hq, hsnd, Held] using hq'
      · show w.waiting ++ [s.handed] = s.thread.todo ++ (xs ++ [s.handed])
        rw [h.waiting, List.append_assoc]
    · have hno : ¬ s.Accepts malloc := by
        rintro ⟨hmalloc, hu⟩
        rcases hwhy with hwhy | hwhy | hwhy
        · cases hwhy
        · rw [hwhy] at hmalloc
          cases hmalloc
        · simp [hq, hwhy] at hu
      rw [if_neg hno]
      refine ⟨xs, h.goOn ?_ rfl rfl⟩
      simp only [MsgTask.sendMsg, hq, Option.map_some, hsnd]
      exact h.holds hq

/-- A receive takes the oldest message in hand, if it takes one. -/
theorem Works.rcv (h : Works apply start s w xs) {q : MsgQ ℕ} (hq : s.mQ = some q)
    (htodo : s.thread.todo = []) {r : RcvResult ℕ × MsgQ ℕ}
    (hr : r = (.wait, q) ∨ r = (.ret .unavailableResource none, q) ∨
      ∃ x ys q', xs.map (fun m => (m, true)) = x :: ys ∧ r = (.ret .success (some x.1), q') ∧
        q'.Holds ys) :
    ∃ xs', Works apply start (s.rcv r) w xs' := by
  rcases hr with rfl | rfl | ⟨x, ys, q', hxs, rfl, hq'⟩
  · exact ⟨xs, h.goOn (h.holds hq) htodo.symm rfl⟩
  · exact ⟨xs, h.goOn (h.holds hq) htodo.symm rfl⟩
  · obtain ⟨m, xs', rfl, rfl, rfl⟩ := List.map_eq_cons_iff.mp hxs
    refine ⟨xs', hq', ?_, h.state⟩
    rw [h.waiting, htodo]
    rfl

theorem held_flush (h : Works apply start s w xs) :
    Held s.flush.mQ [] ∧ procs s.flush.log = procs s.log := by
  cases hq : s.mQ with
  | none =>
    have heq : s.flush = s := by rw [MsgTask.flush, hq]
    rw [heq, hq]
    exact ⟨rfl, rfl⟩
  | some q =>
    obtain ⟨q', hflush, -, hq'⟩ := (h.holds hq).flush
    simp only [MsgTask.flush, hq, hflush]
    exact ⟨hq', by rw [procs_append, procs_flush, List.append_nil]⟩

theorem held_destroyQ (s : MsgTask) :
    Held s.destroyQ.mQ [] ∧ procs s.destroyQ.log = procs s.log := by
  cases hq : s.mQ with
  | none =>
    have heq : s.destroyQ = { s with fault := true } := by rw [MsgTask.destroyQ, hq]
    rw [heq]
    exact ⟨congrArg (Held · []) hq ▸ rfl, rfl⟩
  | some q =>
    simp only [MsgTask.destroyQ, hq]
    exact ⟨rfl, by rw [procs_append, procs_flush, List.append_nil]⟩

theorem flush_thread (s : MsgTask) : s.flush.thread = s.thread := by
  obtain ⟨mQ, log, heq⟩ := flush_eq s
  rw [heq]

theorem destroyQ_keeps_thread (s : MsgTask) : s.destroyQ.thread = s.thread := by
  unfold MsgTask.destroyQ
  cases s.mQ <;> rfl

/-- **One part of the task's thread** is what it is for the worker. -/
theorem Works.threadMain (h : Works apply start s w xs) :
    ∃ xs', Works apply start s.threadMain
      (exec (Worker.step apply) w (threadActs s.thread)) xs' := by
  unfold MsgTask.threadMain
  cases ht : s.thread with
  | start =>
    refine ⟨xs, h.goOn h.held ?_ rfl⟩
    rw [ht]
    cases s.mRunnable <;> rfl
  | loop =>
    refine ⟨xs, h.goOn h.held ?_ rfl⟩
    rw [ht]
    cases s.mRunnable <;> rfl
  | run =>
    cases hq : s.mQ with
    | none =>
      refine ⟨xs, h.goOn ?_ (by rw [ht]; rfl) rfl⟩
      exact h.queue_eq_nil hq
    | some q =>
      refine h.rcv hq (by rw [ht]; rfl) ?_
      rcases (h.holds hq).rcv with
        ⟨-, -, hrcv⟩ | ⟨-, hrcv⟩ | ⟨x, ys, q', hxs, -, hrcv, -, hq'⟩
      · exact .inl hrcv
      · exact .inr (.inl hrcv)
      · exact .inr (.inr ⟨x, ys, q', hxs, hrcv, hq'⟩)
  | waiting =>
    cases hq : s.mQ with
    | none => exact ⟨xs, h⟩
    | some q =>
      refine h.rcv hq (by rw [ht]; rfl) ?_
      rcases (h.holds hq).rcvLoop with
        ⟨-, -, hloop⟩ | ⟨-, -, hloop⟩ | ⟨x, ys, q', hxs, hloop, -, hq'⟩
      · exact .inl hloop
      · exact .inr (.inl hloop)
      · exact .inr (.inr ⟨x, ys, q', hxs, hloop, hq'⟩)
  | received m =>
    -- the worker does the first of what is before it
    have hwaiting : w.waiting = m :: xs := by
      rw [h.waiting, ht]
      rfl
    refine ⟨xs, h.held, ?_, ?_⟩
    · show (w.step apply .run).waiting = xs
      rw [Worker.step, hwaiting]
    · show (w.step apply .run).state = (procs (s.log ++ [(m, .proc)])).foldl apply start
      rw [Worker.step, hwaiting, procs_append, List.foldl_append, ← h.state]
      rfl
  | proced m =>
    refine ⟨xs, h.goOn h.held (by rw [ht]; rfl) ?_⟩
    show procs (s.log ++ [(m, .delete)]) = procs s.log
    rw [procs_append]
    exact List.append_nil _
  | leave =>
    obtain ⟨hheld, hprocs⟩ := held_flush h
    exact ⟨[], h.clear hheld rfl hprocs⟩
  | flushed =>
    obtain ⟨hheld, hprocs⟩ := held_destroyQ s
    exact ⟨[], h.clear hheld rfl hprocs⟩
  | ended => exact ⟨xs, h⟩

/-- **One part of `destroy()`** is what it is for the worker: when it deletes the object there is no
thread that has a message in hand. -/
theorem Works.destroy (h : Works apply start s w xs) {done ys lost : List ℕ}
    (haccount : s.Account done ys lost) :
    ∃ xs', Works apply start s.destroy
      (exec (Worker.step apply) w (destroyActs s.destroyer)) xs' := by
  have htodo : s.destroyer = .deleteThis ∨ s.destroyer = .flushed → s.thread.todo = [] := by
    intro hd
    have hne : s.destroyer ≠ .deleteThread ∧ s.destroyer ≠ .left := by
      rcases hd with hd | hd <;> rw [hd] <;> decide
    rw [haccount.ended_of_destroyer (haccount.deleted hd) hne.1 hne.2]
    rfl
  unfold MsgTask.destroy
  cases hd : s.destroyer with
  | idle =>
    refine ⟨xs, h.goOn ?_ rfl rfl⟩
    cases hq : s.mQ with
    | none => exact h.queue_eq_nil hq
    | some q => exact (h.holds hq).unblock
  | unblocked =>
    refine ⟨xs, ?_⟩
    cases s.mThread with
    | true => exact h.goOn h.held rfl rfl
    | false => exact h.goOn h.held rfl rfl
  | deleteThread => exact ⟨xs, h.goOn h.held rfl rfl⟩
  | deleteThis =>
    obtain ⟨hheld, hprocs⟩ := held_flush h
    refine ⟨[], h.clear hheld ?_ hprocs⟩
    exact (congrArg Phase.todo (flush_thread s)).trans (htodo (.inl hd))
  | flushed =>
    obtain ⟨hheld, hprocs⟩ := held_destroyQ s
    refine ⟨[], h.clear hheld ?_ hprocs⟩
    exact (congrArg Phase.todo (destroyQ_keeps_thread s)).trans (htodo (.inr hd))
  | left => exact ⟨xs, h⟩

/-- **One step** is what it is for the worker. -/
theorem Works.step (h : Works apply start s w xs) {done ys lost : List ℕ}
    (haccount : s.Account done ys lost) (i : Input) :
    ∃ xs', Works apply start (s.step i) (exec (Worker.step apply) w (s.acts i)) xs' := by
  unfold MsgTask.step acts
  by_cases hgone : s.gone = true
  · rw [if_pos hgone, if_pos hgone]
    exact ⟨xs, h⟩
  · rw [if_neg hgone, if_neg hgone]
    cases i with
    | sendMsg malloc => exact h.sendMsg malloc
    | threadMain => exact h.threadMain
    | destroy => exact h.destroy haccount

end Worker

/-! ### Nothing is run after something has been thrown away -/

/-- The thread of the task is past its loop, or there is none. -/
def Closed (s : MsgTask) : Prop := s.thread = .flushed ∨ s.thread = .ended

variable {s : MsgTask} {done xs lost : List ℕ}

theorem destroy_thread (s : MsgTask) : s.destroy.thread = s.thread := by
  unfold MsgTask.destroy
  cases s.destroyer with
  | idle => rfl
  | unblocked => cases s.mThread <;> rfl
  | deleteThread => rfl
  | deleteThis => exact flush_thread s
  | flushed => exact destroyQ_keeps_thread s
  | left => rfl

theorem Closed.step (h : s.Closed) (i : Input) : (s.step i).Closed := by
  unfold MsgTask.step
  by_cases hgone : s.gone = true
  · rw [if_pos hgone]
    exact h
  · rw [if_neg hgone]
    cases i with
    | sendMsg malloc => exact h
    | threadMain =>
      show s.threadMain.Closed
      unfold MsgTask.threadMain
      rcases h with ht | ht <;> rw [ht]
      · exact .inr rfl
      · exact .inr ht
    | destroy =>
      show s.destroy.Closed
      rw [Closed, destroy_thread]
      exact h

theorem Closed.no_run (h : s.Closed) (i : Input) : .run ∉ s.acts i := by
  unfold acts
  by_cases hgone : s.gone = true
  · rw [if_pos hgone]
    exact List.not_mem_nil
  · rw [if_neg hgone]
    cases i with
    | sendMsg malloc => by_cases hyes : s.Accepts malloc <;> simp [hyes]
    | threadMain =>
      show .run ∉ threadActs s.thread
      rcases h with ht | ht <;> rw [ht] <;> decide
    | destroy =>
      show .run ∉ destroyActs s.destroyer
      cases s.destroyer <;> decide

/-- What throws messages away is done with the loop of the thread, or there is no thread. -/
theorem Account.closed (h : s.Account done xs lost) {i : Input} (hclear : .clear ∈ s.acts i) :
    (s.step i).Closed := by
  unfold acts at hclear
  unfold MsgTask.step
  by_cases hgone : s.gone = true
  · rw [if_pos hgone] at hclear
    exact absurd hclear List.not_mem_nil
  · rw [if_neg hgone] at hclear ⊢
    cases i with
    | sendMsg malloc => by_cases hyes : s.Accepts malloc <;> simp [hyes] at hclear
    | threadMain =>
      show s.threadMain.Closed
      unfold MsgTask.threadMain
      cases ht : s.thread with
      | leave => exact .inl rfl
      | flushed => exact .inr rfl
      | ended => exact .inr ht
      | start | loop | run | waiting | received m | proced m =>
        rw [ht] at hclear
        simp [threadActs] at hclear
    | destroy =>
      show s.destroy.Closed
      rw [Closed, destroy_thread]
      right
      cases hd : s.destroyer with
      | deleteThis =>
        exact h.ended_of_destroyer (h.deleted (.inl hd)) (by rw [hd]; decide) (by rw [hd]; decide)
      | flushed =>
        exact h.ended_of_destroyer (h.deleted (.inr hd)) (by rw [hd]; decide) (by rw [hd]; decide)
      | idle | unblocked | deleteThread | left =>
        rw [hd] at hclear
        simp [destroyActs] at hclear

/-- A step of the task is at most one step of the worker. -/
theorem length_acts_le (s : MsgTask) (i : Input) : (s.acts i).length ≤ 1 := by
  unfold acts
  by_cases hgone : s.gone = true
  · rw [if_pos hgone]
    exact Nat.zero_le 1
  · rw [if_neg hgone]
    cases i with
    | sendMsg malloc => by_cases hyes : s.Accepts malloc <;> simp [hyes]
    | threadMain =>
      show (threadActs s.thread).length ≤ 1
      cases s.thread <;> simp [threadActs]
    | destroy =>
      show (destroyActs s.destroyer).length ≤ 1
      cases s.destroyer <;> simp [destroyActs]

/-! ### One message at a time -/

/-- What has been run has been deleted, but for a message in hand. -/
def OneByOne (s : MsgTask) : Prop := ∃ done, ran s.log = oneByOne done ++ s.thread.half

theorem ran_flush_log (s : MsgTask) : ran s.flush.log = ran s.log := by
  unfold MsgTask.flush
  cases s.mQ with
  | none => rfl
  | some q => exact (ran_append _ _).trans (by rw [ran_flush, List.append_nil])

theorem ran_destroyQ_log (s : MsgTask) : ran s.destroyQ.log = ran s.log := by
  unfold MsgTask.destroyQ
  cases s.mQ with
  | none => rfl
  | some q => exact (ran_append _ _).trans (by rw [ran_flush, List.append_nil])

theorem OneByOne.goOn (h : s.OneByOne) {s' : MsgTask} (hhalf : s'.thread.half = s.thread.half)
    (hran : ran s'.log = ran s.log) : s'.OneByOne := by
  obtain ⟨done, hdone⟩ := h
  exact ⟨done, by rw [hran, hhalf, hdone]⟩

theorem rcv_log (s : MsgTask) (r : RcvResult ℕ × MsgQ ℕ) : (s.rcv r).log = s.log := by
  unfold MsgTask.rcv
  split <;> rfl

theorem rcv_half (s : MsgTask) (r : RcvResult ℕ × MsgQ ℕ) : (s.rcv r).thread.half = [] := by
  unfold MsgTask.rcv
  split <;> rfl

theorem OneByOne.rcv (h : s.OneByOne) (hhalf : s.thread.half = []) (r : RcvResult ℕ × MsgQ ℕ) :
    (s.rcv r).OneByOne :=
  h.goOn ((rcv_half s r).trans hhalf.symm) (congrArg ran (rcv_log s r))

theorem OneByOne.threadMain (h : s.OneByOne) : s.threadMain.OneByOne := by
  unfold MsgTask.threadMain
  cases ht : s.thread with
  | start =>
    refine h.goOn ?_ rfl
    rw [ht]
    cases s.mRunnable <;> rfl
  | loop =>
    refine h.goOn ?_ rfl
    rw [ht]
    cases s.mRunnable <;> rfl
  | run =>
    cases s.mQ with
    | none => exact h.goOn (by rw [ht]; rfl) rfl
    | some q => exact h.rcv (by rw [ht]; rfl) _
  | waiting =>
    cases s.mQ with
    | none => exact h
    | some q => exact h.rcv (by rw [ht]; rfl) _
  | received m =>
    obtain ⟨done, hdone⟩ := h
    rw [ht] at hdone
    refine ⟨done, ?_⟩
    show ran (s.log ++ [(m, .proc)]) = oneByOne done ++ [(m, .proc)]
    rw [ran_append, hdone, List.append_assoc]
    rfl
  | proced m =>
    obtain ⟨done, hdone⟩ := h
    rw [ht] at hdone
    refine ⟨done ++ [m], ?_⟩
    show ran (s.log ++ [(m, .delete)]) = oneByOne (done ++ [m]) ++ []
    rw [ran_append, hdone, List.append_nil, oneByOne, oneByOne, List.flatMap_append,
      List.append_assoc]
    rfl
  | leave => exact h.goOn (by rw [ht]; rfl) (ran_flush_log s)
  | flushed => exact h.goOn (by rw [ht]; rfl) (ran_destroyQ_log s)
  | ended => exact h

theorem OneByOne.destroy (h : s.OneByOne) : s.destroy.OneByOne := by
  refine h.goOn (congrArg Phase.half (destroy_thread s)) ?_
  unfold MsgTask.destroy
  cases s.destroyer with
  | idle | deleteThread | left => rfl
  | unblocked => cases s.mThread <;> rfl
  | deleteThis => exact ran_flush_log s
  | flushed => exact ran_destroyQ_log s

/-- **One step** runs no message before the last one is deleted. -/
theorem OneByOne.step (h : s.OneByOne) (i : Input) : (s.step i).OneByOne := by
  unfold MsgTask.step
  by_cases hgone : s.gone = true
  · rw [if_pos hgone]
    exact h
  · rw [if_neg hgone]
    cases i with
    | sendMsg malloc => exact h
    | threadMain => exact h.threadMain
    | destroy => exact h.destroy

/-! ### Runs -/

theorem threadMain_handed (s : MsgTask) : s.threadMain.handed = s.handed := by
  have hrcv : ∀ r, (s.rcv r).handed = s.handed := by
    intro r
    unfold MsgTask.rcv
    split <;> rfl
  unfold MsgTask.threadMain
  cases s.thread with
  | start | loop | received m | proced m | ended => rfl
  | run =>
    cases s.mQ with
    | none => rfl
    | some q => exact hrcv _
  | waiting =>
    cases s.mQ with
    | none => rfl
    | some q => exact hrcv _
  | leave =>
    obtain ⟨mQ, log, heq⟩ := flush_eq s
    rw [heq]
  | flushed =>
    show s.destroyQ.handed = s.handed
    unfold MsgTask.destroyQ
    cases s.mQ <;> rfl

theorem destroy_handed (s : MsgTask) : s.destroy.handed = s.handed := by
  unfold MsgTask.destroy
  cases s.destroyer with
  | idle | deleteThread | left => rfl
  | unblocked => cases s.mThread <;> rfl
  | deleteThis =>
    obtain ⟨mQ, log, heq⟩ := flush_eq s
    rw [heq]
  | flushed =>
    show s.destroyQ.handed = s.handed
    unfold MsgTask.destroyQ
    cases s.mQ <;> rfl

theorem threadActs_puts (p : Phase) : (threadActs p).filterMap Worker.Act.put? = [] := by
  cases p <;> rfl

theorem destroyActs_puts (d : Destroyer) : (destroyActs d).filterMap Worker.Act.put? = [] := by
  cases d <;> rfl

/-- What the queue takes in a step is what is handed over in it, or nothing. -/
theorem acts_puts (s : MsgTask) (i : Input) :
    ∃ new, List.range (s.step i).handed = List.range s.handed ++ new ∧
      ((s.acts i).filterMap Worker.Act.put?).Sublist new ∧
      (s.SendAccepted i → (s.acts i).filterMap Worker.Act.put? = new) := by
  unfold MsgTask.step acts
  by_cases hgone : s.gone = true
  · rw [if_pos hgone, if_pos hgone]
    exact ⟨[], (List.append_nil _).symm, List.Sublist.refl _, fun _ => rfl⟩
  · rw [if_neg hgone, if_neg hgone]
    cases i with
    | sendMsg malloc =>
      refine ⟨[s.handed], List.range_succ, ?_⟩
      by_cases hyes : s.Accepts malloc
      · simp only [if_pos hyes]
        exact ⟨List.Sublist.refl _, fun _ => rfl⟩
      · simp only [if_neg hyes]
        exact ⟨List.nil_sublist _, fun h => absurd (h.resolve_left hgone) hyes⟩
    | threadMain =>
      refine ⟨[], ?_, ?_⟩
      · rw [List.append_nil]
        exact congrArg List.range (threadMain_handed s)
      · simp only [threadActs_puts]
        exact ⟨List.Sublist.refl _, fun _ => trivial⟩
    | destroy =>
      refine ⟨[], ?_, ?_⟩
      · rw [List.append_nil]
        exact congrArg List.range (destroy_handed s)
      · simp only [destroyActs_puts]
        exact ⟨List.Sublist.refl _, fun _ => trivial⟩

theorem sent_cons (s : MsgTask) (i : Input) (inputs : List Input) :
    s.sent (i :: inputs) = (s.acts i).filterMap Worker.Act.put? ++ (s.step i).sent inputs :=
  List.filterMap_append

/-- The queue takes messages that are handed over, in their order. -/
theorem sent_sublist : ∀ (inputs : List Input) (s : MsgTask) (taken : List ℕ),
    taken.Sublist (List.range s.handed) →
      (taken ++ s.sent inputs).Sublist (List.range (exec step s inputs).handed) := by
  intro inputs
  induction inputs with
  | nil =>
    intro s taken h
    exact (List.append_nil taken).symm ▸ h
  | cons i inputs ih =>
    intro s taken h
    obtain ⟨new, hnew, hsub, -⟩ := acts_puts s i
    rw [sent_cons, ← List.append_assoc]
    refine ih _ _ ?_
    rw [hnew]
    exact h.append hsub

/-- A queue that takes each message takes all of them. -/
theorem sent_eq : ∀ (inputs : List Input) (s : MsgTask), StepsMeet step SendAccepted s inputs →
    List.range s.handed ++ s.sent inputs = List.range (exec step s inputs).handed := by
  intro inputs
  induction inputs with
  | nil => intro s _; exact List.append_nil _
  | cons i inputs ih =>
    intro s h
    obtain ⟨new, hnew, -, heq⟩ := acts_puts s i
    rw [sent_cons, ← List.append_assoc, heq h.1, ← hnew]
    exact ih _ h.2

theorem works_exec {σ : Type*} (apply : σ → ℕ → σ) (start : σ)
    (queueCreated threadCreated joinable : Bool) (inputs : List Input) :
    let s₀ := init queueCreated threadCreated joinable
    ∃ xs, Works apply start (exec step s₀ inputs)
      (exec (Worker.step apply) ⟨[], start⟩ (trace step acts s₀ inputs)) xs := by
  have hstep : ∀ (s : MsgTask) w i,
      (∃ done ys lost, s.Account done ys lost) ∧ (∃ xs, Works apply start s w xs) →
      (∃ done ys lost, (s.step i).Account done ys lost) ∧
        ∃ xs, Works apply start (s.step i) (exec (Worker.step apply) w (s.acts i)) xs := by
    rintro s w i ⟨⟨done, ys, lost, haccount⟩, xs, h⟩
    obtain ⟨done', ys', lost', haccount', -⟩ := haccount.step i
    exact ⟨⟨done', ys', lost', haccount'⟩, h.step haccount i⟩
  exact (exec_trace hstep inputs _ _
    ⟨⟨[], [], [], account_init queueCreated threadCreated joinable⟩,
      [], works_init queueCreated threadCreated joinable⟩).2

/-- The worker runs nothing after it has thrown something away. -/
theorem acts_pairwise (queueCreated threadCreated joinable : Bool) (inputs : List Input) :
    (trace step acts (init queueCreated threadCreated joinable) inputs).Pairwise
      fun a b => a = .clear → ¬ b = .run := by
  refine pairwise_trace (fun s => ∃ done ys lost, s.Account done ys lost) Closed ?_ ?_ ?_ ?_ ?_
    inputs _
    ⟨[], [], [], account_init queueCreated threadCreated joinable⟩
  · rintro s i ⟨done, ys, lost, h⟩
    obtain ⟨done', ys', lost', h', -⟩ := h.step i
    exact ⟨done', ys', lost', h'⟩
  · intro s i h
    exact h.step i
  · rintro s i h b hb rfl
    exact h.no_run i hb
  · rintro s i ⟨done, ys, lost, h⟩ a ha rfl
    exact h.closed ha
  · intro s i
    have hle := length_acts_le s i
    match hacts : s.acts i with
    | [] => exact List.Pairwise.nil
    | [a] => exact List.pairwise_singleton _ a
    | a :: b :: as =>
      rw [hacts, List.length_cons, List.length_cons] at hle
      omega

theorem oneByOne_exec (queueCreated threadCreated joinable : Bool) (inputs : List Input) :
    (exec step (init queueCreated threadCreated joinable) inputs).OneByOne := by
  have hstep : ∀ (s : MsgTask) i, s.OneByOne → (s.step i).OneByOne := by
    intro s i h
    exact h.step i
  refine exec_inv hstep inputs _ ⟨[], ?_⟩
  cases threadCreated <;> rfl

/-- **The task refines a worker**: in every run what the `proc()`s that have run have done to a
state is what the worker's pieces have done, these are the first of the messages that the queue has
taken, in the order in which they were handed over, and each was deleted before the next one ran.
As long as nothing has been thrown away, the others that were taken are in hand or in the queue. -/
theorem worker_exec {σ : Type*} (apply : σ → ℕ → σ) (start : σ)
    (queueCreated threadCreated joinable : Bool) (inputs : List Input) :
    let s₀ := init queueCreated threadCreated joinable
    let s := exec step s₀ inputs
    let deeds := trace step acts s₀ inputs
    (exec (Worker.step apply) ⟨[], start⟩ deeds).state = (procs s.log).foldl apply start ∧
    procs s.log <+: s₀.sent inputs ∧
    (s₀.sent inputs).Sublist (List.range s.handed) ∧
    (StepsMeet step SendAccepted s₀ inputs → s₀.sent inputs = List.range s.handed) ∧
    (∃ done, ran s.log = oneByOne done ++ s.thread.half) ∧
    (.clear ∉ deeds →
      ∃ xs, Held s.mQ xs ∧ s₀.sent inputs = procs s.log ++ s.thread.todo ++ xs) := by
  intro s₀ s deeds
  obtain ⟨ys, hworks⟩ := works_exec apply start queueCreated threadCreated joinable inputs
  -- a worker that writes down what it does
  obtain ⟨xs, hlist⟩ :=
    works_exec (fun l m => l ++ [m]) [] queueCreated threadCreated joinable inputs
  obtain ⟨done, hprefix, hstate, hwaiting⟩ := Worker.exec_prefix (fun l m => l ++ [m]) [] deeds
    (acts_pairwise queueCreated threadCreated joinable inputs)
  have hfold : ∀ ms : List ℕ, ms.foldl (fun l m => l ++ [m]) [] = ms := by
    intro ms
    induction ms using List.reverseRecOn with
    | nil => rfl
    | append_singleton ms m ih => rw [List.foldl_concat, ih]
  have hdone : procs s.log = done := by
    rw [← hfold (procs s.log), ← hlist.state, hstate, hfold]
  refine ⟨hworks.state, hdone ▸ hprefix, ?_, fun h => ?_, ?_, fun hclear => ⟨xs, hlist.held, ?_⟩⟩
  · exact sent_sublist inputs s₀ [] (List.nil_sublist _)
  · exact sent_eq inputs s₀ h
  · exact oneByOne_exec queueCreated threadCreated joinable inputs
  · rw [hdone, List.append_assoc, ← hlist.waiting]
    exact hwaiting hclear

end MsgTask
end Nx507j
