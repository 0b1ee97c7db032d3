import Nx507j.Timer.Lifecycle

/-!
# The lock that a timer shares with its delegates

A `LocTimer` makes a `LocSharedLock`, and each of its delegates shares it.  A delegate may be
deleted long after the `LocTimer`, or long before it, so that the lock counts who has it and deletes
itself when the last one drops it.

The lock of a `LocTimer` that is gone is not known any more to the timer thread in `client->stop()`,
which finds the `LocTimer`'s memory; that call is no call of the lock here.

## Main definitions

* `LocSharedLock` — the lock, with its deletions and the calls that come after them.
* `calls` — the calls of a step on the lock of a `LocTimer`.
* `Locks` — the service with the locks.
* `live` — the delegates of a `LocTimer` that are there.

## Main results

* `Counted.step` — the count is the number of those that have the lock.
* `sharedLock_exec` — the lock is deleted once, by the last of them, and not called after that.
-/

namespace Nx507j
namespace Timer

open Run

/-! ### The lock -/

/-- `LocSharedLock`. -/
structure LocSharedLock where
  mRef : ℤ
  /-- How often it has been deleted. -/
  deletes : ℕ
  /-- How often it has been called when it was deleted. -/
  lateCalls : ℕ
  deriving DecidableEq, Repr

/-- A call of the lock. -/
inductive LockCall
  | share
  | drop
  | lock
  | unlock
  deriving DecidableEq, Repr

namespace LocSharedLock

/-- The constructor. -/
def new : LocSharedLock := ⟨1, 0, 0⟩

/-- A call reaches the lock. -/
def reached (l : LocSharedLock) : LocSharedLock :=
  { l with lateCalls := l.lateCalls + if 0 < l.deletes then 1 else 0 }

def share (l : LocSharedLock) : LocSharedLock := { l.reached with mRef := l.mRef + 1 }

def drop (l : LocSharedLock) : LocSharedLock :=
  { l.reached with
    mRef := l.mRef - 1
    deletes := l.deletes + if l.mRef = 1 then 1 else 0 }

/-- What a call does; mutual exclusion is in the steps of the service. -/
def call (l : LocSharedLock) : LockCall → LocSharedLock
  | .share => l.share
  | .drop => l.drop
  | .lock => l.reached
  | .unlock => l.reached

/-- The lock has been shared by so many that have not dropped it. -/
structure Holds (n : ℕ) (l : LocSharedLock) : Prop where
  mRef : l.mRef = n
  deletes : l.deletes = if n = 0 then 1 else 0
  lateCalls : l.lateCalls = 0

theorem holds_new : Holds 1 new := ⟨rfl, rfl, rfl⟩

variable {n : ℕ} {l : LocSharedLock}

theorem Holds.reached_eq (h : Holds (n + 1) l) : l.reached = l := by
  have hdeletes : l.deletes = 0 := h.deletes
  rw [reached, if_neg (by omega)]
  rfl

theorem Holds.share (h : Holds (n + 1) l) : Holds (n + 2) l.share := by
  rw [LocSharedLock.share, h.reached_eq]
  refine ⟨?_, h.deletes, h.lateCalls⟩
  show l.mRef + 1 = _
  rw [h.mRef]
  omega

/-- Who has the lock may drop it. -/
theorem Holds.drop (h : Holds (n + 1) l) : Holds n l.drop := by
  have hdeletes : l.deletes = 0 := h.deletes
  rw [LocSharedLock.drop, h.reached_eq]
  refine ⟨?_, ?_, h.lateCalls⟩
  · show l.mRef - 1 = _
    rw [h.mRef]
    omega
  · show l.deletes + _ = _
    rw [h.mRef, hdeletes]
    split_ifs <;> omega

/-- A critical section. -/
theorem Holds.section_eq (h : Holds (n + 1) l) : (l.call .lock).call .unlock = l := by
  rw [call, call, h.reached_eq, h.reached_eq]

end LocSharedLock

/-! ### The calls of the service -/

/-- The calls of a step on the lock of the `LocTimer` at `c`. -/
def calls (s : Service) (c : ℕ) : Input → List LockCall
  | .start client timeOutInMs _ =>
    if client = c ∧ s.gone c = false then
      if s.mTimer c = none ∧ (s.clock.after? timeOutInMs).isSome then [.lock, .share, .unlock]
      else [.lock, .unlock]
    else []
  | .stop client => if client = c ∧ s.gone c = false then [.lock, .unlock] else []
  | .destroy client => if client = c ∧ s.gone c = false then [.lock, .unlock, .drop] else []
  | .msgThread =>
    match s.msgThread with
    | .stopping _ _ _ client => if client = c ∧ s.gone c = false then [.lock, .unlock] else []
    | .updating _ [] (some timer) => if timer.client = c then [.drop] else []
    | _ => []
  | _ => []

/-- The service, and the lock of the `LocTimer` at each address. -/
structure Locks where
  service : Service
  lock : ℕ → LocSharedLock

def Locks.init : Locks := ⟨Service.init, fun _ => LocSharedLock.new⟩

def Locks.step (s : Locks) (i : Input) : Locks where
  service := s.service.step i
  lock c := (calls s.service c i).foldl LocSharedLock.call (s.lock c)

/-- The locks change nothing in the service. -/
theorem service_exec (inputs : List Input) :
    (exec Locks.step Locks.init inputs).service = exec Service.step Service.init inputs :=
  exec_sim (R := fun (s : Locks) (t : Service) => s.service = t)
    (fun _ _ i h => congrArg (Service.step · i) h) inputs Locks.init Service.init rfl

/-! ### Who has the lock -/

/-- The delegate that an event makes. -/
def Event.started? : Event → Option LocTimerDelegate
  | .started timer => some timer
  | _ => none

/-- The delegates of the `LocTimer` at `c` that have been made and not been deleted. -/
def live (log : List Event) (c : ℕ) : List LocTimerDelegate :=
  (log.filterMap Event.started?).filter fun d => d.client = c ∧ Event.deleted d ∉ log

/-- The number of those that have the lock. -/
def holders (s : Service) (c : ℕ) : ℕ := (if s.gone c then 0 else 1) + (live s.log c).length

variable {s s' : Service} {c : ℕ} {d : LocTimerDelegate} {log : List Event}

theorem mem_live :
    d ∈ live log c ↔ Event.started d ∈ log ∧ d.client = c ∧ Event.deleted d ∉ log := by
  have hmade : d ∈ log.filterMap Event.started? ↔ Event.started d ∈ log := by
    rw [List.mem_filterMap]
    constructor
    · rintro ⟨e, he, hsome⟩
      cases e with
      | started timer =>
        cases hsome
        exact he
      | _ => cases hsome
    · intro h
      exact ⟨_, h, rfl⟩
  rw [live, List.mem_filter, hmade, decide_eq_true_iff]

/-- A delegate is made once. -/
theorem Kept.nodup_live (h : Kept s) (c : ℕ) : (live s.log c).Nodup := by
  refine List.Nodup.filter _ (List.nodup_iff_count_le_one.mpr fun d => ?_)
  have hcount : ∀ log : List Event,
      (log.filterMap Event.started?).count d = log.count (.started d) := by
    intro log
    induction log with
    | nil => rfl
    | cons e log ih =>
      cases e with
      | started timer => simp [Event.started?, List.count_cons, ih]
      | _ => simpa [List.filterMap_cons, Event.started?] using ih
  rw [hcount]
  exact (h.balanced d).once

/-- Nothing is made, and nothing is deleted. -/
theorem length_live_eq (h : Kept s) (h' : Kept s')
    (hstarted : ∀ d, Event.started d ∈ s'.log ↔ Event.started d ∈ s.log)
    (hdeleted : ∀ d, Event.deleted d ∈ s'.log ↔ Event.deleted d ∈ s.log) (c : ℕ) :
    (live s'.log c).length = (live s.log c).length := by
  refine ((List.perm_ext_iff_of_nodup (h'.nodup_live c) (h.nodup_live c)).mpr fun d => ?_).length_eq
  rw [mem_live, mem_live, hstarted, hdeleted]

/-- What is deleted has been made. -/
theorem Kept.started_of_deleted (h : Kept s) (hmem : Event.deleted d ∈ s.log) :
    Event.started d ∈ s.log := by
  have hbal := h.balanced d
  have hremove := hbal.remove
  have hsent := hbal.sent
  have hpos : 0 < (s.ledger d).deleted := List.count_pos_iff.mpr hmem
  have hstarted : 0 < (s.ledger d).started := by omega
  exact List.count_pos_iff.mp hstarted

/-! ### The invariant -/

/-- The count of each lock is the number of those that have it. -/
structure Counted (s : Locks) : Prop where
  kept : Kept s.service
  holds : ∀ c, (s.lock c).Holds (holders s.service c)

theorem counted_init : Counted Locks.init where
  kept := kept_init
  holds _ := LocSharedLock.holds_new

/-- Who is not gone has the lock. -/
theorem holders_of_not_gone (h : s.gone c = false) :
    holders s c = (live s.log c).length + 1 := by
  rw [holders, h]
  exact Nat.add_comm 1 _

variable {t : Locks} {i : Input}

/-- A step with a critical section at most, in which no one gets the lock and no one drops it. -/
theorem Counted.of_quiet (h : Counted t) (hgone : (t.service.step i).gone = t.service.gone)
    (hcalls : ∀ c, calls t.service c i = [] ∨
      (t.service.gone c = false ∧ calls t.service c i = [.lock, .unlock]))
    (hstarted : ∀ d, Event.started d ∈ (t.service.step i).log ↔ Event.started d ∈ t.service.log)
    (hdeleted : ∀ d, Event.deleted d ∈ (t.service.step i).log ↔ Event.deleted d ∈ t.service.log) :
    Counted (t.step i) where
  kept := h.kept.step i
  holds c := by
    have hlock : (t.step i).lock c = t.lock c := by
      show (calls t.service c i).foldl LocSharedLock.call (t.lock c) = t.lock c
      rcases hcalls c with hnone | ⟨hthere, hsection⟩
      · rw [hnone]
        rfl
      · have hholds := h.holds c
        rw [holders_of_not_gone hthere] at hholds
        rw [hsection]
        exact hholds.section_eq
    have hholders : holders (t.step i).service c = holders t.service c := by
      show (if (t.service.step i).gone c then 0 else 1) + _ = _
      rw [hgone]
      exact congrArg _ (length_live_eq h.kept (h.kept.step i) hstarted hdeleted c)
    rw [hlock, hholders]
    exact h.holds c

/-- A step in which nothing happens. -/
theorem Counted.of_eq (h : Counted t) (hsame : t.service.step i = t.service)
    (hcalls : ∀ c, calls t.service c i = [] ∨
      (t.service.gone c = false ∧ calls t.service c i = [.lock, .unlock])) :
    Counted (t.step i) :=
  h.of_quiet (by rw [hsame]) hcalls (fun d => by rw [hsame]) fun d => by rw [hsame]

/-- The calls of a critical section of a client. -/
theorem calls_section (s : Service) (client c : ℕ) :
    (if client = c ∧ s.gone c = false then [LockCall.lock, .unlock] else []) = [] ∨
      (s.gone c = false ∧
        (if client = c ∧ s.gone c = false then [LockCall.lock, .unlock] else []) =
          [.lock, .unlock]) := by
  by_cases hclient : client = c ∧ s.gone c = false
  · exact .inr ⟨hclient.2, if_pos hclient⟩
  · exact .inl (if_neg hclient)

/-- One more is in a list without repetition, if at all. -/
theorem length_eq_add_ite {α : Type*} {l l' : List α} {a : α} {p : Prop} [Decidable p]
    (h : l.Nodup) (h' : l'.Nodup) (ha : a ∉ l) (hmem : ∀ b, b ∈ l' ↔ b ∈ l ∨ (p ∧ b = a)) :
    l'.length = l.length + if p then 1 else 0 := by
  split
  · next hp =>
    have hperm : l'.Perm (a :: l) := by
      refine (List.perm_ext_iff_of_nodup h' (List.nodup_cons.mpr ⟨ha, h⟩)).mpr fun b => ?_
      rw [hmem, List.mem_cons, and_iff_right hp, or_comm]
    exact hperm.length_eq
  · next hp =>
    refine ((List.perm_ext_iff_of_nodup h' h).mpr fun b => ?_).length_eq
    rw [hmem, or_iff_left fun hb => hp hb.1]

/-- A delegate that is made has the lock of its client. -/
theorem Kept.length_live_started (h : Kept s) (hfree : s.mTimer d.client = none)
    (haddress : d.address = s.nextAddress) (c : ℕ) :
    (live (s.started d).log c).length =
      (live s.log c).length + if d.client = c then 1 else 0 := by
  have hfresh : Event.started d ∉ s.log :=
    List.count_eq_zero.mp (h.fresh d (Nat.le_of_eq haddress.symm))
  have hdeleted : Event.deleted d ∉ s.log := fun hmem => hfresh (h.started_of_deleted hmem)
  have hlog : (s.started d).log = s.log ++ [.started d] := rfl
  refine length_eq_add_ite (h.nodup_live c) ((h.started hfree haddress).nodup_live c)
    (fun hmem => hfresh (mem_live.mp hmem).1) fun e => ?_
  rw [mem_live, mem_live, hlog]
  simp only [List.mem_append, List.mem_singleton, Event.started.injEq, reduceCtorEq, or_false]
  constructor
  · rintro ⟨hmade | rfl, hhome, hthere⟩
    · exact .inl ⟨hmade, hhome, hthere⟩
    · exact .inr ⟨hhome, rfl⟩
  · rintro (⟨hmade, hhome, hthere⟩ | ⟨hhome, rfl⟩)
    · exact ⟨.inl hmade, hhome, hthere⟩
    · exact ⟨.inr rfl, hhome, hdeleted⟩

/-- A delegate that is deleted had the lock of its client. -/
theorem Kept.length_live_deleted (h : Kept s) (h' : Kept s') (hlog : s'.log = s.log ++ [.deleted d])
    (c : ℕ) :
    (live s.log c).length = (live s'.log c).length + if d.client = c then 1 else 0 := by
  have hmem : Event.deleted d ∈ s'.log := by
    rw [hlog]
    exact List.mem_append_right _ (List.mem_singleton_self _)
  have hmade : Event.started d ∈ s.log := by
    have hstarted := h'.started_of_deleted hmem
    rw [hlog, List.mem_append, List.mem_singleton] at hstarted
    exact hstarted.resolve_right (by rintro ⟨⟩)
  have hthere : Event.deleted d ∉ s.log := by
    intro hbefore
    have hpos : 0 < s.log.count (.deleted d) := List.count_pos_iff.mpr hbefore
    have htwice : (s'.ledger d).deleted = s.log.count (.deleted d) + 1 := by
      show s'.log.count (.deleted d) = _
      rw [hlog, List.count_append, List.count_singleton_self]
    have hremove := (h'.balanced d).remove
    have hsent := (h'.balanced d).removeSent_le
    omega
  refine length_eq_add_ite (h'.nodup_live c) (h.nodup_live c)
    (fun hlive => (mem_live.mp hlive).2.2 hmem) fun e => ?_
  rw [mem_live, mem_live, hlog]
  simp only [List.mem_append, List.mem_singleton, Event.deleted.injEq, reduceCtorEq, or_false]
  constructor
  · rintro ⟨hmade', hhome, hthere'⟩
    by_cases hed : e = d
    · exact .inr ⟨hed ▸ hhome, hed⟩
    · exact .inl ⟨hmade', hhome, not_or.mpr ⟨hthere', hed⟩⟩
  · rintro (⟨hmade', hhome, hthere'⟩ | ⟨hhome, rfl⟩)
    · exact ⟨hmade', hhome, (not_or.mp hthere').1⟩
    · exact ⟨hmade, hhome, hthere⟩

/-! ### Steps that change who has the lock -/

theorem Counted.start (h : Counted t) {client : ℕ} {timeOutInMs : UInt32} {wakeOnExpire : Bool}
    {futureTime : Timespec} (hgone : t.service.gone client = false)
    (hfree : t.service.mTimer client = none)
    (hfuture : t.service.clock.after? timeOutInMs = some futureTime) :
    Counted (t.step (.start client timeOutInMs wakeOnExpire)) where
  kept := h.kept.step (.start client timeOutInMs wakeOnExpire)
  holds c := by
    have hstep : t.service.step (.start client timeOutInMs wakeOnExpire) =
        t.service.started ⟨t.service.nextAddress, client, futureTime, wakeOnExpire⟩ := by
      rw [Service.step, if_neg (by rw [hgone]; exact Bool.false_ne_true)]
      simp only [Service.start, hfree, hfuture]
      rfl
    have hlive : holders (t.service.step (.start client timeOutInMs wakeOnExpire)) c =
        holders t.service c + if client = c then 1 else 0 := by
      rw [hstep, holders, h.kept.length_live_started hfree rfl]
      exact (Nat.add_assoc _ _ _).symm
    have hholds := h.holds c
    show LocSharedLock.Holds (holders (t.service.step _) c)
      ((calls t.service c (.start client timeOutInMs wakeOnExpire)).foldl LocSharedLock.call
        (t.lock c))
    rw [hlive]
    by_cases hclient : client = c
    · subst hclient
      have hcalls : calls t.service client (.start client timeOutInMs wakeOnExpire) =
          [.lock, .share, .unlock] := by
        rw [calls, if_pos ⟨rfl, hgone⟩, if_pos ⟨hfree, by rw [hfuture]; rfl⟩]
      rw [holders_of_not_gone hgone] at hholds ⊢
      rw [hcalls, if_pos rfl]
      show LocSharedLock.Holds _ (((t.lock client).reached.share).reached)
      rw [hholds.reached_eq, hholds.share.reached_eq]
      exact hholds.share
    · have hcalls : calls t.service c (.start client timeOutInMs wakeOnExpire) = [] := by
        rw [calls, if_neg fun hc => hclient hc.1]
      rw [hcalls, if_neg hclient]
      exact hholds

theorem Counted.destroy (h : Counted t) {client : ℕ} (hgone : t.service.gone client = false) :
    Counted (t.step (.destroy client)) where
  kept := h.kept.step (.destroy client)
  holds c := by
    have hlive : (live (t.service.step (.destroy client)).log c).length =
        (live t.service.log c).length := by
      refine length_live_eq h.kept (h.kept.step _) (fun d => ?_) (fun d => ?_) c
      all_goals
        rcases Service.step_cases h.kept.linked (.destroy client) with heq | hstep
        · rw [heq]
        · generalize t.service.step (.destroy client) = s' at hstep
          cases hstep <;> simp
    have hgone' : (t.service.step (.destroy client)).gone =
        Function.update t.service.gone client true := by
      rw [Service.step, if_neg (by rw [hgone]; exact Bool.false_ne_true)]
      rcases hrun : t.service.mTimer client with _ | d
      · rw [Service.clientStop, Service.stop_eq_none hrun]
      · rw [Service.clientStop, h.kept.linked.stop_eq hrun]
        rfl
    have hholds := h.holds c
    show LocSharedLock.Holds (holders (t.service.step _) c)
      ((calls t.service c (.destroy client)).foldl LocSharedLock.call (t.lock c))
    rw [holders, hgone', hlive]
    by_cases hclient : client = c
    · subst hclient
      have hcalls : calls t.service client (.destroy client) = [.lock, .unlock, .drop] := by
        rw [calls, if_pos ⟨rfl, hgone⟩]
      rw [holders_of_not_gone hgone] at hholds
      rw [hcalls, Function.update_self, if_pos rfl, Nat.zero_add]
      show LocSharedLock.Holds _ (((t.lock client).call .lock).call .unlock).drop
      rw [hholds.section_eq]
      exact hholds.drop
    · have hcalls : calls t.service c (.destroy client) = [] := by
        rw [calls, if_neg fun hc => hclient hc.1]
      rw [hcalls, Function.update_of_ne (Ne.symm hclient)]
      exact hholds

theorem Counted.delete (h : Counted t) {k : ContainerId} {timer : LocTimerDelegate}
    (hthread : t.service.msgThread = .updating k [] (some timer)) :
    Counted (t.step .msgThread) where
  kept := h.kept.step .msgThread
  holds c := by
    have hstep : t.service.step .msgThread =
        { t.service with log := t.service.log ++ [.deleted timer], msgThread := .waiting } := by
      rw [Service.step, Service.msgStep, hthread]
    have hlog : (t.service.step .msgThread).log = t.service.log ++ [.deleted timer] := by
      rw [hstep]
    have hgone : (t.service.step .msgThread).gone = t.service.gone := by rw [hstep]
    have hlive := h.kept.length_live_deleted (h.kept.step .msgThread) hlog c
    have hholders : holders t.service c =
        holders (t.service.step .msgThread) c + if timer.client = c then 1 else 0 := by
      rw [holders, holders, hlive, hgone, Nat.add_assoc]
    have hholds := h.holds c
    show LocSharedLock.Holds (holders (t.service.step _) c)
      ((calls t.service c .msgThread).foldl LocSharedLock.call (t.lock c))
    rw [hholders] at hholds
    simp only [calls, hthread]
    by_cases hclient : timer.client = c
    · rw [if_pos hclient] at hholds ⊢
      exact hholds.drop
    · rw [if_neg hclient] at hholds ⊢
      exact hholds

/-! ### Every step -/

/-- The other steps of the timer thread. -/
theorem Counted.msgThread (h : Counted t)
    (hthread : ∀ k timer, t.service.msgThread ≠ .updating k [] (some timer)) :
    Counted (t.step .msgThread) := by
  have hcalls : ∀ c, calls t.service c .msgThread = [] ∨
      (t.service.gone c = false ∧ calls t.service c .msgThread = [.lock, .unlock]) := by
    intro c
    rw [calls]
    split
    · exact calls_section t.service _ c
    · next hdelete => exact absurd hdelete (hthread _ _)
    · exact .inl rfl
  rcases Service.step_cases h.kept.linked .msgThread with heq | hstep
  · exact h.of_eq heq hcalls
  have hquiet : ∀ s', Step t.service .msgThread s' → s'.gone = t.service.gone ∧
      (∀ d, Event.started d ∈ s'.log ↔ Event.started d ∈ t.service.log) ∧
      ∀ d, Event.deleted d ∈ s'.log ↔ Event.deleted d ∈ t.service.log := by
    intro s' hs'
    cases hs' with
    | delete hdelete => exact absurd hdelete (hthread _ _)
    | kernelCall =>
      rename_i call _ _ _
      cases call <;> exact ⟨rfl, fun _ => Iff.rfl, fun _ => Iff.rfl⟩
    | _ => exact ⟨rfl, by simp [Service.pushed, Service.removed, Service.popped, Service.unhooked],
        by simp [Service.pushed, Service.removed, Service.popped, Service.unhooked]⟩
  obtain ⟨hgone, hstarted, hdeleted⟩ := hquiet _ hstep
  exact h.of_quiet hgone hcalls hstarted hdeleted

theorem Counted.step (h : Counted t) (i : Input) : Counted (t.step i) := by
  cases i with
  | start client timeOutInMs wakeOnExpire =>
    by_cases hstart : t.service.gone client = false ∧ t.service.mTimer client = none ∧
        (t.service.clock.after? timeOutInMs).isSome
    · obtain ⟨hgone, hfree, hsome⟩ := hstart
      obtain ⟨futureTime, hfuture⟩ := Option.isSome_iff_exists.mp hsome
      exact h.start hgone hfree hfuture
    · -- the timer runs, or its time has no value
      have hsame : t.service.step (.start client timeOutInMs wakeOnExpire) = t.service := by
        rw [Service.step]
        split
        · rfl
        · next hgone =>
          rcases hfree : t.service.mTimer client with _ | d
          · rcases hfuture : t.service.clock.after? timeOutInMs with _ | futureTime
            · simp only [Service.start, hfree, hfuture]
            · exact absurd ⟨Bool.eq_false_iff.mpr hgone, hfree, by rw [hfuture]; rfl⟩ hstart
          · simp only [Service.start, hfree]
      refine h.of_eq hsame fun c => ?_
      have hcalls : calls t.service c (.start client timeOutInMs wakeOnExpire) =
          if client = c ∧ t.service.gone c = false then [.lock, .unlock] else [] := by
        rw [calls]
        by_cases hclient : client = c ∧ t.service.gone c = false
        · rw [if_pos hclient, if_pos hclient]
          obtain ⟨rfl, hgone⟩ := hclient
          exact if_neg fun hfree => hstart ⟨hgone, hfree⟩
        · rw [if_neg hclient, if_neg hclient]
      rw [hcalls]
      exact calls_section t.service client c
  | stop client =>
    have hcalls := calls_section t.service client
    rcases Service.step_cases h.kept.linked (.stop client) with heq | hstep
    · exact h.of_eq heq hcalls
    · generalize hs' : t.service.step (.stop client) = s' at hstep
      cases hstep with
      | stop timer hrun =>
        refine h.of_quiet ?_ hcalls ?_ ?_ <;> rw [hs'] <;> simp [Service.unhooked]
  | destroy client =>
    cases hgone : t.service.gone client with
    | false => exact h.destroy hgone
    | true =>
      refine h.of_eq (if_pos hgone) fun c => .inl (if_neg ?_)
      rintro ⟨rfl, hthere⟩
      rw [hgone] at hthere
      cases hthere
  | msgThread =>
    by_cases hthread : ∃ k timer, t.service.msgThread = .updating k [] (some timer)
    · obtain ⟨k, timer, hthread⟩ := hthread
      exact h.delete hthread
    · exact h.msgThread fun k timer hupdating => hthread ⟨k, timer, hupdating⟩
  | tick now =>
    refine h.of_quiet ?_ (fun c => .inl rfl) ?_ ?_
    all_goals
      rw [Service.step]
      split <;> simp
  | epollWait ready =>
    refine h.of_quiet ?_ (fun c => .inl rfl) ?_ ?_
    all_goals
      rw [Service.step, Service.epollWait]
      split <;> simp
  | pollThread =>
    refine h.of_quiet ?_ (fun c => .inl rfl) ?_ ?_
    all_goals
      rw [Service.step, Service.pollStep]
      split <;> simp

/-- **The lock of a timer** is counted right, deleted once, when the timer is gone and its last
delegate is deleted, and not called after that, whatever the order in which they go. -/
theorem sharedLock_exec (inputs : List Input) (c : ℕ) :
    let s := exec Locks.step Locks.init inputs
    let service := exec Service.step Service.init inputs
    (s.lock c).mRef = (if service.gone c then 0 else 1) + (live service.log c).length ∧
      (s.lock c).deletes = (if service.gone c = true ∧ live service.log c = [] then 1 else 0) ∧
      (s.lock c).lateCalls = 0 := by
  have hstep : ∀ t i, Counted t → Counted (t.step i) := fun _ i h => h.step i
  have hholds := (exec_inv hstep inputs _ counted_init).holds c
  rw [service_exec] at hholds
  intro s service
  have hzero : holders service c = 0 ↔ service.gone c = true ∧ live service.log c = [] := by
    rw [holders, Nat.add_eq_zero_iff, List.length_eq_zero_iff]
    cases service.gone c <;> simp
  refine ⟨?_, hholds.deletes.trans (if_congr hzero rfl rfl), hholds.lateCalls⟩
  rw [hholds.mRef]
  show ((holders service c : ℕ) : ℤ) = _
  rw [holders, Int.natCast_add]
  cases service.gone c <;> rfl

end Timer
end Nx507j
