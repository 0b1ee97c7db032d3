import Nx507j.Timer.Service

/-!
# The life cycle of a delegate

A delegate is created by `start`, pushed by the first message about it and deleted by the
last.  Between the two its client and the timer thread compete for stopping it, and who
comes first sends the last message.

## Main definitions

* `Ledger`, `Service.ledger` — what the state and the log say of a delegate, in numbers.
* `Ledger.Balanced` — how these numbers keep together.
* `Kept` — the invariant of the service.

## Main results

* `Kept.step`, `kept_exec` — every step of every party keeps it.
* `lifecycle_exec` — a delegate is pushed, deleted and sent its `MsgTimerRemove` at most
  once, and sent it when its timer has been stopped, destroyed or has expired.
-/

namespace Nx507j
namespace Timer

open Run LocHeap

/-! ### The numbers of a delegate -/

namespace MsgThread

/-- The message that is processed is a `MsgTimerRemove` of the delegate. -/
def deleting (d : LocTimerDelegate) : MsgThread → ℕ
  | updating _ _ (some timer) => if timer = d then 1 else 0
  | _ => 0

/-- The delegate is in `expire()`, and its client has not been told to stop. -/
def expiring (d : LocTimerDelegate) : MsgThread → ℕ
  | popped _ _ timer => if timer = d then 1 else 0
  | stopping _ _ timer _ => if timer = d then 1 else 0
  | _ => 0

end MsgThread

/-- How often each thing has happened to a delegate, and where it is now. -/
structure Ledger where
  started : ℕ
  queuedPush : ℕ
  pushed : ℕ
  inHeap : ℕ
  popped : ℕ
  expiring : ℕ
  /-- It has its container. -/
  hooked : ℕ
  removeSent : ℕ
  queuedRemove : ℕ
  deleting : ℕ
  deleted : ℕ

def Service.ledger (s : Service) (d : LocTimerDelegate) : Ledger where
  started := s.log.count (.started d)
  queuedPush := s.queue.count (.push d.wakeOnExpire d)
  pushed := s.log.count (.pushed d)
  inHeap := (s.heap d.wakeOnExpire).elems.count d
  popped := s.log.count (.popped d)
  expiring := s.msgThread.expiring d
  hooked := (s.mContainer d).elim 0 fun _ => 1
  removeSent := s.log.count (.removeSent d)
  queuedRemove := s.queue.count (.remove d.wakeOnExpire d)
  deleting := s.msgThread.deleting d
  deleted := s.log.count (.deleted d)

/-- What is sent is queued or has been processed, each thing happens once, and what has been
removed is nowhere. -/
structure Ledger.Balanced (l : Ledger) : Prop where
  once : l.started ≤ 1
  push : l.queuedPush + l.pushed = l.started
  heap : l.inHeap ≤ l.pushed
  sent : l.removeSent + l.hooked = l.started
  remove : l.queuedRemove + l.deleting + l.deleted = l.removeSent
  removed : 0 < l.deleting + l.deleted → l.inHeap = 0 ∧ l.queuedPush = 0
  popped : 0 < l.popped → 0 < l.pushed
  expiring : 0 < l.popped → l.hooked = 0 ∨ 0 < l.expiring
  expired : 0 < l.expiring → 0 < l.popped

theorem Ledger.Balanced.removeSent_le {l : Ledger} (h : l.Balanced) : l.removeSent ≤ 1 := by
  have honce := h.once
  have hsent := h.sent
  omega

/-! ### The invariant -/

/-- A message about a delegate is for the delegate's container. -/
def Msg.Home : Msg → Prop
  | .push k timer => timer.wakeOnExpire = k
  | .remove k timer => timer.wakeOnExpire = k
  | .expire _ => True

/-- The second message is no push of a delegate that the first one removes. -/
def Msg.InOrder : Msg → Msg → Prop
  | .remove _ timer, .push _ timer' => timer ≠ timer'
  | _, _ => True

/-- The invariant of the service. -/
structure Kept (s : Service) : Prop where
  linked : s.Linked
  valid : ∀ k, (s.heap k).Valid outRanks
  msgHome : ∀ m ∈ s.queue, m.Home
  heapHome : ∀ k, ∀ d ∈ (s.heap k).elems, d.wakeOnExpire = k
  order : s.queue.Pairwise Msg.InOrder
  fresh : ∀ d, s.nextAddress ≤ d.address → s.log.count (.started d) = 0
  stopping : ∀ k now d client, s.msgThread = .stopping k now d client → client = d.client
  balanced : ∀ d, (s.ledger d).Balanced

theorem kept_init : Kept Service.init where
  linked := Service.linked_init
  valid _ := valid_empty
  msgHome := by simp [Service.init]
  heapHome := by simp [Service.init]
  order := List.Pairwise.nil
  fresh _ _ := rfl
  stopping _ _ _ _ h := by cases h
  balanced d := by
    constructor <;> simp [Service.ledger, Service.init, MsgThread.deleting, MsgThread.expiring]

/-! ### The ledger of a step -/

variable {s : Service} {d e : LocTimerDelegate}

theorem ledger_started_self : (s.started d).ledger d =
    { s.ledger d with
      started := (s.ledger d).started + 1
      queuedPush := (s.ledger d).queuedPush + 1
      hooked := 1 } := by
  simp [Service.ledger, Service.started]

theorem ledger_started_of_ne (h : e ≠ d) : (s.started e).ledger d = s.ledger d := by
  simp [Service.ledger, Service.started, h,
    Function.update_of_ne (Ne.symm h)]

theorem ledger_unhooked_self : (s.unhooked d).ledger d =
    { s.ledger d with
      removeSent := (s.ledger d).removeSent + 1
      queuedRemove := (s.ledger d).queuedRemove + 1
      hooked := 0 } := by
  simp [Service.ledger, Service.unhooked]

theorem ledger_unhooked_of_ne (h : e ≠ d) : (s.unhooked e).ledger d = s.ledger d := by
  simp [Service.ledger, Service.unhooked, h,
    Function.update_of_ne (Ne.symm h)]

/-! ### Steps of the clients -/

/-- No message is about a delegate that no start has made. -/
theorem Kept.not_remove_mem (h : Kept s) (hd : s.nextAddress ≤ d.address) (k : ContainerId) :
    Msg.remove k d ∉ s.queue := by
  intro hmem
  obtain rfl : d.wakeOnExpire = k := h.msgHome _ hmem
  have hcount : 0 < (s.ledger d).queuedRemove := List.count_pos_iff.mpr hmem
  have hzero : (s.ledger d).started = 0 := h.fresh d hd
  have hbal := h.balanced d
  have hsent := hbal.sent
  have hremove := hbal.remove
  omega

theorem Kept.started (h : Kept s) (hfree : s.mTimer e.client = none)
    (he : e.address = s.nextAddress) : Kept (s.started e) where
  linked := h.linked.started hfree he
  valid := h.valid
  msgHome := by
    intro m hm
    rcases List.mem_append.mp hm with hm | hm
    · exact h.msgHome m hm
    · rw [List.mem_singleton.mp hm]
      rfl
  heapHome := h.heapHome
  order := by
    refine List.pairwise_append.mpr ⟨h.order, List.pairwise_singleton _ _, ?_⟩
    intro m hm m' hm'
    rw [List.mem_singleton.mp hm']
    cases m with
    | remove k timer =>
      rintro rfl
      exact h.not_remove_mem (by omega) k hm
    | push => trivial
    | expire => trivial
  fresh := by
    intro d hd
    have hd' : s.nextAddress + 1 ≤ d.address := hd
    have hne : e ≠ d := by
      rintro rfl
      omega
    have hzero : (s.ledger d).started = 0 := h.fresh d (by omega)
    exact (congrArg Ledger.started (ledger_started_of_ne hne)).trans hzero
  stopping := h.stopping
  balanced := by
    intro d
    by_cases hed : e = d
    · subst hed
      have hzero : (s.ledger e).started = 0 := h.fresh e (by omega)
      obtain ⟨honce, hpush, hheap, hsent, hremove, hremoved, hpopped, hexpiring, hexpired⟩ :=
        h.balanced e
      rw [ledger_started_self]
      constructor <;> dsimp only <;> omega
    · rw [ledger_started_of_ne hed]
      exact h.balanced d

theorem Kept.unhooked (h : Kept s) (hrun : s.mTimer e.client = some e) : Kept (s.unhooked e) where
  linked := h.linked.unhooked hrun
  valid := h.valid
  msgHome := by
    intro m hm
    rcases List.mem_append.mp hm with hm | hm
    · exact h.msgHome m hm
    · rw [List.mem_singleton.mp hm]
      rfl
  heapHome := h.heapHome
  order := by
    refine List.pairwise_append.mpr ⟨h.order, List.pairwise_singleton _ _, ?_⟩
    intro m hm m' hm'
    rw [List.mem_singleton.mp hm']
    cases m <;> trivial
  fresh := by
    intro d hd
    show (s.log ++ [Event.removeSent e]).count (.started d) = 0
    rw [List.count_append, h.fresh d hd]
    rfl
  stopping := h.stopping
  balanced := by
    intro d
    by_cases hed : e = d
    · subst hed
      have hhooked : (s.ledger e).hooked = 1 := by
        have hcontainer := (h.linked.client e.client e ((h.linked.timer _ e).mp hrun)).2.1
        simp only [Service.ledger, hcontainer, Option.elim_some]
      obtain ⟨honce, hpush, hheap, hsent, hremove, hremoved, hpopped, hexpiring, hexpired⟩ :=
        h.balanced e
      rw [ledger_unhooked_self]
      constructor <;> dsimp only <;> omega
    · rw [ledger_unhooked_of_ne hed]
      exact h.balanced d

/-! ### Steps that leave the ledgers as they are -/

theorem Kept.of_ledger (h : Kept s) {s' : Service} (hlinked : s'.Linked) (hheap : s'.heap = s.heap)
    (hnext : s'.nextAddress = s.nextAddress) (hhome : ∀ m ∈ s'.queue, m.Home)
    (horder : s'.queue.Pairwise Msg.InOrder)
    (hstop : ∀ k now d client, s'.msgThread = .stopping k now d client → client = d.client)
    (hledger : ∀ d, s'.ledger d = s.ledger d) : Kept s' where
  linked := hlinked
  valid := by
    rw [hheap]
    exact h.valid
  msgHome := hhome
  heapHome := by
    rw [hheap]
    exact h.heapHome
  order := horder
  fresh := by
    intro d hd
    rw [hnext] at hd
    exact (congrArg Ledger.started (hledger d)).trans (h.fresh d hd)
  stopping := hstop
  balanced := by
    intro d
    rw [hledger d]
    exact h.balanced d

/-- Who is gone, the clock, the kernel timers and the poll thread are no part of it. -/
theorem Kept.of_eq (h : Kept s) {s' : Service} (hlinked : s'.Linked) (hheap : s'.heap = s.heap)
    (hnext : s'.nextAddress = s.nextAddress) (hqueue : s'.queue = s.queue)
    (hthread : s'.msgThread = s.msgThread) (hledger : ∀ d, s'.ledger d = s.ledger d) : Kept s' :=
  h.of_ledger hlinked hheap hnext (by rw [hqueue]; exact h.msgHome) (by rw [hqueue]; exact h.order)
    (by rw [hthread]; exact h.stopping) hledger

/-- A message that refers to no delegate is sent. -/
theorem Kept.sendExpire (h : Kept s) (k : ContainerId) (poll : PollThread) :
    Kept { s with queue := s.queue ++ [.expire k], pollThread := poll } := by
  refine h.of_ledger ?_ rfl rfl ?_ ?_ h.stopping ?_
  · exact h.linked.of_eq rfl rfl rfl rfl
  · intro m hm
    rcases List.mem_append.mp hm with hm | hm
    · exact h.msgHome m hm
    · rw [List.mem_singleton.mp hm]
      trivial
  · refine List.pairwise_append.mpr ⟨h.order, List.pairwise_singleton _ _, ?_⟩
    intro m hm m' hm'
    rw [List.mem_singleton.mp hm']
    cases m <;> trivial
  · intro d
    simp [Service.ledger]

/-! ### Steps of the timer thread -/

/-- What the rest of the queue keeps when the first message has been taken. -/
theorem Kept.tail (h : Kept s) {m : Msg} {queue : List Msg} (hqueue : s.queue = m :: queue) :
    m.Home ∧ (∀ m' ∈ queue, m'.Home) ∧ (∀ m' ∈ queue, m.InOrder m') ∧
      queue.Pairwise Msg.InOrder := by
  have hhome := h.msgHome
  have horder := h.order
  rw [hqueue] at hhome horder
  obtain ⟨hm, hrest⟩ := List.pairwise_cons.mp horder
  exact ⟨hhome m List.mem_cons_self, fun m' hm' => hhome m' (List.mem_cons_of_mem m hm'), hm, hrest⟩

/-- One heap has changed. -/
theorem Kept.of_heap (h : Kept s) {s' : Service} {k : ContainerId} {c : Container}
    (hlinked : s'.Linked) (hheap : s'.heap = Function.update s.heap k c) (hvalid : c.Valid outRanks)
    (hhome : ∀ d ∈ c.elems, d.wakeOnExpire = k) (hnext : s'.nextAddress = s.nextAddress)
    (hmsgs : (∀ m ∈ s'.queue, m.Home) ∧ s'.queue.Pairwise Msg.InOrder)
    (hlog : ∀ d, s'.log.count (.started d) = s.log.count (.started d))
    (hstop : ∀ k now d client, s'.msgThread ≠ .stopping k now d client)
    (hbalanced : ∀ d, (s'.ledger d).Balanced) : Kept s' where
  linked := hlinked
  valid := by
    rw [hheap]
    exact (Function.forall_update_iff s.heap (p := fun _ c => c.Valid outRanks)).mpr
      ⟨hvalid, fun k _ => h.valid k⟩
  msgHome := hmsgs.1
  heapHome := by
    rw [hheap]
    exact (Function.forall_update_iff s.heap
      (p := fun k c => ∀ d ∈ c.elems, d.wakeOnExpire = k)).mpr ⟨hhome, fun k _ => h.heapHome k⟩
  order := hmsgs.2
  fresh := by
    intro d hd
    rw [hlog d]
    rw [hnext] at hd
    exact h.fresh d hd
  stopping k now d client h' := absurd h' (hstop k now d client)
  balanced := hbalanced

theorem ledger_pushed_self {queue : List Msg} :
    (s.pushed d.wakeOnExpire d queue).ledger d =
      { s.ledger d with
        queuedPush := queue.count (.push d.wakeOnExpire d)
        queuedRemove := queue.count (.remove d.wakeOnExpire d)
        pushed := (s.ledger d).pushed + 1
        inHeap := (s.ledger d).inHeap + 1
        deleting := 0
        expiring := 0 } := by
  simp [Service.ledger, Service.pushed, MsgThread.deleting, MsgThread.expiring]

theorem ledger_pushed_of_ne {queue : List Msg} (hne : e ≠ d) (hwait : s.msgThread = .waiting)
    (hqueue : s.queue = .push e.wakeOnExpire e :: queue) :
    (s.pushed e.wakeOnExpire e queue).ledger d = s.ledger d := by
  have hheap : ((s.pushed e.wakeOnExpire e queue).heap d.wakeOnExpire).elems.count d =
      (s.heap d.wakeOnExpire).elems.count d := by
    by_cases hk : d.wakeOnExpire = e.wakeOnExpire
    · simp [Service.pushed, hk, Multiset.count_cons_of_ne (Ne.symm hne)]
    · simp [Service.pushed, Function.update_of_ne hk]
  simp only [Service.ledger, hheap]
  simp [Service.pushed, hqueue, hwait, hne, MsgThread.deleting, MsgThread.expiring]

theorem Kept.pushed (h : Kept s) {k : ContainerId} {queue : List Msg}
    (hwait : s.msgThread = .waiting) (hqueue : s.queue = .push k e :: queue) :
    Kept (s.pushed k e queue) := by
  obtain ⟨hhome, hrestHome, -, hrestOrder⟩ := h.tail hqueue
  obtain rfl : e.wakeOnExpire = k := hhome
  refine h.of_heap ?_ rfl ((h.valid _).push e) ?_ rfl ⟨hrestHome, hrestOrder⟩ ?_ ?_ ?_
  · exact h.linked.of_eq rfl rfl rfl rfl
  · intro d hd
    rw [elems_push] at hd
    rcases Multiset.mem_cons.mp hd with rfl | hd
    · rfl
    · exact h.heapHome _ d hd
  · intro d
    simp [Service.pushed]
  · intro k now d client hstop
    cases hstop
  · intro d
    by_cases hed : e = d
    · subst hed
      have hpushes : (s.ledger e).queuedPush = queue.count (.push e.wakeOnExpire e) + 1 := by
        simp [Service.ledger, hqueue]
      have hremoves : (s.ledger e).queuedRemove = queue.count (.remove e.wakeOnExpire e) := by
        simp [Service.ledger, hqueue]
      have hdeleting : (s.ledger e).deleting = 0 := by simp [Service.ledger, hwait, MsgThread.deleting]
      have hexp : (s.ledger e).expiring = 0 := by simp [Service.ledger, hwait, MsgThread.expiring]
      obtain ⟨honce, hpush, hheap, hsent, hremove, hremoved, hpopped, hexpiring, hexpired⟩ := h.balanced e
      rw [ledger_pushed_self]
      constructor <;> dsimp only <;> omega
    · rw [ledger_pushed_of_ne hed hwait hqueue]
      exact h.balanced d

theorem ledger_removed_self {queue : List Msg} :
    (s.removed d.wakeOnExpire d queue).ledger d =
      { s.ledger d with
        queuedPush := queue.count (.push d.wakeOnExpire d)
        queuedRemove := queue.count (.remove d.wakeOnExpire d)
        inHeap := ((s.heap d.wakeOnExpire).remove outRanks d).1.elems.count d
        deleting := 1
        expiring := 0 } := by
  simp [Service.ledger, Service.removed, MsgThread.deleting, MsgThread.expiring]

theorem ledger_removed_of_ne {queue : List Msg} (hne : e ≠ d) (hwait : s.msgThread = .waiting)
    (hqueue : s.queue = .remove e.wakeOnExpire e :: queue) :
    (s.removed e.wakeOnExpire e queue).ledger d = s.ledger d := by
  have hheap : ((s.removed e.wakeOnExpire e queue).heap d.wakeOnExpire).elems.count d =
      (s.heap d.wakeOnExpire).elems.count d := by
    by_cases hk : d.wakeOnExpire = e.wakeOnExpire
    · simp only [Service.removed, hk, Function.update_self]
      rcases remove_spec outRanks (s.heap e.wakeOnExpire) e with ⟨-, helems⟩ | hnone
      · rw [helems, Multiset.count_cons_of_ne (Ne.symm hne)]
      · rw [hnone]
    · simp [Service.removed, Function.update_of_ne hk]
  simp only [Service.ledger, hheap]
  simp [Service.removed, hqueue, hwait, hne, MsgThread.deleting, MsgThread.expiring]

theorem Kept.removed (h : Kept s) {k : ContainerId} {queue : List Msg}
    (hwait : s.msgThread = .waiting) (hqueue : s.queue = .remove k e :: queue) :
    Kept (s.removed k e queue) := by
  obtain ⟨hhome, hrestHome, hlate, hrestOrder⟩ := h.tail hqueue
  obtain rfl : e.wakeOnExpire = k := hhome
  have hle : ((s.heap e.wakeOnExpire).remove outRanks e).1.elems ≤ (s.heap e.wakeOnExpire).elems := by
    rcases remove_spec outRanks (s.heap e.wakeOnExpire) e with ⟨-, helems⟩ | hnone
    · rw [helems]
      exact Multiset.le_cons_self _ _
    · rw [hnone]
  refine h.of_heap ?_ rfl ((h.valid _).remove e) ?_ rfl ⟨hrestHome, hrestOrder⟩ ?_ ?_ ?_
  · exact h.linked.of_eq rfl rfl rfl rfl
  · intro d hd
    exact h.heapHome _ d (Multiset.mem_of_le hle hd)
  · intro d
    rfl
  · intro k now d client hstop
    cases hstop
  · intro d
    by_cases hed : e = d
    · subst hed
      have hpushes : (s.ledger e).queuedPush = queue.count (.push e.wakeOnExpire e) := by
        simp [Service.ledger, hqueue]
      have hremoves : (s.ledger e).queuedRemove = queue.count (.remove e.wakeOnExpire e) + 1 := by
        simp [Service.ledger, hqueue]
      have hdeleting : (s.ledger e).deleting = 0 := by simp [Service.ledger, hwait, MsgThread.deleting]
      have hexp : (s.ledger e).expiring = 0 := by simp [Service.ledger, hwait, MsgThread.expiring]
      -- a push of the delegate would have come before its removal
      have hnopush : queue.count (.push e.wakeOnExpire e) = 0 := by
        rw [List.count_eq_zero]
        intro hmem
        exact hlate _ hmem rfl
      obtain ⟨honce, hpush, hheap, hsent, hremove, hremoved, hpopped, hexpiring, hexpired⟩ := h.balanced e
      -- it was in the heap once at most, and is found if it was there
      have hgone : ((s.heap e.wakeOnExpire).remove outRanks e).1.elems.count e = 0 := by
        have hin : (s.ledger e).inHeap = (s.heap e.wakeOnExpire).elems.count e := rfl
        by_cases hmem : e ∈ (s.heap e.wakeOnExpire).elems
        · obtain ⟨-, helems⟩ := (h.valid e.wakeOnExpire).remove_of_mem hmem
          rw [helems, Multiset.count_cons_self] at hin
          omega
        · exact Multiset.count_eq_zero.mpr fun hmem' => hmem (Multiset.mem_of_le hle hmem')
      rw [ledger_removed_self, hgone, hnopush]
      constructor <;> dsimp only <;> omega
    · rw [ledger_removed_of_ne hed hwait hqueue]
      exact h.balanced d

theorem ledger_popped_of_ne {k : ContainerId} {now : Timespec} {queue : List Msg} (hne : e ≠ d)
    (hpeek : (s.heap k).peek = some e) (hthread : ∀ d, s.msgThread.deleting d = 0)
    (hexp : ∀ d, s.msgThread.expiring d = 0)
    (hqueue : s.queue = queue ∨ s.queue = .expire k :: queue) :
    (s.popped k now e queue).ledger d = s.ledger d := by
  have hheap : ((s.popped k now e queue).heap d.wakeOnExpire).elems.count d =
      (s.heap d.wakeOnExpire).elems.count d := by
    by_cases hk : d.wakeOnExpire = k
    · simp only [Service.popped, hk, Function.update_self]
      rw [(pop_spec outRanks _).2 e hpeek, Multiset.count_cons_of_ne (Ne.symm hne)]
    · simp [Service.popped, Function.update_of_ne hk]
  have hpushes : queue.count (.push d.wakeOnExpire d) = s.queue.count (.push d.wakeOnExpire d) := by
    rcases hqueue with hqueue | hqueue <;> simp [hqueue]
  have hremoves :
      queue.count (.remove d.wakeOnExpire d) = s.queue.count (.remove d.wakeOnExpire d) := by
    rcases hqueue with hqueue | hqueue <;> simp [hqueue]
  have hexp' : (s.popped k now e queue).msgThread.expiring d = 0 := by
    simp [Service.popped, MsgThread.expiring, hne]
  simp only [Service.ledger, hheap, hexp', hthread, hexp]
  simp [Service.popped, hpushes, hremoves, hne, MsgThread.deleting]

/-- A pop, of the first delegate when the message has been taken or of a later one. -/
theorem Kept.popped (h : Kept s) {k : ContainerId} {now : Timespec} {queue : List Msg}
    (hpeek : (s.heap k).peek = some e) (hdel : ∀ d, s.msgThread.deleting d = 0)
    (hexp : ∀ d, s.msgThread.expiring d = 0)
    (hqueue : s.queue = queue ∨ s.queue = .expire k :: queue) :
    Kept (s.popped k now e queue) := by
  have helems : (s.heap k).elems = e ::ₘ ((s.heap k).pop outRanks).1.elems :=
    (pop_spec outRanks _).2 e hpeek
  obtain rfl : e.wakeOnExpire = k := h.heapHome k e (mem_of_peek hpeek)
  refine h.of_heap ?_ rfl (h.valid _).pop ?_ rfl ?_ ?_ ?_ ?_
  · exact h.linked.of_eq rfl rfl rfl rfl
  · intro d hd
    apply h.heapHome _ d
    rw [helems]
    exact Multiset.mem_cons_of_mem hd
  · rcases hqueue with rfl | hqueue
    · exact ⟨h.msgHome, h.order⟩
    · obtain ⟨-, hrestHome, -, hrestOrder⟩ := h.tail hqueue
      exact ⟨hrestHome, hrestOrder⟩
  · intro d
    simp [Service.popped]
  · intro k now d client hstop
    cases hstop
  · intro d
    by_cases hed : e = d
    · subst hed
      have hledger : (s.popped e.wakeOnExpire now e queue).ledger e =
          { s.ledger e with
            inHeap := ((s.heap e.wakeOnExpire).pop outRanks).1.elems.count e
            popped := (s.ledger e).popped + 1
            expiring := 1 } := by
        have hdel' : (MsgThread.popped e.wakeOnExpire now e).deleting e = 0 := rfl
        rcases hqueue with hqueue | hqueue <;>
          simp [Service.ledger, Service.popped, hqueue, hdel e, hdel', MsgThread.expiring]
      have hin : (s.ledger e).inHeap =
          ((s.heap e.wakeOnExpire).pop outRanks).1.elems.count e + 1 := by
        show (s.heap e.wakeOnExpire).elems.count e = _
        rw [helems, Multiset.count_cons_self]
      obtain ⟨honce, hpush, hheap, hsent, hremove, hremoved, hpopped, hexpiring, hexpired⟩ := h.balanced e
      rw [hledger]
      constructor <;> dsimp only <;> omega
    · rw [ledger_popped_of_ne hed hpeek hdel hexp hqueue]
      exact h.balanced d

/-- A delegate whose client runs another timer, or none, has been stopped. -/
theorem Kept.container_eq_none (h : Kept s) (hrun : s.mTimer d.client ≠ some d) :
    s.mContainer d = none := by
  apply h.linked.container
  rcases hclient : s.mClient d with _ | client
  · rfl
  · obtain rfl := (h.linked.client client d hclient).1
    exact absurd ((h.linked.timer _ d).mpr hclient) hrun

/-- `expire()` of a delegate that has been stopped goes on. -/
theorem Kept.leave (h : Kept s) {thread : MsgThread} (hcontainer : s.mContainer e = none)
    (hdel : ∀ d, s.msgThread.deleting d = 0)
    (hthread : ∀ d, thread.deleting d = 0 ∧ thread.expiring d = 0)
    (hexp : ∀ d, d ≠ e → s.msgThread.expiring d = 0)
    (hstop : ∀ k now d client, thread ≠ .stopping k now d client) :
    Kept { s with msgThread := thread } where
  linked := h.linked.of_eq rfl rfl rfl rfl
  valid := h.valid
  msgHome := h.msgHome
  heapHome := h.heapHome
  order := h.order
  fresh := h.fresh
  stopping k now d client h' := absurd h' (hstop k now d client)
  balanced := by
    intro d
    have hledger : Service.ledger { s with msgThread := thread } d =
        { s.ledger d with expiring := 0 } := by
      simp [Service.ledger, hthread, hdel]
    obtain ⟨honce, hpush, hheap, hsent, hremove, hremoved, hpopped, hexpiring, hexpired⟩ := h.balanced d
    have hleft : (s.ledger d).expiring = 0 ∨ (s.ledger d).hooked = 0 := by
      by_cases hde : d = e
      · subst hde
        right
        simp [Service.ledger, hcontainer]
      · exact .inl (hexp d hde)
    rw [hledger]
    constructor <;> dsimp only <;> omega

/-- The delegate of the message is deleted. -/
theorem Kept.delete (h : Kept s) {k : ContainerId} (hthread : s.msgThread = .updating k [] (some e)) :
    Kept { s with log := s.log ++ [.deleted e], msgThread := .waiting } where
  linked := h.linked.of_eq rfl rfl rfl rfl
  valid := h.valid
  msgHome := h.msgHome
  heapHome := h.heapHome
  order := h.order
  fresh := by
    intro d hd
    rw [List.count_append, h.fresh d hd]
    rfl
  stopping _ _ _ _ h' := by cases h'
  balanced := by
    intro d
    have hexp : (s.ledger d).expiring = 0 := by simp [Service.ledger, hthread, MsgThread.expiring]
    obtain ⟨honce, hpush, hheap, hsent, hremove, hremoved, hpopped, hexpiring, hexpired⟩ := h.balanced d
    by_cases hed : e = d
    · subst hed
      have hdel : (s.ledger e).deleting = 1 := by simp [Service.ledger, hthread, MsgThread.deleting]
      have hledger : Service.ledger
          { s with log := s.log ++ [.deleted e], msgThread := .waiting } e =
          { s.ledger e with deleting := 0, deleted := (s.ledger e).deleted + 1 } := by
        simp [Service.ledger, hthread, MsgThread.deleting, MsgThread.expiring]
      rw [hledger]
      constructor <;> dsimp only <;> omega
    · have hledger : Service.ledger
          { s with log := s.log ++ [.deleted e], msgThread := .waiting } d = s.ledger d := by
        simp [Service.ledger, hthread, MsgThread.deleting, MsgThread.expiring, hed]
      rw [hledger]
      exact h.balanced d

/-! ### Every step -/

theorem Kept.step (h : Kept s) (i : Input) : Kept (s.step i) := by
  rcases Service.step_cases h.linked i with heq | hstep
  · rw [heq]
    exact h
  have hlinked := h.linked.step i
  generalize s.step i = s' at hstep hlinked
  cases hstep with
  | start timer hgone hfree haddress hclock => exact h.started hfree haddress
  | stop timer hrun =>
    refine (h.unhooked hrun).of_eq hlinked rfl rfl rfl rfl ?_
    intro d
    simp [Service.ledger, Service.unhooked, List.count_cons]
  | destroyRunning timer hrun =>
    refine (h.unhooked hrun).of_eq hlinked rfl rfl rfl rfl ?_
    intro d
    simp [Service.ledger, Service.unhooked, List.count_cons]
  | destroy => exact h.of_eq hlinked rfl rfl rfl rfl fun d => rfl
  | tick => exact h.of_eq hlinked rfl rfl rfl rfl fun d => rfl
  | epollWait => exact h.of_eq hlinked rfl rfl rfl rfl fun d => rfl
  | disarm => exact h.of_eq hlinked rfl rfl rfl rfl fun d => rfl
  | removePoll => exact h.of_eq hlinked rfl rfl rfl rfl fun d => rfl
  | sendExpire => exact h.sendExpire _ _
  | push hwait hqueue => exact h.pushed hwait hqueue
  | remove hwait hqueue => exact h.removed hwait hqueue
  | expire hwait hqueue hpeek =>
    apply h.popped hpeek
    · simp [hwait, MsgThread.deleting]
    · simp [hwait, MsgThread.expiring]
    · exact .inr hqueue
  | expireNone hwait hqueue hpeek =>
    obtain ⟨-, hrestHome, -, hrestOrder⟩ := h.tail hqueue
    refine h.of_ledger hlinked rfl rfl hrestHome hrestOrder (by rintro _ _ _ _ ⟨⟩) ?_
    intro d
    simp [Service.ledger, hqueue, hwait, MsgThread.deleting, MsgThread.expiring]
  | kernelCall hthread =>
    rename_i k call calls toDelete
    cases call <;>
      refine h.of_ledger hlinked rfl rfl h.msgHome h.order (by rintro _ _ _ _ ⟨⟩) ?_ <;>
        intro d <;>
          cases toDelete <;>
            simp [Service.ledger, Service.kernelCall, hthread, MsgThread.deleting, MsgThread.expiring]
  | delete hthread => exact h.delete hthread
  | updated hthread =>
    refine h.of_ledger hlinked rfl rfl h.msgHome h.order (by rintro _ _ _ _ ⟨⟩) ?_
    intro d
    simp [Service.ledger, hthread, MsgThread.deleting, MsgThread.expiring]
  | readClient hthread hclient =>
    rename_i k now timer client
    refine h.of_ledger hlinked rfl rfl h.msgHome h.order ?_ ?_
    · intro k' now' d client' hstop
      cases hstop
      exact (h.linked.client client timer hclient).1.symm
    · intro d
      simp [Service.ledger, hthread, MsgThread.deleting, MsgThread.expiring]
  | readNull hthread hclient =>
    refine h.leave (h.linked.container _ hclient) ?_ ?_ ?_ (by rintro _ _ _ _ ⟨⟩)
    · simp [hthread, MsgThread.deleting]
    · simp [MsgThread.deleting, MsgThread.expiring]
    · intro d hd
      simp [hthread, MsgThread.expiring, Ne.symm hd]
  | clientStop hthread hrun =>
    rename_i k now timer stopped
    -- the client has stopped the delegate of the message, or had done so before
    have hcontainer : (s.unhooked stopped).mContainer timer = none := by
      by_cases hts : timer = stopped
      · simp [Service.unhooked, hts]
      · simp only [Service.unhooked, Function.update_of_ne hts]
        apply h.container_eq_none
        rw [← h.stopping _ _ _ _ hthread, hrun]
        exact fun heq => hts (Option.some.inj heq).symm
    refine (h.unhooked hrun).leave hcontainer ?_ ?_ ?_ (by rintro _ _ _ _ ⟨⟩)
    · simp [Service.unhooked, hthread, MsgThread.deleting]
    · simp [MsgThread.deleting, MsgThread.expiring]
    · intro d hd
      simp [Service.unhooked, hthread, MsgThread.expiring, Ne.symm hd]
  | clientStopped hthread hrun =>
    rename_i k now timer client
    have hcontainer : s.mContainer timer = none := by
      apply h.container_eq_none
      rw [← h.stopping _ _ _ _ hthread, hrun]
      exact (Option.some_ne_none _).symm
    refine h.leave hcontainer ?_ ?_ ?_ (by rintro _ _ _ _ ⟨⟩)
    · simp [hthread, MsgThread.deleting]
    · simp [MsgThread.deleting, MsgThread.expiring]
    · intro d hd
      simp [hthread, MsgThread.expiring, Ne.symm hd]
  | callback hthread =>
    refine h.of_ledger hlinked rfl rfl h.msgHome h.order (by rintro _ _ _ _ ⟨⟩) ?_
    intro d
    simp [Service.ledger, hthread, MsgThread.deleting, MsgThread.expiring]
  | popDue hthread hpeek hnow =>
    apply h.popped hpeek
    · simp [hthread, MsgThread.deleting]
    · simp [hthread, MsgThread.expiring]
    · exact .inl rfl
  | popNone hthread hall =>
    refine h.of_ledger hlinked rfl rfl h.msgHome h.order (by rintro _ _ _ _ ⟨⟩) ?_
    intro d
    simp [Service.ledger, hthread, MsgThread.deleting, MsgThread.expiring]

theorem kept_exec (inputs : List Input) : Kept (exec Service.step Service.init inputs) :=
  exec_inv (fun s i (h : Kept s) => h.step i) inputs _ kept_init

/-! ### The log only grows -/

theorem log_prefix_step (h : s.Linked) (i : Input) : s.log <+: (s.step i).log := by
  rcases Service.step_cases h i with heq | hstep
  · exact heq.symm ▸ List.prefix_refl _
  generalize s.step i = s' at hstep
  cases hstep with
  | kernelCall =>
    rename_i call _ _ _
    cases call <;> exact List.prefix_refl _
  | _ => first | exact List.prefix_refl _ | exact List.prefix_append _ _ | exact ⟨_, (List.append_assoc _ _ _).symm⟩

theorem count_log_le_exec (h : Kept s) (e : Event) (later : List Input) :
    s.log.count e ≤ (exec Service.step s later).log.count e := by
  induction later generalizing s with
  | nil => exact Nat.le_refl _
  | cons i later ih =>
    have hfirst : s.log.count e ≤ (s.step i).log.count e :=
      (log_prefix_step h.linked i).sublist.count_le e
    exact hfirst.trans (ih (h.step i))

/-! ### Expiry -/

/-- The steps that the timer thread has left in the delegate's `expire()` until the client has
been told to stop. -/
def MsgThread.stepsToStop (d : LocTimerDelegate) : MsgThread → ℕ
  | popped _ _ timer => if timer = d then 2 else 0
  | stopping _ _ timer _ => if timer = d then 1 else 0
  | _ => 0

theorem MsgThread.stepsToStop_le (t : MsgThread) : t.stepsToStop d ≤ 2 := by
  cases t with
  | popped k now timer =>
    simp only [stepsToStop]
    split <;> omega
  | stopping k now timer client =>
    simp only [stepsToStop]
    split <;> omega
  | _ => exact Nat.zero_le 2

theorem MsgThread.expiring_eq_zero {t : MsgThread} (h : t.stepsToStop d = 0) : t.expiring d = 0 := by
  cases t with
  | popped k now timer =>
    simp only [stepsToStop, expiring] at *
    split at h <;> simp_all
  | stopping k now timer client =>
    simp only [stepsToStop, expiring] at *
    split at h <;> simp_all
  | _ => rfl

/-- Only the timer thread takes its steps. -/
theorem msgThread_step_of_ne {i : Input} (h : s.Linked) (hi : i ≠ .msgThread) :
    (s.step i).msgThread = s.msgThread := by
  rcases Service.step_cases h i with heq | hstep
  · rw [heq]
  generalize s.step i = s' at hstep
  cases hstep with
  | start | stop | destroyRunning | destroy | tick | epollWait | disarm | removePoll
  | sendExpire => rfl
  | _ => exact absurd rfl hi

/-- A step of the timer thread in `expire()` brings it nearer to the stop. -/
theorem stepsToStop_msgStep (hpos : 0 < s.msgThread.stepsToStop d) :
    (s.step .msgThread).msgThread.stepsToStop d < s.msgThread.stepsToStop d := by
  rw [Service.step, Service.msgStep]
  rcases hthread : s.msgThread with _ | _ | ⟨k, now, timer⟩ | ⟨k, now, timer, client⟩ | _ | _
  case popped =>
    rw [hthread] at hpos
    by_cases htd : timer = d
    · subst htd
      rcases hclient : s.mClient timer with _ | client <;> simp [hclient, MsgThread.stepsToStop]
    · simp [MsgThread.stepsToStop, htd] at hpos
  case stopping =>
    rw [hthread] at hpos
    by_cases htd : timer = d
    · subst htd
      rcases hstop : s.stop client with ⟨s', _ | stopped⟩ <;> simp [hstop, MsgThread.stepsToStop]
    · simp [MsgThread.stepsToStop, htd] at hpos
  all_goals
    rw [hthread] at hpos
    cases hpos

/-- A delegate that has been popped and is not in `expire()` any more has been sent its
removal. -/
theorem Kept.removeSent_eq_one (h : Kept s) (hpopped : 0 < s.log.count (.popped d))
    (hleft : s.msgThread.stepsToStop d = 0) : s.log.count (.removeSent d) = 1 := by
  have hexp : (s.ledger d).expiring = 0 := MsgThread.expiring_eq_zero hleft
  have hpop : 0 < (s.ledger d).popped := hpopped
  obtain ⟨honce, hpush, hheap, hsent, hremove, hremoved, hpopped, hexpiring, hexpired⟩ := h.balanced d
  show (s.ledger d).removeSent = 1
  omega

/-- **An expiry sends the removal**: once a delegate has been popped, two steps of the timer
thread are enough, whatever the others do between them. -/
theorem removeSent_of_popped (h : Kept s) (hpopped : 0 < s.log.count (.popped d))
    (later : List Input) (hlater : s.msgThread.stepsToStop d ≤ later.count .msgThread) :
    (exec Service.step s later).log.count (.removeSent d) = 1 := by
  induction later generalizing s with
  | nil =>
    rw [List.count_nil, Nat.le_zero] at hlater
    exact h.removeSent_eq_one hpopped hlater
  | cons i later ih =>
    have hpopped' : 0 < (s.step i).log.count (.popped d) :=
      hpopped.trans_le ((log_prefix_step h.linked i).sublist.count_le _)
    by_cases hi : i = .msgThread
    · subst hi
      rw [List.count_cons_self] at hlater
      rcases Nat.eq_zero_or_pos (s.msgThread.stepsToStop d) with hzero | hpos
      · -- it has been sent, and stays in the log
        have hsent : s.log.count (.removeSent d) = 1 := h.removeSent_eq_one hpopped hzero
        have hmono := count_log_le_exec h (.removeSent d) (.msgThread :: later)
        have hend : Kept (exec Service.step s (.msgThread :: later)) :=
          exec_inv (fun s i (h : Kept s) => h.step i) _ s h
        have hle : _ ≤ 1 := (hend.balanced d).removeSent_le
        rw [hsent] at hmono
        exact le_antisymm hle hmono
      · apply ih (h.step .msgThread) hpopped'
        have hless := stepsToStop_msgStep hpos
        omega
    · apply ih (h.step i) hpopped'
      rw [msgThread_step_of_ne h.linked hi]
      rwa [List.count_cons_of_ne hi] at hlater

/-- A delegate in `expire()` was made by a start. -/
theorem Kept.address_lt (h : Kept s) (hexp : 0 < s.msgThread.expiring d) :
    d.address < s.nextAddress := by
  by_contra hle
  have hzero : (s.ledger d).started = 0 := h.fresh d (by omega)
  have hpos : 0 < (s.ledger d).expiring := hexp
  obtain ⟨honce, hpush, hheap, hsent, hremove, hremoved, hpopped, hexpiring, hexpired⟩ :=
    h.balanced d
  omega

/-! ### Stops -/

/-- The event is the callback of the delegate's start. -/
def Event.isCallback (d : LocTimerDelegate) : Event → Bool
  | .timeOutCallback timer _ => decide (timer = d)
  | _ => false

/-- The callback of the delegate's start is about to be called. -/
def MsgThread.calls (d : LocTimerDelegate) : MsgThread → ℕ
  | calling _ _ timer => if timer = d then 1 else 0
  | _ => 0

/-- Whoever stops a delegate sends its removal: a client, which is told so, or the timer
thread, which makes the callback.  A client that is gone has no delegate. -/
structure Answered (s : Service) : Prop where
  stops : ∀ d, s.log.count (.stopped d) + s.msgThread.calls d + s.log.countP (Event.isCallback d) ≤
    s.log.count (.removeSent d)
  gone : ∀ c, s.gone c = true → s.mTimer c = none

theorem answered_init : Answered Service.init where
  stops d := Nat.le_refl 0
  gone c h := by cases h

theorem Answered.of_eq (h : Answered s) {s' : Service}
    (hlog : ∀ d, s'.log.count (.stopped d) + s'.msgThread.calls d +
        s'.log.countP (Event.isCallback d) + s.log.count (.removeSent d) ≤
      s.log.count (.stopped d) + s.msgThread.calls d + s.log.countP (Event.isCallback d) +
        s'.log.count (.removeSent d))
    (hgone : ∀ c, s'.gone c = true → s'.mTimer c = none) : Answered s' where
  stops d := by
    have h₁ := h.stops d
    have h₂ := hlog d
    omega
  gone := hgone

theorem Answered.gone_unhooked (h : Answered s) :
    ∀ c, (s.unhooked d).gone c = true → (s.unhooked d).mTimer c = none := by
  intro c hc
  by_cases hcd : c = d.client
  · simp [Service.unhooked, hcd]
  · simp only [Service.unhooked, Function.update_of_ne hcd]
    exact h.gone c hc

theorem Answered.step (h : Answered s) (hlinked : s.Linked) (i : Input) : Answered (s.step i) := by
  rcases Service.step_cases hlinked i with heq | hstep
  · rw [heq]
    exact h
  generalize s.step i = s' at hstep
  cases hstep with
  | start timer hgone hfree haddress hclock =>
    apply h.of_eq
    · intro d
      simp [Service.started, Event.isCallback]
    · intro c hc
      have hne : c ≠ timer.client := by
        rintro rfl
        exact absurd hc (Bool.eq_false_iff.mp hgone)
      simp only [Service.started, Function.update_of_ne hne]
      exact h.gone c hc
  | stop timer hrun =>
    apply h.of_eq
    · intro d
      simp [Service.unhooked, Event.isCallback, List.count_cons]
      omega
    · exact h.gone_unhooked
  | destroyRunning timer hrun =>
    apply h.of_eq
    · intro d
      simp [Service.unhooked, Event.isCallback, List.count_cons]
      omega
    · intro c hc
      by_cases hcd : c = timer.client
      · simp [Service.unhooked, hcd]
      · simp only [Service.unhooked, Function.update_of_ne hcd] at hc ⊢
        exact h.gone c hc
  | destroy hfree =>
    rename_i client
    apply h.of_eq
    · intro d
      exact Nat.le_refl _
    · intro c hc
      by_cases hcd : c = client
      · exact hcd ▸ hfree
      · simp only [Function.update_of_ne hcd] at hc
        exact h.gone c hc
  | tick => exact h.of_eq (fun d => Nat.le_refl _) h.gone
  | epollWait => exact h.of_eq (fun d => Nat.le_refl _) h.gone
  | disarm => exact h.of_eq (fun d => Nat.le_refl _) h.gone
  | removePoll => exact h.of_eq (fun d => Nat.le_refl _) h.gone
  | sendExpire => exact h.of_eq (fun d => Nat.le_refl _) h.gone
  | clientStop hthread hrun =>
    apply h.of_eq
    · intro d
      simp [Service.unhooked, Event.isCallback, hthread, MsgThread.calls, List.count_cons]
      omega
    · exact h.gone_unhooked
  | callback hthread =>
    apply h.of_eq
    · intro d
      simp only [Event.isCallback, hthread, MsgThread.calls, List.count_append, List.countP_append,
        List.countP_singleton, decide_eq_true_eq]
      simp
      omega
    · exact h.gone
  | kernelCall hthread =>
    rename_i k call calls toDelete
    cases call <;>
      exact h.of_eq (fun d => by simp [Service.kernelCall, hthread, MsgThread.calls]) h.gone
  | _ hthread =>
    apply h.of_eq
    · intro d
      simp [Service.pushed, Service.removed, Service.popped, Event.isCallback, *, MsgThread.calls]
    · exact h.gone

theorem answered_exec (inputs : List Input) : Answered (exec Service.step Service.init inputs) :=
  (exec_inv (fun s i (h : Kept s ∧ Answered s) => ⟨h.1.step i, h.2.step h.1.linked i⟩) inputs _
    ⟨kept_init, answered_init⟩).2

/-! ### The life cycle -/

/-- **The life cycle of a delegate**, in every run.  It is pushed once at most and deleted once
at most.  When it is deleted it is in no heap, and no message refers to it then or later.  It
is sent one `MsgTimerRemove` at most: one when its timer has been stopped or destroyed, and one
when it has expired, by the second step that the timer thread takes then. -/
theorem lifecycle_exec (inputs : List Input) (d : LocTimerDelegate) :
    let s := exec Service.step Service.init inputs
    s.log.count (.pushed d) ≤ 1 ∧ s.log.count (.deleted d) ≤ 1 ∧
      (.deleted d ∈ s.log → (∀ k, d ∉ (s.heap k).elems) ∧
        ∀ k, .push k d ∉ s.queue ∧ .remove k d ∉ s.queue) ∧
      s.log.count (.removeSent d) ≤ 1 ∧
      (.stopped d ∈ s.log → s.log.count (.removeSent d) = 1) ∧
      (.started d ∈ s.log → s.gone d.client = true → s.log.count (.removeSent d) = 1) ∧
      (.popped d ∈ s.log → ∀ later : List Input, 2 ≤ later.count .msgThread →
        (exec Service.step s later).log.count (.removeSent d) = 1) := by
  intro s
  have hkept : Kept s := kept_exec inputs
  have hanswered : Answered s := answered_exec inputs
  obtain ⟨honce, hpush, hheap, hsent, hremove, hremoved, hpopped, hexpiring, hexpired⟩ := hkept.balanced d
  have hstops := hanswered.stops d
  have hsentEq : (s.ledger d).removeSent = s.log.count (.removeSent d) := rfl
  refine ⟨?_, ?_, ?_, ?_, ?_, ?_, ?_⟩
  · show (s.ledger d).pushed ≤ 1
    omega
  · show (s.ledger d).deleted ≤ 1
    omega
  · intro hmem
    have hpos : 0 < (s.ledger d).deleted := List.count_pos_iff.mpr hmem
    obtain ⟨hnoHeap, hnoPush⟩ := hremoved (by omega)
    have hnoRemove : (s.ledger d).queuedRemove = 0 := by omega
    refine ⟨?_, ?_⟩
    · intro k hk
      obtain rfl := hkept.heapHome k d hk
      exact Multiset.count_eq_zero.mp hnoHeap hk
    · intro k
      refine ⟨?_, ?_⟩
      · intro hm
        obtain rfl : d.wakeOnExpire = k := hkept.msgHome _ hm
        exact List.count_eq_zero.mp hnoPush hm
      · intro hm
        obtain rfl : d.wakeOnExpire = k := hkept.msgHome _ hm
        exact List.count_eq_zero.mp hnoRemove hm
  · omega
  · intro hmem
    have hpos : 0 < s.log.count (.stopped d) := List.count_pos_iff.mpr hmem
    omega
  · intro hmem hgone
    have hpos : 0 < (s.ledger d).started := List.count_pos_iff.mpr hmem
    have hcontainer : s.mContainer d = none := by
      apply hkept.container_eq_none
      rw [hanswered.gone _ hgone]
      exact (Option.some_ne_none _).symm
    have hhooked : (s.ledger d).hooked = 0 := by simp only [Service.ledger, hcontainer, Option.elim_none]
    omega
  · intro hmem later hlater
    apply removeSent_of_popped hkept (List.count_pos_iff.mpr hmem)
    exact (MsgThread.stepsToStop_le _).trans hlater

end Timer
end Nx507j
