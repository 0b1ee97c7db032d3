import Nx507j.Agps.Invariant
import Nx507j.Agps.Simulation

/-!
# The subscriber objects of a plain machine

A plain machine whose list holds addresses of subscriber objects: `clone`
allocates one, `delete` frees one, and every look at a listed object, or at the
receiver of a notification, is a look into the store.  A look at an object that
has been deleted is a fault; the model then goes on with the bytes the object
had.

## Main definitions

* `Ptr` — a pointer to a subscriber: an object of the caller, or one in the store.
* `StoreMachine` — a machine, its objects, and whether a look has failed.
* `StoreMachine.view` — the machine as one that holds the subscribers themselves.
* `StoreMachine.Sound` — a call looks at no deleted object.

## Main results

* `StoreMachine.call_sim` — the store machine simulates its view, and fails a look
  exactly where a call is not sound.
* `StoreMachine.faultless_iff` — so a run has no failed look exactly when all its
  calls are sound.
-/

namespace Nx507j
namespace Agps

open Nx507j.Lists Run

/-- A pointer to a subscriber: to an object the caller owns during the call, or to
one in the store. -/
inductive Ptr
  | caller (s : Subscriber)
  | object (a : ℕ)
  deriving DecidableEq, Repr

/-- A plain machine over a store.  An object's address is its place in `objects`;
`deleted` are the addresses freed; `fault` says that a deleted object was looked at. -/
structure StoreMachine where
  mSubscribers : List ℕ
  mStatePtr : AgpsState
  mType : AGpsExtType
  mAPN : Option CString
  mBearer : AGpsBearerType
  mEnforceSingleSubscriber : Bool
  log : List Entry
  objects : List Subscriber
  deleted : List ℕ
  fault : Bool
  deriving DecidableEq, Repr

namespace StoreMachine

/-- The constructor. -/
def new (type : AGpsExtType) (enforceSingleSubscriber : Bool) : StoreMachine where
  mSubscribers := []
  mStatePtr := .released
  mType := type
  mAPN := none
  mBearer := agpsApnBearerInvalid
  mEnforceSingleSubscriber := enforceSingleSubscriber
  log := []
  objects := []
  deleted := []
  fault := false

/-! ### The store -/

/-- The bytes at an address, whether or not the object is live. -/
def bytes (m : StoreMachine) (a : ℕ) : Subscriber := m.objects.getD a (.atl 0 false)

/-- The address holds an object that has not been deleted. -/
def live (m : StoreMachine) (a : ℕ) : Bool := decide (a < m.objects.length ∧ a ∉ m.deleted)

/-- Dereferences a pointer. -/
def look (p : Ptr) (m : StoreMachine) : Subscriber × StoreMachine :=
  match p with
  | .caller s => (s, m)
  | .object a => (m.bytes a, if m.live a then m else { m with fault := true })

/-- `delete s`. -/
def delete (a : ℕ) (m : StoreMachine) : StoreMachine := { m with deleted := a :: m.deleted }

/-- The machine as one that holds the subscribers themselves. -/
def view (m : StoreMachine) : AgpsStateMachine where
  mSubscribers := m.mSubscribers.map m.bytes
  mStatePtr := m.mStatePtr
  mType := m.mType
  mAPN := m.mAPN
  mBearer := m.mBearer
  mEnforceSingleSubscriber := m.mEnforceSingleSubscriber
  ds := none
  log := m.log

/-- Writes an entry into the log. -/
def say (e : Entry) (m : StoreMachine) : StoreMachine := { m with log := m.log ++ [e] }

/-! ### The operations -/

/-- Looks at the receiver of a notification, if it has one. -/
def lookRcver (n : Notification Ptr) (m : StoreMachine) : Notification Subscriber × StoreMachine :=
  match n.rcver with
  | none => (⟨none, n.groupID, n.rsrcStatus, n.postNotifyDelete⟩, m)
  | some p =>
    let (s, m) := m.look p
    (⟨some s, n.groupID, n.rsrcStatus, n.postNotifyDelete⟩, m)

/-- `hasSubscriber`, the comparison of a search. -/
def hasSubscriber (n : Notification Ptr) (a : ℕ) (m : StoreMachine) : Bool × StoreMachine :=
  let (this, m) := m.look (.object a)
  let (n, m) := m.lookRcver n
  (this.forMe n, m)

/-- The virtual `notifyRsrcStatus`. -/
def notifyRsrcStatus (p : Ptr) (n : Notification Ptr) (m : StoreMachine) : Bool × StoreMachine :=
  let (this, m) := m.look p
  let (n, m) := m.lookRcver n
  (this.hears n,
    if this.hears n then
      m.say (.notified this n.rsrcStatus (m.view.notifyCall n.rsrcStatus this))
    else m)

/-- `notifySubscriber`, the comparison that notifies. -/
def notifySubscriber (n : Notification Ptr) (a : ℕ) (m : StoreMachine) : Bool × StoreMachine :=
  let (notify, m) := m.notifyRsrcStatus (.object a) n
  (notify && n.postNotifyDelete, m)

/-- `AgpsStateMachine::notifySubscribers`. -/
def notifySubscribers (n : Notification Ptr) (m : StoreMachine) : StoreMachine :=
  if n.postNotifyDelete then
    let (l, m) := searchLoop (notifySubscriber n) delete (m.mSubscribers.length + 1)
      m.mSubscribers m
    { m with mSubscribers := l }
  else
    (linkedListSearch (notifySubscriber n) false m.mSubscribers m).2.2

/-- The search for a listed object that a notification is for. -/
def search (n : Notification Ptr) (m : StoreMachine) : Option ℕ × StoreMachine :=
  let (r, _, m) := linkedListSearch (hasSubscriber n) false m.mSubscribers m
  (r, m)

/-- `AgpsStateMachine::addSubscriber`. -/
def addSubscriber (p : Ptr) (m : StoreMachine) : StoreMachine :=
  match m.search (.toSubscriber p) with
  | (some _, m) => m
  | (none, m) =>
    let (s, m) := m.look p
    { m with
      mSubscribers := m.objects.length :: m.mSubscribers
      objects := m.objects ++ [s.clone] }

/-- The call of the virtual `setInactive`. -/
def setInactive (p : Ptr) (m : StoreMachine) : StoreMachine :=
  let (s, m) := m.look p
  let m := match p with
    | .caller _ => m
    | .object a => { m with objects := m.objects.set a s.setInactive }
  match s with
  | .ds ID _ => m.say (.adapter (.atlCloseStatus ID true))
  | _ => m

/-- `AgpsStateMachine::sendRsrcRequest`. -/
def sendRsrcRequest (action : AGpsStatusValue) (m : StoreMachine) : Int32 × StoreMachine :=
  let (r, m) := m.search (.toGroup .broadcastActive)
  if r.isNone = decide (action = .gpsReleaseAgpsDataConn) then
    match r with
    | none => (0, m.say (.requestRsrc (m.view.nifRequest action none)))
    | some a =>
      let (s, m) := m.look (.object a)
      (0, m.say (.requestRsrc (m.view.nifRequest action (some s))))
  else
    (0, m)

instance : MachineOps StoreMachine Ptr where
  mStatePtr := StoreMachine.mStatePtr
  setStatePtr s m := { m with mStatePtr := s }
  mEnforceSingleSubscriber := StoreMachine.mEnforceSingleSubscriber
  hasSubscribers m := !m.mSubscribers.isEmpty
  hasActiveSubscribers m :=
    let (r, m) := m.search (.toGroup .broadcastActive)
    (r.isSome, m)
  findSubscriber p m :=
    let (r, m) := m.search (.toSubscriber p)
    (r.map .object, m)
  addSubscriber := addSubscriber
  notifySubscribers := notifySubscribers
  notifyRsrcStatus p n m := (m.notifyRsrcStatus p n).2
  waitForCloseComplete p m :=
    let (s, m) := m.look p
    (s.waitForCloseComplete, m)
  setInactive := setInactive
  sendRsrcRequest _ := sendRsrcRequest

/-- One call on a machine over a store. -/
def call (m : StoreMachine) (c : Call × Env) : StoreMachine :=
  match c.1 with
  | .subscribeRsrc s => subscribeRsrc c.2 (.caller s) m
  | .unsubscribeRsrc s => (unsubscribeRsrc c.2 (.caller s) m).2
  | .onRsrcEvent e => onRsrcEventBase c.2 e (m.say (.rsrcEvent e))
  | .setAPN apn => { m with mAPN := apn }
  | .setBearer bearer => { m with mBearer := bearer }

/-! ### Stores in order -/

/-- The listed objects are live and differ, and only allocated ones were deleted. -/
structure WF (m : StoreMachine) : Prop where
  nodup : m.mSubscribers.Nodup
  live : ∀ a ∈ m.mSubscribers, m.live a = true
  deleted : ∀ a ∈ m.deleted, a < m.objects.length

/-- The pointer can be looked at. -/
def livePtr (m : StoreMachine) : Ptr → Bool
  | .caller _ => true
  | .object a => m.live a

/-- What a pointer points to. -/
def target (m : StoreMachine) : Ptr → Subscriber
  | .caller s => s
  | .object a => m.bytes a

/-- A notification, with its receiver as it is in the store. -/
def resolve (m : StoreMachine) (n : Notification Ptr) : Notification Subscriber :=
  ⟨n.rcver.map m.target, n.groupID, n.rsrcStatus, n.postNotifyDelete⟩

/-- The receiver of the notification, if it has one, can be looked at. -/
def liveRcver (m : StoreMachine) (n : Notification Ptr) : Bool := n.rcver.all m.livePtr

/-- Records whether a look failed. -/
def blame (failed : Bool) (m : StoreMachine) : StoreMachine := { m with fault := m.fault || failed }

@[simp] theorem blame_false (m : StoreMachine) : m.blame false = m := by simp [blame]

theorem blame_blame (m : StoreMachine) (b b' : Bool) :
    (m.blame b).blame b' = m.blame (b || b') := by simp [blame, Bool.or_assoc]

theorem blame_of_fault {m : StoreMachine} (h : m.fault = true) (b : Bool) : m.blame b = m := by
  rw [blame, h, Bool.true_or, ← h]

theorem look_eq (p : Ptr) (m : StoreMachine) :
    m.look p = (m.target p, m.blame (!m.livePtr p)) := by
  cases p with
  | caller s => simp [look, target, livePtr]
  | object a => cases h : m.live a <;> simp [look, target, livePtr, blame, h]

theorem look_of_live {p : Ptr} {m : StoreMachine} (h : m.livePtr p = true) :
    m.look p = (m.target p, m) := by
  simp [look_eq, h]

theorem lookRcver_eq (n : Notification Ptr) (m : StoreMachine) :
    m.lookRcver n = (m.resolve n, m.blame (!m.liveRcver n)) := by
  cases h : n.rcver with
  | none => simp [lookRcver, resolve, liveRcver, h]
  | some p => simp [lookRcver, resolve, liveRcver, h, look_eq]

/-- The bytes at an address do not depend on what has been deleted. -/
theorem resolve_congr {m m' : StoreMachine} (h : m'.objects = m.objects) (n : Notification Ptr) :
    m'.resolve n = m.resolve n := by
  have ht : m'.target = m.target := by
    funext p
    cases p <;> simp [target, bytes, h]
  rw [resolve, ht]
  rfl

theorem hasSubscriber_eq {n : Notification Ptr} {m : StoreMachine} {a : ℕ}
    (ha : m.live a = true) (hn : m.liveRcver n = true) :
    hasSubscriber n a m = ((m.bytes a).forMe (m.resolve n), m) := by
  simp [hasSubscriber, look_of_live (p := .object a) ha, lookRcver_eq, hn, target]

/-- **A search among live objects** fails no look, and finds what its view finds. -/
theorem search_eq {m : StoreMachine} (hm : m.WF) {n : Notification Ptr}
    (hn : m.liveRcver n = true) :
    m.search n = (m.mSubscribers.find? fun a => (m.bytes a).forMe (m.resolve n), m) := by
  have h : ∀ a ∈ m.mSubscribers,
      hasSubscriber n a m = ((m.bytes a).forMe (m.resolve n), m) := fun a ha =>
    hasSubscriber_eq (hm.live a ha) hn
  rw [search, linkedListSearch_of_pure false h]

theorem search_view {m : StoreMachine} (hm : m.WF) {n : Notification Ptr}
    (hn : m.liveRcver n = true) :
    (m.search n).1.map m.bytes = m.view.search (m.resolve n) := by
  rw [search_eq hm hn, AgpsStateMachine.search_eq]
  show (m.mSubscribers.find? ((·.forMe (m.resolve n)) ∘ m.bytes)).map m.bytes = _
  exact List.find?_map.symm

/-- `notifyRsrcStatus` looks at the object and at the receiver. -/
theorem notifyRsrcStatus_eq (p : Ptr) (n : Notification Ptr) (m : StoreMachine) :
    m.notifyRsrcStatus p n =
      ((m.target p).hears (m.resolve n),
        if (m.target p).hears (m.resolve n) then
          (m.blame (!m.livePtr p || !m.liveRcver n)).say
            (.notified (m.target p) n.rsrcStatus (m.view.notifyCall n.rsrcStatus (m.target p)))
        else m.blame (!m.livePtr p || !m.liveRcver n)) := by
  have hr : (m.blame (!m.livePtr p)).resolve n = m.resolve n := resolve_congr rfl n
  have hl : (m.blame (!m.livePtr p)).liveRcver n = m.liveRcver n := rfl
  simp only [notifyRsrcStatus, look_eq, lookRcver_eq, hr, hl, blame_blame]
  rfl

/-! ### Notifications -/

/-- The entry of a listed object that is told a status. -/
def toldEntry (m : StoreMachine) (st : AgpsRsrcStatus) (a : ℕ) : Entry :=
  .notified (m.bytes a) st (m.view.notifyCall st (m.bytes a))

/-- What a comparison that fails no further look does. -/
theorem notifySubscriber_eq {n : Notification Ptr} {m : StoreMachine} {a : ℕ}
    (h : m.fault = true ∨ m.live a = true ∧ m.liveRcver n = true) :
    notifySubscriber n a m =
      ((m.bytes a).hears (m.resolve n) && n.postNotifyDelete,
        if (m.bytes a).hears (m.resolve n) then m.say (m.toldEntry n.rsrcStatus a) else m) := by
  have hf : m.blame (!m.livePtr (.object a) || !m.liveRcver n) = m := by
    rcases h with h | ⟨ha, hn⟩
    · exact blame_of_fault h _
    · simp [livePtr, ha, hn]
  rw [notifySubscriber, notifyRsrcStatus_eq, hf]
  rfl

/-- What the loop makes of a machine: those the notification is for are told and deleted. -/
def toldAndDeleted (m : StoreMachine) (st : AgpsRsrcStatus) (l : List ℕ) : StoreMachine :=
  { m with log := m.log ++ l.map (m.toldEntry st), deleted := l.reverse ++ m.deleted }

theorem foldl_delete_say (st : AgpsRsrcStatus) (l : List ℕ) (m : StoreMachine) :
    l.foldl (fun m a => delete a (m.say (m.toldEntry st a))) m = m.toldAndDeleted st l := by
  induction l generalizing m with
  | nil => simp [toldAndDeleted]
  | cons a l ih =>
    rw [List.foldl_cons, ih]
    simp [toldAndDeleted, delete, say, toldEntry, bytes]
    exact fun _ _ => rfl

theorem foldl_say (st : AgpsRsrcStatus) (l : List ℕ) (m : StoreMachine) :
    l.foldl (fun m a => m.say (m.toldEntry st a)) m =
      { m with log := m.log ++ l.map (m.toldEntry st) } := by
  induction l generalizing m with
  | nil => simp
  | cons a l ih =>
    rw [List.foldl_cons, ih]
    simp [say, toldEntry, bytes]
    exact fun _ _ => rfl

/-- The loop, where no further look fails: either one has failed before, or there is no
receiver to look at. -/
theorem loop_eq {n : Notification Ptr} (hdel : n.postNotifyDelete = true) {m : StoreMachine}
    (hn : m.fault = true ∨ n.rcver = none) {l : List ℕ} (hnd : l.Nodup)
    (hl : ∀ a ∈ l, m.live a = true) {k : ℕ} (hk : l.length < k) :
    searchLoop (notifySubscriber n) delete k l m =
      (l.filter fun a => !(m.bytes a).hears (m.resolve n),
        m.toldAndDeleted n.rsrcStatus (l.filter fun a => (m.bytes a).hears (m.resolve n))) := by
  let I : List ℕ → StoreMachine → Prop := fun l s =>
    l.Nodup ∧ (∀ a ∈ l, s.live a = true) ∧ s.objects = m.objects ∧
      (s.fault = true ∨ n.rcver = none)
  have hstep : ∀ l s, I l s → ∀ a ∈ l, notifySubscriber n a s =
      ((m.bytes a).hears (m.resolve n),
        if (m.bytes a).hears (m.resolve n) then s.say (s.toldEntry n.rsrcStatus a) else s) := by
    rintro l s ⟨-, hl, ho, hf⟩ a ha
    have hb : s.bytes a = m.bytes a := by simp [bytes, ho]
    rw [notifySubscriber_eq, hb, resolve_congr ho, hdel, Bool.and_true]
    rcases hf with hf | hf
    · exact Or.inl hf
    · exact Or.inr ⟨hl a ha, by simp [liveRcver, hf]⟩
  have hI : ∀ l s a, I l s → l.find? (fun a => (m.bytes a).hears (m.resolve n)) = some a →
      I (l.eraseP fun a => (m.bytes a).hears (m.resolve n))
        (delete a (s.say (s.toldEntry n.rsrcStatus a))) := by
    rintro l s a ⟨hnd, hl, ho, hf⟩ ha
    refine ⟨hnd.sublist List.eraseP_sublist, ?_, ho, hf⟩
    intro b hb
    have hbl : b ∈ l := List.eraseP_sublist.subset hb
    have hne : b ≠ a := by
      rintro rfl
      exact not_mem_eraseP_of_find? hnd ha hb
    have hlive := of_decide_eq_true (hl b hbl)
    refine decide_eq_true ⟨hlive.1, ?_⟩
    exact fun h => (List.mem_cons.mp h).elim hne hlive.2
  rw [searchLoop_eq_filter hstep hI k l m hk ⟨hnd, hl, rfl, hn⟩, foldl_delete_say]

/-- A removing broadcast. -/
theorem notifySubscribers_delete {n : Notification Ptr} (hdel : n.postNotifyDelete = true)
    (hn : n.rcver = none) {m : StoreMachine} (hm : m.WF) :
    m.notifySubscribers n =
      { m.toldAndDeleted n.rsrcStatus
          (m.mSubscribers.filter fun a => (m.bytes a).hears (m.resolve n)) with
        mSubscribers := m.mSubscribers.filter fun a => !(m.bytes a).hears (m.resolve n) } := by
  rw [notifySubscribers, if_pos hdel]
  simp only [loop_eq hdel (Or.inr hn) hm.nodup hm.live (Nat.lt_succ_self _)]

/-- A broadcast that keeps the list. -/
theorem notifySubscribers_keep {n : Notification Ptr} (hdel : n.postNotifyDelete = false)
    (hn : n.rcver = none) {m : StoreMachine} (hm : m.WF) :
    m.notifySubscribers n =
      { m with log := m.log ++ (m.mSubscribers.filter fun a =>
          (m.bytes a).hears (m.resolve n)).map (m.toldEntry n.rsrcStatus) } := by
  have hkeep : ¬ n.postNotifyDelete = true := by simp [hdel]
  rw [notifySubscribers, if_neg hkeep, ← foldl_say, List.foldl_filter]
  rw [linkedListSearch_of_reject (I := fun s => s.objects = m.objects ∧
    ∀ a ∈ m.mSubscribers, s.live a = true) false ⟨rfl, hm.live⟩]
  rintro a ha s ⟨ho, hl⟩
  have hb : s.bytes a = m.bytes a := by simp [bytes, ho]
  rw [notifySubscriber_eq (Or.inr ⟨hl a ha, by simp [liveRcver, hn]⟩), hb, resolve_congr ho, hdel,
    Bool.and_false]
  refine ⟨rfl, ?_⟩
  split
  · exact ⟨ho, hl⟩
  · exact ⟨ho, hl⟩

/-- The loop, once the receiver has been deleted: the head of the list cannot be compared
with it, and the look fails. -/
theorem loop_of_dead {n : Notification Ptr} (hdel : n.postNotifyDelete = true) {m : StoreMachine}
    (hdead : m.liveRcver n = false) {l : List ℕ} (hne : l ≠ []) (hnd : l.Nodup)
    (hl : ∀ a ∈ l, m.live a = true) {k : ℕ} (hk : l.length < k) :
    searchLoop (notifySubscriber n) delete k l m =
      (l.filter fun a => !(m.bytes a).hears (m.resolve n),
        (m.blame true).toldAndDeleted n.rsrcStatus
          (l.filter fun a => (m.bytes a).hears (m.resolve n))) := by
  have hblame : ∀ c : Bool, (m.blame true).blame c = m.blame true := fun c =>
    blame_of_fault (Bool.or_true _) c
  have hdead' : (m.blame true).liveRcver n = false := hdead
  -- the head is compared first, and nothing that a look sees depends on the fault
  obtain ⟨b, l', rfl⟩ := List.exists_cons_of_ne_nil hne
  have hhead : notifySubscriber n b m = notifySubscriber n b (m.blame true) := by
    rw [notifySubscriber, notifySubscriber, notifyRsrcStatus_eq, notifyRsrcStatus_eq, hdead,
      hdead', Bool.not_false, Bool.or_true, Bool.or_true, hblame]
    rfl
  obtain ⟨k, rfl⟩ : ∃ k', k = k' + 1 := ⟨k - 1, by omega⟩
  rw [searchLoop_congr_head hhead,
    loop_eq hdel (m := m.blame true) (Or.inl (Bool.or_true _)) hnd hl hk]
  rfl

/-- The first turn of a loop whose receiver `a` is the first listed object it is for. -/
theorem loop_first {n : Notification Ptr} (hdel : n.postNotifyDelete = true) {m : StoreMachine}
    (hm : m.WF) (hn : m.liveRcver n = true) {a : ℕ}
    (ha : m.mSubscribers.find? (fun b => (m.bytes b).hears (m.resolve n)) = some a) (k : ℕ) :
    searchLoop (notifySubscriber n) delete (k + 1) m.mSubscribers m =
      searchLoop (notifySubscriber n) delete k
        (m.mSubscribers.eraseP fun b => (m.bytes b).hears (m.resolve n))
        (m.toldAndDeleted n.rsrcStatus [a]) := by
  have hfirst : ∀ b ∈ m.mSubscribers, notifySubscriber n b m =
      ((m.bytes b).hears (m.resolve n),
        if (m.bytes b).hears (m.resolve n) then m.say (m.toldEntry n.rsrcStatus b) else m) := by
    intro b hb
    rw [notifySubscriber_eq (Or.inr ⟨hm.live b hb, hn⟩), hdel, Bool.and_true]
  rw [searchLoop, linkedListSearch_of_effect hfirst, ha]
  rfl

/-- **A removing notification whose receiver is listed.**  The loop finds the receiver and
deletes it; then it looks at it again, unless nothing else is listed. -/
theorem notifySubscribers_self {n : Notification Ptr} (hdel : n.postNotifyDelete = true)
    {m : StoreMachine} (hm : m.WF) {a : ℕ} (hn : n.rcver = some (.object a))
    (ha : m.mSubscribers.find? (fun b => (m.bytes b).hears (m.resolve n)) = some a) :
    m.notifySubscribers n =
      { m.toldAndDeleted n.rsrcStatus
          (m.mSubscribers.filter fun b => (m.bytes b).hears (m.resolve n)) with
        mSubscribers := m.mSubscribers.filter fun b => !(m.bytes b).hears (m.resolve n)
        fault := m.fault || decide (m.mSubscribers.length ≠ 1) } := by
  have hmem : a ∈ m.mSubscribers := List.mem_of_find?_eq_some ha
  have hself : (m.bytes a).hears (m.resolve n) = true :=
    List.find?_some (p := fun b => (m.bytes b).hears (m.resolve n)) ha
  have hlen := List.length_eraseP_of_mem (p := fun b => (m.bytes b).hears (m.resolve n)) hmem hself
  have hpos := List.length_pos_of_mem hmem
  have hfilter := filter_eq_cons_of_find? ha
  have hkeep := filter_not_eraseP (fun b => (m.bytes b).hears (m.resolve n)) m.mSubscribers
  have hlive : m.liveRcver n = true := by simpa [liveRcver, hn, livePtr] using hm.live a hmem
  rw [notifySubscribers, if_pos hdel, loop_first hdel hm hlive ha, ← hkeep, hfilter]
  generalize hl : (m.mSubscribers.eraseP fun b => (m.bytes b).hears (m.resolve n)) = l at *
  by_cases hnil : l = []
  · have hone : m.mSubscribers.length = 1 := by rw [hnil, List.length_nil] at hlen; omega
    -- the receiver was the only one: no turn compares anything with it again
    rw [hnil, searchLoop_nil]
    simp [hone, toldAndDeleted]
  · have hlong : m.mSubscribers.length ≠ 1 := by
      have := List.length_pos_iff.mpr hnil
      omega
    have hleft : ∀ b ∈ l, (m.toldAndDeleted n.rsrcStatus [a]).live b = true := by
      intro b hb
      rw [← hl] at hb
      have hb' := of_decide_eq_true (hm.live b (List.eraseP_sublist.subset hb))
      refine decide_eq_true ⟨hb'.1, fun h => (List.mem_cons.mp h).elim ?_ hb'.2⟩
      rintro rfl
      exact not_mem_eraseP_of_find? hm.nodup ha hb
    have hnd : l.Nodup := by
      rw [← hl]
      exact hm.nodup.sublist List.eraseP_sublist
    have hdead : (m.toldAndDeleted n.rsrcStatus [a]).liveRcver n = false := by
      simp [liveRcver, hn, livePtr, live, toldAndDeleted]
    rw [loop_of_dead hdel hdead hnil hnd hleft (by omega)]
    have hr : (m.toldAndDeleted n.rsrcStatus [a]).resolve n = m.resolve n := resolve_congr rfl n
    rw [hr]
    simp [toldAndDeleted, blame, hlong]
    exact ⟨rfl, List.map_congr_left fun _ _ => rfl, rfl⟩

/-! ### The view -/

/-- The view of a plain machine tells without touching anything but the log. -/
theorem tellAll_view (m : StoreMachine) (st : AgpsRsrcStatus) (l : List Subscriber) :
    m.view.tellAll st l =
      { m.view with log := m.log ++ l.map fun s => .notified s st (m.view.notifyCall st s) } := by
  obtain ⟨d, hd, hs⟩ := m.view.tellAll_eq st l
  have hnone : d = none := by
    rw [← Option.not_isSome_iff_eq_none, hs]
    exact Bool.false_ne_true
  rw [hd, hnone]
  rfl

theorem map_toldEntry (m : StoreMachine) (st : AgpsRsrcStatus) (l : List ℕ) :
    l.map (m.toldEntry st) =
      (l.map m.bytes).map fun s => .notified s st (m.view.notifyCall st s) := by
  rw [List.map_map]
  rfl

/-- A store in order, its view, and whether a look has failed. -/
structure Shows (f : Bool) (m : StoreMachine) (v : AgpsStateMachine) : Prop where
  wf : m.WF
  view : m.view = v
  fault : m.fault = f

/-- A pointer that can be looked at, and what it points to. -/
def Points (m : StoreMachine) (p : Ptr) (s : Subscriber) : Prop :=
  m.livePtr p = true ∧ m.target p = s

theorem WF.say {m : StoreMachine} (h : m.WF) (e : Entry) : (m.say e).WF := ⟨h.1, h.2, h.3⟩

theorem Shows.say {f : Bool} {m : StoreMachine} {v : AgpsStateMachine} (h : Shows f m v)
    (e : Entry) : Shows f (m.say e) (v.say e) := by
  obtain ⟨hm, rfl, hf⟩ := h
  exact ⟨hm.say e, rfl, hf⟩

theorem WF.toldAndDeleted {m : StoreMachine} (h : m.WF) (st : AgpsRsrcStatus) (p : ℕ → Bool)
    (f : Bool) : { m.toldAndDeleted st (m.mSubscribers.filter p) with
      mSubscribers := m.mSubscribers.filter fun a => !p a, fault := f }.WF where
  nodup := h.nodup.filter _
  live := by
    intro a ha
    obtain ⟨ha, hp⟩ := List.mem_filter.mp ha
    have hlive := of_decide_eq_true (h.live a ha)
    refine decide_eq_true ⟨hlive.1, ?_⟩
    show a ∉ (m.mSubscribers.filter p).reverse ++ m.deleted
    rw [List.mem_append, List.mem_reverse, List.mem_filter]
    rintro (⟨-, hp'⟩ | hd)
    · simp [hp'] at hp
    · exact hlive.2 hd
  deleted := by
    intro a ha
    have ha : a ∈ (m.mSubscribers.filter p).reverse ++ m.deleted := ha
    rw [List.mem_append, List.mem_reverse, List.mem_filter] at ha
    rcases ha with ⟨ha, -⟩ | ha
    · exact (of_decide_eq_true (h.live a ha)).1
    · exact h.deleted a ha

/-- A broadcast, in the store and in its view. -/
theorem shows_notifyGroup {f : Bool} {m : StoreMachine} {v : AgpsStateMachine} (g : GroupID)
    (st : AgpsRsrcStatus) (del : Bool) (h : Shows f m v) :
    Shows f (m.notifySubscribers (.broadcast g st del))
      (v.notifySubscribers (.broadcast g st del)) := by
  obtain ⟨hm, rfl, rfl⟩ := h
  have hr : m.resolve (.broadcast g st del) = .broadcast g st del := rfl
  have hfilter : ∀ q : Subscriber → Bool,
      m.view.mSubscribers.filter q = (m.mSubscribers.filter fun a => q (m.bytes a)).map m.bytes :=
    fun q => List.filter_map
  rw [AgpsStateMachine.notifySubscribers_eq, tellAll_view]
  cases del with
  | true =>
    rw [notifySubscribers_delete rfl rfl hm]
    refine ⟨hm.toldAndDeleted st _ m.fault, ?_, rfl⟩
    rw [hfilter, hfilter]
    show ({ m.view with mSubscribers := _, log := m.log ++ _ } : AgpsStateMachine) = _
    rw [map_toldEntry]
    rfl
  | false =>
    rw [notifySubscribers_keep rfl rfl hm]
    refine ⟨⟨hm.1, hm.2, hm.3⟩, ?_, rfl⟩
    rw [hfilter]
    show ({ m.view with log := m.log ++ _ } : AgpsStateMachine) = _
    rw [map_toldEntry]
    rfl

/-- An object told on its own, in the store and in the view. -/
theorem shows_notifySelf {f : Bool} {m : StoreMachine} {v : AgpsStateMachine} {p : Ptr}
    {s : Subscriber} {n : Notification Ptr} (h : Shows f m v) (hp : Points m p s)
    (hn : m.liveRcver n = true) :
    Shows f (m.notifyRsrcStatus p n).2 (v.notifyRsrcStatus s (m.resolve n)).2 ∧
      Points (m.notifyRsrcStatus p n).2 p s := by
  obtain ⟨hm, rfl, rfl⟩ := h
  obtain ⟨hp, rfl⟩ := hp
  rw [notifyRsrcStatus_eq, hp, hn, Bool.not_true, Bool.or_false, blame_false,
    AgpsStateMachine.notifyRsrcStatus]
  have htell : m.view.tell n.rsrcStatus (m.target p) = _ :=
    m.tellAll_view n.rsrcStatus [m.target p]
  simp only
  split
  · refine ⟨⟨hm.say _, ?_, rfl⟩, hp, ?_⟩
    · show _ = m.view.tell n.rsrcStatus (m.target p)
      rw [htell]
      rfl
    · cases p <;> rfl
  · exact ⟨⟨hm, rfl, rfl⟩, hp, rfl⟩

/-- A search for the active, in the store and in the view. -/
theorem search_active {m : StoreMachine} (hm : m.WF) :
    ∃ r, m.search (.toGroup .broadcastActive) = (r, m) ∧
      r.map m.bytes = m.view.search (.toGroup .broadcastActive) ∧ ∀ a ∈ r, m.live a = true := by
  have hr := search_view hm (n := .toGroup .broadcastActive) rfl
  rw [search_eq hm rfl] at hr ⊢
  exact ⟨_, rfl, hr, fun a ha => hm.live a (List.mem_of_find?_eq_some ha)⟩

/-- A new object in the store, and the clone that the view lists. -/
theorem shows_allocate {f : Bool} {m : StoreMachine} (h : Shows f m m.view) (s : Subscriber) :
    Shows f
      { m with
        mSubscribers := m.objects.length :: m.mSubscribers
        objects := m.objects ++ [s] }
      { m.view with mSubscribers := s :: m.view.mSubscribers } := by
  obtain ⟨hm, -, rfl⟩ := h
  have hlt : ∀ a ∈ m.mSubscribers, a < m.objects.length := fun a ha =>
    (of_decide_eq_true (hm.live a ha)).1
  refine ⟨⟨?_, ?_, ?_⟩, ?_, rfl⟩
  · exact List.nodup_cons.mpr ⟨fun h => Nat.lt_irrefl _ (hlt _ h), hm.nodup⟩
  · intro a ha
    rcases List.mem_cons.mp ha with rfl | ha
    · exact decide_eq_true ⟨by simp, fun h => Nat.lt_irrefl _ (hm.deleted _ h)⟩
    · have hlive := of_decide_eq_true (hm.live a ha)
      refine decide_eq_true ⟨?_, hlive.2⟩
      rw [List.length_append]
      exact Nat.lt_add_right _ hlive.1
  · intro a ha
    rw [List.length_append]
    exact Nat.lt_add_right _ (hm.deleted a ha)
  · have hb : m.mSubscribers.map (fun a => (m.objects ++ [s]).getD a (.atl 0 false)) =
        m.mSubscribers.map m.bytes := by
      refine List.map_congr_left fun a ha => ?_
      simp [bytes, List.getElem?_append_left (hlt a ha)]
    simp only [view, List.map_cons, AgpsStateMachine.mk.injEq, and_true]
    refine congrArg₂ _ ?_ hb
    simp [bytes]

/-- **The operations of a store machine match those of its view**, and fail no look. -/
theorem opsSim (f : Bool) : OpsSim (Shows f) Points where
  mStatePtr := by
    rintro m _ ⟨-, rfl, -⟩
    rfl
  setStatePtr := by
    rintro m _ s ⟨hm, rfl, hf⟩
    exact ⟨⟨hm.1, hm.2, hm.3⟩, rfl, hf⟩
  mEnforceSingleSubscriber := by
    rintro m _ ⟨-, rfl, -⟩
    rfl
  hasSubscribers := by
    rintro m _ ⟨-, rfl, -⟩
    show (!m.mSubscribers.isEmpty) = !(m.mSubscribers.map m.bytes).isEmpty
    rw [List.isEmpty_map]
  hasActiveSubscribers := by
    rintro m _ ⟨hm, rfl, hf⟩
    obtain ⟨r, hr, hv, -⟩ := search_active hm
    have h : MachineOps.hasActiveSubscribers m = (r.isSome, m) := by
      simp only [MachineOps.hasActiveSubscribers, hr]
    rw [h]
    refine ⟨?_, hm, rfl, hf⟩
    show r.isSome = (m.view.search (.toGroup .broadcastActive)).isSome
    rw [← hv, Option.isSome_map]
  addSubscriber := by
    rintro m _ p s ⟨hm, rfl, hf⟩ ⟨hp, rfl⟩
    show Shows f (m.addSubscriber p) (m.view.addSubscriber (m.target p))
    have hn : m.liveRcver (.toSubscriber p) = true := hp
    have hv := search_view hm hn
    rw [search_eq hm hn] at hv
    rw [addSubscriber, search_eq hm hn, AgpsStateMachine.addSubscriber]
    have hres : m.resolve (.toSubscriber p) = .toSubscriber (m.target p) := rfl
    rw [← hres, ← hv]
    cases m.mSubscribers.find? fun a => (m.bytes a).forMe (m.resolve (.toSubscriber p)) with
    | some a => exact ⟨hm, rfl, hf⟩
    | none =>
      simp only [look_of_live hp]
      exact shows_allocate ⟨hm, rfl, hf⟩ _
  notifyGroup := fun g st del h => shows_notifyGroup g st del h
  notifySelf := by
    rintro m v p s st del h hp
    have hn : m.liveRcver (.unicast p st del) = true := hp.1
    have hr : m.resolve (.unicast p st del) = .unicast s st del := by
      simp [resolve, Notification.unicast, hp.2]
    have := shows_notifySelf h hp hn
    rw [hr] at this
    exact this
  notifyRefused := fun g st del h hp => (shows_notifySelf h hp rfl).1
  sendRsrcRequest := by
    rintro m _ env action ⟨hm, rfl, hf⟩
    obtain ⟨r, hr, hv, hlive⟩ := search_active hm
    show (m.sendRsrcRequest action).1 = (m.view.sendRsrcRequestBase action).1 ∧
      Shows f (m.sendRsrcRequest action).2 (m.view.sendRsrcRequestBase action).2
    rw [sendRsrcRequest, hr, AgpsStateMachine.sendRsrcRequestBase, ← hv]
    simp only [Option.isNone_map]
    split
    · cases r with
      | none => exact ⟨rfl, hm.say _, rfl, hf⟩
      | some a =>
        simp only [look_of_live (p := .object a) (hlive a rfl)]
        exact ⟨trivial, hm.say _, rfl, hf⟩
    · exact ⟨rfl, hm, rfl, hf⟩

/-! ### Dropping a subscriber -/

/-- What `setInactive` of a listed object makes of the store, and of its view. -/
theorem shows_setInactive {f : Bool} {m : StoreMachine} (h : Shows f m m.view) {a : ℕ}
    (ha : m.mSubscribers.find? (fun b => m.bytes b = m.bytes a) = some a) :
    Shows f (m.setInactive (.object a)) (m.view.setInactive (m.bytes a)) := by
  obtain ⟨hm, -, hf⟩ := h
  have hlive := hm.live a (List.mem_of_find?_eq_some ha)
  have hlt := (of_decide_eq_true hlive).1
  -- the list has the object once, so writing it replaces one value in the view
  have hbytes : m.mSubscribers.map
        (fun b => (m.objects.set a (m.bytes a).setInactive).getD b (.atl 0 false)) =
      (m.mSubscribers.map m.bytes).replace (m.bytes a) (m.bytes a).setInactive := by
    rw [← map_update_eq_replace hm.nodup ha]
    refine List.map_congr_left fun b _ => ?_
    by_cases hb : b = a
    · subst hb
      simp [hlt]
    · simp [hb, Ne.symm hb, bytes]
  have hstore : Shows f { m with objects := m.objects.set a (m.bytes a).setInactive }
      { m.view with
        mSubscribers := m.view.mSubscribers.replace (m.bytes a) (m.bytes a).setInactive } := by
    refine ⟨⟨hm.nodup, ?_, ?_⟩, ?_, hf⟩
    · intro b hb
      have hb' := of_decide_eq_true (hm.live b hb)
      exact decide_eq_true ⟨by rw [List.length_set]; exact hb'.1, hb'.2⟩
    · intro b hb
      rw [List.length_set]
      exact hm.deleted b hb
    · show ({ m.view with mSubscribers := _ } : AgpsStateMachine) = _
      rw [show m.view.mSubscribers = m.mSubscribers.map m.bytes from rfl, ← hbytes]
      rfl
  rw [setInactive, look_of_live (p := .object a) hlive]
  unfold AgpsStateMachine.setInactive
  simp only [target]
  generalize m.bytes a = s at hstore ⊢
  cases s with
  | bit ID b => exact hstore
  | atl ID c => exact hstore
  | wifi sender ssid password i => exact hstore
  | ds ID i => exact hstore.say _

/-- What dropping a subscriber that does not wait for a close writes into the log. -/
theorem dropEntries_of_not_wait (m : AgpsStateMachine) {s : Subscriber}
    (h : s.waitForCloseComplete = false) :
    m.dropEntries s = (m.mSubscribers.filter (·.equals s)).map fun t =>
      .notified t .rsrcUnsubscribe (m.notifyCall .rsrcUnsubscribe t) := by
  cases s with
  | bit ID a => rfl
  | atl ID c => rfl
  | wifi sender ssid password i => cases h
  | ds ID i => cases h

/-- **Dropping the object that an unsubscription found** fails a look exactly when it is
deleted while something else is listed. -/
theorem shows_dropSubscriber {f : Bool} {m : StoreMachine} (h : Shows f m m.view) {a : ℕ}
    {x : Subscriber} (ha : m.mSubscribers.find? (fun b => (m.bytes b).equals x) = some a) :
    Shows (f || !(m.bytes a).waitForCloseComplete && decide (m.mSubscribers.length ≠ 1))
      (dropSubscriber (.object a) m) (dropSubscriber (m.bytes a) m.view) := by
  obtain ⟨hm, -, rfl⟩ := h
  have hmem := List.mem_of_find?_eq_some ha
  have hlive := hm.live a hmem
  have hax : (m.bytes a).equals x = true :=
    List.find?_some (p := fun b => (m.bytes b).equals x) ha
  have hlook : MachineOps.waitForCloseComplete (.object a) m =
      ((m.bytes a).waitForCloseComplete, m) := by
    simp only [MachineOps.waitForCloseComplete, look_of_live (p := .object a) hlive, target]
  rw [dropSubscriber, hlook]
  cases hw : (m.bytes a).waitForCloseComplete with
  | true =>
    -- it stays listed, and is marked
    have hfirst : m.mSubscribers.find? (fun b => m.bytes b = m.bytes a) = some a := by
      refine find?_of_imp ha (by simp) fun b hb => ?_
      rw [of_decide_eq_true hb]
      exact hax
    have hd : dropSubscriber (m.bytes a) m.view = m.view.setInactive (m.bytes a) := by
      simp only [dropSubscriber, MachineOps.waitForCloseComplete, hw, if_true]
      rfl
    rw [hd, Bool.not_true, Bool.false_and, Bool.or_false]
    exact shows_setInactive ⟨hm, rfl, rfl⟩ hfirst
  | false =>
    -- it is told and deleted by a notification that it is itself the receiver of
    let n : Notification Ptr := .unicast (.object a) .rsrcUnsubscribe true
    have hp : ∀ b, (m.bytes b).hears (m.resolve n) = (m.bytes b).equals (m.bytes a) := fun b =>
      Bool.and_true _
    have hfirst : m.mSubscribers.find? (fun b => (m.bytes b).hears (m.resolve n)) = some a := by
      simp only [hp]
      exact find?_of_imp ha (Subscriber.equals_self _) fun b hb => Subscriber.equals_trans hb hax
    have hself := notifySubscribers_self (n := n) rfl hm rfl hfirst
    have hfilter : ∀ q : Subscriber → Bool,
        m.view.mSubscribers.filter q = (m.mSubscribers.filter fun b => q (m.bytes b)).map m.bytes :=
      fun q => List.filter_map
    show Shows _ (m.notifySubscribers n) _
    rw [hself, AgpsStateMachine.dropSubscriber_eq, dropEntries_of_not_wait _ hw]
    simp only [hp, Bool.not_false, Bool.true_and]
    refine ⟨hm.toldAndDeleted _ _ _, ?_, rfl⟩
    rw [hfilter, dropped, hw, if_neg Bool.false_ne_true, hfilter]
    show ({ m.view with mSubscribers := _, log := m.log ++ _ } : AgpsStateMachine) = _
    rw [map_toldEntry]
    rfl

/-! ### Calls -/

/-- The call looks at no deleted object: it is not the unsubscription, outside Released, of
an object that is deleted while something else is listed. -/
def Sound (m : StoreMachine) (c : Call × Env) : Prop :=
  match c.1 with
  | .unsubscribeRsrc x =>
    ∀ s, m.view.mSubscribers.find? (·.equals x) = some s →
      m.mStatePtr = .released ∨ s.waitForCloseComplete = true ∨ m.mSubscribers.length = 1
  | _ => True

private theorem unsubscribe_sim {m : StoreMachine} (hm : m.WF) (x : Subscriber) (env : Env) :
    ∃ f, Shows f (m.call (.unsubscribeRsrc x, env)) (m.view.call (.unsubscribeRsrc x, env)) ∧
      (f = false ↔ m.fault = false ∧ m.Sound (.unsubscribeRsrc x, env)) := by
  have h : Shows m.fault m m.view := ⟨hm, rfl, rfl⟩
  have hfind : MachineOps.findSubscriber (.caller x) m =
      ((m.mSubscribers.find? fun b => (m.bytes b).equals x).map .object, m) := by
    simp only [MachineOps.findSubscriber, search_eq hm (n := .toSubscriber (.caller x)) rfl]
    rfl
  have hview : m.view.mSubscribers.find? (·.equals x) =
      (m.mSubscribers.find? fun b => (m.bytes b).equals x).map m.bytes := List.find?_map
  have hvfind : MachineOps.findSubscriber x m.view =
      ((m.mSubscribers.find? fun b => (m.bytes b).equals x).map m.bytes, m.view) := by
    rw [← hview, ← AgpsStateMachine.search_toSubscriber]
    rfl
  show ∃ f, Shows f (unsubscribeRsrc env (.caller x) m).2 (unsubscribeRsrc env x m.view).2 ∧
    (f = false ↔ _)
  rw [unsubscribeRsrc, unsubscribeRsrc, hfind, hvfind]
  simp only [Sound, hview]
  cases ha : m.mSubscribers.find? (fun b => (m.bytes b).equals x) with
  | none => exact ⟨m.fault, h, by simp⟩
  | some a =>
    simp only [Option.map_some]
    have hlive := hm.live a (List.mem_of_find?_eq_some ha)
    by_cases hs : m.mStatePtr = .released
    · -- in Released the object found is told, and stays
      refine ⟨m.fault, ?_, by simp [hs]⟩
      exact (opsSim m.fault).unsubscribe_released env h ⟨hlive, rfl⟩ hs
    · refine ⟨_, (opsSim _).unsubscribe env rfl hs (shows_dropSubscriber h ha), ?_⟩
      cases m.fault <;> cases hw : (m.bytes a).waitForCloseComplete <;> simp [hs, hw]

/-- **A call on a store machine matches the call on its view**, and fails a look exactly
when it is not sound. -/
theorem call_sim {m : StoreMachine} (hm : m.WF) (c : Call × Env) :
    ∃ f, Shows f (m.call c) (m.view.call c) ∧ (f = false ↔ m.fault = false ∧ m.Sound c) := by
  have h : Shows m.fault m m.view := ⟨hm, rfl, rfl⟩
  rcases c with ⟨x | x | event | apn | bearer, env⟩
  · refine ⟨m.fault, ?_, by simp [Sound]⟩
    exact (opsSim m.fault).subscribeRsrc env h ⟨rfl, rfl⟩
  · exact unsubscribe_sim hm x env
  · refine ⟨m.fault, ?_, by simp [Sound]⟩
    exact (opsSim m.fault).onRsrcEventBase env event ⟨hm.say _, rfl, rfl⟩
  · exact ⟨m.fault, ⟨⟨hm.1, hm.2, hm.3⟩, rfl, rfl⟩, by simp [Sound]⟩
  · exact ⟨m.fault, ⟨⟨hm.1, hm.2, hm.3⟩, rfl, rfl⟩, by simp [Sound]⟩

/-! ### Runs -/

theorem wf_new (type : AGpsExtType) (single : Bool) : (new type single).WF :=
  ⟨List.nodup_nil, by simp [new], by simp [new]⟩

theorem WF.call {m : StoreMachine} (hm : m.WF) (c : Call × Env) : (m.call c).WF := by
  obtain ⟨f, h, -⟩ := call_sim hm c
  exact h.wf

/-- **The store machine refines the machine that holds its subscribers**, run by run. -/
theorem view_exec (type : AGpsExtType) (single : Bool) (cs : List (Call × Env)) :
    (exec StoreMachine.call (new type single) cs).view =
      exec AgpsStateMachine.call (.new type single) cs := by
  have h : ∀ (cs : List (Call × Env)) (m : StoreMachine), m.WF →
      (exec StoreMachine.call m cs).view = exec AgpsStateMachine.call m.view cs := by
    intro cs
    induction cs with
    | nil => intro m _; rfl
    | cons c cs ih =>
      intro m hm
      obtain ⟨f, hc, -⟩ := call_sim hm c
      rw [exec_cons, exec_cons, ih _ hc.wf, hc.view]
  exact h cs _ (wf_new type single)

/-- **When no deleted subscriber is looked at.**  In a run of calls, from the constructor,
every look succeeds exactly when all the calls are sound: no call is the unsubscription,
outside Released, of an object that is deleted while another one is listed. -/
theorem faultless_iff (type : AGpsExtType) (single : Bool) (cs : List (Call × Env)) :
    Always StoreMachine.call (fun m => m.fault = false) (new type single) cs ↔
      StepsMeet StoreMachine.call Sound (new type single) cs := by
  have hstep : ∀ (m : StoreMachine) (c : Call × Env), m.WF → m.fault = false → (m.call c).WF :=
    fun m c hm _ => hm.call c
  refine always_iff_stepsMeet hstep ?_ cs _ (wf_new type single) rfl
  intro m c hm hf
  obtain ⟨f, h, hiff⟩ := call_sim hm c
  rw [h.fault, hiff]
  exact and_iff_right hf

/-- The object of the first connection is looked at after it has been deleted. -/
theorem twoConnections_fault :
    (exec StoreMachine.call (new agpsTypeSupl false) twoConnections).fault = true := by
  decide

end StoreMachine

end Agps
end Nx507j
