import Nx507j.Agps.StateMachine

/-!
# What one call does

The operations of the machine, each by what it changes, and the inversion of a
public call: `Step env m c m'` lists everything that a call `c` can make of a
machine `m`, for a plain machine and for a `DSStateMachine` alike.

## Main definitions

* `addNew`, `dropped` — the list after `addSubscriber`, and after an unsubscription.
* `tellAll` — telling each subscriber of a list.
* `Step` — the cases of a call.

## Main results

* `notifySubscribers_eq` — the loop tells, and takes out, everyone the
  notification is for.
* `call_step` — every call is one of the cases.
-/

namespace Nx507j
namespace Agps

/-- The list after `addSubscriber`. -/
def addNew (l : List Subscriber) (x : Subscriber) : List Subscriber :=
  if l.any (·.equals x) then l else x.clone :: l

/-- The list after Pending, Acquired or Releasing has dropped `s`. -/
def dropped (l : List Subscriber) (s : Subscriber) : List Subscriber :=
  if s.waitForCloseComplete then l.replace s s.setInactive else l.filter (!·.equals s)

theorem addNew_of_any {l : List Subscriber} {x : Subscriber} (h : l.any (·.equals x) = true) :
    addNew l x = l := if_pos h

theorem addNew_of_not_any {l : List Subscriber} {x : Subscriber}
    (h : l.any (·.equals x) = false) : addNew l x = x.clone :: l := by
  simp [addNew, h]

theorem mem_addNew {l : List Subscriber} {x s : Subscriber} (h : s ∈ addNew l x) :
    s ∈ l ∨ s = x.clone := by
  unfold addNew at h
  split at h
  · exact Or.inl h
  · rw [List.mem_cons] at h
    exact h.symm

theorem mem_addNew_of_mem {l : List Subscriber} {s : Subscriber} (x : Subscriber) (h : s ∈ l) :
    s ∈ addNew l x := by
  unfold addNew
  split
  · exact h
  · exact List.mem_cons_of_mem _ h

theorem addNew_ne_nil (l : List Subscriber) (x : Subscriber) : addNew l x ≠ [] := by
  unfold addNew
  split
  · next h =>
    rintro rfl
    simp at h
  · exact List.cons_ne_nil _ _

/-- Some listed object stands for `x` once it has been added. -/
theorem any_equals_addNew (l : List Subscriber) (x : Subscriber) :
    (addNew l x).any (·.equals x) = true := by
  unfold addNew
  split
  · assumption
  · have hx : x.clone.equals x = true := (Subscriber.equals_iff_ident (by simp)).mpr (by simp)
    simp [hx]

namespace AgpsStateMachine

/-! ### Searches -/

theorem search_eq (m : AgpsStateMachine) (n : Notification Subscriber) :
    m.search n = m.mSubscribers.find? (·.forMe n) := by
  have h : ∀ s ∈ m.mSubscribers, hasSubscriber n s m = (s.forMe n, m) := fun _ _ => rfl
  rw [search, linkedListSearch_of_pure false h]

@[simp] theorem search_toSubscriber (m : AgpsStateMachine) (x : Subscriber) :
    m.search (.toSubscriber x) = m.mSubscribers.find? (·.equals x) := search_eq m _

@[simp] theorem search_active (m : AgpsStateMachine) :
    m.search (.toGroup .broadcastActive) = m.mSubscribers.find? (·.isActive) := by
  simp [search_eq]

@[simp] theorem hasActiveSubscribers_eq (m : AgpsStateMachine) :
    m.hasActiveSubscribers = m.mSubscribers.any (·.isActive) := by
  rw [hasActiveSubscribers, search_active, List.isSome_find?]

@[simp] theorem addSubscriber_eq (m : AgpsStateMachine) (x : Subscriber) :
    m.addSubscriber x = { m with mSubscribers := addNew m.mSubscribers x } := by
  rw [addSubscriber, search_toSubscriber]
  cases hf : m.mSubscribers.find? (·.equals x) with
  | none =>
    rw [addNew_of_not_any]
    simpa using hf
  | some s =>
    have hx : s.equals x = true := List.find?_some (p := fun s => Subscriber.equals s x) hf
    rw [addNew_of_any (List.any_eq_true.mpr ⟨s, List.mem_of_find?_eq_some hf, hx⟩)]

/-! ### Notifications -/

/-- Telling each subscriber of a list, in its order. -/
def tellAll (status : AgpsRsrcStatus) (l : List Subscriber) (m : AgpsStateMachine) :
    AgpsStateMachine := l.foldl (fun m s => m.tell status s) m

/-- Telling a subscriber writes into the log, and touches the count of retries. -/
theorem tell_eq (status : AgpsRsrcStatus) (s : Subscriber) (m : AgpsStateMachine) :
    ∃ d, m.tell status s =
      { m with ds := d, log := m.log ++ [.notified s status (m.notifyCall status s)] } ∧
      d.isSome = m.ds.isSome := by
  unfold tell resetRetries say
  cases s with
  | ds ID i =>
    simp only
    split
    · exact ⟨_, rfl, by simp⟩
    · exact ⟨_, rfl, rfl⟩
  | bit ID a => exact ⟨_, rfl, rfl⟩
  | atl ID c => exact ⟨_, rfl, rfl⟩
  | wifi sender ssid password i => exact ⟨_, rfl, rfl⟩

theorem notifyCall_congr {m m' : AgpsStateMachine} (ht : m'.mType = m.mType)
    (ha : m'.mAPN = m.mAPN) (hb : m'.mBearer = m.mBearer) (status : AgpsRsrcStatus)
    (s : Subscriber) : m'.notifyCall status s = m.notifyCall status s := by
  cases s <;> simp [notifyCall, reportedType, ht, ha, hb]

/-- Telling a list of subscribers writes one entry for each. -/
theorem tellAll_eq (status : AgpsRsrcStatus) (l : List Subscriber) (m : AgpsStateMachine) :
    ∃ d, m.tellAll status l =
      { m with
        ds := d
        log := m.log ++ l.map fun s => .notified s status (m.notifyCall status s) } ∧
      d.isSome = m.ds.isSome := by
  induction l generalizing m with
  | nil => exact ⟨m.ds, by simp [tellAll], rfl⟩
  | cons s l ih =>
    obtain ⟨d, hd, hs⟩ := m.tell_eq status s
    obtain ⟨d', hd', hs'⟩ := ih (m.tell status s)
    refine ⟨d', ?_, ?_⟩
    · rw [tellAll, List.foldl_cons, ← tellAll, hd', hd]
      have hc : ∀ t, notifyCall { m with ds := d, log := m.log ++
          [.notified s status (m.notifyCall status s)] } status t = m.notifyCall status t :=
        fun t => notifyCall_congr rfl rfl rfl status t
      simp [hc]
    · rw [hs', hd]
      exact hs

/-- **The loop tells everyone the notification is for**, and takes them out of the
list when told to. -/
theorem notifySubscribers_eq (n : Notification Subscriber) (m : AgpsStateMachine) :
    m.notifySubscribers n =
      { m.tellAll n.rsrcStatus (m.mSubscribers.filter (·.hears n)) with
        mSubscribers :=
          if n.postNotifyDelete then m.mSubscribers.filter (!·.hears n) else m.mSubscribers } := by
  unfold notifySubscribers
  cases hdel : n.postNotifyDelete with
  | true =>
    have h : ∀ s (m : AgpsStateMachine), notifySubscriber n s m =
        (s.hears n, if s.hears n then m.tell n.rsrcStatus s else m) := by
      intro s m
      simp [notifySubscriber, notifyRsrcStatus, hdel]
    rw [if_pos rfl, searchLoop_eq_filter (I := fun _ _ => True) (fun _ m _ s _ => h s m)
      (fun _ _ _ _ _ => trivial) _ _ _ (Nat.lt_succ_self _) trivial]
    rfl
  | false =>
    have h : ∀ s (m : AgpsStateMachine), notifySubscriber n s m =
        (false, if s.hears n then m.tell n.rsrcStatus s else m) := by
      intro s m
      simp [notifySubscriber, notifyRsrcStatus, hdel]
    simp only [Bool.false_eq_true, if_false]
    rw [linkedListSearch_of_reject (I := fun _ => True) _ trivial fun s _ m _ => ⟨h s m, trivial⟩,
      tellAll, List.foldl_filter]
    obtain ⟨d, hd, -⟩ := m.tellAll_eq n.rsrcStatus (m.mSubscribers.filter (·.hears n))
    rw [tellAll, List.foldl_filter] at hd
    simp [hd]

/-! ### Requests -/

/-- What `sendRsrcRequest` of a plain machine writes into the log. -/
def requestEntries (m : AgpsStateMachine) (action : AGpsStatusValue) : List Entry :=
  let s := m.mSubscribers.find? (·.isActive)
  if s.isNone = decide (action = .gpsReleaseAgpsDataConn) then
    [.requestRsrc (m.nifRequest action s)]
  else []

theorem sendRsrcRequest_of_base {m : AgpsStateMachine} (h : m.ds = none) (env : Env)
    (action : AGpsStatusValue) :
    m.sendRsrcRequest env action = (0, { m with log := m.log ++ m.requestEntries action }) := by
  have hbase : m.sendRsrcRequest env action = m.sendRsrcRequestBase action := by
    simp only [sendRsrcRequest, h]
  rw [hbase]
  simp only [sendRsrcRequestBase, requestEntries, search_active]
  split
  · rfl
  · simp

/-- A request leaves everything as it is but the log and the count of retries. -/
theorem sendRsrcRequest_eq (env : Env) (action : AGpsStatusValue) (m : AgpsStateMachine) :
    ∃ d es, (m.sendRsrcRequest env action).2 = { m with ds := d, log := m.log ++ es } ∧
      d.isSome = m.ds.isSome := by
  cases h : m.ds with
  | none => exact ⟨none, m.requestEntries action, by rw [sendRsrcRequest_of_base h, ← h], rfl⟩
  | some members =>
    rw [sendRsrcRequest, h]
    simp only [sendRsrcRequestDS]
    split
    · split
      · exact ⟨some ⟨0⟩, _, by simp [informStatus, informCall, resetRetries, say]; rfl, rfl⟩
      · exact ⟨some ⟨members.mRetries + 1⟩, _, by simp [say]; rfl, rfl⟩
    · split
      · exact ⟨some ⟨0⟩, _, by simp [informStatus, informCall, resetRetries, say, h]; rfl, rfl⟩
      · exact ⟨some members, _, by simp [say, h]; rfl, rfl⟩

/-! ### Dropping a subscriber -/

/-- What dropping `s` writes into the log. -/
def dropEntries (m : AgpsStateMachine) (s : Subscriber) : List Entry :=
  match s with
  | .wifi .. => []
  | .ds ID _ => [.adapter (.atlCloseStatus ID true)]
  | s => (m.mSubscribers.filter (·.equals s)).map fun t =>
      .notified t .rsrcUnsubscribe (m.notifyCall .rsrcUnsubscribe t)

/-- What notifications have, and a status sent for a close, all entries have that dropping `s`
writes. -/
theorem forall_mem_dropEntries {P : Entry → Prop} (m : AgpsStateMachine) (s : Subscriber)
    (hnotified : ∀ t, P (.notified t .rsrcUnsubscribe (m.notifyCall .rsrcUnsubscribe t)))
    (hclose : ∀ ID, P (.adapter (.atlCloseStatus ID true))) : ∀ e ∈ m.dropEntries s, P e := by
  cases s with
  | bit ID a => exact List.forall_mem_map.mpr fun t _ => hnotified t
  | atl ID c => exact List.forall_mem_map.mpr fun t _ => hnotified t
  | wifi sender ssid password i => exact List.forall_mem_nil P
  | ds ID i => exact List.forall_mem_singleton.mpr (hclose ID)

theorem tellAll_unsubscribe_ds (l : List Subscriber) (m : AgpsStateMachine) :
    (m.tellAll .rsrcUnsubscribe l).ds = m.ds := by
  induction l generalizing m with
  | nil => rfl
  | cons s l ih =>
    rw [tellAll, List.foldl_cons, ← tellAll, ih]
    cases s <;> rfl

theorem dropSubscriber_eq (s : Subscriber) (m : AgpsStateMachine) :
    dropSubscriber s m =
      { m with
        mSubscribers := dropped m.mSubscribers s
        log := m.log ++ m.dropEntries s } := by
  have hn : ∀ h : s.waitForCloseComplete = false,
      m.notifySubscribers (.unicast s .rsrcUnsubscribe true) =
        { m with
          mSubscribers := dropped m.mSubscribers s
          log := m.log ++ (m.mSubscribers.filter (·.equals s)).map fun t =>
            .notified t .rsrcUnsubscribe (m.notifyCall .rsrcUnsubscribe t) } := by
    intro h
    have hf : ∀ t : Subscriber, t.hears (.unicast s .rsrcUnsubscribe true) = t.equals s := by
      intro t
      simp [AgpsRsrcStatus.notifiable]
    obtain ⟨d, hd, -⟩ := m.tellAll_eq .rsrcUnsubscribe (m.mSubscribers.filter (·.equals s))
    have hds := tellAll_unsubscribe_ds (m.mSubscribers.filter (·.equals s)) m
    rw [hd] at hds
    simp only at hds
    rw [notifySubscribers_eq]
    simp only [hf]
    show { m.tellAll .rsrcUnsubscribe (m.mSubscribers.filter (·.equals s)) with
      mSubscribers := m.mSubscribers.filter (!·.equals s) } = _
    rw [hd, hds, dropped, h]
    rfl
  cases s with
  | bit ID a => exact hn rfl
  | atl ID c => exact hn rfl
  | wifi sender ssid password i =>
    simp [dropSubscriber, MachineOps.waitForCloseComplete, MachineOps.setInactive,
      Subscriber.waitForCloseComplete, setInactive, dropped, dropEntries]
  | ds ID i =>
    simp [dropSubscriber, MachineOps.waitForCloseComplete, MachineOps.setInactive,
      Subscriber.waitForCloseComplete, setInactive, dropped, dropEntries, informStatus,
      informCall, resetRetries, say]

end AgpsStateMachine

/-! ### The cases of a call -/

namespace AgpsStateMachine

/-! ### What the parts of a call leave alone -/

section Frame

variable (m : AgpsStateMachine) (e : Entry) (st : AgpsRsrcStatus) (s : Subscriber)
  (l : List Subscriber) (env : Env) (action : AGpsStatusValue)

@[simp] theorem mStatePtr_say : (m.say e).mStatePtr = m.mStatePtr := rfl

@[simp] theorem mSubscribers_say : (m.say e).mSubscribers = m.mSubscribers := rfl

@[simp] theorem mEnforceSingleSubscriber_say :
    (m.say e).mEnforceSingleSubscriber = m.mEnforceSingleSubscriber := rfl

@[simp] theorem ds_say : (m.say e).ds = m.ds := rfl

@[simp] theorem log_say : (m.say e).log = m.log ++ [e] := rfl

@[simp] theorem mStatePtr_tellAll : (m.tellAll st l).mStatePtr = m.mStatePtr := by
  obtain ⟨d, hd, -⟩ := m.tellAll_eq st l
  rw [hd]

@[simp] theorem mSubscribers_tellAll : (m.tellAll st l).mSubscribers = m.mSubscribers := by
  obtain ⟨d, hd, -⟩ := m.tellAll_eq st l
  rw [hd]

@[simp] theorem mEnforceSingleSubscriber_tellAll :
    (m.tellAll st l).mEnforceSingleSubscriber = m.mEnforceSingleSubscriber := by
  obtain ⟨d, hd, -⟩ := m.tellAll_eq st l
  rw [hd]

@[simp] theorem isSome_ds_tellAll : (m.tellAll st l).ds.isSome = m.ds.isSome := by
  obtain ⟨d, hd, h⟩ := m.tellAll_eq st l
  rw [hd]
  exact h

@[simp] theorem log_tellAll : (m.tellAll st l).log =
    m.log ++ l.map fun s => .notified s st (m.notifyCall st s) := by
  obtain ⟨d, hd, -⟩ := m.tellAll_eq st l
  rw [hd]

@[simp] theorem mStatePtr_tell : (m.tell st s).mStatePtr = m.mStatePtr :=
  m.mStatePtr_tellAll st [s]

@[simp] theorem mSubscribers_tell : (m.tell st s).mSubscribers = m.mSubscribers :=
  m.mSubscribers_tellAll st [s]

@[simp] theorem mEnforceSingleSubscriber_tell :
    (m.tell st s).mEnforceSingleSubscriber = m.mEnforceSingleSubscriber :=
  m.mEnforceSingleSubscriber_tellAll st [s]

@[simp] theorem isSome_ds_tell : (m.tell st s).ds.isSome = m.ds.isSome :=
  m.isSome_ds_tellAll st [s]

@[simp] theorem log_tell :
    (m.tell st s).log = m.log ++ [.notified s st (m.notifyCall st s)] :=
  m.log_tellAll st [s]

@[simp] theorem mSubscribers_sendRsrcRequest :
    (m.sendRsrcRequest env action).2.mSubscribers = m.mSubscribers := by
  obtain ⟨d, es, hd, -⟩ := sendRsrcRequest_eq env action m
  rw [hd]

@[simp] theorem mEnforceSingleSubscriber_sendRsrcRequest :
    (m.sendRsrcRequest env action).2.mEnforceSingleSubscriber = m.mEnforceSingleSubscriber := by
  obtain ⟨d, es, hd, -⟩ := sendRsrcRequest_eq env action m
  rw [hd]

@[simp] theorem isSome_ds_sendRsrcRequest :
    (m.sendRsrcRequest env action).2.ds.isSome = m.ds.isSome := by
  obtain ⟨d, es, hd, h⟩ := sendRsrcRequest_eq env action m
  rw [hd]
  exact h

end Frame

/-! ### Parts of a call -/

/-- The machine with `x` added to its list. -/
def join (m : AgpsStateMachine) (x : Subscriber) : AgpsStateMachine :=
  { m with mSubscribers := addNew m.mSubscribers x }

/-- The machine that has dropped `s`. -/
def leave (m : AgpsStateMachine) (s : Subscriber) : AgpsStateMachine :=
  { m with mSubscribers := dropped m.mSubscribers s, log := m.log ++ m.dropEntries s }

/-- The machine that has told everyone the status and emptied its list. -/
def clear (m : AgpsStateMachine) (status : AgpsRsrcStatus) : AgpsStateMachine :=
  { m.tellAll status m.mSubscribers with mSubscribers := [] }

/-- The machine that has told the inactive subscribers and kept the active ones. -/
def prune (m : AgpsStateMachine) (status : AgpsRsrcStatus) : AgpsStateMachine :=
  { m.tellAll status (m.mSubscribers.filter (!·.isActive)) with
    mSubscribers := m.mSubscribers.filter (·.isActive) }

@[simp] theorem mSubscribers_join (m : AgpsStateMachine) (x : Subscriber) :
    (m.join x).mSubscribers = addNew m.mSubscribers x := rfl

@[simp] theorem mStatePtr_join (m : AgpsStateMachine) (x : Subscriber) :
    (m.join x).mStatePtr = m.mStatePtr := rfl

@[simp] theorem mEnforceSingleSubscriber_join (m : AgpsStateMachine) (x : Subscriber) :
    (m.join x).mEnforceSingleSubscriber = m.mEnforceSingleSubscriber := rfl

@[simp] theorem ds_join (m : AgpsStateMachine) (x : Subscriber) : (m.join x).ds = m.ds := rfl

@[simp] theorem log_join (m : AgpsStateMachine) (x : Subscriber) : (m.join x).log = m.log := rfl

@[simp] theorem mSubscribers_leave (m : AgpsStateMachine) (s : Subscriber) :
    (m.leave s).mSubscribers = dropped m.mSubscribers s := rfl

@[simp] theorem mStatePtr_leave (m : AgpsStateMachine) (s : Subscriber) :
    (m.leave s).mStatePtr = m.mStatePtr := rfl

@[simp] theorem mEnforceSingleSubscriber_leave (m : AgpsStateMachine) (s : Subscriber) :
    (m.leave s).mEnforceSingleSubscriber = m.mEnforceSingleSubscriber := rfl

@[simp] theorem ds_leave (m : AgpsStateMachine) (s : Subscriber) : (m.leave s).ds = m.ds := rfl

@[simp] theorem log_leave (m : AgpsStateMachine) (s : Subscriber) :
    (m.leave s).log = m.log ++ m.dropEntries s := rfl

@[simp] theorem mSubscribers_clear (m : AgpsStateMachine) (st : AgpsRsrcStatus) :
    (m.clear st).mSubscribers = [] := rfl

@[simp] theorem mEnforceSingleSubscriber_clear (m : AgpsStateMachine) (st : AgpsRsrcStatus) :
    (m.clear st).mEnforceSingleSubscriber = m.mEnforceSingleSubscriber :=
  m.mEnforceSingleSubscriber_tellAll st _

@[simp] theorem isSome_ds_clear (m : AgpsStateMachine) (st : AgpsRsrcStatus) :
    (m.clear st).ds.isSome = m.ds.isSome := m.isSome_ds_tellAll st _

@[simp] theorem mSubscribers_prune (m : AgpsStateMachine) (st : AgpsRsrcStatus) :
    (m.prune st).mSubscribers = m.mSubscribers.filter (·.isActive) := rfl

@[simp] theorem mEnforceSingleSubscriber_prune (m : AgpsStateMachine) (st : AgpsRsrcStatus) :
    (m.prune st).mEnforceSingleSubscriber = m.mEnforceSingleSubscriber :=
  m.mEnforceSingleSubscriber_tellAll st _

@[simp] theorem isSome_ds_prune (m : AgpsStateMachine) (st : AgpsRsrcStatus) :
    (m.prune st).ds.isSome = m.ds.isSome := m.isSome_ds_tellAll st _

/-- A machine of the data service is still one when its inactive subscribers are gone. -/
theorem exists_ds_prune_say {m : AgpsStateMachine} (hds : m.ds.isSome = true) (e : Entry)
    (st : AgpsRsrcStatus) : ∃ members, ((m.say e).prune st).ds = some members := by
  apply Option.isSome_iff_exists.mp
  rw [isSome_ds_prune]
  exact hds

/-- What a round of notifications on an event writes into the log. -/
def eventEntries (m : AgpsStateMachine) (event st : AgpsRsrcStatus) (l : List Subscriber) :
    List Entry :=
  .rsrcEvent event :: l.map fun s => .notified s st (m.notifyCall st s)

theorem log_event_tellAll (m : AgpsStateMachine) (event st : AgpsRsrcStatus)
    (l : List Subscriber) :
    ((m.say (.rsrcEvent event)).tellAll st l).log = m.log ++ m.eventEntries event st l := by
  rw [log_tellAll, log_say, List.append_assoc]
  rfl

theorem log_event_clear (m : AgpsStateMachine) (event st : AgpsRsrcStatus) :
    ((m.say (.rsrcEvent event)).clear st).log =
      m.log ++ m.eventEntries event st m.mSubscribers := m.log_event_tellAll event st _

theorem log_event_prune (m : AgpsStateMachine) (event st : AgpsRsrcStatus) :
    ((m.say (.rsrcEvent event)).prune st).log =
      m.log ++ m.eventEntries event st (m.mSubscribers.filter (!·.isActive)) :=
  m.log_event_tellAll event st _

end AgpsStateMachine

/-- Everything a call can make of a machine. -/
inductive Step (env : Env) (m : AgpsStateMachine) : Call → AgpsStateMachine → Prop
  /-- A further subscriber where there may be only one. -/
  | refused (x : Subscriber) (hsingle : m.mEnforceSingleSubscriber = true)
      (hne : m.mSubscribers ≠ []) : Step env m (.subscribeRsrc x) (m.tell .rsrcDenied x)
  /-- Released asks for the resource, and waits for it if the request was taken. -/
  | requested (x : Subscriber) (hs : m.mStatePtr = .released)
      (hfree : m.mEnforceSingleSubscriber = true → m.mSubscribers = []) :
      Step env m (.subscribeRsrc x)
        { ((m.join x).sendRsrcRequest env .gpsRequestAgpsDataConn).2 with
          mStatePtr :=
            if ((m.join x).sendRsrcRequest env .gpsRequestAgpsDataConn).1 = 0 then .pending
            else .released }
  /-- Pending and Releasing only list the subscriber. -/
  | joined (x : Subscriber) (hs : m.mStatePtr = .pending ∨ m.mStatePtr = .releasing)
      (hfree : m.mEnforceSingleSubscriber = true → m.mSubscribers = []) :
      Step env m (.subscribeRsrc x) (m.join x)
  /-- Acquired grants the subscriber, then lists it. -/
  | grantedAtOnce (x : Subscriber) (hs : m.mStatePtr = .acquired)
      (hfree : m.mEnforceSingleSubscriber = true → m.mSubscribers = []) :
      Step env m (.subscribeRsrc x) ((m.tell .rsrcGranted x).join x)
  /-- A subscriber that is not listed cannot unsubscribe. -/
  | unknown (x : Subscriber) (hx : m.mSubscribers.find? (·.equals x) = none) :
      Step env m (.unsubscribeRsrc x) m
  /-- Released only tells the subscriber it is unsubscribed. -/
  | toldOnly (x s : Subscriber) (hx : m.mSubscribers.find? (·.equals x) = some s)
      (hs : m.mStatePtr = .released) :
      Step env m (.unsubscribeRsrc x) (m.tell .rsrcUnsubscribe s)
  /-- A subscriber leaves and the state stays. -/
  | left (x s : Subscriber) (hx : m.mSubscribers.find? (·.equals x) = some s)
      (hs : m.mStatePtr ≠ .released) (hne : dropped m.mSubscribers s ≠ [])
      (hact : m.mStatePtr ≠ .releasing → (dropped m.mSubscribers s).any (·.isActive) = true) :
      Step env m (.unsubscribeRsrc x) (m.leave s)
  /-- The last subscriber leaves Releasing. -/
  | leftReleasing (x s : Subscriber) (hx : m.mSubscribers.find? (·.equals x) = some s)
      (hs : m.mStatePtr = .releasing) (hnil : dropped m.mSubscribers s = []) :
      Step env m (.unsubscribeRsrc x) { m.leave s with mStatePtr := .released }
  /-- The last active subscriber leaves Pending or Acquired. -/
  | lastLeft (x s : Subscriber) (hx : m.mSubscribers.find? (·.equals x) = some s)
      (hs : m.mStatePtr = .pending ∨ m.mStatePtr = .acquired)
      (hact : (dropped m.mSubscribers s).any (·.isActive) = false) :
      Step env m (.unsubscribeRsrc x)
        { ((m.leave s).sendRsrcRequest env .gpsReleaseAgpsDataConn).2 with
          mStatePtr := if dropped m.mSubscribers s = [] then .released else .releasing }
  /-- An event that the state does not react to. -/
  | ignored (event : AgpsRsrcStatus)
      (hp : m.mStatePtr = .pending → event ≠ .rsrcGranted ∧ event ≠ .rsrcDenied ∧
        (event = .rsrcReleased → m.ds = none))
      (ha : m.mStatePtr = .acquired → event ≠ .rsrcReleased)
      (hr : m.mStatePtr = .releasing → event ≠ .rsrcReleased ∧ event ≠ .rsrcDenied) :
      Step env m (.onRsrcEvent event) (m.say (.rsrcEvent event))
  /-- The resource is granted to those who wait for it. -/
  | granted (hs : m.mStatePtr = .pending) :
      Step env m (.onRsrcEvent .rsrcGranted)
        { (m.say (.rsrcEvent .rsrcGranted)).tellAll .rsrcGranted
            (m.mSubscribers.filter (·.isActive)) with mStatePtr := .acquired }
  /-- The resource is denied to Pending; a `DSStateMachine` takes a release so. -/
  | denied (event : AgpsRsrcStatus) (hs : m.mStatePtr = .pending)
      (he : event = .rsrcDenied ∨ event = .rsrcReleased ∧ m.ds.isSome = true) :
      Step env m (.onRsrcEvent event)
        { (m.say (.rsrcEvent event)).clear .rsrcDenied with mStatePtr := .released }
  /-- The resource is taken from Acquired. -/
  | revoked (hs : m.mStatePtr = .acquired) :
      Step env m (.onRsrcEvent .rsrcReleased)
        { (m.say (.rsrcEvent .rsrcReleased)).clear .rsrcReleased with mStatePtr := .released }
  /-- Releasing is done, and nobody has come meanwhile. -/
  | closed (event : AgpsRsrcStatus) (hs : m.mStatePtr = .releasing)
      (he : event = .rsrcReleased ∨ event = .rsrcDenied)
      (hact : m.mSubscribers.any (·.isActive) = false) :
      Step env m (.onRsrcEvent event)
        { (m.say (.rsrcEvent event)).prune event with mStatePtr := .released }
  /-- Releasing is done, and the resource is asked for anew. -/
  | reopened (event : AgpsRsrcStatus) (hs : m.mStatePtr = .releasing)
      (he : event = .rsrcReleased ∨ event = .rsrcDenied)
      (hact : m.mSubscribers.any (·.isActive) = true) :
      Step env m (.onRsrcEvent event)
        { (((m.say (.rsrcEvent event)).prune event).sendRsrcRequest env
            .gpsRequestAgpsDataConn).2 with mStatePtr := .pending }
  | setAPN (apn : Option CString) : Step env m (.setAPN apn) { m with mAPN := apn }
  | setBearer (bearer : AGpsBearerType) :
      Step env m (.setBearer bearer) { m with mBearer := bearer }

namespace AgpsStateMachine

/-- The machine after a removing broadcast to everyone. -/
theorem notifySubscribers_all (st : AgpsRsrcStatus) (h : st.notifiable = true)
    (m : AgpsStateMachine) :
    m.notifySubscribers (.broadcast .broadcastAll st true) = m.clear st := by
  rw [notifySubscribers_eq]
  simp only [Subscriber.hears_all, h]
  simp [clear, Notification.broadcast]

/-- The machine after a removing broadcast to the inactive. -/
theorem notifySubscribers_inactive (st : AgpsRsrcStatus) (h : st.notifiable = true)
    (m : AgpsStateMachine) :
    m.notifySubscribers (.broadcast .broadcastInactive st true) = m.prune st := by
  rw [notifySubscribers_eq]
  simp only [Subscriber.hears_inactive, h]
  simp [prune, Notification.broadcast]

/-- The machine after a broadcast to the active that keeps them. -/
theorem notifySubscribers_active (st : AgpsRsrcStatus) (h : st.notifiable = true)
    (m : AgpsStateMachine) :
    m.notifySubscribers (.broadcast .broadcastActive st false) =
      m.tellAll st (m.mSubscribers.filter (·.isActive)) := by
  rw [notifySubscribers_eq]
  simp only [Subscriber.hears_active, h]
  obtain ⟨d, hd, -⟩ := m.tellAll_eq st (m.mSubscribers.filter (·.isActive))
  simp [Notification.broadcast, hd]

theorem notifyRsrcStatus_self (st : AgpsRsrcStatus) (h : st.notifiable = true) (s : Subscriber)
    (del : Bool) (m : AgpsStateMachine) :
    (m.notifyRsrcStatus s (.unicast s st del)).2 = m.tell st s := by
  simp [notifyRsrcStatus, h, Notification.unicast, Subscriber.hears, Subscriber.forMe]

end AgpsStateMachine

open AgpsStateMachine

/-- The dispatch of a machine that holds its subscribers. -/
theorem dispatch_eq (env : Env) (event : AgpsRsrcStatus) (data : Option Subscriber)
    (m : AgpsStateMachine) :
    dispatch env event data m =
      { (m.mStatePtr.onRsrcEvent env event data m).2 with
        mStatePtr := (m.mStatePtr.onRsrcEvent env event data m).1 } := rfl

theorem ops_addSubscriber (x : Subscriber) (m : AgpsStateMachine) :
    MachineOps.addSubscriber x m = m.join x := m.addSubscriber_eq x

theorem ops_hasActiveSubscribers (m : AgpsStateMachine) :
    MachineOps.hasActiveSubscribers m = (m.mSubscribers.any (·.isActive), m) := by
  rw [← hasActiveSubscribers_eq]
  rfl

theorem ops_hasSubscribers (m : AgpsStateMachine) :
    MachineOps.hasSubscribers m = !m.mSubscribers.isEmpty := rfl

theorem ops_sendRsrcRequest (env : Env) (action : AGpsStatusValue) (m : AgpsStateMachine) :
    MachineOps.sendRsrcRequest env action m = m.sendRsrcRequest env action := rfl

theorem ops_notifySubscribers (n : Notification Subscriber) (m : AgpsStateMachine) :
    MachineOps.notifySubscribers n m = m.notifySubscribers n := rfl

theorem ops_notifyRsrcStatus (s : Subscriber) (n : Notification Subscriber)
    (m : AgpsStateMachine) :
    MachineOps.notifyRsrcStatus s n m = (m.notifyRsrcStatus s n).2 := rfl

/-- A subscription is one of the cases. -/
theorem subscribeRsrc_step (env : Env) (x : Subscriber) (m : AgpsStateMachine) :
    Step env m (.subscribeRsrc x) (subscribeRsrc env x m) := by
  by_cases hb : m.mEnforceSingleSubscriber = true ∧ m.mSubscribers ≠ []
  · have hm : subscribeRsrc env x m = m.tell .rsrcDenied x := by
      have hg : (m.mEnforceSingleSubscriber && m.hasSubscribers) = true := by
        simp [hb.1, hasSubscribers, hb.2]
      simp only [subscribeRsrc, MachineOps.mEnforceSingleSubscriber, MachineOps.hasSubscribers,
        hg, if_true]
      simp [MachineOps.notifyRsrcStatus, notifyRsrcStatus, Notification.broadcast,
        Subscriber.hears, Subscriber.forMe, AgpsRsrcStatus.notifiable]
    rw [hm]
    exact .refused x hb.1 hb.2
  · have hfree : m.mEnforceSingleSubscriber = true → m.mSubscribers = [] := by
      intro h
      by_contra hne
      exact hb ⟨h, hne⟩
    have hm : subscribeRsrc env x m = dispatch env .rsrcSubscribe (some x) m := by
      have hg : (m.mEnforceSingleSubscriber && m.hasSubscribers) = false := by
        rw [Bool.and_eq_false_iff]
        by_cases h : m.mEnforceSingleSubscriber = true
        · simp [hasSubscribers, hfree h]
        · simp [h]
      simp only [subscribeRsrc, MachineOps.mEnforceSingleSubscriber, MachineOps.hasSubscribers,
        hg, Bool.false_eq_true, if_false]
    rw [hm, dispatch_eq]
    cases hs : m.mStatePtr with
    | released =>
      have h : Step env m (.subscribeRsrc x) _ := .requested x hs hfree
      simp only [AgpsState.onRsrcEvent, AgpsState.onReleased, ops_addSubscriber,
        ops_sendRsrcRequest]
      by_cases h0 : ((m.join x).sendRsrcRequest env .gpsRequestAgpsDataConn).1 = 0
      · simpa [h0] using h
      · simpa [h0] using h
    | pending =>
      have h : Step env m (.subscribeRsrc x) _ := .joined x (Or.inl hs) hfree
      simpa [AgpsState.onRsrcEvent, AgpsState.onPending, ops_addSubscriber, join, ← hs] using h
    | acquired =>
      have h : Step env m (.subscribeRsrc x) _ := .grantedAtOnce x hs hfree
      obtain ⟨d, hd, -⟩ := m.tell_eq .rsrcGranted x
      rw [hd] at h
      simpa [AgpsState.onRsrcEvent, AgpsState.onAcquired, ops_addSubscriber,
        ops_notifyRsrcStatus, notifyRsrcStatus_self .rsrcGranted rfl, join, hd, ← hs] using h
    | releasing =>
      have h : Step env m (.subscribeRsrc x) _ := .joined x (Or.inr hs) hfree
      simpa [AgpsState.onRsrcEvent, AgpsState.onReleasing, ops_addSubscriber, join, ← hs] using h

/-- Pending and Acquired stay as long as an active subscriber is listed. -/
theorem releaseIfInactive_of_any {m : AgpsStateMachine}
    (h : m.mSubscribers.any (·.isActive) = true) (this : AgpsState) (env : Env) :
    releaseIfInactive this env m = (this, m) := by
  rw [releaseIfInactive, ops_hasSubscribers, ops_hasActiveSubscribers]
  cases hl : m.mSubscribers with
  | nil => simp [hl] at h
  | cons s l =>
    rw [hl] at h
    simp [h]

/-- Pending and Acquired release the resource when no active subscriber is listed. -/
theorem releaseIfInactive_of_not_any {m : AgpsStateMachine}
    (h : m.mSubscribers.any (·.isActive) = false) (this : AgpsState) (env : Env) :
    releaseIfInactive this env m =
      (if m.mSubscribers = [] then .released else .releasing,
        (m.sendRsrcRequest env .gpsReleaseAgpsDataConn).2) := by
  rw [releaseIfInactive, ops_hasSubscribers, ops_hasActiveSubscribers]
  cases hl : m.mSubscribers with
  | nil =>
    rw [← ops_sendRsrcRequest]
    simp
  | cons s l =>
    rw [hl] at h
    rw [← ops_sendRsrcRequest]
    simp [h]

/-- What Pending and Acquired make of an unsubscription is one of the cases. -/
private theorem dropAndRelease_step {m : AgpsStateMachine} {x s : Subscriber} (env : Env)
    (hx : m.mSubscribers.find? (·.equals x) = some s)
    (hs : m.mStatePtr = .pending ∨ m.mStatePtr = .acquired) :
    Step env m (.unsubscribeRsrc x)
      { (releaseIfInactive m.mStatePtr env (m.leave s)).2 with
        mStatePtr := (releaseIfInactive m.mStatePtr env (m.leave s)).1 } := by
  cases ha : (dropped m.mSubscribers s).any (·.isActive) with
  | true =>
    rw [releaseIfInactive_of_any (m := m.leave s) ha]
    refine .left x s hx ?_ ?_ fun _ => ha
    · rcases hs with hs | hs <;> simp [hs]
    · intro h
      simp [h] at ha
  | false =>
    rw [releaseIfInactive_of_not_any (m := m.leave s) ha]
    exact .lastLeft x s hx hs ha

theorem ops_findSubscriber (x : Subscriber) (m : AgpsStateMachine) :
    MachineOps.findSubscriber x m = (m.mSubscribers.find? (·.equals x), m) := by
  rw [← search_toSubscriber]
  rfl

/-- `unsubscribeRsrc` returns whether a listed object is equal to the one asked about. -/
theorem unsubscribeRsrc_found (env : Env) (x : Subscriber) (m : AgpsStateMachine) :
    (unsubscribeRsrc env x m).1 = (m.mSubscribers.find? (·.equals x)).isSome := by
  rw [unsubscribeRsrc, ops_findSubscriber]
  cases m.mSubscribers.find? (·.equals x) <;> rfl

/-- An unsubscription is one of the cases. -/
theorem unsubscribeRsrc_step (env : Env) (x : Subscriber) (m : AgpsStateMachine) :
    Step env m (.unsubscribeRsrc x) (unsubscribeRsrc env x m).2 := by
  rw [unsubscribeRsrc, ops_findSubscriber]
  cases hx : m.mSubscribers.find? (·.equals x) with
  | none => exact .unknown x hx
  | some s =>
    -- the states are given the object found, not the caller's
    have hleave : dropSubscriber s m = m.leave s := dropSubscriber_eq s m
    show Step env m (.unsubscribeRsrc x) (dispatch env .rsrcUnsubscribe (some s) m)
    rw [dispatch_eq]
    cases hs : m.mStatePtr with
    | released =>
      have h : Step env m (.unsubscribeRsrc x) _ := .toldOnly x s hx hs
      obtain ⟨d, hd, -⟩ := m.tell_eq .rsrcUnsubscribe s
      rw [hd] at h
      simpa [AgpsState.onRsrcEvent, AgpsState.onReleased, ops_notifyRsrcStatus,
        notifyRsrcStatus_self .rsrcUnsubscribe rfl, hd, ← hs] using h
    | pending =>
      have h := dropAndRelease_step env hx (Or.inl hs)
      rw [hs, ← hleave] at h
      exact h
    | acquired =>
      have h := dropAndRelease_step env hx (Or.inr hs)
      rw [hs, ← hleave] at h
      exact h
    | releasing =>
      -- Releasing leaves when the list has run empty
      simp only [AgpsState.onRsrcEvent, AgpsState.onReleasing, hleave, ops_hasSubscribers]
      cases hl : dropped m.mSubscribers s with
      | nil =>
        have h : Step env m (.unsubscribeRsrc x) _ := .leftReleasing x s hx hs hl
        simpa [leave, hl] using h
      | cons t l =>
        have h : Step env m (.unsubscribeRsrc x) _ :=
          .left x s hx (by simp [hs]) (by simp [hl]) (fun h => absurd hs h)
        simpa [leave, hl, ← hs] using h

/-! ### Resource events -/

/-- What ends Pending without the resource. -/
private theorem dispatch_denied {m : AgpsStateMachine} (env : Env) (hs : m.mStatePtr = .pending) :
    dispatch env .rsrcDenied none m = { m.clear .rsrcDenied with mStatePtr := .released } := by
  rw [dispatch_eq, hs]
  simp only [AgpsState.onRsrcEvent, AgpsState.onPending, ops_notifySubscribers,
    notifySubscribers_all .rsrcDenied rfl]

/-- What takes the resource from Acquired. -/
private theorem dispatch_revoked {m : AgpsStateMachine} (env : Env)
    (hs : m.mStatePtr = .acquired) :
    dispatch env .rsrcReleased none m = { m.clear .rsrcReleased with mStatePtr := .released } := by
  rw [dispatch_eq, hs]
  simp only [AgpsState.onRsrcEvent, AgpsState.onAcquired, ops_notifySubscribers,
    notifySubscribers_all .rsrcReleased rfl]

/-- What ends Releasing. -/
private theorem dispatch_closeReleasing {event : AgpsRsrcStatus} {m : AgpsStateMachine}
    (env : Env) (hs : m.mStatePtr = .releasing)
    (he : event = .rsrcReleased ∨ event = .rsrcDenied) :
    dispatch env event none m =
      if m.mSubscribers.any (·.isActive) then
        { ((m.prune event).sendRsrcRequest env .gpsRequestAgpsDataConn).2 with
          mStatePtr := .pending }
      else { m.prune event with mStatePtr := .released } := by
  have hp : m.notifySubscribers (.broadcast .broadcastInactive event true) = m.prune event := by
    rcases he with rfl | rfl <;> exact notifySubscribers_inactive _ rfl m
  have hany : (m.prune event).mSubscribers.any (·.isActive) = m.mSubscribers.any (·.isActive) := by
    show (m.mSubscribers.filter (·.isActive)).any (·.isActive) = _
    simp
  have hd : m.mStatePtr.onRsrcEvent env event none m = closeReleasing env event m := by
    rw [hs]
    rcases he with rfl | rfl <;> rfl
  rw [dispatch_eq, hd, closeReleasing, ops_notifySubscribers, hp, ops_hasActiveSubscribers, hany]
  cases m.mSubscribers.any (·.isActive) <;> rfl

/-- The three resource events. -/
def AgpsRsrcStatus.isResource : AgpsRsrcStatus → Bool
  | .rsrcGranted | .rsrcReleased | .rsrcDenied => true
  | _ => false

/-- Dispatching a resource event that the machine takes as it is, is one of the
cases. -/
private theorem dispatch_event_step {m : AgpsStateMachine} {event : AgpsRsrcStatus} (env : Env)
    (he : event.isResource = true)
    (hds : m.mStatePtr = .pending → event = .rsrcReleased → m.ds = none) :
    Step env m (.onRsrcEvent event) (dispatch env event none (m.say (.rsrcEvent event))) := by
  cases hs : m.mStatePtr with
  | released =>
    have hd : dispatch env event none (m.say (.rsrcEvent event)) = m.say (.rsrcEvent event) := by
      rw [dispatch_eq, mStatePtr_say, hs]
      cases event <;> simp [AgpsState.onRsrcEvent, AgpsState.onReleased, say, ← hs]
    rw [hd]
    exact .ignored event (by simp [hs]) (by simp [hs]) (by simp [hs])
  | pending =>
    cases event with
    | rsrcGranted =>
      rw [dispatch_eq, mStatePtr_say, hs]
      simp only [AgpsState.onRsrcEvent, AgpsState.onPending, ops_notifySubscribers,
        notifySubscribers_active .rsrcGranted rfl]
      exact .granted hs
    | rsrcDenied =>
      rw [dispatch_denied env (by exact hs)]
      exact .denied _ hs (Or.inl rfl)
    | rsrcReleased =>
      have hd : dispatch env .rsrcReleased none (m.say (.rsrcEvent .rsrcReleased)) =
          m.say (.rsrcEvent .rsrcReleased) := by
        rw [dispatch_eq, mStatePtr_say, hs]
        simp [AgpsState.onRsrcEvent, AgpsState.onPending, say, ← hs]
      rw [hd]
      exact .ignored _ (fun _ => ⟨nofun, nofun, fun _ => hds hs rfl⟩) (by simp [hs]) (by simp [hs])
    | rsrcSubscribe => cases he
    | rsrcUnsubscribe => cases he
    | rsrcStatusMax => cases he
  | acquired =>
    by_cases hr : event = .rsrcReleased
    · subst hr
      rw [dispatch_revoked env (by exact hs)]
      exact .revoked hs
    · have hd : dispatch env event none (m.say (.rsrcEvent event)) = m.say (.rsrcEvent event) := by
        rw [dispatch_eq, mStatePtr_say, hs]
        cases event <;> simp_all [AgpsState.onRsrcEvent, AgpsState.onAcquired, say]
      rw [hd]
      exact .ignored event (by simp [hs]) (fun _ => hr) (by simp [hs])
  | releasing =>
    -- RELEASED and DENIED both end it
    by_cases hr : event = .rsrcReleased ∨ event = .rsrcDenied
    · rw [dispatch_closeReleasing env (by exact hs) hr, mSubscribers_say]
      cases ha : m.mSubscribers.any (·.isActive) with
      | true => exact .reopened event hs hr ha
      | false => exact .closed event hs hr ha
    · rw [not_or] at hr
      have hd : dispatch env event none (m.say (.rsrcEvent event)) = m.say (.rsrcEvent event) := by
        rw [dispatch_eq, mStatePtr_say, hs]
        cases event <;> simp_all [AgpsState.onRsrcEvent, AgpsState.onReleasing, say]
      rw [hd]
      exact .ignored event (by simp [hs]) (by simp [hs]) fun _ => hr

/-- An event that is none of the three is ignored. -/
private theorem ignored_of_not_resource {event : AgpsRsrcStatus} (env : Env)
    (m : AgpsStateMachine) (he : event.isResource = false) :
    Step env m (.onRsrcEvent event) (m.say (.rsrcEvent event)) := by
  apply Step.ignored event
  · intro _
    refine ⟨?_, ?_, ?_⟩ <;> (rintro rfl; cases he)
  · rintro - rfl
    cases he
  · intro _
    constructor <;> (rintro rfl; cases he)

/-- A release that changes nothing is a denial to a `DSStateMachine`. -/
private theorem onRsrcEventDS_released_step {m : AgpsStateMachine} (env : Env)
    (hds : m.ds.isSome = true) :
    Step env m (.onRsrcEvent .rsrcReleased)
      (onRsrcEventDS env .rsrcReleased (m.say (.rsrcEvent .rsrcReleased))) := by
  have hstay : ∀ {s : AgpsState}, m.mStatePtr = s → s = .released ∨ s = .pending →
      onRsrcEventDS env .rsrcReleased (m.say (.rsrcEvent .rsrcReleased)) =
        dispatch env .rsrcDenied none (m.say (.rsrcEvent .rsrcReleased)) := by
    intro s hs h
    have hd : dispatch env .rsrcReleased none (m.say (.rsrcEvent .rsrcReleased)) =
        m.say (.rsrcEvent .rsrcReleased) := by
      rw [dispatch_eq, mStatePtr_say]
      rcases h with rfl | rfl <;> rw [hs] <;>
        simp [AgpsState.onRsrcEvent, AgpsState.onReleased, AgpsState.onPending, say, ← hs]
    simp only [onRsrcEventDS, hd]
    simp
  have hgo : MachineOps.mStatePtr (dispatch env .rsrcReleased none
        (m.say (.rsrcEvent .rsrcReleased))) ≠ m.mStatePtr →
      onRsrcEventDS env .rsrcReleased (m.say (.rsrcEvent .rsrcReleased)) =
        dispatch env .rsrcReleased none (m.say (.rsrcEvent .rsrcReleased)) := by
    intro h
    simp only [onRsrcEventDS]
    exact if_pos h
  cases hs : m.mStatePtr with
  | released =>
    rw [hstay hs (Or.inl rfl)]
    have hd : dispatch env .rsrcDenied none (m.say (.rsrcEvent .rsrcReleased)) =
        m.say (.rsrcEvent .rsrcReleased) := by
      rw [dispatch_eq, mStatePtr_say, hs]
      simp [AgpsState.onRsrcEvent, AgpsState.onReleased, say, ← hs]
    rw [hd]
    exact .ignored _ (by simp [hs]) (by simp [hs]) (by simp [hs])
  | pending =>
    rw [hstay hs (Or.inr rfl), dispatch_denied env (by exact hs)]
    exact .denied _ hs (Or.inr ⟨rfl, hds⟩)
  | acquired =>
    have hd := dispatch_revoked (m := m.say (.rsrcEvent .rsrcReleased)) env hs
    have hne : AgpsState.released ≠ m.mStatePtr := by simp [hs]
    rw [hgo (by rw [hd]; exact hne), hd]
    exact .revoked hs
  | releasing =>
    have hd := dispatch_closeReleasing (m := m.say (.rsrcEvent .rsrcReleased)) env hs (Or.inl rfl)
    have hne : MachineOps.mStatePtr (dispatch env .rsrcReleased none
        (m.say (.rsrcEvent .rsrcReleased))) ≠ m.mStatePtr := by
      rw [hd, hs]
      split <;> exact nofun
    rw [hgo hne]
    exact dispatch_event_step env rfl (by simp [hs])

/-- An event is one of the cases. -/
theorem onRsrcEvent_step (env : Env) (event : AgpsRsrcStatus) (m : AgpsStateMachine) :
    Step env m (.onRsrcEvent event) (m.onRsrcEvent env event) := by
  cases hr : event.isResource with
  | false =>
    have hm : m.onRsrcEvent env event = m.say (.rsrcEvent event) := by
      rw [AgpsStateMachine.onRsrcEvent, ds_say]
      cases m.ds <;> cases event <;> first | rfl | cases hr
    rw [hm]
    exact ignored_of_not_resource env m hr
  | true =>
    cases hds : m.ds with
    | none =>
      have hm : m.onRsrcEvent env event = dispatch env event none (m.say (.rsrcEvent event)) := by
        rw [AgpsStateMachine.onRsrcEvent, ds_say, hds]
        cases event <;> first | rfl | cases hr
      rw [hm]
      exact dispatch_event_step env hr fun _ _ => hds
    | some members =>
      have hm : m.onRsrcEvent env event = onRsrcEventDS env event (m.say (.rsrcEvent event)) := by
        rw [AgpsStateMachine.onRsrcEvent, ds_say, hds]
      rw [hm]
      by_cases he : event = .rsrcReleased
      · subst he
        exact onRsrcEventDS_released_step env (by rw [hds]; rfl)
      · have hd : onRsrcEventDS env event (m.say (.rsrcEvent event)) =
            dispatch env event none (m.say (.rsrcEvent event)) := by
          cases event <;> first | rfl | exact absurd rfl he | cases hr
        rw [hd]
        exact dispatch_event_step env hr fun _ h => absurd h he

/-- **Every call is one of the cases.** -/
theorem call_step (m : AgpsStateMachine) (c : Call × Env) : Step c.2 m c.1 (m.call c) := by
  rcases c with ⟨x | x | event | apn | bearer, env⟩
  · exact subscribeRsrc_step env x m
  · exact unsubscribeRsrc_step env x m
  · exact onRsrcEvent_step env event m
  · exact .setAPN apn
  · exact .setBearer bearer

end Agps
end Nx507j
