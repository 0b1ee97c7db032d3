import Nx507j.Agps.DataService

/-!
# The data calls that are closed

A `DSStateMachine` closes its data call when it is told `RSRC_RELEASED`.  It does so from
`informStatus`, which is called for each `DSSubscriber` that is notified, and not for the call:
subscribers that share a call close it as many times as they are.

## Main definitions

* `closes`, `taken` — the calls of `closeDataCall`, and the start requests that were taken.
* `callUp` — a data call is up that has been started and not released.
* `DataService.ClosesOnce` — a release is told to one `DSSubscriber` at most, and to none when no
  call is up.

## Main results

* `DataService.closes_exec` — no more calls are closed than were started, in the runs in which
  the releases are told so.
-/

namespace Nx507j
namespace Agps

open AgpsStateMachine Run

/-! ### Calls in the log -/

/-- The entry is a call of `closeDataCall`. -/
def Entry.isClose (e : Entry) : Bool := e.call == some .closeDataCall

/-- The entry is a start request that returned `LOC_API_ADAPTER_ERR_SUCCESS`. -/
def Entry.isTaken : Entry → Bool
  | .requestDataCall .gpsRequestAgpsDataConn _ ret => ret == locApiAdapterErrSuccess
  | _ => false

/-- How many times entries call `closeDataCall`. -/
def closes (es : List Entry) : ℕ := es.countP Entry.isClose

/-- How many start requests of entries returned `LOC_API_ADAPTER_ERR_SUCCESS`. -/
def taken (es : List Entry) : ℕ := es.countP Entry.isTaken

/-- What an entry does to the call that is up. -/
def noteCall (up : Bool) : Entry → Bool
  | .requestDataCall .gpsRequestAgpsDataConn _ ret => ret == locApiAdapterErrSuccess
  | .rsrcEvent event => up && event != .rsrcReleased
  | _ => up

/-- The most recent start request returned `LOC_API_ADAPTER_ERR_SUCCESS`, and no RELEASED has come
since. -/
def callUp (es : List Entry) : Bool := es.foldl noteCall false

/-- Each close has a start of its own, and so will the close of the call that is up. -/
def Covered (es : List Entry) : Prop := closes es + (if callUp es then 1 else 0) ≤ taken es

/-- Entries that start no call. -/
def StartFree (es : List Entry) : Prop :=
  ∀ e ∈ es, e.isTaken = false ∧ ∀ up, noteCall up e = true → up = true

section Covered

variable {es fs : List Entry}

theorem covered_nil : Covered [] := Nat.le_refl 0

theorem closes_append (es fs : List Entry) : closes (es ++ fs) = closes es + closes fs :=
  List.countP_append

theorem taken_append (es fs : List Entry) : taken (es ++ fs) = taken es + taken fs :=
  List.countP_append

theorem StartFree.append (h : StartFree es) (h' : StartFree fs) : StartFree (es ++ fs) :=
  List.forall_mem_append.mpr ⟨h, h'⟩

theorem StartFree.taken_eq (h : StartFree es) : taken es = 0 :=
  List.countP_eq_zero.mpr fun e he => by simp [(h e he).1]

/-- Entries that start no call leave one up only where one was. -/
theorem StartFree.callUp_append (h : StartFree fs) (es : List Entry) :
    callUp (es ++ fs) = true → callUp es = true := by
  rw [callUp, List.foldl_append, ← callUp]
  generalize callUp es = up
  induction fs generalizing up with
  | nil => exact id
  | cons e fs ih =>
    intro hup
    have hfs : StartFree fs := fun e' he' => h e' (List.mem_cons_of_mem e he')
    exact (h e List.mem_cons_self).2 up (ih hfs _ hup)

/-- What starts no call and closes none leaves each close with its start. -/
theorem Covered.append (hc : Covered es) (h : StartFree fs) (hfs : closes fs = 0) :
    Covered (es ++ fs) := by
  unfold Covered at *
  rw [closes_append, taken_append, hfs, h.taken_eq]
  cases hup : callUp (es ++ fs) with
  | false =>
    simp only [Bool.false_eq_true, if_false]
    omega
  | true =>
    rw [h.callUp_append es hup] at hc
    exact hc

/-- A start request that is taken pays for the close of its call. -/
theorem Covered.start (hc : Covered es) (h : UInt32) (ret : Int32) :
    Covered (es ++ [.requestDataCall .gpsRequestAgpsDataConn h ret]) := by
  unfold Covered at *
  have hup : callUp (es ++ [.requestDataCall .gpsRequestAgpsDataConn h ret]) =
      (ret == locApiAdapterErrSuccess) := by
    rw [callUp, List.foldl_append]
    rfl
  have htaken : taken [.requestDataCall .gpsRequestAgpsDataConn h ret] =
      if ret == locApiAdapterErrSuccess then 1 else 0 := List.countP_singleton
  have hclose : closes [.requestDataCall .gpsRequestAgpsDataConn h ret] = 0 := rfl
  rw [closes_append, taken_append, hup, htaken, hclose]
  omega

/-- A release that closes the call that is up, and closes it once. -/
theorem Covered.release (hc : Covered es) (h : StartFree fs)
    (hle : closes fs ≤ if callUp es then 1 else 0) :
    Covered (es ++ .rsrcEvent .rsrcReleased :: fs) := by
  have hup : callUp (es ++ .rsrcEvent .rsrcReleased :: fs) = false := by
    rw [List.append_cons, Bool.eq_false_iff]
    intro hup
    have hdown := h.callUp_append _ hup
    rw [callUp, List.foldl_append] at hdown
    simp [noteCall] at hdown
  have htaken : taken (.rsrcEvent .rsrcReleased :: fs) = 0 := h.taken_eq
  have hclose : closes (.rsrcEvent .rsrcReleased :: fs) = closes fs := rfl
  unfold Covered at *
  rw [closes_append, taken_append, hup, htaken, hclose]
  simp only [Bool.false_eq_true, if_false]
  omega

end Covered

/-! ### What is told -/

/-- Only a `DSSubscriber` that is told of a release closes the call. -/
theorem closes_notified (m : AgpsStateMachine) (st : AgpsRsrcStatus) (l : List Subscriber) :
    closes (l.map fun s => .notified s st (m.notifyCall st s)) =
      if st = .rsrcReleased then l.countP (·.isDs) else 0 := by
  rw [closes, List.countP_map]
  split
  · next hst =>
    refine List.countP_congr fun s _ => ?_
    subst hst
    cases s <;> simp [Entry.isClose, Entry.call, notifyCall, informCall, ifResult, Subscriber.isDs]
  · next hst =>
    refine List.countP_eq_zero.mpr fun s _ => ?_
    cases s <;> cases st <;>
      simp [Entry.isClose, Entry.call, notifyCall, informCall, ifResult] at hst ⊢

theorem startFree_notified (m : AgpsStateMachine) (st : AgpsRsrcStatus) (l : List Subscriber) :
    StartFree (l.map fun s => .notified s st (m.notifyCall st s)) :=
  List.forall_mem_map.mpr fun _ _ => ⟨rfl, fun _ => id⟩

theorem startFree_dropEntries (m : AgpsStateMachine) (s : Subscriber) :
    StartFree (m.dropEntries s) ∧ closes (m.dropEntries s) = 0 := by
  refine ⟨forall_mem_dropEntries m s (fun _ => ⟨rfl, fun _ => id⟩) fun _ => ⟨rfl, fun _ => id⟩, ?_⟩
  refine List.countP_eq_zero.mpr (forall_mem_dropEntries m s (fun t => ?_) fun _ =>
    Bool.false_ne_true)
  cases t <;> simp [Entry.isClose, Entry.call, notifyCall, informCall, ifResult]

/-- What follows a start request starts nothing and closes nothing. -/
theorem startFree_startEntries (members : DSMembers) (env : Env) (connHandle : UInt32) :
    StartFree (members.startEntries env connHandle) ∧
      closes (members.startEntries env connHandle) = 0 := by
  constructor
  · exact members.forall_mem_startEntries env connHandle ⟨rfl, fun _ => id⟩ fun _ =>
      ⟨rfl, fun _ => id⟩
  · exact List.countP_eq_zero.mpr (members.forall_mem_startEntries env connHandle
      Bool.false_ne_true fun _ => Bool.false_ne_true)

theorem startFree_rsrcEvent (event : AgpsRsrcStatus) : StartFree [.rsrcEvent event] :=
  List.forall_mem_singleton.mpr ⟨rfl, fun _ hup => (Bool.and_eq_true_iff.mp hup).1⟩

/-- A start request and what follows it. -/
theorem Covered.startEntries {es : List Entry} (hc : Covered es) (members : DSMembers) (env : Env)
    (connHandle : UInt32) (ret : Int32) :
    Covered (es ++ .requestDataCall .gpsRequestAgpsDataConn connHandle ret ::
      members.startEntries env connHandle) := by
  rw [List.append_cons]
  obtain ⟨hfree, hclose⟩ := startFree_startEntries members env connHandle
  exact (hc.start connHandle ret).append hfree hclose

/-! ### One call -/

/-- The subscribers that are told when the resource is released. -/
def AgpsStateMachine.toldReleased (m : AgpsStateMachine) : List Subscriber :=
  match m.mStatePtr with
  | .acquired => m.mSubscribers
  | .releasing => m.mSubscribers.filter (!·.isActive)
  | .released | .pending => []

/-- How many times a call closes the data call. -/
def AgpsStateMachine.closesOn (m : AgpsStateMachine) (c : Call) : ℕ :=
  if c = .onRsrcEvent .rsrcReleased then m.toldReleased.countP (·.isDs) else 0

/-- What a call closes, which keeps each close its start if it is but one, of a call that is up. -/
def Closing (m : AgpsStateMachine) (c : Call) (m' : AgpsStateMachine) : Prop :=
  ∃ es, m'.log = m.log ++ es ∧ closes es = m.closesOn c ∧
    (Covered m.log → (m.closesOn c ≤ if callUp m.log then 1 else 0) → Covered m'.log)

section Closing

variable {m m' : AgpsStateMachine} {c : Call} {es fs : List Entry}

/-- A call that writes nothing of the kind. -/
theorem closing_of_startFree (hfree : StartFree es) (hclose : closes es = 0)
    (hzero : m.closesOn c = 0) (hlog : m'.log = m.log ++ es) : Closing m c m' :=
  ⟨es, hlog, hclose.trans hzero.symm, fun hc _ => hlog ▸ hc.append hfree hclose⟩

theorem closing_of_log (hzero : m.closesOn c = 0) (hlog : m'.log = m.log) : Closing m c m' :=
  closing_of_startFree (fun _ he => absurd he List.not_mem_nil) rfl hzero
    (hlog.trans (List.append_nil m.log).symm)

theorem closesOn_eq_zero (h : m.toldReleased = []) (c : Call) : m.closesOn c = 0 := by
  rw [AgpsStateMachine.closesOn, h]
  exact ite_self 0

/-- A start that is requested behind what a call closes. -/
theorem Closing.start (h : Closing m c m') (hds : m'.ds.isSome = true) (env : Env) :
    Closing m c (m'.sendRsrcRequest env .gpsRequestAgpsDataConn).2 := by
  obtain ⟨es, hlog, hclose, hc⟩ := h
  obtain ⟨members, hmem⟩ := Option.isSome_iff_exists.mp hds
  have hstart := (DataService.sendRsrcRequest_start hmem env).2
  refine ⟨es ++ .requestDataCall .gpsRequestAgpsDataConn m'.connHandle env.openAndStartDataCall ::
    members.startEntries env m'.connHandle, ?_, ?_, fun hcov hle => ?_⟩
  · rw [hstart, hlog, List.append_assoc]
  · have hnone : closes (.requestDataCall .gpsRequestAgpsDataConn m'.connHandle
        env.openAndStartDataCall :: members.startEntries env m'.connHandle) = 0 :=
      (startFree_startEntries members env m'.connHandle).2
    rw [closes_append, hclose, hnone, Nat.add_zero]
  · rw [hstart]
    exact (hc hcov hle).startEntries members env _ _

/-- A request to stop a call does not count as a close. -/
theorem Closing.stop (h : Closing m c m') (hds : m'.ds.isSome = true) (env : Env) :
    Closing m c (m'.sendRsrcRequest env .gpsReleaseAgpsDataConn).2 := by
  obtain ⟨es, hlog, hclose, hc⟩ := h
  obtain ⟨members, hmem⟩ := Option.isSome_iff_exists.mp hds
  have hstop := DataService.sendRsrcRequest_stop hmem env
  have hfree : StartFree [.requestDataCall .gpsReleaseAgpsDataConn m'.connHandle 0] := by
    intro e he
    rw [List.mem_singleton.mp he]
    exact ⟨rfl, fun up => id⟩
  refine ⟨es ++ [.requestDataCall .gpsReleaseAgpsDataConn m'.connHandle 0], ?_, ?_,
    fun hcov hle => ?_⟩
  · rw [hstop, hlog, List.append_assoc]
  · rw [closes_append, hclose]
    rfl
  · rw [hstop]
    exact (hc hcov hle).append hfree rfl

/-- An event after which some subscribers are told a status. -/
theorem closing_event {event st : AgpsRsrcStatus} {l : List Subscriber}
    (htold : st = .rsrcReleased → event = .rsrcReleased ∧ m.toldReleased = l)
    (hnot : st ≠ .rsrcReleased → m.closesOn (.onRsrcEvent event) = 0)
    (hlog : m'.log = m.log ++ m.eventEntries event st l) : Closing m (.onRsrcEvent event) m' := by
  have hfree := startFree_notified m st l
  have hclose := closes_notified m st l
  have hcons : closes (m.eventEntries event st l) =
      closes (l.map fun s => .notified s st (m.notifyCall st s)) := rfl
  by_cases hst : st = .rsrcReleased
  · obtain ⟨rfl, hl⟩ := htold hst
    have hon : m.closesOn (.onRsrcEvent .rsrcReleased) = l.countP (·.isDs) := by
      rw [closesOn, if_pos rfl, hl]
    rw [if_pos hst] at hclose
    refine ⟨_, hlog, hcons.trans (hclose.trans hon.symm), fun hc hle => ?_⟩
    rw [hlog]
    exact hc.release hfree (by rwa [hclose, ← hon])
  · rw [if_neg hst] at hclose
    refine closing_of_startFree ((startFree_rsrcEvent event).append hfree) ?_ (hnot hst) hlog
    exact hcons.trans hclose

/-- Telling one subscriber anything but a release closes nothing. -/
theorem closing_tell {st : AgpsRsrcStatus} (hst : st ≠ .rsrcReleased) (s : Subscriber)
    (hzero : m.closesOn c = 0) : Closing m c (m.tell st s) := by
  have hclose := closes_notified m st [s]
  rw [if_neg hst] at hclose
  exact closing_of_startFree (startFree_notified m st [s]) hclose hzero (log_tell m st s)

/-- A subscriber that leaves closes nothing. -/
theorem closing_leave (s : Subscriber) (hzero : m.closesOn c = 0) : Closing m c (m.leave s) := by
  obtain ⟨hfree, hclose⟩ := startFree_dropEntries m s
  exact closing_of_startFree hfree hclose hzero (log_leave m s)

/-- **What a call closes**: the data call, for each `DSSubscriber` that is told of a release. -/
theorem Step.closing {env : Env} (h : Step env m c m') (hds : m.ds.isSome = true) :
    Closing m c m' := by
  cases h with
  | refused x hsingle hne => exact closing_tell (by decide) x rfl
  | requested x hs hfree =>
    have hjoin : Closing m (.subscribeRsrc x) (m.join x) := closing_of_log rfl rfl
    exact hjoin.start hds env
  | joined x hs hfree => exact closing_of_log rfl rfl
  | grantedAtOnce x hs hfree => exact closing_tell (c := .subscribeRsrc x) (by decide) x rfl
  | unknown x hx => exact closing_of_log rfl rfl
  | toldOnly x s hx hs => exact closing_tell (by decide) s rfl
  | left x s hx hs hne hact => exact closing_leave s rfl
  | leftReleasing x s hx hs hnil => exact closing_leave (c := .unsubscribeRsrc x) s rfl
  | lastLeft x s hx hs hact =>
    have hleave : Closing m (.unsubscribeRsrc x) (m.leave s) := closing_leave s rfl
    exact hleave.stop hds env
  | ignored event hp ha hr =>
    refine closing_of_startFree (startFree_rsrcEvent event) rfl ?_ rfl
    by_cases he : event = .rsrcReleased
    · refine closesOn_eq_zero ?_ _
      unfold toldReleased
      cases hs : m.mStatePtr with
      | released | pending => rfl
      | acquired => exact absurd he (ha hs)
      | releasing => exact absurd he (hr hs).1
    · exact if_neg fun hc => he (Call.onRsrcEvent.inj hc)
  | granted hs =>
    exact closing_event (fun h => by cases h) (fun _ => rfl) (m.log_event_tellAll _ .rsrcGranted _)
  | denied event hs he =>
    have hzero : m.closesOn (.onRsrcEvent event) = 0 :=
      closesOn_eq_zero (by rw [toldReleased, hs]) _
    exact closing_event (fun h => by cases h) (fun _ => hzero) (m.log_event_clear event .rsrcDenied)
  | revoked hs =>
    have htold : m.toldReleased = m.mSubscribers := by rw [toldReleased, hs]
    exact closing_event (fun _ => ⟨rfl, htold⟩) (fun h => absurd rfl h)
      (m.log_event_clear .rsrcReleased .rsrcReleased)
  | closed event hs he hact =>
    have htold : m.toldReleased = m.mSubscribers.filter (!·.isActive) := by rw [toldReleased, hs]
    refine closing_event (fun h => ⟨h, htold⟩) (fun hne => ?_) (m.log_event_prune event event)
    exact if_neg fun hc => hne (Call.onRsrcEvent.inj hc)
  | reopened event hs he hact =>
    have htold : m.toldReleased = m.mSubscribers.filter (!·.isActive) := by rw [toldReleased, hs]
    have hprune : Closing m (.onRsrcEvent event) ((m.say (.rsrcEvent event)).prune event) := by
      refine closing_event (fun h => ⟨h, htold⟩) (fun hne => ?_) (m.log_event_prune event event)
      exact if_neg fun hc => hne (Call.onRsrcEvent.inj hc)
    exact hprune.start (by rw [isSome_ds_prune]; exact hds) env
  | setAPN apn => exact closing_of_log rfl rfl
  | setBearer bearer => exact closing_of_log rfl rfl

end Closing

/-! ### Runs -/

namespace DataService

/-- A release is told to one `DSSubscriber` at most, and to none when no call is up. -/
def ClosesOnce (d : DataService) (i : Input) : Prop :=
  ∀ c ∈ d.calls i, d.sm.closesOn c.1 ≤ if callUp d.sm.log then 1 else 0

instance (d : DataService) (i : Input) : Decidable (d.ClosesOnce i) :=
  inferInstanceAs (Decidable (∀ c ∈ d.calls i, _))

/-- Each close has its start. -/
def Paid (d : DataService) : Prop := d.sm.ds.isSome = true ∧ Covered d.sm.log

theorem paid_new : new.Paid := ⟨rfl, covered_nil⟩

/-- A step closes the call once at most, and each close has its start. -/
theorem Paid.step {d : DataService} (hd : d.Paid) {i : Input} (hone : d.ClosesOnce i) :
    (d.step i).Paid ∧ closes (d.news (d.step i)) ≤ 1 := by
  have hquiet : ∀ id, StartFree [.adapter (.requestSuplES id)] := by
    intro id e he
    rw [List.mem_singleton.mp he]
    exact ⟨rfl, fun up hup => hup⟩
  rcases d.sm_step i with ⟨c, hc, hs⟩ | ⟨-, hs | ⟨id, hs⟩⟩
  · have hcall := call_step d.sm c
    obtain ⟨es, hlog, hclose, hcov⟩ := hcall.closing hd.1
    have hle := hone c hc
    rw [news, Paid, hs, hlog, List.drop_left, hclose]
    refine ⟨⟨hcall.isSome_ds.trans hd.1, hlog ▸ hcov hd.2 hle⟩, ?_⟩
    split at hle <;> omega
  · rw [news, Paid, hs, List.drop_length]
    exact ⟨hd, Nat.zero_le 1⟩
  · rw [news, Paid, hs, log_say, List.drop_left]
    exact ⟨⟨hd.1, hd.2.append (hquiet id) rfl⟩, Nat.zero_le 1⟩

/-- **One close for each call**: in every run in which each RELEASED is told to one
`DSSubscriber` at most, and to none when no call is up, there are never more closes than start
requests that were taken, and no step closes more than once. -/
theorem closes_exec (is : List Input) (hone : StepsMeet DataService.step ClosesOnce new is) :
    Always DataService.step (fun d => closes d.sm.log ≤ taken d.sm.log) new is ∧
      StepsMeet DataService.step (fun d i => closes (d.news (d.step i)) ≤ 1) new is := by
  have hstep : ∀ (d : DataService) (i : Input), d.Paid → d.ClosesOnce i → (d.step i).Paid :=
    fun d i hd hone => (hd.step hone).1
  refine ⟨always_of_inv hstep (fun d hd => ?_) is new paid_new hone,
    stepsMeet_of_inv hstep (fun d i hd hone => (hd.step hone).2) is new paid_new hone⟩
  exact Nat.le_of_add_right_le hd.2

/-- A call that is started, granted and released for one handle. -/
theorem closes_exec_one :
    let is : List Input := [.call (.subscribeRsrc (.ds 1 false)) .ok,
      .call (.onRsrcEvent .rsrcGranted) .ok, .call (.onRsrcEvent .rsrcReleased) .ok]
    Always DataService.step (fun d => closes d.sm.log ≤ taken d.sm.log) new is ∧
      StepsMeet DataService.step (fun d i => closes (d.news (d.step i)) ≤ 1) new is :=
  closes_exec _ (by decide)

/-- A call that two handles share. -/
def sharedCall : List Input :=
  [.call (.subscribeRsrc (.ds 1 false)) .ok, .call (.onRsrcEvent .rsrcGranted) .ok,
    .call (.subscribeRsrc (.ds 2 false)) .ok]

/-- Its release closes it twice, and it was started once. -/
theorem sharedCall_closedTwice :
    let d := exec DataService.step new sharedCall
    let d' := d.step (.call (.onRsrcEvent .rsrcReleased) .ok)
    closes (d.news d') = 2 ∧ closes d'.sm.log = 2 ∧ taken d'.sm.log = 1 := by
  decide

end DataService
end Agps
end Nx507j
