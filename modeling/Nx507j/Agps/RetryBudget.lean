import Nx507j.Agps.Fallback

/-!
# The budget of retries

A `DSStateMachine` tries `MAX_START_DATA_CALL_RETRIES` times more when the engine is busy, and
then falls back.  It counts in `mRetries`, which a fallback sets to zero, and so does a denial
that a `DSSubscriber` is told of; a start that is taken does not.  What a call has used of the
retries is missing from the next call.

## Main definitions

* `busyRun` — how many of the last start requests in a row were answered `ENGINE_BUSY`.
* `DataService.Budgeted` — a busy start falls back as the last of a full budget, and only then.
* `DataService.KeepsBudget` — a step that leaves `mRetries` to be that number.

## Main results

* `DataService.budgeted_exec` — the runs in which the budget is the full one.
-/

namespace Nx507j
namespace Agps

open AgpsStateMachine DataService Run

/-! ### Busy starts in the log -/

/-- The entry is a start request. -/
def Entry.isStart : Entry → Bool
  | .requestDataCall .gpsRequestAgpsDataConn _ _ => true
  | _ => false

/-- What an entry does to the number of busy starts in a row. -/
def noteBusy (n : ℕ) : Entry → ℕ
  | .requestDataCall .gpsRequestAgpsDataConn _ ret =>
    if ret = locApiAdapterErrEngineBusy then n + 1 else 0
  | _ => n

/-- How many start requests in a row were answered `ENGINE_BUSY`, up to the last one. -/
def busyRun (es : List Entry) : ℕ := es.foldl noteBusy 0

/-- What entries hold from their first start request on. -/
def fromStart (es : List Entry) : List Entry := es.dropWhile (!·.isStart)

/-- Entries without a start request. -/
def NoStart (es : List Entry) : Prop := ∀ e ∈ es, e.isStart = false

section NoStart

variable {es fs : List Entry}

theorem noStart_nil : NoStart [] := List.forall_mem_nil _

theorem noStart_singleton {e : Entry} (h : e.isStart = false) : NoStart [e] :=
  List.forall_mem_singleton.mpr h

theorem NoStart.append (h : NoStart es) (h' : NoStart fs) : NoStart (es ++ fs) :=
  List.forall_mem_append.mpr ⟨h, h'⟩

theorem NoStart.busyRun_append (h : NoStart fs) (es : List Entry) :
    busyRun (es ++ fs) = busyRun es := by
  rw [busyRun, List.foldl_append, ← busyRun]
  generalize busyRun es = n
  induction fs with
  | nil => rfl
  | cons e fs ih =>
    have he : noteBusy n e = n := by
      have hstart := h e List.mem_cons_self
      cases e with
      | requestDataCall action id ret => cases action <;> first | rfl | cases hstart
      | _ => rfl
    rw [List.foldl_cons, he]
    exact ih fun e' he' => h e' (List.mem_cons_of_mem e he')

theorem NoStart.fromStart_append (h : NoStart es) (fs : List Entry) :
    fromStart (es ++ fs) = fromStart fs := by
  refine List.dropWhile_append_of_pos fun e he => ?_
  rw [h e he]
  rfl

theorem NoStart.fromStart_eq (h : NoStart es) : fromStart es = [] := by
  have happ := h.fromStart_append []
  rwa [List.append_nil] at happ

theorem noStart_notified (l : List Subscriber) (st : AgpsRsrcStatus)
    (f : Subscriber → Option AdapterCall) : NoStart (l.map fun s => .notified s st (f s)) :=
  List.forall_mem_map.mpr fun _ _ => rfl

theorem noStart_eventEntries (m : AgpsStateMachine) (event st : AgpsRsrcStatus)
    (l : List Subscriber) : NoStart (m.eventEntries event st l) :=
  (noStart_singleton (e := .rsrcEvent event) rfl).append (noStart_notified l st _)

theorem noStart_dropEntries (m : AgpsStateMachine) (s : Subscriber) :
    NoStart (m.dropEntries s) :=
  forall_mem_dropEntries m s (fun _ => rfl) fun _ => rfl

theorem noStart_startEntries (members : DSMembers) (env : Env) (connHandle : UInt32) :
    NoStart (members.startEntries env connHandle) :=
  members.forall_mem_startEntries env connHandle rfl fun _ => rfl

end NoStart

/-! ### The count -/

/-- The members after a start request that was answered `ret`. -/
def DSMembers.afterStart (members : DSMembers) (ret : Int32) : DSMembers :=
  if ret = locApiAdapterErrEngineBusy then
    if members.exhausted then ⟨0⟩ else ⟨members.mRetries + 1⟩
  else if ret = locApiAdapterErrUnsupported ∨ ret = -1 then ⟨0⟩
  else members

namespace AgpsStateMachine

variable {m : AgpsStateMachine} {members : DSMembers}

theorem ds_start (h : m.ds = some members) (env : Env) :
    (m.sendRsrcRequest env .gpsRequestAgpsDataConn).2.ds =
      some (members.afterStart env.openAndStartDataCall) := by
  have hreq : m.sendRsrcRequest env .gpsRequestAgpsDataConn =
      m.sendRsrcRequestDS env .gpsRequestAgpsDataConn members := by
    simp only [sendRsrcRequest, h]
  rw [hreq]
  simp only [sendRsrcRequestDS, dataCallCb, DSMembers.afterStart, DSMembers.exhausted]
  by_cases hb : env.openAndStartDataCall = locApiAdapterErrEngineBusy
  · by_cases he : members.mRetries + 1 > maxStartDataCallRetries
    · simp [hb, he, informStatus, informCall, resetRetries, AgpsStateMachine.say]
    · simp [hb, he, AgpsStateMachine.say]
  · by_cases hu : env.openAndStartDataCall = locApiAdapterErrUnsupported ∨
        env.openAndStartDataCall = -1
    · simp [hb, hu, informStatus, informCall, resetRetries, AgpsStateMachine.say, h]
    · simp [hb, hu, AgpsStateMachine.say, h]

theorem ds_stop (h : m.ds = some members) (env : Env) :
    (m.sendRsrcRequest env .gpsReleaseAgpsDataConn).2.ds = some members := by
  have hreq : m.sendRsrcRequest env .gpsReleaseAgpsDataConn =
      m.sendRsrcRequestDS env .gpsReleaseAgpsDataConn members := by
    simp only [sendRsrcRequest, h]
  rw [hreq]
  exact h

/-- The call makes a start request. -/
def starts (m : AgpsStateMachine) : Call → Bool
  | .subscribeRsrc _ => m.mStatePtr == .released
  | .onRsrcEvent event =>
    m.mStatePtr == .releasing && (event == .rsrcReleased || event == .rsrcDenied) &&
      m.mSubscribers.any (·.isActive)
  | _ => false

/-- The call tells a `DSSubscriber` of a denial. -/
def denies (m : AgpsStateMachine) : Call → Bool
  | .onRsrcEvent event =>
    m.mStatePtr == .pending && (event == .rsrcReleased || event == .rsrcDenied) &&
        m.mSubscribers.any (·.isDs) ||
      m.mStatePtr == .releasing && event == .rsrcDenied &&
        (m.mSubscribers.filter (!·.isActive)).any (·.isDs)
  | _ => false

end AgpsStateMachine

/-- What a call makes of the count and of the log: it starts nothing, or it makes one start. -/
def Counts (env : Env) (m : AgpsStateMachine) (members : DSMembers) (c : Call)
    (m' : AgpsStateMachine) : Prop :=
  let at' : DSMembers := if m.denies c then ⟨0⟩ else members
  m.starts c = false ∧ m'.ds = some at' ∧ (∃ es, m'.log = m.log ++ es ∧ NoStart es) ∨
  m.starts c = true ∧ m'.ds = some (at'.afterStart env.openAndStartDataCall) ∧
    ∃ es id, NoStart es ∧ m'.log = m.log ++ (es ++
      .requestDataCall .gpsRequestAgpsDataConn id env.openAndStartDataCall ::
        at'.startEntries env id)

section Counts

variable {env : Env} {m m' : AgpsStateMachine} {members : DSMembers} {c : Call} {es : List Entry}

theorem counts_of_noStart (hs : m.starts c = false) (hd : m.denies c = false)
    (hds : m'.ds = some members) (hlog : m'.log = m.log ++ es) (hes : NoStart es) :
    Counts env m members c m' := by
  refine .inl ⟨hs, ?_, es, hlog, hes⟩
  rw [hds, hd]
  rfl

theorem counts_of_log (hs : m.starts c = false) (hd : m.denies c = false)
    (hds : m'.ds = some members) (hlog : m'.log = m.log) : Counts env m members c m' :=
  counts_of_noStart hs hd hds (hlog.trans (List.append_nil _).symm) noStart_nil

/-- Telling anything but a denial leaves the count. -/
theorem counts_tell {st : AgpsRsrcStatus} {s : Subscriber} (hst : st ≠ .rsrcDenied)
    (hs : m.starts c = false) (hd : m.denies c = false) (hds : m.ds = some members) :
    Counts env m members c (m.tell st s) := by
  refine counts_of_noStart hs hd ?_ (log_tell m st s) (noStart_notified [s] st _)
  have htell : (m.tell st s).ds = _ := ds_tellAll st [s] m
  rw [htell, if_neg fun h => hst h.1, hds]

/-- The count when Releasing ends on an event. -/
theorem membersAt_eq {event : AgpsRsrcStatus} (hs : m.mStatePtr = .releasing)
    (hds : m.ds = some members) : m.membersAt event =
      some (if m.denies (.onRsrcEvent event) then ⟨0⟩ else members) := by
  have hden : m.denies (.onRsrcEvent event) = true ↔ event = .rsrcDenied ∧
      (m.mSubscribers.filter (!·.isActive)).any (·.isDs) = true := by
    simp [denies, hs]
  rw [membersAt, hds]
  by_cases h : m.denies (.onRsrcEvent event) = true
  · rw [if_pos (hden.mp h), if_pos h]
    rfl
  · rw [if_neg (mt hden.mpr h), if_neg h]

/-- **What a call makes of the count.** -/
theorem Step.counts (h : Step env m c m') (hds : m.ds = some members)
    (hmany : m.mEnforceSingleSubscriber = false) : Counts env m members c m' := by
  cases h with
  | refused x hsingle hne =>
    rw [hmany] at hsingle
    cases hsingle
  | requested x hs hfree =>
    have hstart := (sendRsrcRequest_start (m := m.join x) hds env).2
    refine .inr ⟨?_, ds_start (m := m.join x) hds env, [], _, noStart_nil, hstart⟩
    simp [starts, hs]
  | joined x hs hfree =>
    refine counts_of_log ?_ rfl hds rfl
    rcases hs with hs | hs <;> simp [starts, hs]
  | grantedAtOnce x hs hfree =>
    exact counts_tell (c := .subscribeRsrc x) (by decide) (by simp [starts, hs]) rfl hds
  | unknown x hx => exact counts_of_log rfl rfl hds rfl
  | toldOnly x s hx hs => exact counts_tell (by decide) rfl rfl hds
  | left x s hx hs hne hact =>
    exact counts_of_noStart rfl rfl hds (log_leave m s) (noStart_dropEntries m s)
  | leftReleasing x s hx hs hnil =>
    exact counts_of_noStart rfl rfl hds (log_leave m s) (noStart_dropEntries m s)
  | lastLeft x s hx hs hact =>
    have hstop := sendRsrcRequest_stop (m := m.leave s) hds env
    rw [log_leave, List.append_assoc] at hstop
    exact counts_of_noStart rfl rfl (ds_stop (m := m.leave s) hds env) hstop
      ((noStart_dropEntries m s).append (noStart_singleton rfl))
  | ignored event hp ha hr =>
    have hquiet : m.starts (.onRsrcEvent event) = false ∧
        m.denies (.onRsrcEvent event) = false := by
      cases hs : m.mStatePtr with
      | released | acquired => simp [starts, denies, hs]
      | releasing => simp [starts, denies, hs, hr hs]
      | pending =>
        obtain ⟨-, hdenied, hreleased⟩ := hp hs
        have hne : event ≠ .rsrcReleased := by
          intro he
          rw [hreleased he] at hds
          cases hds
        simp [starts, denies, hs, hdenied, hne]
    exact counts_of_noStart hquiet.1 hquiet.2 hds rfl (noStart_singleton rfl)
  | granted hs =>
    refine counts_of_noStart (by simp [starts, hs]) (by simp [denies]) ?_
      (m.log_event_tellAll _ .rsrcGranted _) (noStart_eventEntries m _ _ _)
    show ((m.say (.rsrcEvent .rsrcGranted)).tellAll .rsrcGranted _).ds = some members
    rw [ds_tellAll, if_neg (by simp)]
    exact hds
  | denied event hs he =>
    have hevent : event = .rsrcReleased ∨ event = .rsrcDenied :=
      he.elim .inr fun he => .inl he.1
    have hden : m.denies (.onRsrcEvent event) = m.mSubscribers.any (·.isDs) := by
      rcases hevent with rfl | rfl <;> simp [denies, hs]
    refine .inl ⟨by simp [starts, hs], ?_, _, m.log_event_clear event .rsrcDenied,
      noStart_eventEntries m _ _ _⟩
    show ((m.say (.rsrcEvent event)).tellAll .rsrcDenied m.mSubscribers).ds = _
    rw [ds_tellAll, hden, ds_say, hds]
    split <;> simp_all
  | revoked hs =>
    refine counts_of_noStart (by simp [starts, hs]) (by simp [denies, hs]) ?_
      (m.log_event_clear _ .rsrcReleased) (noStart_eventEntries m _ _ _)
    show ((m.say (.rsrcEvent .rsrcReleased)).tellAll .rsrcReleased m.mSubscribers).ds = some members
    rw [ds_tellAll, if_neg (by simp)]
    exact hds
  | closed event hs he hact =>
    refine .inl ⟨by simp [starts, hs, hact], ?_, _, m.log_event_prune event event,
      noStart_eventEntries m _ _ _⟩
    exact (ds_prune m event).trans (membersAt_eq hs hds)
  | reopened event hs he hact =>
    have hat := (ds_prune m event).trans (membersAt_eq hs hds)
    have hstart := (sendRsrcRequest_start hat env).2
    rw [log_event_prune, List.append_assoc] at hstart
    have hgo : m.starts (.onRsrcEvent event) = true := by
      rcases he with rfl | rfl <;> simp [starts, hs, hact]
    exact .inr ⟨hgo, ds_start hat env, _, _, noStart_eventEntries m _ _ _, hstart⟩
  | setAPN apn => exact counts_of_log rfl rfl hds rfl
  | setBearer bearer => exact counts_of_log rfl rfl hds rfl

end Counts

/-! ### Runs -/

namespace DataService

/-- A busy start falls back when as many busy starts as there are retries have gone before it
without another in between, and otherwise it is tried again later. -/
def Budgeted (d : DataService) (i : Input) : Prop :=
  ∀ id post, fromStart (d.news (d.step i)) =
      .requestDataCall .gpsRequestAgpsDataConn id locApiAdapterErrEngineBusy :: post →
    if busyRun d.sm.log = maxStartDataCallRetries.toNat then
      post = [.adapter (.requestATL id agpsTypeSupl)]
    else ∃ timer, post = [.timerStart timer]

/-- A start that is answered `ret` finds no retry counted if it is neither busy nor fails for
good, and if it is busy it is not the one that uses up a second budget. -/
def StartKeeps (d : DataService) (ret : Int32) : Prop :=
  if ret = locApiAdapterErrEngineBusy then
    busyRun d.sm.log ≠ 2 * maxStartDataCallRetries.toNat + 1
  else (ret = locApiAdapterErrUnsupported ∨ ret = -1) ∨ d.sm.ds = some ⟨0⟩

instance (d : DataService) (ret : Int32) : Decidable (d.StartKeeps ret) :=
  inferInstanceAs (Decidable (if ret = locApiAdapterErrEngineBusy then _ else _))

/-- The start that a step makes leaves the count right, and a denial that a `DSSubscriber` is
told of finds no retry counted. -/
def KeepsBudget (d : DataService) (i : Input) : Prop :=
  ∀ c ∈ d.calls i,
    (d.sm.denies c.1 = true → d.sm.ds = some ⟨0⟩) ∧
    (d.sm.starts c.1 = true → d.StartKeeps c.2.openAndStartDataCall)

instance (d : DataService) (i : Input) : Decidable (d.KeepsBudget i) :=
  inferInstanceAs (Decidable (∀ c ∈ d.calls i, (_ → _) ∧ (_ → _)))

/-- `mRetries` is the number of busy starts in a row, less those of a budget that is used up. -/
structure Counted (d : DataService) (members : DSMembers) : Prop where
  many : d.sm.mEnforceSingleSubscriber = false
  ds : d.sm.ds = some members
  mRetries : members.mRetries.toNat = busyRun d.sm.log % 5
  le : busyRun d.sm.log ≤ 9

end DataService

/-- A count of `n` busy starts is used up when `n` is that of the last in a budget. -/
theorem DSMembers.exhausted_iff {members : DSMembers} {n : ℕ}
    (h : members.mRetries.toNat = n % 5) : members.exhausted = true ↔ n % 5 = 4 := by
  have hlt : members.mRetries.toNat + 1 < 256 := by omega
  rw [DSMembers.exhausted, decide_eq_true_iff, gt_iff_lt, UInt8.lt_iff_toNat_lt, UInt8.toNat_add]
  show 4 < (members.mRetries.toNat + 1) % 256 ↔ _
  rw [Nat.mod_eq_of_lt hlt]
  omega

namespace DataService

variable {d d' : DataService} {members : DSMembers} {env : Env} {es : List Entry} {id : UInt32}

theorem StartKeeps.ne_nine {ret : Int32} (h : d.StartKeeps ret)
    (hb : ret = locApiAdapterErrEngineBusy) : busyRun d.sm.log ≠ 9 := by
  rw [StartKeeps, if_pos hb] at h
  exact h

/-- **A start keeps the count**, when it is not busy beyond two budgets and another result finds
no retry counted. -/
theorem Counted.start (hd : d.Counted members) (hmany : d'.sm.mEnforceSingleSubscriber = false)
    (hds : d'.sm.ds = some (members.afterStart env.openAndStartDataCall)) (hes : NoStart es)
    (hlog : d'.sm.log = d.sm.log ++ (es ++
      .requestDataCall .gpsRequestAgpsDataConn id env.openAndStartDataCall ::
        members.startEntries env id))
    (hkeep : d.StartKeeps env.openAndStartDataCall) :
    d'.Counted (members.afterStart env.openAndStartDataCall) := by
  have hrun : busyRun d'.sm.log = noteBusy (busyRun d.sm.log)
      (.requestDataCall .gpsRequestAgpsDataConn id env.openAndStartDataCall) := by
    rw [hlog, List.append_cons es, ← List.append_assoc, ← List.append_assoc,
      (noStart_startEntries members env id).busyRun_append, busyRun, List.foldl_append, ← busyRun,
      hes.busyRun_append]
    rfl
  have hle := hd.le
  by_cases hb : env.openAndStartDataCall = locApiAdapterErrEngineBusy
  · have hnine := hkeep.ne_nine hb
    have hsucc : busyRun d'.sm.log = busyRun d.sm.log + 1 := by rw [hrun, noteBusy, if_pos hb]
    refine ⟨hmany, hds, ?_, by omega⟩
    rw [DSMembers.afterStart, if_pos hb, hsucc]
    have hused := DSMembers.exhausted_iff hd.mRetries
    split
    · next he =>
      show 0 = _
      have := hused.mp he
      omega
    · next he =>
      have hlast := mt hused.mpr he
      have hr := hd.mRetries
      show (members.mRetries + 1).toNat = _
      rw [UInt8.toNat_add, hr]
      show (busyRun d.sm.log % 5 + 1) % 256 = _
      omega
  · rw [StartKeeps, if_neg hb] at hkeep
    have hzero : busyRun d'.sm.log = 0 := by rw [hrun, noteBusy, if_neg hb]
    refine ⟨hmany, hds, ?_, by omega⟩
    rw [DSMembers.afterStart, if_neg hb, hzero]
    split
    · rfl
    · next hu =>
      have hmembers := hd.ds.symm.trans (hkeep.resolve_left hu)
      rw [Option.some.inj hmembers]
      rfl

/-- A busy start within the count falls back as the last of a budget. -/
theorem Counted.startEntries (hd : d.Counted members)
    (hb : env.openAndStartDataCall = locApiAdapterErrEngineBusy)
    (hkeep : d.StartKeeps env.openAndStartDataCall) (id : UInt32) :
    if busyRun d.sm.log = maxStartDataCallRetries.toNat then
      members.startEntries env id = [.adapter (.requestATL id agpsTypeSupl)]
    else ∃ timer, members.startEntries env id = [.timerStart timer] := by
  have hle := hd.le
  have hnine := hkeep.ne_nine hb
  have hused := DSMembers.exhausted_iff hd.mRetries
  have hfalls : members.fallsBack env = members.exhausted := by
    have hother : (locApiAdapterErrEngineBusy == locApiAdapterErrUnsupported) = false ∧
        (locApiAdapterErrEngineBusy == -1) = false := by decide
    simp [DSMembers.fallsBack, hb, hother.1, hother.2]
  show if busyRun d.sm.log = 4 then _ else _
  rw [DSMembers.startEntries, hfalls, if_pos hb]
  split
  · next hfour =>
    rw [if_pos (hused.mpr (by omega))]
  · next hfour =>
    rw [if_neg (mt hused.mp (by omega))]
    exact ⟨_, rfl⟩

/-- **A step keeps the count and the budget.** -/
theorem Counted.step (hd : d.Counted members) {i : Input} (hkeep : d.KeepsBudget i) :
    (∃ members', (d.step i).Counted members') ∧ d.Budgeted i := by
  -- what starts nothing leaves the count as it is
  have hquiet : ∀ {es}, NoStart es → (d.step i).sm.log = d.sm.log ++ es →
      (d.step i).sm.ds = some members → (d.step i).sm.mEnforceSingleSubscriber = false →
      (∃ members', (d.step i).Counted members') ∧ d.Budgeted i := by
    intro es hes hlog hds hmany
    have hrun : busyRun (d.step i).sm.log = busyRun d.sm.log := by
      rw [hlog, hes.busyRun_append]
    refine ⟨⟨members, hmany, hds, hrun ▸ hd.mRetries, hrun ▸ hd.le⟩, ?_⟩
    intro id post hfrom
    rw [news, hlog, List.drop_left, hes.fromStart_eq] at hfrom
    cases hfrom
  rcases d.sm_step i with ⟨c, hc, hs⟩ | ⟨-, hs | ⟨id, hs⟩⟩
  · obtain ⟨hdenies, hstarts⟩ := hkeep c hc
    have hcall := call_step d.sm c
    have hmany := hcall.mEnforceSingleSubscriber_eq.trans hd.many
    -- a denial that is told has nothing to set to zero
    have hat : (if d.sm.denies c.1 then ⟨0⟩ else members) = members := by
      split
      · next hden => exact Option.some.inj ((hdenies hden).symm.trans hd.ds)
      · rfl
    have hcounts := hcall.counts hd.ds hd.many
    rw [← hs] at hcounts hmany
    simp only [Counts, hat] at hcounts
    rcases hcounts with ⟨-, hds, es, hlog, hes⟩ | ⟨hgo, hds, es, id, hes, hlog⟩
    · exact hquiet hes hlog hds hmany
    · have hkeep := hstarts hgo
      refine ⟨⟨_, hd.start hmany hds hes hlog hkeep⟩, ?_⟩
      intro id' post hfrom
      rw [news, hlog, List.drop_left, hes.fromStart_append, fromStart,
        List.dropWhile_cons_of_neg (by simp [Entry.isStart])] at hfrom
      obtain ⟨hentry, rfl⟩ := List.cons.inj hfrom
      obtain ⟨-, rfl, hb⟩ := Entry.requestDataCall.inj hentry
      exact hd.startEntries hb hkeep id
  · exact hquiet noStart_nil (by rw [hs, List.append_nil]) (hs ▸ hd.ds) (hs ▸ hd.many)
  · exact hquiet (noStart_singleton (e := .adapter (.requestSuplES id)) rfl) (by rw [hs]; rfl)
      (hs ▸ hd.ds) (hs ▸ hd.many)

/-- A request of the emergency call that is answered `ret`. -/
def request (ret : Int32) : Input := .call (.subscribeRsrc (.ds 1 false)) ⟨ret, true⟩

/-- Two busy starts, one that is taken, and the release of the call. -/
def twoRetries : List Input :=
  [request locApiAdapterErrEngineBusy, request locApiAdapterErrEngineBusy,
    request locApiAdapterErrSuccess, .call (.onRsrcEvent .rsrcGranted) .ok,
    .call (.onRsrcEvent .rsrcReleased) .ok]

end DataService
end Agps
end Nx507j
