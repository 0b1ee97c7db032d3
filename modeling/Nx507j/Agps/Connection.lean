import Nx507j.Agps.Invariant

/-!
# The data connection of a machine

What a plain machine asks of the framework, read as an account: a request opens
the connection, a release closes it, and so does a resource event that takes it
away.  Over every run the account agrees with the state, so that the framework
never sees two requests or two releases for one connection.

## Main definitions

* `Account` — a machine with the account of its connection.
* `Account.enter` — what one entry of the log does to the account.
* `Account.Balanced` — the account agrees with the state, and did so far.

## Main results

* `Account.balanced_call`, `Account.balanced_exec` — one call, and every run.
-/

namespace Nx507j
namespace Agps

open AgpsStateMachine Run

/-- A machine with the account of its connection: whether the connection is held,
and whether each request so far was sent while it was not held and each release
while it was. -/
structure Account where
  sm : AgpsStateMachine
  held : Bool
  proper : Bool
  deriving DecidableEq, Repr

namespace Account

/-- What an entry does to `held` and `proper`; `state` is the state in which the
call that writes it is handled. -/
def enter (state : AgpsState) (a : Bool × Bool) : Entry → Bool × Bool
  | .requestRsrc nifRequest =>
    match nifRequest.status with
    | .gpsRequestAgpsDataConn => (true, a.2 && !a.1)
    | .gpsReleaseAgpsDataConn => (false, a.2 && a.1)
  | .rsrcEvent .rsrcDenied => (a.1 && state != .pending, a.2)
  | .rsrcEvent .rsrcReleased => (a.1 && state != .acquired, a.2)
  | _ => a

/-- The account after some entries. -/
def enterAll (state : AgpsState) (a : Bool × Bool) (es : List Entry) : Bool × Bool :=
  es.foldl (enter state) a

/-- A call, with the account kept over what the call writes into the log. -/
def call (a : Account) (c : Call × Env) : Account :=
  let sm := a.sm.call c
  let account := enterAll a.sm.mStatePtr (a.held, a.proper) (sm.log.drop a.sm.log.length)
  ⟨sm, account.1, account.2⟩

/-- The account of a new machine. -/
def new (type : AGpsExtType) (enforceSingleSubscriber : Bool) : Account :=
  ⟨.new type enforceSingleSubscriber, false, true⟩

/-- The connection is held exactly in Pending and Acquired, and no request or
release was out of turn. -/
structure Balanced (a : Account) : Prop where
  held_iff : a.held = true ↔ a.sm.mStatePtr = .pending ∨ a.sm.mStatePtr = .acquired
  proper : a.proper = true

/-! ### What the parts of a call enter -/

theorem enterAll_append (state : AgpsState) (a : Bool × Bool) (es fs : List Entry) :
    enterAll state a (es ++ fs) = enterAll state (enterAll state a es) fs :=
  List.foldl_append

@[simp] theorem enterAll_notified (state : AgpsState) (a : Bool × Bool) (l : List Subscriber)
    (st : AgpsRsrcStatus) (f : Subscriber → Option AdapterCall) :
    enterAll state a (l.map fun s => .notified s st (f s)) = a := by
  induction l with
  | nil => rfl
  | cons s l ih => exact ih

theorem enterAll_eventEntries (state : AgpsState) (a : Bool × Bool) (m : AgpsStateMachine)
    (event st : AgpsRsrcStatus) (l : List Subscriber) :
    enterAll state a (m.eventEntries event st l) = enter state a (.rsrcEvent event) :=
  enterAll_notified state _ l st _

@[simp] theorem enterAll_dropEntries (state : AgpsState) (a : Bool × Bool) (m : AgpsStateMachine)
    (s : Subscriber) : enterAll state a (m.dropEntries s) = a := by
  cases s with
  | bit ID addr => exact enterAll_notified state a _ _ _
  | atl ID c => exact enterAll_notified state a _ _ _
  | wifi sender ssid password i => rfl
  | ds ID i => rfl

theorem status_nifRequest (m : AgpsStateMachine) (action : AGpsStatusValue)
    (s : Option Subscriber) : (m.nifRequest action s).status = action := by
  cases s <;> rfl

/-- A request for the resource, with an active subscriber to make it for. -/
theorem enterAll_request (state : AgpsState) (a : Bool × Bool) {m : AgpsStateMachine}
    (h : m.mSubscribers.any (·.isActive) = true) :
    enterAll state a (m.requestEntries .gpsRequestAgpsDataConn) = (true, a.2 && !a.1) := by
  have hs : (m.mSubscribers.find? (·.isActive)).isNone = false := by
    rw [Option.isNone_eq_false_iff, List.isSome_find?]
    exact h
  simp [requestEntries, hs, enterAll, enter, status_nifRequest]

/-- A release of the resource, with no active subscriber left. -/
theorem enterAll_release (state : AgpsState) (a : Bool × Bool) {m : AgpsStateMachine}
    (h : m.mSubscribers.any (·.isActive) = false) :
    enterAll state a (m.requestEntries .gpsReleaseAgpsDataConn) = (false, a.2 && a.1) := by
  have hs : m.mSubscribers.find? (·.isActive) = none := by
    rw [List.find?_eq_none]
    simpa using h
  simp [requestEntries, hs, enterAll, enter, status_nifRequest]

/-! ### Calls and runs -/

/-- The entries a case of a call adds to the log. -/
theorem call_eq {a : Account} {c : Call × Env} {es : List Entry}
    (h : (a.sm.call c).log = a.sm.log ++ es) :
    a.call c = ⟨a.sm.call c, (enterAll a.sm.mStatePtr (a.held, a.proper) es).1,
      (enterAll a.sm.mStatePtr (a.held, a.proper) es).2⟩ := by
  simp [call, h]

/-- From `m` to `m'` entries are added to the log that keep a balanced account in balance. -/
def Balances (m m' : AgpsStateMachine) (held : Bool) : Prop :=
  ∃ es, m'.log = m.log ++ es ∧
    ((enterAll m.mStatePtr (held, true) es).1 = true ↔
      m'.mStatePtr = .pending ∨ m'.mStatePtr = .acquired) ∧
    (enterAll m.mStatePtr (held, true) es).2 = true

section Cases

variable {env : Env} {m m' : AgpsStateMachine} {c : Call} {held : Bool}

theorem balances_subscribe {x : Subscriber} (h : Step env m (.subscribeRsrc x) m')
    (hm : Consistent m) (hheld : held = true ↔ m.mStatePtr = .pending ∨ m.mStatePtr = .acquired) :
    Balances m m' held := by
  cases h with
  | refused x hsingle hne =>
    refine ⟨_, m.log_tell _ x, ?_, rfl⟩
    simpa [enterAll, enter] using hheld
  | requested x hs hfree =>
    -- the newcomer is the active subscriber that the request is made for
    have hreq := sendRsrcRequest_of_base (m := m.join x) hm.base env .gpsRequestAgpsDataConn
    have hempty : m.mSubscribers = [] := hm.released_iff_nil.mp hs
    have hact : (m.join x).mSubscribers.any (·.isActive) = true := by
      simp [hempty, addNew]
    have hnot : held = false := by
      rw [← Bool.not_eq_true, hheld, hs]
      simp
    refine ⟨(m.join x).requestEntries .gpsRequestAgpsDataConn, by rw [hreq]; rfl, ?_, ?_⟩
    · rw [enterAll_request _ _ hact, hreq]
      simp
    · rw [enterAll_request _ _ hact, hnot]
      rfl
  | joined x hs hfree => exact ⟨[], by simp, hheld, rfl⟩
  | grantedAtOnce x hs hfree =>
    refine ⟨_, m.log_tell _ x, ?_, rfl⟩
    simpa [enterAll, enter] using hheld

theorem balances_unsubscribe {x : Subscriber} (h : Step env m (.unsubscribeRsrc x) m')
    (hm : Consistent m) (hheld : held = true ↔ m.mStatePtr = .pending ∨ m.mStatePtr = .acquired) :
    Balances m m' held := by
  cases h with
  | unknown x hx => exact ⟨[], by simp, hheld, rfl⟩
  | toldOnly x s hx hs =>
    refine ⟨_, m.log_tell _ s, ?_, rfl⟩
    simpa [enterAll, enter] using hheld
  | left x s hx hs hne hact =>
    refine ⟨_, m.log_leave s, ?_, ?_⟩
    · simpa using hheld
    · simp
  | leftReleasing x s hx hs hnil =>
    refine ⟨_, m.log_leave s, ?_, ?_⟩
    · rw [hs] at hheld
      simpa using hheld
    · simp
  | lastLeft x s hx hs hact =>
    -- the connection is given back with the last active subscriber
    have hreq := sendRsrcRequest_of_base (m := m.leave s) hm.base env .gpsReleaseAgpsDataConn
    have hyes : held = true := hheld.mpr hs
    refine ⟨m.dropEntries s ++ (m.leave s).requestEntries .gpsReleaseAgpsDataConn, ?_, ?_, ?_⟩
    · rw [hreq]
      simp
    · rw [enterAll_append, enterAll_release (m := m.leave s) _ _ hact]
      by_cases hnil : dropped m.mSubscribers s = [] <;> simp [hnil]
    · rw [enterAll_append, enterAll_release (m := m.leave s) _ _ hact, enterAll_dropEntries, hyes]
      rfl

/-- An answer in Releasing leaves the connection as it is, and the request takes it again. -/
theorem balances_reopened {event : AgpsRsrcStatus} (hm : Consistent m)
    (hs : m.mStatePtr = .releasing) (he : event = .rsrcReleased ∨ event = .rsrcDenied)
    (hact : m.mSubscribers.any (·.isActive) = true)
    (hheld : held = true ↔ m.mStatePtr = .pending ∨ m.mStatePtr = .acquired) :
    Balances m { (((m.say (.rsrcEvent event)).prune event).sendRsrcRequest env
      .gpsRequestAgpsDataConn).2 with mStatePtr := .pending } held := by
  have hnot : held = false := by
    rw [← Bool.not_eq_true, hheld, hs]
    simp
  have hds : ((m.say (.rsrcEvent event)).prune event).ds = none := by
    rw [← Option.not_isSome_iff_eq_none, isSome_ds_prune, ds_say, hm.base]
    exact Bool.false_ne_true
  have hreq := sendRsrcRequest_of_base hds env .gpsRequestAgpsDataConn
  have hact' : ((m.say (.rsrcEvent event)).prune event).mSubscribers.any (·.isActive) = true := by
    simpa using hact
  have hevent : enter m.mStatePtr (held, true) (.rsrcEvent event) = (false, true) := by
    rcases he with rfl | rfl <;> simp [enter, hnot]
  refine ⟨m.eventEntries event event (m.mSubscribers.filter (!·.isActive)) ++
    ((m.say (.rsrcEvent event)).prune event).requestEntries .gpsRequestAgpsDataConn, ?_, ?_, ?_⟩
  · rw [hreq]
    show ((m.say (.rsrcEvent event)).prune event).log ++ _ = _
    rw [log_event_prune, List.append_assoc]
  · rw [enterAll_append, enterAll_request _ _ hact']
    simp
  · rw [enterAll_append, enterAll_request _ _ hact', enterAll_eventEntries, hevent]
    rfl

theorem balances_event {event : AgpsRsrcStatus} (h : Step env m (.onRsrcEvent event) m')
    (hm : Consistent m) (hheld : held = true ↔ m.mStatePtr = .pending ∨ m.mStatePtr = .acquired) :
    Balances m m' held := by
  cases h with
  | ignored event hp ha hr =>
    -- an event that would take the connection away is not ignored where it is held
    have he : enterAll m.mStatePtr (held, true) [.rsrcEvent event] = (held, true) := by
      cases hs : m.mStatePtr <;> cases event <;> simp_all [enterAll, enter]
    exact ⟨_, rfl, by rw [he]; exact hheld, by rw [he]⟩
  | granted hs =>
    refine ⟨_, m.log_event_tellAll _ _ _, ?_, ?_⟩
    · rw [enterAll_eventEntries]
      simp [enter, hheld, hs]
    · rw [enterAll_eventEntries]
      rfl
  | denied event hs he =>
    -- a plain machine in Pending is turned away by a denial alone
    have hd : event = .rsrcDenied := by
      rcases he with he | ⟨-, he⟩
      · exact he
      · simp [hm.base] at he
    subst hd
    refine ⟨_, m.log_event_clear _ _, ?_, ?_⟩
    · rw [enterAll_eventEntries]
      simp [enter, hs]
    · rw [enterAll_eventEntries]
      rfl
  | revoked hs =>
    refine ⟨_, m.log_event_clear _ _, ?_, ?_⟩
    · rw [enterAll_eventEntries]
      simp [enter, hs]
    · rw [enterAll_eventEntries]
      rfl
  | closed event hs he hact =>
    -- Releasing holds nothing that the answer could take away
    have hnot : held = false := by
      rw [← Bool.not_eq_true, hheld, hs]
      simp
    refine ⟨_, m.log_event_prune _ _, ?_, ?_⟩
    · rw [enterAll_eventEntries]
      rcases he with rfl | rfl <;> simp [enter, hnot]
    · rw [enterAll_eventEntries]
      rcases he with rfl | rfl <;> rfl
  | reopened event hs he hact => exact balances_reopened hm hs he hact hheld

/-- What a case of a call does to a balanced account of a consistent machine. -/
theorem balances_step (h : Step env m c m') (hm : Consistent m)
    (hheld : held = true ↔ m.mStatePtr = .pending ∨ m.mStatePtr = .acquired) :
    Balances m m' held := by
  cases c with
  | subscribeRsrc x => exact balances_subscribe h hm hheld
  | unsubscribeRsrc x => exact balances_unsubscribe h hm hheld
  | onRsrcEvent event => exact balances_event h hm hheld
  | setAPN apn =>
    cases h
    exact ⟨[], by simp, hheld, rfl⟩
  | setBearer bearer =>
    cases h
    exact ⟨[], by simp, hheld, rfl⟩

end Cases

/-- **A call keeps the account balanced.** -/
theorem balanced_call {a : Account} (c : Call × Env) (hm : Consistent a.sm) (ha : a.Balanced) :
    (a.call c).Balanced := by
  obtain ⟨es, hlog, hheld, hproper⟩ := balances_step (call_step a.sm c) hm ha.held_iff
  rw [call_eq hlog, ha.proper]
  exact ⟨hheld, hproper⟩

end Account

end Agps
end Nx507j
