import Nx507j.Agps.DataService

/-!
# What can still bring a handle back

A data call is started for a handle that the machine lists as active, or when a retry that
has been posted for the handle is processed.  A regular ATL is asked for when a start fails,
and for everyone who is listed when the machine is denied the resource, the released ones too.

## Main definitions

* `startsFor` — the data calls started on behalf of a handle.
* `Tidy`, `Free` — a machine in order; one where nothing of a handle is left to start a data
  call.
* `Spent` — one where nothing is left to ask for a regular ATL either.

## Main results

* `step_tidy` — what a step leaves of a machine in order.
* `Free.step` — what is free stays free, and starts nothing.
* `Spent.step` — what is spent stays spent.
* `exists_start` — a retry that is posted for a handle can still start a data call.
-/

namespace Nx507j
namespace Agps

open AgpsStateMachine Run

/-! ### The entries of a call -/

/-- The number of data calls started on behalf of a handle. -/
def startsFor (h : UInt32) (es : List Entry) : ℕ :=
  es.countP fun e =>
    match e with
    | .requestDataCall .gpsRequestAgpsDataConn connHandle _ => connHandle == h
    | _ => false

theorem startsFor_append (h : UInt32) (es fs : List Entry) :
    startsFor h (es ++ fs) = startsFor h es + startsFor h fs := List.countP_append

/-- Entries without a start for the handle start nothing on its behalf. -/
theorem startsFor_eq_zero {h : UInt32} {es : List Entry}
    (hes : ∀ e ∈ es, ∀ ret, e ≠ .requestDataCall .gpsRequestAgpsDataConn h ret) :
    startsFor h es = 0 := by
  unfold startsFor
  rw [List.countP_eq_zero]
  intro e he hstart
  split at hstart
  · next connHandle ret =>
    rw [eq_of_beq hstart] at he
    exact hes _ he ret rfl
  · cases hstart

namespace DataService

/-- The machine lists a `DSSubscriber` of the handle, active or released. -/
def ListsDs (h : UInt32) (m : AgpsStateMachine) : Prop := ∃ i, .ds h i ∈ m.mSubscribers

/-- The call may deny those who are listed: it is an event in Pending, or denies the machine its
resource. -/
def Denies (m : AgpsStateMachine) (c : Call) : Prop :=
  ∃ event, c = .onRsrcEvent event ∧ (m.mStatePtr = .pending ∨ event = .rsrcDenied)

/-- The entry starts a data call only for a handle that the machine then lists as active, and
posts nothing but a regular ATL, for such a handle or for one that the call may deny. -/
def Fair (m m' : AgpsStateMachine) (c : Call) (e : Entry) : Prop :=
  (∀ id ret, e = .requestDataCall .gpsRequestAgpsDataConn id ret → ListsActive id m') ∧
    ∀ p, e.call.bind AdapterCall.post = some p → ∃ id, p = .requestATL id agpsTypeSupl ∧
      (ListsActive id m' ∨ ListsDs id m ∧ Denies m c)

section Fair

variable {m m' : AgpsStateMachine} {c : Call}

theorem fair_nil : ∀ e ∈ ([] : List Entry), Fair m m' c e := by
  intro e he
  cases he

/-- An entry that is neither a start nor a message is fair. -/
theorem fair_of_no_post {e : Entry}
    (hstart : ∀ id ret, e ≠ .requestDataCall .gpsRequestAgpsDataConn id ret)
    (hpost : e.call.bind AdapterCall.post = none) : Fair m m' c e := by
  refine ⟨fun id ret h => absurd h (hstart id ret), fun p hp => ?_⟩
  rw [hpost] at hp
  cases hp

/-- Only a `DSSubscriber` that is denied has anything posted. -/
theorem post_notified {n : AgpsStateMachine} {st : AgpsRsrcStatus} {s : Subscriber} {p : Post}
    (h : (Entry.notified s st (n.notifyCall st s)).call.bind AdapterCall.post = some p) :
    st = .rsrcDenied ∧ ∃ ID i, s = .ds ID i ∧ p = .requestATL ID agpsTypeSupl := by
  cases s with
  | bit ID a => cases st <;> simp [Entry.call, notifyCall, ifResult, AdapterCall.post] at h
  | atl ID c => cases st <;> simp [Entry.call, notifyCall, AdapterCall.post] at h
  | wifi sender ssid password i =>
    cases st <;> simp [Entry.call, notifyCall, ifResult, AdapterCall.post] at h
  | ds ID i =>
    cases st <;> simp [Entry.call, notifyCall, informCall, AdapterCall.post] at h
    exact ⟨rfl, ID, i, rfl, h.symm⟩

theorem fair_notified (n : AgpsStateMachine) {st : AgpsRsrcStatus} {s : Subscriber}
    (hs : st = .rsrcDenied → s ∈ m.mSubscribers ∧ Denies m c) :
    Fair m m' c (.notified s st (n.notifyCall st s)) := by
  refine ⟨nofun, ?_⟩
  intro p hp
  obtain ⟨hst, ID, i, rfl, rfl⟩ := post_notified hp
  obtain ⟨hmem, hden⟩ := hs hst
  exact ⟨ID, rfl, Or.inr ⟨⟨i, hmem⟩, hden⟩⟩

theorem fair_eventEntries (n : AgpsStateMachine) {event st : AgpsRsrcStatus}
    {l : List Subscriber}
    (hl : st = .rsrcDenied → (∀ s ∈ l, s ∈ m.mSubscribers) ∧ Denies m c) :
    ∀ e ∈ n.eventEntries event st l, Fair m m' c e := by
  intro e he
  rcases List.mem_cons.mp he with rfl | he
  · exact fair_of_no_post nofun rfl
  · obtain ⟨s, hs, rfl⟩ := List.mem_map.mp he
    exact fair_notified n fun hst => ⟨(hl hst).1 s hs, (hl hst).2⟩

theorem fair_dropEntries (n : AgpsStateMachine) (s : Subscriber) :
    ∀ e ∈ n.dropEntries s, Fair m m' c e :=
  forall_mem_dropEntries n s (fun _ => fair_notified n nofun) fun _ => fair_of_no_post nofun rfl

theorem fair_start {members : DSMembers} {env : Env} {id : UInt32} {ret : Int32}
    (h : ListsActive id m') :
    ∀ e ∈ .requestDataCall .gpsRequestAgpsDataConn id ret :: members.startEntries env id,
      Fair m m' c e := by
  intro e he
  rcases List.mem_cons.mp he with rfl | he
  · refine ⟨?_, nofun⟩
    intro id' ret' heq
    cases heq
    exact h
  · refine members.forall_mem_startEntries env id ⟨nofun, ?_⟩
      (fun _ => fair_of_no_post nofun rfl) e he
    intro p hp
    exact ⟨id, (Option.some.inj hp).symm, Or.inl h⟩

end Fair

/-- **What a call on a `DSStateMachine` writes**: it starts a data call only for a handle that
it then lists as active, and posts nothing but regular ATLs. -/
theorem step_writes {env : Env} {m m' : AgpsStateMachine} {c : Call} (hm : Orderly m)
    (h : Step env m c m') : ∃ es, m'.log = m.log ++ es ∧ ∀ e ∈ es, Fair m m' c e := by
  obtain ⟨members, hds⟩ := Option.isSome_iff_exists.mp hm.isDS
  cases h with
  | refused x hsingle hne =>
    rw [hm.many] at hsingle
    cases hsingle
  | requested x hs hfree =>
    refine ⟨_, (sendRsrcRequest_start (m := m.join x) hds env).2, fair_start ?_⟩
    -- all who are listed in Released are active, and so is the new one
    have hact : (m.join x).mSubscribers.any (·.isActive) = true := by
      obtain ⟨s, hs'⟩ := List.exists_mem_of_ne_nil _ (addNew_ne_nil m.mSubscribers x)
      exact List.any_eq_true.mpr ⟨s, hs', isActive_addNew (hm.released hs) s hs'⟩
    have hconn := listsActive_connHandle hact
    unfold ListsActive at hconn ⊢
    rwa [mSubscribers_sendRsrcRequest]
  | joined x hs hfree => exact ⟨[], by simp, fair_nil⟩
  | grantedAtOnce x hs hfree =>
    refine ⟨[_], by rw [log_join, log_tell], ?_⟩
    intro e he
    rw [List.mem_singleton.mp he]
    exact fair_notified m nofun
  | unknown x hx => exact ⟨[], by simp, fair_nil⟩
  | toldOnly x s hx hs =>
    refine ⟨[_], log_tell _ _ _, ?_⟩
    intro e he
    rw [List.mem_singleton.mp he]
    exact fair_notified m nofun
  | left x s hx hs hne hact => exact ⟨_, log_leave _ _, fair_dropEntries m s⟩
  | leftReleasing x s hx hs hnil => exact ⟨_, log_leave _ _, fair_dropEntries m s⟩
  | lastLeft x s hx hs hact =>
    -- a release starts nothing and posts nothing
    have hlog := sendRsrcRequest_stop (m := m.leave s) hds env
    rw [log_leave, List.append_assoc] at hlog
    refine ⟨_, hlog, ?_⟩
    intro e he
    rcases List.mem_append.mp he with he | he
    · exact fair_dropEntries m s e he
    · rw [List.mem_singleton.mp he]
      exact fair_of_no_post nofun rfl
  | ignored event hp ha hr =>
    refine ⟨[_], rfl, ?_⟩
    intro e he
    rw [List.mem_singleton.mp he]
    exact fair_of_no_post nofun rfl
  | granted hs => exact ⟨_, log_event_tellAll _ _ _ _, fair_eventEntries _ nofun⟩
  | denied event hs he =>
    -- Pending ends, and everyone is denied
    exact ⟨_, log_event_clear _ _ _, fair_eventEntries _ fun _ =>
      ⟨fun _ h => h, event, rfl, Or.inl hs⟩⟩
  | revoked hs => exact ⟨_, log_event_clear _ _ _, fair_eventEntries _ nofun⟩
  | closed event hs he hact =>
    refine ⟨_, log_event_prune _ _ _, fair_eventEntries _ fun hden => ?_⟩
    exact ⟨fun _ h => List.mem_of_mem_filter h, event, rfl, Or.inr hden⟩
  | reopened event hs he hact =>
    -- the restart is for one of the active subscribers that are kept
    obtain ⟨members', hds'⟩ := exists_ds_prune_say hm.isDS (.rsrcEvent event) event
    have hlog := (sendRsrcRequest_start hds' env).2
    rw [log_event_prune, List.append_assoc] at hlog
    refine ⟨_, hlog, ?_⟩
    have hconn : ListsActive ((m.say (.rsrcEvent event)).prune event).connHandle
        ((m.say (.rsrcEvent event)).prune event) := by
      apply listsActive_connHandle
      simpa using hact
    intro e he
    rcases List.mem_append.mp he with he | he
    · refine fair_eventEntries _ (fun hden => ?_) e he
      exact ⟨fun _ h => List.mem_of_mem_filter h, event, rfl, Or.inr hden⟩
    · refine fair_start ?_ e he
      unfold ListsActive at hconn ⊢
      rwa [mSubscribers_sendRsrcRequest]
  | setAPN apn => exact ⟨[], by simp, fair_nil⟩
  | setBearer bearer => exact ⟨[], by simp, fair_nil⟩

/-- A call lists no handle as active that it does not subscribe. -/
theorem listsActive_of_step {env : Env} {m m' : AgpsStateMachine} {c : Call} {h : UInt32}
    (hstep : Step env m c m') (hx : ∀ x, c = .subscribeRsrc x → x.ID ≠ h)
    (hact : ListsActive h m') : ListsActive h m := by
  obtain ⟨t, ht, hID, ha⟩ := hact
  rcases hstep.mSubscribers_cases with hsub | ⟨x, hc, hadd⟩ | ⟨x, s, -, -, hdrop⟩
  · exact ⟨t, hsub.subset ht, hID, ha⟩
  · rw [hadd] at ht
    rcases mem_addNew ht with ht | rfl
    · exact ⟨t, ht, hID, ha⟩
    · rw [Subscriber.ID_clone] at hID
      exact absurd hID (hx x hc)
  · rw [hdrop] at ht
    rcases mem_of_mem_dropped ht with ht | ⟨hs, rfl⟩
    · exact ⟨t, ht, hID, ha⟩
    · refine ⟨s, hs, by simpa using hID, ?_⟩
      cases s <;> first | rfl | cases ha

/-- In Pending and Acquired somebody is listed as active. -/
def Waited (m : AgpsStateMachine) : Prop :=
  m.mStatePtr = .pending ∨ m.mStatePtr = .acquired → m.mSubscribers.any (·.isActive) = true

theorem Waited.step {env : Env} {m m' : AgpsStateMachine} {c : Call} (hw : Waited m)
    (hm : Orderly m) (h : Step env m c m') : Waited m' := by
  unfold Waited at hw ⊢
  cases h with
  | refused x hsingle hne =>
    rw [hm.many] at hsingle
    cases hsingle
  | requested x hs hfree =>
    intro _
    obtain ⟨s, hs'⟩ := List.exists_mem_of_ne_nil _ (addNew_ne_nil m.mSubscribers x)
    have hact := isActive_addNew (x := x) (hm.released hs) s hs'
    simpa using ⟨s, hs', hact⟩
  | joined x hs hfree => exact fun h => any_isActive_addNew x (Or.inl (hw h))
  | grantedAtOnce x hs hfree =>
    intro _
    simpa using any_isActive_addNew x (Or.inl (hw (Or.inr hs)))
  | unknown x hx => exact hw
  | toldOnly x s hx hs => simpa using hw
  | left x s hx hs hne hact =>
    -- Pending and Acquired are kept only with an active subscriber
    intro h
    refine hact fun hrel => ?_
    rw [mStatePtr_leave, hrel] at h
    rcases h with h | h <;> cases h
  | leftReleasing x s hx hs hnil => exact fun h => by rcases h with h | h <;> cases h
  | lastLeft x s hx hs hact => by_cases hnil : dropped m.mSubscribers s = [] <;> simp [hnil]
  | ignored event hp ha hr => exact hw
  | granted hs => exact fun _ => by simpa using hw (Or.inl hs)
  | denied event hs he => simp
  | revoked hs => simp
  | closed event hs he hact => simp
  | reopened event hs he hact => exact fun _ => by simpa using hact
  | setAPN apn => exact hw
  | setBearer bearer => exact hw

/-! ### What can still start a data call -/

/-- A machine in order, with somebody active where it waits, that has posted no regular ATL but
for `AGPS_TYPE_SUPL`. -/
structure Tidy (d : DataService) : Prop where
  orderly : Orderly d.sm
  waited : Waited d.sm
  supl : ∀ id agpsType, .requestATL id agpsType ∈ d.queue → agpsType = agpsTypeSupl

/-- Neither a listed handle nor a posted retry is left to start a data call for `h`. -/
structure Free (h : UInt32) (d : DataService) : Prop where
  inactive : ¬ ListsActive h d.sm
  noRetry : .requestSuplES h ∉ d.queue

theorem tidy_new : Tidy new where
  orderly := orderly_new
  waited := by simp [Waited, new, newDS, AgpsStateMachine.new]
  supl := nofun

theorem free_new (h : UInt32) : Free h new := by
  refine ⟨?_, nofun⟩
  rintro ⟨s, hs, -⟩
  cases hs

/-- The handle that an input asks the machine for, if it is another's request. -/
def Input.subscribes (h : UInt32) : Input → Bool
  | .call (.subscribeRsrc x) _ => x.ID == h
  | _ => false

/-- What a step that makes no call posts: a retry for a listed active handle. -/
theorem queue_of_no_call {d : DataService} {i : Input} (hc : d.calls i = none) :
    ∀ p ∈ (d.step i).queue, p ∈ d.rest i ∨ ∃ id, p = .requestSuplES id ∧ ListsActive id d.sm := by
  intro p hp
  cases i with
  | call c env => cases hc
  | timer =>
    change p ∈ d.timer.queue at hp
    unfold timer at hp
    split at hp
    · exact Or.inl hp
    · unfold retryCallback at hp
      rw [search_active] at hp
      cases hf : d.sm.mSubscribers.find? (·.isActive) with
      | none =>
        simp [hf, become, posted] at hp
        exact Or.inl hp
      | some s =>
        simp only [hf, become, log_say, List.drop_left, posted, List.filterMap_cons,
          List.filterMap_nil, Entry.call, AdapterCall.post, Option.bind_some,
          List.mem_append, List.mem_singleton] at hp
        refine hp.imp_right fun hp => ⟨s.ID, hp, s, List.mem_of_find?_eq_some hf, rfl, ?_⟩
        have hact := List.find?_some hf
        simpa [Subscriber.isActive] using hact
  | deliver env =>
    change p ∈ (d.deliver env).queue at hp
    cases hq : d.queue with
    | nil =>
      simp only [deliver, hq] at hp
      cases hp
    | cons q queue =>
      cases q with
      | requestSuplES id => simp [calls, hq] at hc
      | requestATL id t =>
        simp only [deliver, hq] at hp
        refine Or.inl ?_
        simpa [rest, hq] using hp

theorem mem_of_mem_rest {d : DataService} {i : Input} {p : Post} (h : p ∈ d.rest i) :
    p ∈ d.queue := by
  cases i with
  | deliver env => exact List.mem_of_mem_tail h
  | _ => exact h

/-- **What a step leaves of a machine in order**: it stays in order, starts data calls only
for handles it then lists as active, posts retries only for such it has listed, and regular
ATLs for either or for handles that it may have denied. -/
theorem step_tidy {d : DataService} {i : Input} (hd : Tidy d) (hi : i.isOf .dataService = true) :
    Tidy (d.step i) ∧
      (∀ id, ¬ ListsActive id (d.step i).sm →
        startsFor id (d.step i).sm.log = startsFor id d.sm.log) ∧
      (∀ id, .requestSuplES id ∈ (d.step i).queue →
        .requestSuplES id ∈ d.rest i ∨ d.calls i = none ∧ ListsActive id d.sm) ∧
      ∀ id agpsType, .requestATL id agpsType ∈ (d.step i).queue →
        .requestATL id agpsType ∈ d.rest i ∨ ListsActive id (d.step i).sm ∨
          ListsDs id d.sm ∧ ∃ c, d.calls i = some c ∧ Denies d.sm c.1 := by
  have horderly := hd.orderly.call hi
  have hwaited : Waited (d.step i).sm :=
    step_keeps hd.waited (fun c _ => hd.waited.step hd.orderly (call_step d.sm c))
      fun _ => hd.waited
  cases hc : d.calls i with
  | some c =>
    obtain ⟨es, hlog, hes⟩ := step_writes hd.orderly (call_step d.sm c)
    have hstep := step_of_call hc hlog
    have hposted : ∀ p ∈ posted es, ∃ id, p = .requestATL id agpsTypeSupl ∧
        (ListsActive id (d.sm.call c) ∨ ListsDs id d.sm ∧ Denies d.sm c.1) := by
      intro p hp
      obtain ⟨e, he, hpost⟩ := List.mem_filterMap.mp hp
      exact (hes e he).2 p hpost
    rw [hstep] at horderly hwaited ⊢
    refine ⟨⟨horderly, hwaited, ?_⟩, ?_, ?_, ?_⟩
    · intro id t ht
      rcases List.mem_append.mp ht with ht | ht
      · exact hd.supl id t (mem_of_mem_rest ht)
      · obtain ⟨id', heq, -⟩ := hposted _ ht
        cases heq
        rfl
    · intro id hno
      have hzero : startsFor id es = 0 :=
        startsFor_eq_zero fun e he ret heq => hno ((hes e he).1 id ret heq)
      rw [hlog, startsFor_append, hzero, Nat.add_zero]
    · intro id hid
      rcases List.mem_append.mp hid with hid | hid
      · exact Or.inl hid
      · obtain ⟨id', heq, -⟩ := hposted _ hid
        cases heq
    · intro id t ht
      rcases List.mem_append.mp ht with ht | ht
      · exact Or.inl ht
      · obtain ⟨id', heq, hor⟩ := hposted _ ht
        cases heq
        exact Or.inr (hor.imp_right fun h => ⟨h.1, c, rfl, h.2⟩)
  | none =>
    have hqueue := queue_of_no_call hc
    refine ⟨⟨horderly, hwaited, ?_⟩, ?_, ?_, ?_⟩
    · intro id t ht
      rcases hqueue _ ht with ht | ⟨id', heq, -⟩
      · exact hd.supl id t (mem_of_mem_rest ht)
      · cases heq
    · intro id _
      rcases d.sm_step i with ⟨c, hc', -⟩ | ⟨-, hs | ⟨id', hs⟩⟩
      · rw [hc] at hc'
        cases hc'
      · rw [hs]
      · rw [hs, log_say, startsFor_append]
        rfl
    · intro id hid
      refine (hqueue _ hid).imp_right ?_
      rintro ⟨id', heq, hact⟩
      cases heq
      exact ⟨rfl, hact⟩
    · intro id t ht
      rcases hqueue _ ht with ht | ⟨id', heq, -⟩
      · exact Or.inl ht
      · cases heq

/-- A step lists no handle as active that it does not subscribe. -/
theorem not_listsActive_step {d : DataService} {i : Input} {h : UInt32}
    (hs : ∀ c x, d.calls i = some c → c.1 = .subscribeRsrc x → x.ID ≠ h)
    (hno : ¬ ListsActive h d.sm) : ¬ ListsActive h (d.step i).sm := by
  intro hact
  rcases d.sm_step i with ⟨c, hc, hsm⟩ | ⟨-, hsm⟩
  · rw [hsm] at hact
    exact hno (listsActive_of_step (call_step d.sm c) (fun x hx => hs c x hc hx) hact)
  · rcases hsm with hsm | ⟨id, hsm⟩ <;> (rw [hsm] at hact; exact hno hact)

/-- What a step subscribes is no handle that is neither asked for nor to be retried. -/
theorem ne_of_calls {d : DataService} {i : Input} {h : UInt32}
    (hq : .requestSuplES h ∉ d.queue) (hs : i.subscribes h = false) :
    ∀ c x, d.calls i = some c → c.1 = .subscribeRsrc x → x.ID ≠ h := by
  intro c x hc hx hID
  cases i with
  | call c' env =>
    obtain rfl : (c', env) = c := by simpa [calls] using hc
    obtain rfl : c' = .subscribeRsrc x := hx
    rw [Input.subscribes, beq_eq_false_iff_ne] at hs
    exact hs hID
  | timer => cases hc
  | deliver env =>
    obtain ⟨id, queue, heq, rfl⟩ := calls_deliver hc
    obtain rfl := Call.subscribeRsrc.inj hx
    obtain rfl : id = h := hID
    refine hq ?_
    rw [heq]
    exact List.mem_cons_self

/-- **What is free stays free**, until the handle is asked for, and no data call is started
for it. -/
theorem Free.step {d : DataService} {i : Input} {h : UInt32} (hf : Free h d) (hd : Tidy d)
    (hi : i.isOf .dataService = true) (hs : i.subscribes h = false) :
    Free h (d.step i) ∧ startsFor h (d.step i).sm.log = startsFor h d.sm.log := by
  obtain ⟨-, hstarts, hretry, -⟩ := step_tidy hd hi
  have hactive : ¬ ListsActive h (d.step i).sm :=
    not_listsActive_step (ne_of_calls hf.noRetry hs) hf.inactive
  refine ⟨⟨hactive, ?_⟩, hstarts h hactive⟩
  intro hmem
  rcases hretry h hmem with hmem | ⟨-, hact⟩
  · exact hf.noRetry (mem_of_mem_rest hmem)
  · exact hf.inactive hact

/-! ### What can still ask for a regular ATL -/

/-- Nothing of a free handle is left that could ask for a regular ATL: no message does, and a
`DSSubscriber` that is listed as released will not be denied.  With `denials` the machine may be
denied its resource in any state. -/
structure Spent (denials : Bool) (h : UInt32) (d : DataService) : Prop extends Free h d where
  noFallback : ∀ agpsType, .requestATL h agpsType ∉ d.queue
  undenied : ListsDs h d.sm → denials = false ∧ d.sm.mStatePtr ≠ .pending

theorem spent_new (denials : Bool) (h : UInt32) : Spent denials h new where
  toFree := free_new h
  noFallback := nofun
  undenied := by
    rintro ⟨i, hi⟩
    cases hi

/-- A call lists no `DSSubscriber` of a handle that it does not subscribe. -/
theorem listsDs_of_step {env : Env} {m m' : AgpsStateMachine} {c : Call} {h : UInt32}
    (hstep : Step env m c m') (hx : ∀ x, c = .subscribeRsrc x → x.ID ≠ h)
    (hds : ListsDs h m') : ListsDs h m := by
  obtain ⟨i, hi⟩ := hds
  rcases hstep.mSubscribers_cases with hsub | ⟨x, hc, hadd⟩ | ⟨x, s, -, -, hdrop⟩
  · exact ⟨i, hsub.subset hi⟩
  · rw [hadd] at hi
    rcases mem_addNew hi with hi | hi
    · exact ⟨i, hi⟩
    · refine absurd ?_ (hx x hc)
      rw [← Subscriber.ID_clone, ← hi]
      rfl
  · rw [hdrop] at hi
    rcases mem_of_mem_dropped hi with hi | ⟨hs, hi⟩
    · exact ⟨i, hi⟩
    · cases s with
      | ds ID j =>
        obtain rfl : h = ID := (Subscriber.ds.inj hi).1
        exact ⟨j, hs⟩
      | _ => cases hi

/-- A machine that lists a handle as released does not come to Pending with it. -/
theorem ne_pending_of_step {env : Env} {m m' : AgpsStateMachine} {c : Call} {h : UInt32}
    (hm : Orderly m) (hstep : Step env m c m') (hx : ∀ x, c = .subscribeRsrc x → x.ID ≠ h)
    (hno : ¬ ListsActive h m) (hds : ListsDs h m') (hp : m.mStatePtr ≠ .pending) :
    m'.mStatePtr ≠ .pending := by
  have hactive : ∀ i, .ds h i ∈ m.mSubscribers → Subscriber.isActive (.ds h i) ≠ true := by
    intro i hi hact
    refine hno ⟨_, hi, rfl, ?_⟩
    simpa [Subscriber.isActive] using hact
  obtain ⟨i, hi⟩ := listsDs_of_step hstep hx hds
  cases hstep with
  | refused x hsingle hne => simpa using hp
  | requested x hs hfree => exact absurd (hm.released hs _ hi) (hactive i hi)
  | joined x hs hfree => exact hp
  | grantedAtOnce x hs hfree => simp [hs]
  | unknown x hx => exact hp
  | toldOnly x s hx hs => simpa using hp
  | left x s hx hs hne hact => exact hp
  | leftReleasing x s hx hs hnil => simp
  | lastLeft x s hx hs hact => by_cases hnil : dropped m.mSubscribers s = [] <;> simp [hnil]
  | ignored event hp' ha hr => exact hp
  | granted hs => simp
  | denied event hs he => simp
  | revoked hs => simp
  | closed event hs he hact => simp
  | reopened event hs he hact =>
    -- the request anew is made when those who were released have gone
    obtain ⟨j, hj⟩ := hds
    simp only [mSubscribers_sendRsrcRequest, mSubscribers_prune, mSubscribers_say,
      List.mem_filter] at hj
    exact absurd hj.2 (hactive j hj.1)
  | setAPN apn => exact hp
  | setBearer bearer => exact hp

/-- **What is spent stays spent**, until the handle is asked for; without `denials` as long as
the machine is not denied its resource. -/
theorem Spent.step {denials : Bool} {d : DataService} {i : Input} {h : UInt32}
    (hsp : Spent denials h d) (hd : Tidy d) (hi : i.isOf .dataService = true)
    (hs : i.subscribes h = false)
    (hden : ∀ env, i = .call (.onRsrcEvent .rsrcDenied) env → denials = true) :
    Spent denials h (d.step i) := by
  have hne := ne_of_calls hsp.noRetry hs
  obtain ⟨hfree, -⟩ := hsp.toFree.step hd hi hs
  obtain ⟨-, -, -, hfall⟩ := step_tidy hd hi
  refine ⟨hfree, ?_, ?_⟩
  · intro t ht
    rcases hfall h t ht with ht | hact | ⟨hds, c, hc, hdenies⟩
    · exact hsp.noFallback t (mem_of_mem_rest ht)
    · exact hfree.inactive hact
    · -- who is listed is denied neither in Pending nor directly
      obtain ⟨hfalse, hp⟩ := hsp.undenied hds
      obtain ⟨event, hevent, hpend | rfl⟩ := hdenies
      · exact hp hpend
      · cases i with
        | call c' env =>
          obtain rfl : (c', env) = c := by simpa [calls] using hc
          rw [hden env (congrArg (Input.call · env) hevent)] at hfalse
          cases hfalse
        | timer => cases hc
        | deliver env =>
          obtain ⟨id, queue, -, rfl⟩ := calls_deliver hc
          cases hevent
  · intro hds
    rcases d.sm_step i with ⟨c, hc, hsm⟩ | ⟨-, hsm⟩
    · rw [hsm] at hds ⊢
      have hstep := call_step d.sm c
      have hx := fun x hx => hne c x hc hx
      obtain ⟨hfalse, hp⟩ := hsp.undenied (listsDs_of_step hstep hx hds)
      exact ⟨hfalse, ne_pending_of_step hd.orderly hstep hx hsp.inactive hds hp⟩
    · rcases hsm with hsm | ⟨id, hsm⟩ <;> (rw [hsm] at hds ⊢; exact hsp.undenied hds)

/-! ### A retry that is left -/

/-- What a step posts comes last. -/
theorem exists_queue_step (d : DataService) (i : Input) :
    ∃ ps, (d.step i).queue = d.rest i ++ ps := by
  cases i with
  | call c env => exact ⟨_, rfl⟩
  | timer =>
    show ∃ ps, d.timer.queue = d.queue ++ ps
    unfold timer
    split
    · exact ⟨[], (List.append_nil _).symm⟩
    · exact ⟨_, rfl⟩
  | deliver env =>
    show ∃ ps, (d.deliver env).queue = d.queue.tail ++ ps
    cases hq : d.queue with
    | nil => exact ⟨[], by simp [deliver, hq]⟩
    | cons p queue =>
      cases p with
      | requestATL id t => exact ⟨[], by simp [deliver, hq]⟩
      | requestSuplES id => exact ⟨_, by simp only [deliver, hq]; rfl⟩

/-- A data call that closes leaves the machine in Released, or lets it leave Releasing for
Pending. -/
theorem mStatePtr_of_closed {env : Env} {m m' : AgpsStateMachine} (hm : Orderly m)
    (h : Step env m (.onRsrcEvent .rsrcReleased) m') :
    m'.mStatePtr = .released ∨ m.mStatePtr = .releasing ∧ m'.mStatePtr = .pending := by
  cases h with
  | ignored event hp ha hr =>
    refine Or.inl ?_
    cases hs : m.mStatePtr with
    | released => exact hs
    | pending =>
      have hds := hm.isDS
      rw [(hp hs).2.2 rfl] at hds
      cases hds
    | acquired => exact absurd rfl (ha hs)
    | releasing => exact absurd rfl (hr hs).1
  | denied event hs he => exact Or.inl rfl
  | revoked hs => exact Or.inl rfl
  | closed event hs he hact => exact Or.inl rfl
  | reopened event hs he hact => exact Or.inr ⟨hs, rfl⟩

/-- The data call closes. -/
def closed : Input := .call (.onRsrcEvent .rsrcReleased) .ok

/-- Once or twice closed, the machine is in Released. -/
theorem released_of_closed {d : DataService} (hd : Tidy d) :
    (exec step d [closed, closed]).sm.mStatePtr = .released := by
  have hd' := (step_tidy (i := closed) hd rfl).1
  have h₁ := mStatePtr_of_closed hd.orderly (call_step d.sm (.onRsrcEvent .rsrcReleased, .ok))
  have h₂ := mStatePtr_of_closed hd'.orderly
    (call_step (d.step closed).sm (.onRsrcEvent .rsrcReleased, .ok))
  show ((d.step closed).step closed).sm.mStatePtr = .released
  rcases h₂ with h₂ | ⟨h₂, -⟩
  · exact h₂
  · -- the first one does not leave it in Releasing
    rcases h₁ with h₁ | ⟨-, h₁⟩
    · cases h₁.symm.trans h₂
    · cases h₁.symm.trans h₂

/-- In Released, a retry for a handle that is not listed starts a data call for it. -/
theorem startsFor_retry {d : DataService} (hd : Tidy d) {h : UInt32} {queue : List Post}
    (hq : d.queue = .requestSuplES h :: queue) (hs : d.sm.mStatePtr = .released)
    (hno : ¬ ListsActive h d.sm) :
    startsFor h d.sm.log < startsFor h (d.step (.deliver .ok)).sm.log := by
  obtain ⟨members, hds⟩ := Option.isSome_iff_exists.mp hd.orderly.isDS
  have hc : d.calls (.deliver .ok) = some (.subscribeRsrc (.ds h false), .ok) := by
    simp [calls, hq]
  have hsm : (d.step (.deliver .ok)).sm = d.sm.call (.subscribeRsrc (.ds h false), .ok) := by
    rcases d.sm_step (.deliver .ok) with ⟨c, hc', hsm⟩ | ⟨hc', -⟩
    · rw [hc] at hc'
      obtain rfl := Option.some.inj hc'
      exact hsm
    · rw [hc] at hc'
      cases hc'
  -- nobody in Released is listed as released, so the handle is new
  have hnew : d.sm.mSubscribers.any (·.equals (.ds h false)) = false := by
    rw [List.any_eq_false]
    intro s hs' heq
    have hact := hd.orderly.released hs s hs'
    refine hno ⟨s, hs', (hd.orderly.equals_iff hs' rfl).mp heq, ?_⟩
    simpa [Subscriber.isActive] using hact
  have hconn : (d.sm.join (.ds h false)).connHandle = h := by
    unfold connHandle
    rw [mSubscribers_join, addNew_of_not_any hnew, List.find?_cons_of_pos (by rfl)]
    rfl
  have hlog := (sendRsrcRequest_start (m := d.sm.join (.ds h false)) hds .ok).2
  rw [hconn, log_join] at hlog
  rw [hsm]
  have hstep := call_step d.sm (.subscribeRsrc (.ds h false), .ok)
  generalize d.sm.call (.subscribeRsrc (.ds h false), .ok) = m' at hstep
  cases hstep with
  | refused x hsingle hne =>
    rw [hd.orderly.many] at hsingle
    cases hsingle
  | requested x hs' hfree =>
    show _ < startsFor h ((d.sm.join (.ds h false)).sendRsrcRequest .ok _).2.log
    rw [hlog, startsFor_append]
    refine Nat.lt_add_of_pos_right ?_
    unfold startsFor
    rw [List.countP_pos_iff]
    exact ⟨_, List.mem_cons_self, beq_self_eq_true h⟩
  | joined x hs' hfree => rcases hs' with hs' | hs' <;> (rw [hs] at hs'; cases hs')
  | grantedAtOnce x hs' hfree =>
    rw [hs] at hs'
    cases hs'

/-- **A retry that is posted for a handle can still start a data call for it**, when the
messages before it have been processed and the machine has come back to Released. -/
theorem exists_start {h : UInt32} :
    ∀ (before : List Post) {d : DataService} {after : List Post}, Tidy d →
      ¬ ListsActive h d.sm → d.queue = before ++ .requestSuplES h :: after →
        .requestSuplES h ∉ before →
          ∃ is : List Input, (∀ i ∈ is, i = .deliver .ok ∨ i = closed) ∧
            startsFor h d.sm.log < startsFor h (exec step d is).sm.log := by
  intro before
  induction before with
  | nil =>
    -- the retry is the next message: the data call is closed, and the retry processed
    intro d after hd hno hq _
    -- what a call that closes posts comes after the retry
    have hclosed : ∀ {d : DataService} {after : List Post}, Tidy d → ¬ ListsActive h d.sm →
        d.queue = .requestSuplES h :: after → Tidy (d.step closed) ∧
          ¬ ListsActive h (d.step closed).sm ∧
          (∃ after', (d.step closed).queue = .requestSuplES h :: after') ∧
          startsFor h (d.step closed).sm.log = startsFor h d.sm.log := by
      intro d after hd hno hq
      obtain ⟨hd', hstarts, -, -⟩ := step_tidy (i := closed) hd rfl
      have hno' : ¬ ListsActive h (d.step closed).sm := by
        refine not_listsActive_step ?_ hno
        intro c x hc hx
        obtain rfl := Option.some.inj hc
        cases hx
      obtain ⟨ps, hps⟩ := d.exists_queue_step closed
      have hrest : d.rest closed = d.queue := rfl
      exact ⟨hd', hno', ⟨after ++ ps, by rw [hps, hrest, hq, List.cons_append]⟩, hstarts h hno'⟩
    obtain ⟨hd₁, hno₁, ⟨after₁, hq₁⟩, hstarts₁⟩ := hclosed hd hno hq
    obtain ⟨hd₂, hno₂, ⟨after₂, hq₂⟩, hstarts₂⟩ := hclosed hd₁ hno₁ hq₁
    refine ⟨[closed, closed, .deliver .ok], ?_, ?_⟩
    · intro i hi
      simp only [List.mem_cons, List.not_mem_nil, or_false] at hi
      exact hi.elim Or.inr fun hi => hi.symm
    · have hlt := startsFor_retry hd₂ hq₂ (released_of_closed hd) hno₂
      rw [hstarts₂, hstarts₁] at hlt
      exact hlt
  | cons p before ih =>
    -- the message before it is processed first, and is not for this handle
    intro d after hd hno hq hp
    rw [List.mem_cons, not_or] at hp
    obtain ⟨hd', hstarts, -, -⟩ := step_tidy (i := .deliver .ok) hd rfl
    have hno' : ¬ ListsActive h (d.step (.deliver .ok)).sm := by
      refine not_listsActive_step ?_ hno
      intro c x hc hx hID
      obtain ⟨id, queue, hq', rfl⟩ := calls_deliver hc
      obtain rfl := Call.subscribeRsrc.inj hx
      obtain rfl : id = h := hID
      rw [hq] at hq'
      exact hp.1 (List.cons.inj hq').1.symm
    obtain ⟨ps, hps⟩ := d.exists_queue_step (.deliver .ok)
    have hq' : (d.step (.deliver .ok)).queue = before ++ .requestSuplES h :: (after ++ ps) := by
      rw [hps, rest, hq]
      simp
    obtain ⟨is, his, hlt⟩ := ih hd' hno' hq' hp.2
    refine ⟨.deliver .ok :: is, ?_, ?_⟩
    · intro i hi
      rcases List.mem_cons.mp hi with rfl | hi
      · exact Or.inl rfl
      · exact his i hi
    · rw [hstarts h hno'] at hlt
      exact hlt

end DataService

end Agps
end Nx507j
