import Nx507j.Agps.DataService

/-!
# What a fallback leaves behind

A `DSStateMachine` whose start fails for good asks for a regular ATL in place of
the handle.  Whether anything of the handle stays behind depends on where the
start failed: a denial in Pending empties the list, while a request that falls
back from within `sendRsrcRequest` leaves the handle listed.

## Main definitions

* `Watch` — a run, with the handles that have fallen back since the modem last
  requested them.
* `Watch.LeavesNothing` — no handle waits for a retry that will not come, and none
  that has fallen back is listed or granted.
* `Watch.Settles` — a retry is not for a handle that has fallen back, the start that a
  step makes does not fall back, and one that fails in Released has another attempt
  coming.

## Main results

* `Watch.leavesNothing_iff` — a run leaves nothing behind exactly when all its steps
  settle.
-/

namespace Nx507j
namespace Agps

open AgpsStateMachine DataService Run

/-! ### Fallbacks and grants in the log -/

/-- The handles in whose place entries ask for a regular ATL. -/
def fallbacks (es : List Entry) : List UInt32 :=
  es.filterMap fun e =>
    match e.call with
    | some (.requestATL connHandle _) => some connHandle
    | _ => none

/-- The handles that entries grant the resource. -/
def grants (es : List Entry) : List UInt32 :=
  es.filterMap fun e =>
    match e with
    | .notified who .rsrcGranted _ => some who.ID
    | _ => none

theorem fallbacks_append (es fs : List Entry) :
    fallbacks (es ++ fs) = fallbacks es ++ fallbacks fs := List.filterMap_append

theorem grants_append (es fs : List Entry) : grants (es ++ fs) = grants es ++ grants fs :=
  List.filterMap_append

/-- Only a `DSSubscriber` that is denied falls back. -/
theorem mem_fallbacks_notified {m : AgpsStateMachine} {st : AgpsRsrcStatus} {l : List Subscriber}
    {id : UInt32} (h : id ∈ fallbacks (l.map fun s => .notified s st (m.notifyCall st s))) :
    st = .rsrcDenied ∧ ∃ s ∈ l, s.ID = id := by
  rw [fallbacks, List.filterMap_map, List.mem_filterMap] at h
  obtain ⟨s, hs, hid⟩ := h
  cases s with
  | bit ID a => cases st <;> simp [Entry.call, notifyCall, ifResult] at hid
  | atl ID c => cases st <;> simp [Entry.call, notifyCall] at hid
  | wifi sender ssid password i =>
    cases st <;> simp [Entry.call, notifyCall, ifResult] at hid
  | ds ID i =>
    cases st <;> simp [Entry.call, notifyCall, informCall] at hid
    exact ⟨rfl, _, hs, hid⟩

theorem mem_grants_notified {st : AgpsRsrcStatus} {l : List Subscriber}
    {f : Subscriber → Option AdapterCall} {id : UInt32}
    (h : id ∈ grants (l.map fun s => .notified s st (f s))) :
    st = .rsrcGranted ∧ ∃ s ∈ l, s.ID = id := by
  rw [grants, List.filterMap_map, List.mem_filterMap] at h
  obtain ⟨s, hs, hid⟩ := h
  cases st <;> simp at hid
  exact ⟨rfl, s, hs, hid⟩

/-- Dropping a subscriber makes nobody fall back, and grants nobody. -/
theorem dropEntries_quiet (m : AgpsStateMachine) (s : Subscriber) :
    fallbacks (m.dropEntries s) = [] ∧ grants (m.dropEntries s) = [] := by
  constructor
  · refine List.filterMap_eq_nil_iff.mpr (forall_mem_dropEntries m s (fun t => ?_) fun _ => rfl)
    cases t <;> rfl
  · exact List.filterMap_eq_nil_iff.mpr (forall_mem_dropEntries m s (fun _ => rfl) fun _ => rfl)

/-- A start that fails falls back for the handle it was made for, and grants nobody. -/
theorem start_entries (members : DSMembers) (env : Env) (connHandle : UInt32) (ret : Int32) :
    fallbacks (.requestDataCall .gpsRequestAgpsDataConn connHandle ret ::
        members.startEntries env connHandle) =
        (if members.fallsBack env then [connHandle] else []) ∧
      grants (.requestDataCall .gpsRequestAgpsDataConn connHandle ret ::
        members.startEntries env connHandle) = [] ∧
      started (.requestDataCall .gpsRequestAgpsDataConn connHandle ret ::
        members.startEntries env connHandle) = (if members.startsTimer env then 1 else 0) ∧
      ∀ id, .requestSuplES id ∉ posted (.requestDataCall .gpsRequestAgpsDataConn connHandle ret ::
        members.startEntries env connHandle) := by
  have hbusy : locApiAdapterErrEngineBusy ≠ locApiAdapterErrUnsupported ∧
      locApiAdapterErrEngineBusy ≠ -1 := by decide
  unfold DSMembers.startEntries DSMembers.startsTimer
  cases hf : members.fallsBack env with
  | true =>
    refine ⟨rfl, rfl, ?_, by simp [posted, Entry.call, AdapterCall.post]⟩
    -- a start that falls back is not tried again
    have hno : (env.openAndStartDataCall == locApiAdapterErrEngineBusy && !members.exhausted &&
        env.timerStarts) = false := by
      by_cases hb : env.openAndStartDataCall = locApiAdapterErrEngineBusy
      · simp [DSMembers.fallsBack, hb, hbusy] at hf
        simp [hf]
      · simp [hb]
    rw [hno]
    rfl
  | false =>
    by_cases hb : env.openAndStartDataCall = locApiAdapterErrEngineBusy
    · have he : members.exhausted = false := by
        cases he : members.exhausted with
        | true => simp [DSMembers.fallsBack, hb, he] at hf
        | false => rfl
      rw [if_neg Bool.false_ne_true, if_pos hb]
      refine ⟨rfl, rfl, ?_, by simp [posted, Entry.call]⟩
      cases ht : env.timerStarts <;> simp [hb, he, started]
    · rw [if_neg Bool.false_ne_true, if_neg hb]
      refine ⟨rfl, rfl, ?_, by simp [posted, Entry.call]⟩
      simp [hb, started]

/-! ### The count of retries -/

/-- Telling a denial to a `DSSubscriber` starts the count of retries anew. -/
theorem ds_tellAll (st : AgpsRsrcStatus) (l : List Subscriber) (m : AgpsStateMachine) :
    (m.tellAll st l).ds =
      if st = .rsrcDenied ∧ l.any (·.isDs) = true then m.ds.map fun _ => ⟨0⟩ else m.ds := by
  induction l generalizing m with
  | nil => simp [tellAll]
  | cons s l ih =>
    rw [tellAll, List.foldl_cons, ← tellAll, ih]
    have hs : (m.tell st s).ds =
        if st = .rsrcDenied ∧ s.isDs = true then m.ds.map fun _ => ⟨0⟩ else m.ds := by
      cases s <;> cases st <;>
        simp [AgpsStateMachine.tell, resetRetries, AgpsStateMachine.say, Subscriber.isDs]
    rw [hs, List.any_cons]
    by_cases hst : st = .rsrcDenied
    · cases s.isDs <;> cases l.any (·.isDs) <;> cases m.ds <;> simp [hst]
    · simp [hst]

/-- The members a `DSStateMachine` has when it ends Releasing on `event`: a denial told to a
released handle starts the count of retries anew. -/
def AgpsStateMachine.membersAt (m : AgpsStateMachine) (event : AgpsRsrcStatus) :
    Option DSMembers :=
  if event = .rsrcDenied ∧ (m.mSubscribers.filter (!·.isActive)).any (·.isDs) = true then
    m.ds.map fun _ => ⟨0⟩
  else m.ds

theorem ds_prune (m : AgpsStateMachine) (event : AgpsRsrcStatus) :
    ((m.say (.rsrcEvent event)).prune event).ds = m.membersAt event :=
  ds_tellAll event _ _

/-! ### Watching a run -/

/-- A run, with the handles that have fallen back and not been requested by the modem
since, and whether one of these was granted the resource. -/
structure Watch where
  d : DataService
  fellBack : List UInt32
  staleGrant : Bool
  deriving DecidableEq, Repr

namespace Watch

/-- The start of a run. -/
def new : Watch := ⟨.new, [], false⟩

/-- The handles that have fallen back, less the one that the modem requests.  A retry,
which the machine asks of itself, is no such request. -/
def gone (w : Watch) : Input → List UInt32
  | .call (.subscribeRsrc x) _ => w.fellBack.filter (· ≠ x.ID)
  | _ => w.fellBack

/-- One step. -/
def step (w : Watch) (i : Input) : Watch :=
  let d := w.d.step i
  let es := w.d.news d
  ⟨d, w.gone i ++ fallbacks es, w.staleGrant || (grants es).any ((w.gone i).contains ·)⟩

/-- A retry has been posted and not been processed. -/
def RetryPosted (queue : List Post) : Prop := ∃ id, .requestSuplES id ∈ queue

/-- Nothing is left behind: in Released no handle is listed without a retry to come, and no
handle that has fallen back is listed, or has been granted the resource. -/
structure LeavesNothing (w : Watch) : Prop where
  empty : w.d.sm.mStatePtr = .released → w.d.timers = 0 → ¬ RetryPosted w.d.queue →
    w.d.sm.mSubscribers = []
  unlisted : ∀ s ∈ w.d.sm.mSubscribers, s.ID ∉ w.fellBack
  ungranted : w.staleGrant = false

/-- The start that a call makes does not fall back; and one that is made in Released and
fails has a timer or a message that tries again. -/
def SettlesCall (d : DataService) (rest : List Post) (env : Env) : Call → Prop
  | .subscribeRsrc _ => ∀ members, d.sm.ds = some members → d.sm.mStatePtr = .released →
      members.fallsBack env = false ∧
        (env.openAndStartDataCall = 0 ∨ members.startsTimer env = true ∨ d.timers ≠ 0 ∨
          RetryPosted rest)
  | .onRsrcEvent event => ∀ members, d.sm.membersAt event = some members →
      d.sm.mStatePtr = .releasing → event = .rsrcReleased ∨ event = .rsrcDenied →
        d.sm.mSubscribers.any (·.isActive) = true → members.fallsBack env = false
  | _ => True

/-- The call of a step, if it makes one, settles, and does not subscribe a handle that has
fallen back. -/
def Settles (w : Watch) (i : Input) : Prop :=
  ∀ c, w.d.calls i = some c →
    SettlesCall w.d (w.d.rest i) c.2 c.1 ∧ ∀ x, c.1 = .subscribeRsrc x → x.ID ∉ w.gone i

theorem gone_subset (w : Watch) (i : Input) : ∀ id ∈ w.gone i, id ∈ w.fellBack := by
  intro id hid
  unfold gone at hid
  split at hid
  · exact (List.mem_filter.mp hid).1
  · exact hid

/-- The run after a call that made the machine `m'` and wrote `es`, when `g` has fallen back
and `rest` is to be processed. -/
def after (w : Watch) (g : List UInt32) (rest : List Post) (m' : AgpsStateMachine)
    (es : List Entry) : Watch :=
  ⟨⟨m', w.d.timers + started es, rest ++ posted es⟩, g ++ fallbacks es,
    w.staleGrant || (grants es).any (g.contains ·)⟩

/-- What a call makes of a run, by the entries it adds to the log. -/
theorem step_call {w : Watch} {i : Input} {c : Call × Env} {es : List Entry}
    (hc : w.d.calls i = some c) (hes : (w.d.sm.call c).log = w.d.sm.log ++ es) :
    w.step i = w.after (w.gone i) (w.d.rest i) (w.d.sm.call c) es := by
  have hstep := step_of_call hc hes
  have hnews : w.d.news (w.d.step i) = es := by
    rw [hstep]
    simp [news, hes]
  simp only [step, hnews]
  rw [hstep]
  rfl

/-- What a step does that makes no call. -/
theorem step_of_no_call {w : Watch} {i : Input} (hc : w.d.calls i = none) :
    w.step i = ⟨w.d.step i, w.gone i, w.staleGrant⟩ := by
  have hquiet : fallbacks (w.d.news (w.d.step i)) = [] ∧ grants (w.d.news (w.d.step i)) = [] := by
    rcases w.d.sm_step i with ⟨c, hc', -⟩ | ⟨-, hs | ⟨id, hs⟩⟩
    · rw [hc] at hc'
      cases hc'
    · simp [news, hs, fallbacks, grants]
    · simp [news, hs, fallbacks, grants, Entry.call]
  simp [step, hquiet]

/-! ### One call -/

section Call

variable {w : Watch} {g : List UInt32} {rest : List Post} {m' : AgpsStateMachine} {env : Env}
  {c : Call}

/-- A handle that is listed has not fallen back. -/
theorem LeavesNothing.not_gone (hw : w.LeavesNothing) (hg : ∀ id ∈ g, id ∈ w.fellBack)
    {s : Subscriber} (hs : s ∈ w.d.sm.mSubscribers) : s.ID ∉ g := fun h =>
  hw.unlisted s hs (hg _ h)

theorem LeavesNothing.not_gone_addNew (hw : w.LeavesNothing) (hg : ∀ id ∈ g, id ∈ w.fellBack)
    {x s : Subscriber} (hx : x.ID ∉ g) (hs : s ∈ addNew w.d.sm.mSubscribers x) : s.ID ∉ g := by
  rcases mem_addNew hs with hs | rfl
  · exact hw.not_gone hg hs
  · rw [Subscriber.ID_clone]
    exact hx

theorem LeavesNothing.not_gone_dropped (hw : w.LeavesNothing) (hg : ∀ id ∈ g, id ∈ w.fellBack)
    {s t : Subscriber} (ht : t ∈ dropped w.d.sm.mSubscribers s) : t.ID ∉ g := by
  rcases mem_of_mem_dropped ht with ht | ⟨hs, rfl⟩
  · exact hw.not_gone hg ht
  · rw [Subscriber.ID_setInactive]
    exact hw.not_gone hg hs

/-- What a call leaves behind that makes no listed handle fall back and grants none that
did. -/
theorem LeavesNothing.after {es : List Entry} (hw : w.LeavesNothing)
    (hempty : m'.mStatePtr = .released → w.d.timers = 0 → ¬ RetryPosted rest →
      m'.mSubscribers = [])
    (hsub : ∀ s ∈ m'.mSubscribers, s.ID ∉ g)
    (hfall : ∀ s ∈ m'.mSubscribers, s.ID ∉ fallbacks es)
    (hgrant : ∀ id ∈ grants es, id ∉ g) :
    (w.after g rest m' es).LeavesNothing where
  empty := by
    intro hs ht hr
    refine hempty hs (Nat.eq_zero_of_add_eq_zero_right ht) ?_
    rintro ⟨id, hid⟩
    exact hr ⟨id, List.mem_append_left _ hid⟩
  unlisted := by
    intro s hs hmem
    rcases List.mem_append.mp hmem with h | h
    · exact hsub s hs h
    · exact hfall s hs h
  ungranted := by
    show (w.staleGrant || _) = false
    rw [hw.ungranted, Bool.false_or, List.any_eq_false]
    intro id hid
    simpa using hgrant id hid

/-- The handles that a round of notifications on an event makes fall back, or grants. -/
theorem mem_fallbacks_eventEntries {m : AgpsStateMachine} {event st : AgpsRsrcStatus}
    {l : List Subscriber} {id : UInt32} (h : id ∈ fallbacks (m.eventEntries event st l)) :
    st = .rsrcDenied ∧ ∃ s ∈ l, s.ID = id := mem_fallbacks_notified h

theorem mem_grants_eventEntries {m : AgpsStateMachine} {event st : AgpsRsrcStatus}
    {l : List Subscriber} {id : UInt32} (h : id ∈ grants (m.eventEntries event st l)) :
    st = .rsrcGranted ∧ ∃ s ∈ l, s.ID = id := mem_grants_notified h

/-- What a call leaves behind that changes neither the state nor the list. -/
theorem LeavesNothing.same {es : List Entry} (hw : w.LeavesNothing)
    (hg : ∀ id ∈ g, id ∈ w.fellBack) (hrest : rest = w.d.queue)
    (hs : m'.mStatePtr = w.d.sm.mStatePtr) (hl : m'.mSubscribers = w.d.sm.mSubscribers)
    (hfall : ∀ id, id ∉ fallbacks es) (hgrant : ∀ id, id ∉ grants es) :
    (w.after g rest m' es).LeavesNothing := by
  refine hw.after ?_ ?_ (fun s _ => hfall s.ID) fun id hid => absurd hid (hgrant id)
  · intro hrel ht hr
    rw [hl]
    rw [hrest] at hr
    exact hw.empty (hs.symm.trans hrel) ht hr
  · intro s hmem
    exact hw.not_gone hg (hl ▸ hmem)

/-- A subscription outside Released, of a handle that has not fallen back. -/
theorem leavesNothing_subscribe {x : Subscriber} (hd : Orderly w.d.sm) (hw : w.LeavesNothing)
    (hg : ∀ id ∈ g, id ∈ w.fellBack) (h : Step env w.d.sm (.subscribeRsrc x) m')
    (hx : x.ID ∉ g) (hrel : w.d.sm.mStatePtr ≠ .released) :
    ∃ es, m'.log = w.d.sm.log ++ es ∧ (w.after g rest m' es).LeavesNothing := by
  cases h with
  | refused x hsingle hne =>
    rw [hd.many] at hsingle
    cases hsingle
  | requested x hs hfree => exact absurd hs hrel
  | joined x hs hfree =>
    -- outside Released nothing needs to be empty
    refine ⟨[], by simp, hw.after ?_ ?_ (fun _ _ => nofun) nofun⟩
    · intro hs'
      exact absurd hs' hrel
    · intro s hs'
      exact hw.not_gone_addNew hg hx hs'
  | grantedAtOnce x hs hfree =>
    refine ⟨[_], by rw [log_join, log_tell], hw.after ?_ ?_ ?_ ?_⟩
    · intro hs'
      simp [hs] at hs'
    · intro s hs'
      rw [mSubscribers_join, mSubscribers_tell] at hs'
      exact hw.not_gone_addNew hg hx hs'
    · intro s _ hmem
      cases (mem_fallbacks_notified (l := [x]) hmem).1
    · intro id hid
      obtain ⟨-, s, hs', rfl⟩ := mem_grants_notified (l := [x]) (f := fun s =>
        w.d.sm.notifyCall .rsrcGranted s) hid
      rw [List.mem_singleton.mp hs']
      exact hx

theorem leavesNothing_unsubscribe {x : Subscriber} (hd : Orderly w.d.sm) (hw : w.LeavesNothing)
    (hg : ∀ id ∈ g, id ∈ w.fellBack) (h : Step env w.d.sm (.unsubscribeRsrc x) m')
    (hrest : rest = w.d.queue) :
    ∃ es, m'.log = w.d.sm.log ++ es ∧ (w.after g rest m' es).LeavesNothing := by
  cases h with
  | unknown x hx => exact ⟨[], by simp, hw.same hg hrest rfl rfl (fun _ => nofun) fun _ => nofun⟩
  | toldOnly x s hx hs =>
    refine ⟨[_], log_tell _ _ _, hw.same hg hrest (by simp) (by simp) ?_ ?_⟩
    · intro id hid
      cases (mem_fallbacks_notified (l := [s]) hid).1
    · intro id hid
      cases (mem_grants_notified (l := [s]) (f := fun s =>
        w.d.sm.notifyCall .rsrcUnsubscribe s) hid).1
  | left x s hx hs hne hact =>
    obtain ⟨hf, hgr⟩ := dropEntries_quiet w.d.sm s
    refine ⟨_, log_leave _ _, hw.after (fun h => absurd h hs) ?_ ?_ ?_⟩
    · intro t ht
      exact hw.not_gone_dropped hg ht
    · simp [hf]
    · simp [hgr]
  | leftReleasing x s hx hs hnil =>
    obtain ⟨-, hgr⟩ := dropEntries_quiet w.d.sm s
    refine ⟨_, log_leave _ _, hw.after (fun _ _ _ => hnil) ?_ ?_ ?_⟩
    · simp [hnil]
    · simp [hnil]
    · simp [hgr]
  | lastLeft x s hx hs hact =>
    obtain ⟨members, hm⟩ := Option.isSome_iff_exists.mp hd.isDS
    obtain ⟨hf, hgr⟩ := dropEntries_quiet w.d.sm s
    have hlog := sendRsrcRequest_stop (m := w.d.sm.leave s) hm env
    rw [log_leave, List.append_assoc] at hlog
    refine ⟨_, hlog, hw.after ?_ ?_ ?_ ?_⟩
    · intro hs' _ _
      by_cases hnil : dropped w.d.sm.mSubscribers s = []
      · simp [hnil]
      · simp [hnil] at hs'
    · intro t ht
      rw [mSubscribers_sendRsrcRequest, mSubscribers_leave] at ht
      exact hw.not_gone_dropped hg ht
    · rw [fallbacks_append, hf]
      exact fun _ _ => nofun
    · rw [grants_append, hgr]
      exact nofun

/-- An event after which no connection is started again. -/
theorem leavesNothing_event {event : AgpsRsrcStatus} (hw : w.LeavesNothing)
    (hg : ∀ id ∈ g, id ∈ w.fellBack) (h : Step env w.d.sm (.onRsrcEvent event) m')
    (hrest : rest = w.d.queue)
    (hno : w.d.sm.mStatePtr = .releasing → event = .rsrcReleased ∨ event = .rsrcDenied →
      w.d.sm.mSubscribers.any (·.isActive) = false) :
    ∃ es, m'.log = w.d.sm.log ++ es ∧ (w.after g rest m' es).LeavesNothing := by
  cases h with
  | ignored event hp ha hr =>
    exact ⟨[_], rfl, hw.same hg hrest rfl rfl (fun _ => nofun) fun _ => nofun⟩
  | granted hs =>
    -- only listed handles are granted, and none of them has fallen back
    refine ⟨_, log_event_tellAll _ _ _ _, hw.after nofun ?_ ?_ ?_⟩
    · intro s hs'
      rw [mSubscribers_tellAll] at hs'
      exact hw.not_gone hg hs'
    · intro s _ hmem
      cases (mem_fallbacks_eventEntries hmem).1
    · intro id hid
      obtain ⟨-, s, hs', rfl⟩ := mem_grants_eventEntries hid
      exact hw.not_gone hg (List.mem_filter.mp hs').1
  | denied event hs he =>
    -- those who fall back by a denial are taken out of the list with it
    refine ⟨_, log_event_clear _ _ _, hw.after (fun _ _ _ => rfl) nofun nofun ?_⟩
    intro id hid
    cases (mem_grants_eventEntries hid).1
  | revoked hs =>
    refine ⟨_, log_event_clear _ _ _, hw.after (fun _ _ _ => rfl) nofun nofun ?_⟩
    intro id hid
    cases (mem_grants_eventEntries hid).1
  | closed event hs he hact =>
    -- only handles that have been released are left to be told
    have hnil : w.d.sm.mSubscribers.filter (·.isActive) = [] := by
      rw [List.filter_eq_nil_iff]
      simpa using hact
    have hnone : ∀ s, s ∉ ((w.d.sm.say (.rsrcEvent event)).prune event).mSubscribers := by
      intro s
      simp [hnil]
    refine ⟨_, log_event_prune _ _ _, hw.after (fun _ _ _ => hnil) ?_ ?_ ?_⟩
    · exact fun s hs' => absurd hs' (hnone s)
    · exact fun s hs' => absurd hs' (hnone s)
    · intro id hid
      obtain ⟨rfl, -⟩ := mem_grants_eventEntries hid
      rcases he with he | he <;> cases he
  | reopened event hs he hact =>
    rw [hno hs he] at hact
    cases hact

/-- A call that makes no start, and subscribes nobody that has fallen back, leaves nothing
behind. -/
theorem leavesNothing_of_no_start (hd : Orderly w.d.sm) (hw : w.LeavesNothing)
    (hg : ∀ id ∈ g, id ∈ w.fellBack) (h : Step env w.d.sm c m')
    (hx : ∀ x, c = .subscribeRsrc x → x.ID ∉ g ∧ w.d.sm.mStatePtr ≠ .released)
    (hrest : (∀ x, c ≠ .subscribeRsrc x) → rest = w.d.queue)
    (hno : ∀ event, c = .onRsrcEvent event → w.d.sm.mStatePtr = .releasing →
      event = .rsrcReleased ∨ event = .rsrcDenied →
        w.d.sm.mSubscribers.any (·.isActive) = false) :
    ∃ es, m'.log = w.d.sm.log ++ es ∧ (w.after g rest m' es).LeavesNothing := by
  cases c with
  | subscribeRsrc x => exact leavesNothing_subscribe hd hw hg h (hx x rfl).1 (hx x rfl).2
  | unsubscribeRsrc x => exact leavesNothing_unsubscribe hd hw hg h (hrest nofun)
  | onRsrcEvent event => exact leavesNothing_event hw hg h (hrest nofun) (hno event rfl)
  | setAPN apn =>
    cases h
    exact ⟨[], by simp, hw.same hg (hrest nofun) rfl rfl (fun _ => nofun) fun _ => nofun⟩
  | setBearer bearer =>
    cases h
    exact ⟨[], by simp, hw.same hg (hrest nofun) rfl rfl (fun _ => nofun) fun _ => nofun⟩

/-! ### One start -/

/-- The handle of a start request is that of an active subscriber, if there is one. -/
theorem exists_connHandle {m : AgpsStateMachine} (h : m.mSubscribers.any (·.isActive) = true) :
    ∃ s ∈ m.mSubscribers, s.ID = m.connHandle := by
  obtain ⟨s, hs, hID, -⟩ := listsActive_connHandle h
  exact ⟨s, hs, hID⟩

/-- What a call leaves behind that makes a start on behalf of a listed handle, after it has
written `pre`. -/
theorem leavesNothing_start {pre : List Entry} {members : DSMembers} {connHandle : UInt32}
    {ret : Int32} (hw : w.LeavesNothing) (hconn : ∃ s ∈ m'.mSubscribers, s.ID = connHandle)
    (hsub : ∀ s ∈ m'.mSubscribers, s.ID ∉ g)
    (hfall : ∀ s ∈ m'.mSubscribers, s.ID ∉ fallbacks pre) (hgrant : grants pre = [])
    (hpre : m'.mStatePtr = .released → pre = []) :
    (w.after g rest m' (pre ++ .requestDataCall .gpsRequestAgpsDataConn connHandle ret ::
        members.startEntries env connHandle)).LeavesNothing ↔
      members.fallsBack env = false ∧ (m'.mStatePtr = .released →
        members.startsTimer env = true ∨ w.d.timers ≠ 0 ∨ RetryPosted rest) := by
  obtain ⟨hf, hgr, ht, hp⟩ := start_entries members env connHandle ret
  obtain ⟨s, hs, rfl⟩ := hconn
  constructor
  · intro h
    constructor
    · -- a handle that falls back now would stay listed
      rw [← Bool.not_eq_true]
      intro hfb
      refine h.unlisted s hs (List.mem_append_right _ ?_)
      rw [fallbacks_append, hf, hfb]
      simp
    · intro hrel
      by_contra hno
      -- without a timer or a retry to come, the handle is left in Released
      rw [not_or, not_or, not_not] at hno
      obtain ⟨hno, ht0, hr⟩ := hno
      obtain rfl := hpre hrel
      refine List.ne_nil_of_mem hs (h.empty hrel ?_ ?_)
      · show w.d.timers + started _ = 0
        rw [List.nil_append, ht, ht0, if_neg hno]
      · rintro ⟨id, hid⟩
        rcases List.mem_append.mp hid with hid | hid
        · exact hr ⟨id, hid⟩
        · exact hp id hid
  · rintro ⟨hfb, hretry⟩
    rw [hfb, if_neg Bool.false_ne_true] at hf
    constructor
    · intro hrel ht0 hr
      obtain rfl := hpre hrel
      change w.d.timers + started _ = 0 at ht0
      rw [List.nil_append, ht] at ht0
      exfalso
      rcases hretry hrel with h | h | ⟨id, hid⟩
      · rw [if_pos h] at ht0
        omega
      · omega
      · exact hr ⟨id, List.mem_append_left _ hid⟩
    · intro t ht' hmem
      rcases List.mem_append.mp hmem with hmem | hmem
      · exact hsub t ht' hmem
      · rw [fallbacks_append, hf, List.append_nil] at hmem
        exact hfall t ht' hmem
    · show (w.staleGrant || _) = false
      rw [hw.ungranted, grants_append, hgrant, hgr]
      rfl

/-- A subscription in Released makes a start. -/
theorem leavesNothing_requested {x : Subscriber} (hd : Orderly w.d.sm) (hw : w.LeavesNothing)
    (hg : ∀ id ∈ g, id ∈ w.fellBack) (hx : x.ID ∉ g) (hs : w.d.sm.mStatePtr = .released)
    (h : Step env w.d.sm (.subscribeRsrc x) m') :
    ∃ es, m'.log = w.d.sm.log ++ es ∧
      ((w.after g rest m' es).LeavesNothing ↔ SettlesCall w.d rest env (.subscribeRsrc x)) := by
  obtain ⟨members, hm⟩ := Option.isSome_iff_exists.mp hd.isDS
  cases h with
  | refused x hsingle hne =>
    rw [hd.many] at hsingle
    cases hsingle
  | joined x hs' hfree => rcases hs' with hs' | hs' <;> (rw [hs] at hs'; cases hs')
  | grantedAtOnce x hs' hfree =>
    rw [hs] at hs'
    cases hs'
  | requested x _ hfree =>
    obtain ⟨hret, hlog⟩ := sendRsrcRequest_start (m := w.d.sm.join x) hm env
    -- all who are listed in Released are active, and so is the new one
    have hact : (w.d.sm.join x).mSubscribers.any (·.isActive) = true := by
      obtain ⟨s, hs'⟩ := List.exists_mem_of_ne_nil _ (addNew_ne_nil w.d.sm.mSubscribers x)
      exact List.any_eq_true.mpr ⟨s, hs', isActive_addNew (hd.released hs) s hs'⟩
    refine ⟨_, hlog, ?_⟩
    rw [← List.nil_append (Entry.requestDataCall _ _ _ :: _), leavesNothing_start hw]
    · constructor
      · rintro ⟨hfb, hretry⟩ members' hm' _
        obtain rfl : members = members' := Option.some.inj (hm.symm.trans hm')
        refine ⟨hfb, ?_⟩
        by_cases h0 : env.openAndStartDataCall = 0
        · exact Or.inl h0
        · refine Or.inr (hretry ?_)
          rw [← hret] at h0
          exact if_neg h0
      · intro hset
        obtain ⟨hfb, hretry⟩ := hset members hm hs
        refine ⟨hfb, fun hrel => hretry.resolve_left fun h0 => ?_⟩
        rw [← hret] at h0
        simp [h0] at hrel
    · rw [mSubscribers_sendRsrcRequest]
      exact exists_connHandle hact
    · intro s hs'
      rw [mSubscribers_sendRsrcRequest] at hs'
      exact hw.not_gone_addNew hg hx hs'
    · exact fun _ _ => nofun
    · rfl
    · exact fun _ => rfl

/-- The end of Releasing makes a start for the subscribers that are active. -/
theorem leavesNothing_reopened {event : AgpsRsrcStatus} (hd : Orderly w.d.sm)
    (hw : w.LeavesNothing) (hg : ∀ id ∈ g, id ∈ w.fellBack)
    (hs : w.d.sm.mStatePtr = .releasing) (he : event = .rsrcReleased ∨ event = .rsrcDenied)
    (hact : w.d.sm.mSubscribers.any (·.isActive) = true)
    (h : Step env w.d.sm (.onRsrcEvent event) m') :
    ∃ es, m'.log = w.d.sm.log ++ es ∧
      ((w.after g rest m' es).LeavesNothing ↔ SettlesCall w.d rest env (.onRsrcEvent event)) := by
  have hno : ∀ {s : AgpsState}, s ≠ .releasing → w.d.sm.mStatePtr ≠ s := by
    intro s hne h'
    exact hne (h'.symm.trans hs)
  cases h with
  | ignored event hp ha hr => exact absurd he (by simp [hr hs])
  | granted hs' => exact absurd hs' (hno nofun)
  | denied event hs' he' => exact absurd hs' (hno nofun)
  | revoked hs' => exact absurd hs' (hno nofun)
  | closed event hs' he' hact' =>
    rw [hact] at hact'
    cases hact'
  | reopened event _ _ _ =>
    obtain ⟨members, hm⟩ := exists_ds_prune_say hd.isDS (.rsrcEvent event) event
    have hlog := (sendRsrcRequest_start hm env).2
    rw [log_event_prune, List.append_assoc] at hlog
    refine ⟨_, hlog, ?_⟩
    rw [leavesNothing_start hw]
    · rw [ds_prune] at hm
      constructor
      · rintro ⟨hfb, -⟩ members' hm' _ _ _
        obtain rfl : members = members' := Option.some.inj (hm.symm.trans hm')
        exact hfb
      · intro hset
        exact ⟨hset members hm hs he hact, nofun⟩
    · rw [mSubscribers_sendRsrcRequest]
      refine exists_connHandle ?_
      simpa using hact
    · intro s hs'
      rw [mSubscribers_sendRsrcRequest] at hs'
      exact hw.not_gone hg (List.mem_filter.mp hs').1
    · -- those who are told have been released, and no active one has their handle
      intro s hs' hmem
      rw [mSubscribers_sendRsrcRequest] at hs'
      obtain ⟨hs', ha⟩ := List.mem_filter.mp hs'
      obtain ⟨-, t, ht, hID⟩ := mem_fallbacks_eventEntries hmem
      obtain ⟨ht, hta⟩ := List.mem_filter.mp ht
      rw [hd.eq_of_ID ht hs' hID, ha] at hta
      cases hta
    · rw [List.eq_nil_iff_forall_not_mem]
      intro id hid
      obtain ⟨rfl, -⟩ := mem_grants_eventEntries hid
      rcases he with he | he <;> cases he
    · exact nofun

/-- A subscription lists the handle. -/
theorem exists_subscribed {x : Subscriber} (hd : Orderly w.d.sm)
    (h : Step env w.d.sm (.subscribeRsrc x) m') :
    (∃ es, m'.log = w.d.sm.log ++ es) ∧ ∃ s ∈ m'.mSubscribers, s.ID = x.ID := by
  obtain ⟨s, hs, heq⟩ := List.any_eq_true.mp (any_equals_addNew w.d.sm.mSubscribers x)
  have hID := Subscriber.ID_eq_of_equals heq
  cases h with
  | refused x hsingle hne =>
    rw [hd.many] at hsingle
    cases hsingle
  | requested x hs' hfree =>
    obtain ⟨d, es, hreq, -⟩ := sendRsrcRequest_eq env .gpsRequestAgpsDataConn (w.d.sm.join x)
    rw [hreq]
    exact ⟨⟨es, rfl⟩, s, hs, hID⟩
  | joined x hs' hfree => exact ⟨⟨[], by simp⟩, s, hs, hID⟩
  | grantedAtOnce x hs' hfree =>
    refine ⟨⟨[_], by rw [log_join, log_tell]⟩, s, ?_, hID⟩
    rw [mSubscribers_join, mSubscribers_tell]
    exact hs

/-- **What a call leaves behind**, from a state that nothing was left behind in. -/
theorem leavesNothing_call (hd : Orderly w.d.sm) (hw : w.LeavesNothing)
    (hg : ∀ id ∈ g, id ∈ w.fellBack) (h : Step env w.d.sm c m')
    (hrest : (∀ x, c ≠ .subscribeRsrc x) → rest = w.d.queue) :
    ∃ es, m'.log = w.d.sm.log ++ es ∧ ((w.after g rest m' es).LeavesNothing ↔
      SettlesCall w.d rest env c ∧ ∀ x, c = .subscribeRsrc x → x.ID ∉ g) := by
  by_cases hx : ∀ x, c = .subscribeRsrc x → x.ID ∉ g
  · simp only [and_iff_left hx]
    by_cases hreq : ∃ x, c = .subscribeRsrc x ∧ w.d.sm.mStatePtr = .released
    · obtain ⟨x, rfl, hs⟩ := hreq
      exact leavesNothing_requested hd hw hg (hx x rfl) hs h
    by_cases hre : ∃ event, c = .onRsrcEvent event ∧ w.d.sm.mStatePtr = .releasing ∧
        (event = .rsrcReleased ∨ event = .rsrcDenied) ∧
          w.d.sm.mSubscribers.any (·.isActive) = true
    · obtain ⟨event, rfl, hs, he, hact⟩ := hre
      exact leavesNothing_reopened hd hw hg hs he hact h
    -- no start is made
    have hset : SettlesCall w.d rest env c := by
      cases c with
      | subscribeRsrc x => exact fun _ _ hs => absurd ⟨x, rfl, hs⟩ hreq
      | onRsrcEvent event => exact fun _ _ hs he hact => absurd ⟨event, rfl, hs, he, hact⟩ hre
      | _ => trivial
    obtain ⟨es, hlog, hes⟩ := leavesNothing_of_no_start hd hw hg h
      (fun x hc => ⟨hx x hc, fun hs => hreq ⟨x, hc, hs⟩⟩) hrest fun event hc hs he => by
        rw [← Bool.not_eq_true]
        exact fun hact => hre ⟨event, hc, hs, he, hact⟩
    exact ⟨es, hlog, iff_of_true hes hset⟩
  · -- a handle that has fallen back is listed
    rw [not_forall] at hx
    obtain ⟨x, hx⟩ := hx
    rw [Classical.not_imp, not_not] at hx
    obtain ⟨rfl, hmem⟩ := hx
    obtain ⟨⟨es, hlog⟩, s, hs, hID⟩ := exists_subscribed hd h
    refine ⟨es, hlog, iff_of_false ?_ fun hset => hset.2 x rfl hmem⟩
    intro hes
    refine hes.unlisted s hs (List.mem_append_left _ ?_)
    rw [hID]
    exact hmem

end Call

/-! ### Runs -/

/-- What a timer, or a message that is no retry, leaves behind. -/
theorem leavesNothing_of_no_call {w : Watch} {i : Input} (hd : Orderly w.d.sm)
    (hw : w.LeavesNothing) (hc : w.d.calls i = none) : (w.step i).LeavesNothing := by
  rw [step_of_no_call hc]
  cases i with
  | call c env => cases hc
  | timer =>
    -- a timer that fires posts a retry, if an active subscriber is listed
    show LeavesNothing ⟨w.d.timer, w.fellBack, w.staleGrant⟩
    unfold DataService.timer
    by_cases ht : w.d.timers = 0
    · rw [if_pos ht]
      exact hw
    · rw [if_neg ht]
      unfold retryCallback
      rw [search_active]
      cases hf : w.d.sm.mSubscribers.find? (·.isActive) with
      | some s =>
        refine ⟨fun _ _ hr => absurd ⟨s.ID, ?_⟩ hr, hw.unlisted, hw.ungranted⟩
        simp [become, posted, Entry.call, AdapterCall.post]
      | none =>
        refine ⟨fun hs _ _ => ?_, hw.unlisted, hw.ungranted⟩
        rw [List.find?_eq_none] at hf
        rw [List.eq_nil_iff_forall_not_mem]
        exact fun s hs' => hf s hs' (hd.released hs s hs')
  | deliver env =>
    show LeavesNothing ⟨w.d.deliver env, w.fellBack, w.staleGrant⟩
    cases hq : w.d.queue with
    | nil =>
      have hd' : w.d.deliver env = w.d := by simp [deliver, hq]
      rw [hd']
      exact hw
    | cons p queue =>
      cases p with
      | requestSuplES id => simp [calls, hq] at hc
      | requestATL id t =>
        have hd' : w.d.deliver env = { w.d with queue := queue } := by simp [deliver, hq]
        rw [hd']
        refine ⟨fun hs ht hr => hw.empty hs ht ?_, hw.unlisted, hw.ungranted⟩
        rintro ⟨id', hid⟩
        rw [hq] at hid
        rcases List.mem_cons.mp hid with hid | hid
        · cases hid
        · exact hr ⟨id', hid⟩

theorem d_step (w : Watch) (i : Input) : (w.step i).d = w.d.step i := rfl

/-- **What a fallback leaves behind.**  In a run, no handle is ever listed in Released
without a retry to come, and none that has fallen back is listed or granted, exactly when
every step settles: no start falls back, none in Released fails without another attempt
to come, and no retry is for a handle that has fallen back. -/
theorem leavesNothing_iff (is : List Input) (his : ∀ i ∈ is, i.isOf .dataService = true) :
    Always Watch.step LeavesNothing new is ↔ StepsMeet Watch.step Settles new is := by
  have hstep : ∀ (w : Watch) (i : Input), i.isOf .dataService = true → Orderly w.d.sm →
      w.LeavesNothing → Orderly (w.step i).d.sm := by
    intro w i hi hd _
    rw [d_step]
    exact hd.call hi
  have hexact : ∀ (w : Watch) (i : Input), i.isOf .dataService = true → Orderly w.d.sm →
      w.LeavesNothing → ((w.step i).LeavesNothing ↔ w.Settles i) := by
    intro w i _ hd hw
    cases hc : w.d.calls i with
    | none =>
      refine iff_of_true (leavesNothing_of_no_call hd hw hc) ?_
      intro c hc'
      rw [hc] at hc'
      cases hc'
    | some c =>
      have hrest : (∀ x, c.1 ≠ .subscribeRsrc x) → w.d.rest i = w.d.queue := by
        intro hne
        cases i with
        | deliver env =>
          obtain ⟨id, queue, -, rfl⟩ := calls_deliver hc
          exact absurd rfl (hne (.ds id false))
        | _ => rfl
      obtain ⟨es, hlog, hes⟩ := leavesNothing_call hd hw (w.gone_subset i) (call_step w.d.sm c)
        hrest
      rw [step_call hc hlog, hes]
      constructor
      · intro hset c' hc'
        obtain rfl : c = c' := Option.some.inj (hc.symm.trans hc')
        exact hset
      · intro hset
        exact hset c hc
  exact always_iff_stepsMeet_of_forall hstep hexact is new his orderly_new
    ⟨fun _ _ _ => rfl, nofun, rfl⟩

/-- The data services refuse a first handle for good, and grant a second one. -/
def grantedTwice : List Input :=
  [.call (.subscribeRsrc (.ds 1 false)) ⟨locApiAdapterErrUnsupported, false⟩,
    .call (.subscribeRsrc (.ds 2 false)) .ok, .call (.onRsrcEvent .rsrcGranted) .ok]

/-- The first handle, for which a regular ATL was asked for, stays listed, and is granted
with the second. -/
theorem grantedTwice_stale : ¬ Always Watch.step LeavesNothing new grantedTwice := by
  have hstale : (exec Watch.step new grantedTwice).staleGrant = true := by decide
  intro h
  have hlast : LeavesNothing (exec Watch.step new grantedTwice) := h.2.2.2
  rw [hlast.ungranted] at hstale
  cases hstale

theorem leavesNothing_iff_grantedTwice :
    Always Watch.step LeavesNothing new grantedTwice ↔
      StepsMeet Watch.step Settles new grantedTwice :=
  leavesNothing_iff grantedTwice (by decide)

end Watch

end Agps
end Nx507j
