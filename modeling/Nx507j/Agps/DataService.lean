import Mathlib.Data.List.Nodup
import Nx507j.Agps.Invariant

/-!
# The emergency data calls

A `DSStateMachine` with what runs beside it: its retry timers, and the messages
it posts to the engine's thread.  A machine that cannot start its data call at
once tries again from a timer, through a `LocEngRequestSuplEs` of its own; one
that gives up posts a `LocEngRequestATL`, for a regular connection.

## Main definitions

* `Post` — a message that the machine posts.
* `DataService` — the machine, its timers, and the messages not yet processed.
* `DataService.step` — a call, a timer that fires, or a message that is processed.
* `outstanding` — the result of the start request that is still to be answered.

## Main results

* `orderly_exec` — what holds of the list over every run.
* `rerequest_iff` — which requests for a handle survive.
* `pendingStarted_iff` — when Pending means that a call is being set up.
-/

namespace Nx507j
namespace Agps

open AgpsStateMachine Run

/-! ### Messages and timers -/

/-- A message posted by `requestATL` or `requestSuplES`. -/
inductive Post
  | requestATL (connHandle : UInt32) (agpsType : AGpsExtType)
  | requestSuplES (connHandle : UInt32)
  deriving DecidableEq, Repr

/-- The message that an adapter call posts, if it posts one. -/
def AdapterCall.post : AdapterCall → Option Post
  | .requestATL connHandle agpsType => some (.requestATL connHandle agpsType)
  | .requestSuplES connHandle => some (.requestSuplES connHandle)
  | _ => none

/-- The adapter call that an entry holds, if it holds one. -/
def Entry.call : Entry → Option AdapterCall
  | .notified _ _ call => call
  | .adapter call => some call
  | _ => none

/-- The messages that entries post, in their order. -/
def posted (es : List Entry) : List Post := es.filterMap fun e => e.call.bind AdapterCall.post

/-- The number of timers that entries start. -/
def started (es : List Entry) : ℕ := es.count (.timerStart true)

/-- A `DSStateMachine`, the retry timers that run, and the posted messages that have
not been processed, oldest first. -/
structure DataService where
  sm : AgpsStateMachine
  timers : ℕ
  queue : List Post
  deriving DecidableEq, Repr

namespace DataService

/-- The state after the constructor. -/
def new : DataService := ⟨newDS, 0, []⟩

/-- The machine has become `sm`: the timers it started run, its messages are posted. -/
def become (d : DataService) (sm : AgpsStateMachine) : DataService :=
  let es := sm.log.drop d.sm.log.length
  ⟨sm, d.timers + started es, d.queue ++ posted es⟩

/-- A call on the machine. -/
def call (d : DataService) (c : Call × Env) : DataService := d.become (d.sm.call c)

/-- A retry timer fires. -/
def timer (d : DataService) : DataService :=
  if d.timers = 0 then d
  else { d with timers := d.timers - 1 }.become d.sm.retryCallback

/-- The oldest message is processed.  A regular ATL is none of this machine's concern. -/
def deliver (d : DataService) (env : Env) : DataService :=
  match d.queue with
  | [] => d
  | .requestSuplES connHandle :: queue =>
    { d with queue := queue }.call (.subscribeRsrc (.ds connHandle false), env)
  | .requestATL _ _ :: queue => { d with queue := queue }

/-- What can happen to the machine. -/
inductive Input
  | call (c : Call) (env : Env)
  | timer
  | deliver (env : Env)
  deriving DecidableEq, Repr

/-- One step. -/
def step (d : DataService) : Input → DataService
  | .call c env => d.call (c, env)
  | .timer => d.timer
  | .deliver env => d.deliver env

/-- The subscribers of a `DSStateMachine` are `DSSubscriber`s and `ATLSubscriber`s. -/
def Input.isOf (k : Kind) : Input → Bool
  | .call c _ => c.isOf k
  | _ => true

/-- The call that an input makes on the machine, if it makes one. -/
def calls (d : DataService) : Input → Option (Call × Env)
  | .call c env => some (c, env)
  | .timer => none
  | .deliver env =>
    match d.queue with
    | .requestSuplES connHandle :: _ => some (.subscribeRsrc (.ds connHandle false), env)
    | _ => none

/-- What a step leaves of the machine: a call, or a retry that writes into the log. -/
theorem sm_step (d : DataService) (i : Input) :
    (∃ c, d.calls i = some c ∧ (d.step i).sm = d.sm.call c) ∨
      d.calls i = none ∧ ((d.step i).sm = d.sm ∨
        ∃ id, (d.step i).sm = d.sm.say (.adapter (.requestSuplES id))) := by
  cases i with
  | call c env => exact Or.inl ⟨(c, env), rfl, rfl⟩
  | timer =>
    refine Or.inr ⟨rfl, ?_⟩
    show (d.timer).sm = d.sm ∨ ∃ id, (d.timer).sm = _
    unfold timer
    split
    · exact Or.inl rfl
    · show d.sm.retryCallback = d.sm ∨ ∃ id, d.sm.retryCallback = _
      unfold retryCallback
      split
      · next s hs => exact Or.inr ⟨s.ID, rfl⟩
      · exact Or.inl rfl
  | deliver env =>
    cases hq : d.queue with
    | nil => exact Or.inr ⟨by simp [calls, hq], Or.inl (by simp [step, deliver, hq])⟩
    | cons p queue =>
      cases p with
      | requestATL id t =>
        exact Or.inr ⟨by simp [calls, hq], Or.inl (by simp [step, deliver, hq])⟩
      | requestSuplES id =>
        refine Or.inl ⟨(.subscribeRsrc (.ds id false), env), by simp [calls, hq], ?_⟩
        simp [step, deliver, hq, call, become]

/-- The call that a processed message makes. -/
theorem calls_deliver {d : DataService} {env : Env} {c : Call × Env}
    (h : d.calls (.deliver env) = some c) :
    ∃ id queue, d.queue = .requestSuplES id :: queue ∧
      c = (.subscribeRsrc (.ds id false), env) := by
  cases hq : d.queue with
  | nil => simp [calls, hq] at h
  | cons p queue =>
    cases p with
    | requestATL id t => simp [calls, hq] at h
    | requestSuplES id => exact ⟨id, queue, rfl, by simpa [calls, hq, eq_comm] using h⟩

/-- The messages a step leaves to be processed, before it posts its own. -/
def rest (d : DataService) : Input → List Post
  | .deliver _ => d.queue.tail
  | _ => d.queue

/-- What a call makes of the machine and of what runs beside it, by the entries it adds to
the log. -/
theorem step_of_call {d : DataService} {i : Input} {c : Call × Env} {es : List Entry}
    (hc : d.calls i = some c) (hes : (d.sm.call c).log = d.sm.log ++ es) :
    d.step i = ⟨d.sm.call c, d.timers + started es, d.rest i ++ posted es⟩ := by
  cases i with
  | call c' env =>
    obtain rfl : (c', env) = c := by simpa [calls] using hc
    simp [step, call, become, hes, rest]
  | timer => cases hc
  | deliver env =>
    obtain ⟨id, queue, hq, rfl⟩ := calls_deliver hc
    simp [step, deliver, hq, call, become, hes, rest]

/-- A call of a step has a subscriber of the kind. -/
theorem isOf_calls {d : DataService} {i : Input} {c : Call × Env}
    (hi : i.isOf .dataService = true) (hc : d.calls i = some c) :
    c.1.isOf .dataService = true := by
  cases i with
  | call c' env =>
    obtain rfl : (c', env) = c := by simpa [calls] using hc
    exact hi
  | timer => cases hc
  | deliver env =>
    obtain ⟨id, queue, -, rfl⟩ := calls_deliver hc
    rfl

/-- What every call and every further line of the log keeps, a step keeps. -/
theorem step_keeps {P : AgpsStateMachine → Prop} {d : DataService} {i : Input} (h : P d.sm)
    (hcall : ∀ c, d.calls i = some c → P (d.sm.call c))
    (hsay : ∀ id, P (d.sm.say (.adapter (.requestSuplES id)))) : P (d.step i).sm := by
  rcases d.sm_step i with ⟨c, hc, hs⟩ | ⟨-, hs | ⟨id, hs⟩⟩
  · rw [hs]
    exact hcall c hc
  · rw [hs]
    exact h
  · rw [hs]
    exact hsay id

/-! ### The list of a `DSStateMachine` -/

/-- A `DSStateMachine` takes any number of subscribers, `DSSubscriber`s and
`ATLSubscriber`s that differ in handle, and none of those that Released lists has
been released. -/
structure Orderly (m : AgpsStateMachine) : Prop where
  isDS : m.ds.isSome = true
  many : m.mEnforceSingleSubscriber = false
  uniform : Uniform .dataService m
  released : m.mStatePtr = .released → ∀ s ∈ m.mSubscribers, s.isActive = true

theorem orderly_new : Orderly newDS where
  isDS := rfl
  many := rfl
  uniform := ⟨by simp [newDS, AgpsStateMachine.new], by simp [newDS, AgpsStateMachine.new]⟩
  released := by simp [newDS, AgpsStateMachine.new]

theorem isActive_addNew {l : List Subscriber} {x : Subscriber}
    (h : ∀ s ∈ l, s.isActive = true) : ∀ s ∈ addNew l x, s.isActive = true := by
  intro s hs
  rcases mem_addNew hs with hs | rfl
  · exact h s hs
  · exact Subscriber.isActive_clone x

/-- **A call keeps a `DSStateMachine` in order.** -/
theorem Orderly.step {env : Env} {m m' : AgpsStateMachine} {c : Call} (hm : Orderly m)
    (h : Step env m c m') (hc : c.isOf .dataService = true) : Orderly m' where
  isDS := h.isSome_ds.trans hm.isDS
  many := h.mEnforceSingleSubscriber_eq.trans hm.many
  uniform := h.uniform hm.uniform hc
  released := by
    have hr := hm.released
    cases h with
    | refused x hsingle hne => simpa using hr
    | requested x hs hfree =>
      intro _
      simpa using isActive_addNew (hr hs)
    | joined x hs hfree => rcases hs with hs | hs <;> simp [hs]
    | grantedAtOnce x hs hfree => simp [hs]
    | unknown x hx => exact hr
    | toldOnly x s hx hs => simpa using hr
    | left x s hx hs hne hact => simp [hs]
    | leftReleasing x s hx hs hnil => simp [hnil]
    | lastLeft x s hx hs hact =>
      by_cases hnil : dropped m.mSubscribers s = [] <;> simp [hnil]
    | ignored event hp ha hrel => simpa using hr
    | granted hs => simp
    | denied event hs he => simp
    | revoked hs => simp
    | closed event hs he hact => simp
    | reopened event hs he hact => simp
    | setAPN apn => exact hr
    | setBearer bearer => exact hr

theorem Orderly.say {m : AgpsStateMachine} (hm : Orderly m) (e : Entry) : Orderly (m.say e) :=
  ⟨hm.isDS, hm.many, ⟨hm.uniform.isOf, hm.uniform.nodup⟩, hm.released⟩

theorem Orderly.call {d : DataService} (hd : Orderly d.sm) {i : Input}
    (hi : i.isOf .dataService = true) : Orderly (d.step i).sm :=
  step_keeps hd (fun c hc => hd.step (call_step d.sm c) (isOf_calls hi hc)) fun _ => hd.say _

/-- Every run leaves a `DSStateMachine` in order. -/
theorem orderly_exec {is : List Input} {d : DataService} (hd : Orderly d.sm)
    (his : ∀ i ∈ is, i.isOf .dataService = true) : Orderly (exec DataService.step d is).sm := by
  have hstep : ∀ (d : DataService) (i : Input), i.isOf .dataService = true → Orderly d.sm →
      Orderly (d.step i).sm := fun _ _ hi hd => hd.call hi
  exact exec_inv_of_forall hstep is d his hd

/-- The subscribers of a `DSStateMachine` are told apart by their handles alone. -/
theorem ident_of_isOf {s : Subscriber} (h : s.isOf .dataService = true) : s.ident = (s.ID, []) := by
  cases s with
  | bit ID a => cases h
  | atl ID c => rfl
  | wifi sender ssid password i => cases h
  | ds ID i => rfl

/-- A modem subscriber is told apart by its `ID`. -/
theorem equals_iff_ID {s t : Subscriber} (hs : s.isOf .dataService = true)
    (ht : t.isOf .dataService = true) : s.equals t = true ↔ s.ID = t.ID := by
  rw [Subscriber.equals_iff_of_isOf hs ht, ident_of_isOf hs, ident_of_isOf ht]
  simp

/-- Two listed subscribers with one handle are the same. -/
theorem Orderly.eq_of_ID {m : AgpsStateMachine} (hm : Orderly m) {s t : Subscriber}
    (hs : s ∈ m.mSubscribers) (ht : t ∈ m.mSubscribers) (h : s.ID = t.ID) : s = t := by
  refine List.inj_on_of_nodup_map hm.uniform.nodup hs ht ?_
  rw [ident_of_isOf (hm.uniform.isOf s hs), ident_of_isOf (hm.uniform.isOf t ht), h]

/-- A listed subscriber is equal to one asked about exactly when the handles are. -/
theorem Orderly.equals_iff {m : AgpsStateMachine} (hm : Orderly m) {s x : Subscriber}
    (hs : s ∈ m.mSubscribers) (hx : x.isOf .dataService = true) :
    s.equals x = true ↔ s.ID = x.ID := equals_iff_ID (hm.uniform.isOf s hs) hx

/-! ### Start requests -/

end DataService

/-- The handle on whose behalf a request is made. -/
def AgpsStateMachine.connHandle (m : AgpsStateMachine) : UInt32 :=
  ((m.mSubscribers.find? (·.isActive)).map Subscriber.ID).getD 0xFFFFFFFF

/-- One more attempt is one too many. -/
def DSMembers.exhausted (members : DSMembers) : Bool :=
  decide (members.mRetries + 1 > maxStartDataCallRetries)

/-- A start request whose result makes the machine fall back to a regular ATL. -/
def DSMembers.fallsBack (members : DSMembers) (env : Env) : Bool :=
  env.openAndStartDataCall == locApiAdapterErrEngineBusy && members.exhausted ||
    env.openAndStartDataCall == locApiAdapterErrUnsupported || env.openAndStartDataCall == -1

/-- A start request after which a retry timer runs. -/
def DSMembers.startsTimer (members : DSMembers) (env : Env) : Bool :=
  env.openAndStartDataCall == locApiAdapterErrEngineBusy && !members.exhausted && env.timerStarts

/-- What a start request writes into the log after its result. -/
def DSMembers.startEntries (members : DSMembers) (env : Env) (connHandle : UInt32) : List Entry :=
  if members.fallsBack env then [.adapter (.requestATL connHandle agpsTypeSupl)]
  else if env.openAndStartDataCall = locApiAdapterErrEngineBusy then [.timerStart env.timerStarts]
  else []

/-- What a fallback has, and the start of the timer, all entries have that follow a start
request. -/
theorem DSMembers.forall_mem_startEntries {P : Entry → Prop} (members : DSMembers) (env : Env)
    (connHandle : UInt32) (hfall : P (.adapter (.requestATL connHandle agpsTypeSupl)))
    (htimer : ∀ started, P (.timerStart started)) :
    ∀ e ∈ members.startEntries env connHandle, P e := by
  unfold DSMembers.startEntries
  split_ifs
  · exact List.forall_mem_singleton.mpr hfall
  · exact List.forall_mem_singleton.mpr (htimer _)
  · exact List.forall_mem_nil P

namespace DataService

/-- What a `DSStateMachine` makes of a start request. -/
theorem sendRsrcRequest_start {m : AgpsStateMachine} {members : DSMembers}
    (h : m.ds = some members) (env : Env) :
    ((m.sendRsrcRequest env .gpsRequestAgpsDataConn).1 = 0 ↔ env.openAndStartDataCall = 0) ∧
      (m.sendRsrcRequest env .gpsRequestAgpsDataConn).2.log = m.log ++
        .requestDataCall .gpsRequestAgpsDataConn m.connHandle env.openAndStartDataCall ::
          members.startEntries env m.connHandle := by
  have hreq : m.sendRsrcRequest env .gpsRequestAgpsDataConn =
      m.sendRsrcRequestDS env .gpsRequestAgpsDataConn members := by
    simp only [sendRsrcRequest, h]
  rw [hreq]
  simp only [sendRsrcRequestDS, search_active, dataCallCb, DSMembers.startEntries,
    DSMembers.fallsBack, DSMembers.exhausted]
  by_cases hb : env.openAndStartDataCall = locApiAdapterErrEngineBusy
  · -- the engine is busy: one more retry, or too many
    have h0 : env.openAndStartDataCall ≠ 0 := by
      rw [hb]
      decide
    by_cases he : members.mRetries + 1 > maxStartDataCallRetries
    · have hu : locApiAdapterErrEngineBusy ≠ 0 := by decide
      simp [hb, he, hu, informStatus, informCall, resetRetries, AgpsStateMachine.say, connHandle]
    · have hu : locApiAdapterErrEngineBusy ≠ locApiAdapterErrUnsupported ∧
          locApiAdapterErrEngineBusy ≠ -1 ∧ locApiAdapterErrEngineBusy ≠ 0 := by decide
      cases env.timerStarts <;> simp [hb, he, hu, AgpsStateMachine.say, connHandle]
  · by_cases hu : env.openAndStartDataCall = locApiAdapterErrUnsupported ∨
        env.openAndStartDataCall = -1
    · simp [hb, hu, informStatus, informCall, resetRetries, AgpsStateMachine.say, connHandle]
    · rw [not_or] at hu
      simp [hb, hu, AgpsStateMachine.say, connHandle]

/-- What a `DSStateMachine` makes of a stop request. -/
theorem sendRsrcRequest_stop {m : AgpsStateMachine} {members : DSMembers}
    (h : m.ds = some members) (env : Env) :
    (m.sendRsrcRequest env .gpsReleaseAgpsDataConn).2.log = m.log ++
      [.requestDataCall .gpsReleaseAgpsDataConn m.connHandle 0] := by
  have hreq : m.sendRsrcRequest env .gpsReleaseAgpsDataConn =
      m.sendRsrcRequestDS env .gpsReleaseAgpsDataConn members := by
    simp only [sendRsrcRequest, h]
  have hb : (0 : Int32) ≠ locApiAdapterErrEngineBusy := by decide
  have hu : ¬ ((0 : Int32) = locApiAdapterErrUnsupported ∨ (0 : Int32) = -1) := by decide
  rw [hreq]
  simp only [sendRsrcRequestDS, search_active, dataCallCb, if_neg hb, if_neg hu]
  rfl

/-! ### Requests for a released handle -/

/-- What the last step wrote into the log. -/
def news (d d' : DataService) : List Entry := d'.sm.log.drop d.sm.log.length

/-- The machine lists the handle, and it has not been released. -/
def ListsActive (h : UInt32) (m : AgpsStateMachine) : Prop :=
  ∃ s ∈ m.mSubscribers, s.ID = h ∧ s.isInactive = false

/-- The machine lists the handle as released. -/
def ListsInactive (h : UInt32) (m : AgpsStateMachine) : Prop :=
  ∃ s ∈ m.mSubscribers, s.ID = h ∧ s.isInactive = true

/-- The machine lists the handle, as active or as released. -/
def lists (h : UInt32) (m : AgpsStateMachine) : Bool := m.mSubscribers.any (·.ID == h)

/-- A start request failed, and a regular ATL was asked for in place of `h`. -/
def FellBack (h : UInt32) (es : List Entry) : Prop :=
  (∃ connHandle ret, .requestDataCall .gpsRequestAgpsDataConn connHandle ret ∈ es ∧ ret ≠ 0) ∧
    ∃ e ∈ es, e.call = some (.requestATL h agpsTypeSupl)

instance (h : UInt32) (m : AgpsStateMachine) : Decidable (ListsActive h m) :=
  inferInstanceAs (Decidable (∃ s ∈ m.mSubscribers, s.ID = h ∧ s.isInactive = false))

instance (h : UInt32) (m : AgpsStateMachine) : Decidable (ListsInactive h m) :=
  inferInstanceAs (Decidable (∃ s ∈ m.mSubscribers, s.ID = h ∧ s.isInactive = true))

/-- The active subscriber that a request is made for. -/
theorem listsActive_connHandle {m : AgpsStateMachine}
    (h : m.mSubscribers.any (·.isActive) = true) : ListsActive m.connHandle m := by
  rw [← List.isSome_find?] at h
  obtain ⟨s, hs⟩ := Option.isSome_iff_exists.mp h
  refine ⟨s, List.mem_of_find?_eq_some hs, by simp [connHandle, hs], ?_⟩
  have hact := List.find?_some hs
  simpa [Subscriber.isActive] using hact

/-- Adding a handle lists it as active, unless it is listed as released. -/
theorem listsActive_addNew {m m' : AgpsStateMachine} (hm : Orderly m) {h : UInt32}
    (hm' : m'.mSubscribers = addNew m.mSubscribers (.ds h false)) :
    ListsActive h m' ↔ ¬ ListsInactive h m := by
  unfold ListsActive ListsInactive
  rw [hm']
  cases ha : m.mSubscribers.any (·.equals (.ds h false)) with
  | true =>
    rw [addNew_of_any ha]
    obtain ⟨s, hs, heq⟩ := List.any_eq_true.mp ha
    have hID : s.ID = h := (hm.equals_iff hs rfl).mp heq
    constructor
    · rintro ⟨t, ht, htID, hact⟩ ⟨u, hu, huID, hinact⟩
      rw [hm.eq_of_ID ht hu (htID.trans huID.symm), hinact] at hact
      cases hact
    · intro hno
      refine ⟨s, hs, hID, ?_⟩
      rw [← Bool.not_eq_true]
      exact fun hinact => hno ⟨s, hs, hID, hinact⟩
  | false =>
    rw [addNew_of_not_any ha]
    refine iff_of_true ⟨_, List.mem_cons_self, rfl, rfl⟩ ?_
    rintro ⟨s, hs, hID, -⟩
    have heq : s.equals (.ds h false) = true := (hm.equals_iff hs rfl).mpr hID
    rw [List.any_eq_true.mpr ⟨s, hs, heq⟩] at ha
    cases ha

/-- **Which requests for a handle survive.**  In every reachable state, a request for the
handle `h` leaves it listed as active, or the start has failed and a regular ATL was asked
for `h`, exactly when `h` was not still listed as released. -/
theorem rerequest_iff (is : List Input) (his : ∀ i ∈ is, i.isOf .dataService = true)
    (d : DataService) (hd : d = exec DataService.step new is) (h : UInt32) (env : Env) :
    let d' := d.step (.call (.subscribeRsrc (.ds h false)) env)
    ListsActive h d'.sm ∨ FellBack h (d.news d') ↔ ¬ ListsInactive h d.sm := by
  have hm : Orderly d.sm := by
    rw [hd]
    exact orderly_exec orderly_new his
  have hstep := call_step d.sm (.subscribeRsrc (.ds h false), env)
  have hsm : (d.step (.call (.subscribeRsrc (.ds h false)) env)).sm =
      d.sm.call (.subscribeRsrc (.ds h false), env) := rfl
  simp only [news, hsm]
  generalize d.sm.call (.subscribeRsrc (.ds h false), env) = m' at hstep
  cases hstep with
  | refused x hsingle hne => simp [hm.many] at hsingle
  | requested x hs hfree =>
    -- Released lists nobody as released
    have hno : ¬ ListsInactive h d.sm := by
      rintro ⟨s, hs', -, hinact⟩
      have hact := hm.released hs s hs'
      simp [Subscriber.isActive, hinact] at hact
    exact iff_of_true (Or.inl ((listsActive_addNew hm (by simp)).mpr hno)) hno
  | joined x hs hfree =>
    rw [listsActive_addNew hm (by simp)]
    refine or_iff_left ?_
    rintro ⟨⟨connHandle, ret, hmem, -⟩, -⟩
    simp at hmem
  | grantedAtOnce x hs hfree =>
    rw [listsActive_addNew hm (by simp)]
    refine or_iff_left ?_
    rintro ⟨⟨connHandle, ret, hmem, -⟩, -⟩
    simp at hmem

/-- A handle whose call has been granted is released, and requested again before the
call is torn down. -/
def rerequested : List Input :=
  [.call (.subscribeRsrc (.ds 1 false)) .ok, .call (.onRsrcEvent .rsrcGranted) .ok,
    .call (.unsubscribeRsrc (.ds 1 false)) .ok]

/-- The new request is lost: the handle is not active, and nothing was started for it. -/
theorem rerequested_lost :
    let d := exec DataService.step new rerequested
    let d' := d.step (.call (.subscribeRsrc (.ds 1 false)) .ok)
    ¬ (ListsActive 1 d'.sm ∨ FellBack 1 (d.news d')) := by
  intro d d'
  have hnews : ¬ ListsActive 1 d'.sm ∧ d.news d' = [] := by decide
  rintro (h | ⟨⟨connHandle, ret, hmem, -⟩, -⟩)
  · exact hnews.1 h
  · rw [hnews.2] at hmem
    cases hmem

/-- The first request is not. -/
theorem rerequest_iff_first :
    let d' := new.step (.call (.subscribeRsrc (.ds 1 false)) .ok)
    ListsActive 1 d'.sm ∨ FellBack 1 (new.news d') ↔ ¬ ListsInactive 1 new.sm :=
  rerequest_iff [] (by simp) new rfl 1 .ok

/-! ### Pending -/

/-- What an entry does to the outstanding start request: `some ret` when one that
returned `ret` has not been answered. -/
def note (o : Option Int32) : Entry → Option Int32
  | .requestDataCall .gpsRequestAgpsDataConn _ ret => some ret
  | .rsrcEvent event => if event.isResource then none else o
  | _ => o

/-- The result of the most recent start request, if no GRANTED, RELEASED or DENIED has
come since. -/
def outstanding (es : List Entry) : Option Int32 := es.foldl note none

/-- Entries that make no start and answer none. -/
def Quiet (es : List Entry) : Prop := ∀ e ∈ es, ∀ o, note o e = o

theorem outstanding_append_quiet {es fs : List Entry} (h : Quiet fs) :
    outstanding (es ++ fs) = outstanding es := by
  rw [outstanding, List.foldl_append, ← outstanding]
  generalize outstanding es = o
  induction fs with
  | nil => rfl
  | cons e fs ih =>
    rw [List.foldl_cons, h e List.mem_cons_self]
    exact ih fun e' he' => h e' (List.mem_cons_of_mem e he')

theorem quiet_singleton {e : Entry} (h : ∀ o, note o e = o) : Quiet [e] := by
  intro e' he'
  rw [List.mem_singleton.mp he']
  exact h

theorem quiet_dropEntries (m : AgpsStateMachine) (s : Subscriber) : Quiet (m.dropEntries s) :=
  forall_mem_dropEntries m s (fun _ _ => rfl) fun _ _ => rfl

theorem quiet_startEntries (members : DSMembers) (env : Env) (connHandle : UInt32) :
    Quiet (members.startEntries env connHandle) :=
  members.forall_mem_startEntries env connHandle (fun _ => rfl) fun _ _ => rfl

/-- After a start request its result is outstanding. -/
theorem outstanding_start {m : AgpsStateMachine} (h : m.ds.isSome = true) (env : Env) :
    outstanding (m.sendRsrcRequest env .gpsRequestAgpsDataConn).2.log =
      some env.openAndStartDataCall := by
  obtain ⟨members, hmem⟩ := Option.isSome_iff_exists.mp h
  rw [(sendRsrcRequest_start hmem env).2, List.append_cons,
    outstanding_append_quiet (quiet_startEntries _ _ _), outstanding, List.foldl_append]
  rfl

/-- In Pending the most recent start request returned success and has not been answered. -/
def PendingStarted (d : DataService) : Prop :=
  d.sm.mStatePtr = .pending → outstanding d.sm.log = some locApiAdapterErrSuccess

/-- The start that a RELEASED or DENIED in Releasing makes for the active subscribers
returns success. -/
def RestartTaken (d : DataService) : Input → Prop
  | .call (.onRsrcEvent event) env =>
    event = .rsrcReleased ∨ event = .rsrcDenied → d.sm.mStatePtr = .releasing →
      d.sm.mSubscribers.any (·.isActive) = true →
        env.openAndStartDataCall = locApiAdapterErrSuccess
  | _ => True

/-- A call keeps `PendingStarted` exactly when the start it may make is taken. -/
theorem pendingStarted_call {m m' : AgpsStateMachine} {env : Env} {c : Call}
    (hds : m.ds.isSome = true)
    (hP : m.mStatePtr = .pending → outstanding m.log = some locApiAdapterErrSuccess)
    (h : Step env m c m') :
    (m'.mStatePtr = .pending → outstanding m'.log = some locApiAdapterErrSuccess) ↔
      ∀ event, c = .onRsrcEvent event → event = .rsrcReleased ∨ event = .rsrcDenied →
        m.mStatePtr = .releasing → m.mSubscribers.any (·.isActive) = true →
          env.openAndStartDataCall = locApiAdapterErrSuccess := by
  have hquiet : ∀ {es : List Entry}, Quiet es → m.mStatePtr = .pending →
      outstanding (m.log ++ es) = some locApiAdapterErrSuccess := by
    intro es hes hs
    rw [outstanding_append_quiet hes]
    exact hP hs
  cases h with
  | reopened event hs he hact =>
    -- here the machine goes to Pending whatever the start has returned
    have hds' : ((m.say (.rsrcEvent event)).prune event).ds.isSome = true := by
      rw [isSome_ds_prune]
      exact hds
    have hout := outstanding_start hds' env
    constructor
    · intro h' event' _ _ _ _
      have := h' rfl
      rw [hout] at this
      exact Option.some.inj this
    · intro h' _
      rw [hout, h' event rfl he hs hact]
  | closed event hs he hact =>
    refine iff_of_true nofun ?_
    intro event' _ _ _ h'
    rw [hact] at h'
    cases h'
  | ignored event hp ha hr =>
    refine iff_of_true ?_ ?_
    · -- what Pending ignores is no answer
      intro hs
      obtain ⟨hg, hd, hrel⟩ := hp hs
      refine hquiet (quiet_singleton fun o => ?_) hs
      cases event <;> first | rfl | exact absurd rfl hg | exact absurd rfl hd | skip
      rw [hrel rfl] at hds
      cases hds
    · intro event' hc he hs
      obtain rfl := Call.onRsrcEvent.inj hc
      exact absurd he (by simp [hr hs])
  | granted hs => exact iff_of_true nofun fun event' _ _ hs' => by simp [hs] at hs'
  | denied event hs he => exact iff_of_true nofun fun event' _ _ hs' => by simp [hs] at hs'
  | revoked hs => exact iff_of_true nofun fun event' _ _ hs' => by simp [hs] at hs'
  | refused x hsingle' hne =>
    refine iff_of_true (fun hs => ?_) nofun
    rw [log_tell]
    exact hquiet (quiet_singleton fun _ => rfl) (by simpa using hs)
  | requested x hs hfree =>
    -- from Released it goes to Pending only if the start was taken
    refine iff_of_true (fun hs' => ?_) nofun
    obtain ⟨members, hmem⟩ := Option.isSome_iff_exists.mp hds
    have hds' : (m.join x).ds.isSome = true := hds
    have hret := (sendRsrcRequest_start (m := m.join x) hmem env).1
    have h0 : ((m.join x).sendRsrcRequest env .gpsRequestAgpsDataConn).1 = 0 := by
      by_contra hne
      simp [hne] at hs'
    show outstanding ((m.join x).sendRsrcRequest env .gpsRequestAgpsDataConn).2.log = _
    rw [outstanding_start hds', hret.mp h0]
    rfl
  | joined x hs hfree => exact iff_of_true (fun hs' => hP hs') nofun
  | grantedAtOnce x hs hfree => exact iff_of_true (fun hs' => by simp [hs] at hs') nofun
  | unknown x hx => exact iff_of_true hP nofun
  | toldOnly x s hx hs => exact iff_of_true (fun hs' => by simp [hs] at hs') nofun
  | left x s hx hs hne hact =>
    -- what a subscriber that leaves is told answers no start
    exact iff_of_true (fun hs' => hquiet (quiet_dropEntries m s) hs') nofun
  | leftReleasing x s hx hs hnil => exact iff_of_true nofun nofun
  | lastLeft x s hx hs hact =>
    refine iff_of_true (fun hs' => ?_) nofun
    by_cases hnil : dropped m.mSubscribers s = [] <;> simp [hnil] at hs'
  | setAPN apn => exact iff_of_true hP nofun
  | setBearer bearer => exact iff_of_true hP nofun

/-- **When Pending means that a call is being set up.**  In a run, the machine is never in
Pending without a start request that was taken and not answered, exactly when every start
that ends Releasing is taken. -/
theorem pendingStarted_iff (is : List Input) :
    Always DataService.step PendingStarted new is ↔
      StepsMeet DataService.step RestartTaken new is := by
  have hinv : ∀ (d : DataService) (i : Input), d.sm.ds.isSome = true → PendingStarted d →
      (d.step i).sm.ds.isSome = true := by
    intro d i hds _
    apply step_keeps (P := fun m => m.ds.isSome = true) hds
    · intro c _
      exact (call_step d.sm c).isSome_ds.trans hds
    · intro _
      exact hds
  refine always_iff_stepsMeet hinv ?_ is new rfl nofun
  intro d i hds hP
  have hretry : ∀ id, PendingStarted ⟨d.sm.say (.adapter (.requestSuplES id)), 0, []⟩ := by
    intro id hs
    show outstanding (d.sm.log ++ [_]) = _
    rw [outstanding_append_quiet (quiet_singleton fun _ => rfl)]
    exact hP hs
  rcases d.sm_step i with ⟨c, hc, hs⟩ | ⟨hc, hs⟩
  · have hcall := pendingStarted_call hds hP (call_step d.sm c)
    rw [PendingStarted, hs, hcall]
    cases i with
    | call c' env =>
      obtain rfl : (c', env) = c := by simpa [calls] using hc
      cases c' with
      | onRsrcEvent event => simp [RestartTaken]
      | _ => simp [RestartTaken]
    | timer => cases hc
    | deliver env =>
      -- a message that is processed subscribes, and restarts nothing
      refine iff_of_true ?_ trivial
      intro event he
      obtain ⟨id, queue, -, rfl⟩ := calls_deliver hc
      cases he
  · refine iff_of_true ?_ ?_
    · rcases hs with hs | ⟨id, hs⟩
      · rw [PendingStarted, hs]
        exact hP
      · rw [PendingStarted, hs]
        exact hretry id
    · cases i with
      | call c' env => cases hc
      | timer => trivial
      | deliver env => trivial

/-- A second handle is requested while the call of the first is torn down; the start for it
fails. -/
def failedRestart : List Input :=
  [.call (.subscribeRsrc (.ds 1 false)) .ok, .call (.onRsrcEvent .rsrcGranted) .ok,
    .call (.unsubscribeRsrc (.ds 1 false)) .ok, .call (.subscribeRsrc (.ds 2 false)) .ok,
    .call (.onRsrcEvent .rsrcReleased) ⟨1, false⟩]

/-- The machine waits in Pending for the answer to a start that failed. -/
theorem failedRestart_stuck : ¬ PendingStarted (exec DataService.step new failedRestart) := by
  have h : (exec DataService.step new failedRestart).sm.mStatePtr = .pending ∧
      outstanding (exec DataService.step new failedRestart).sm.log = some 1 := by decide
  intro hP
  have := h.2.symm.trans (hP h.1)
  cases this

end DataService

end Agps
end Nx507j
