import Nx507j.Agps.Fallback
import Nx507j.Agps.Retry

/-!
# Opens after an acknowledged release

A `DSStateMachine` acknowledges the release of a handle with a close status, and keeps the
handle listed until its data call is torn down.  What is told to everyone who is listed, or
started on behalf of somebody listed, may then still concern the handle.

## Main definitions

* `Watched` — a run, watched for one handle.
* `Opens` — the calls that open a handle, by the state before the call.
* `Watched.KeepsClosed` — a step opens no handle whose release has been acknowledged.

## Main results

* `opens_call` — what a call opens.
* `Watched.unopened_iff` — a handle stays closed exactly when all steps keep it closed.
-/

namespace Nx507j
namespace Agps

open AgpsStateMachine DataService Run

/-! ### Acknowledgements and opens in the log -/

/-- The entry acknowledges the release of the handle. -/
def Entry.acks (h : UInt32) (e : Entry) : Bool := e.call == some (.atlCloseStatus h true)

/-- The entry asks for a connection for the handle, or reports on one. -/
def Entry.opens (h : UInt32) (e : Entry) : Bool :=
  match e.call with
  | some (.requestATL connHandle _) => connHandle == h
  | some (.atlOpenStatus handle _ _ _ _) => handle == h
  | _ => false

section Entries

variable {h : UInt32} {m : AgpsStateMachine} {st event : AgpsRsrcStatus} {s : Subscriber}
  {l : List Subscriber}

/-- A modem subscriber is opened by a grant and by a denial. -/
theorem opens_notified (hs : s.isOf .dataService = true) :
    (Entry.notified s st (m.notifyCall st s)).opens h =
      ((st == .rsrcGranted || st == .rsrcDenied) && s.ID == h) := by
  cases s with
  | bit ID a => cases hs
  | atl ID c => cases st <;> rfl
  | wifi sender ssid password i => cases hs
  | ds ID i => cases st <;> rfl

/-- The end of Releasing, a grant and a denial acknowledge nothing to those they are told. -/
theorem acks_notified (hs : s.isOf .dataService = true)
    (hst : st = .rsrcGranted ∨ st = .rsrcDenied ∨ st = .rsrcReleased ∧ s.isActive = false) :
    (Entry.notified s st (m.notifyCall st s)).acks h = false := by
  cases s with
  | bit ID a => cases hs
  | atl ID c => rcases hst with rfl | rfl | ⟨rfl, hact⟩ <;> first | rfl | cases hact
  | wifi sender ssid password i => cases hs
  | ds ID i => rcases hst with rfl | rfl | ⟨rfl, hact⟩ <;> rfl

theorem any_opens_eventEntries (hl : ∀ s ∈ l, s.isOf .dataService = true) :
    (m.eventEntries event st l).any (·.opens h) =
      ((st == .rsrcGranted || st == .rsrcDenied) && l.any (·.ID == h)) := by
  rw [eventEntries, List.any_cons, List.any_map]
  have hnot : (Entry.rsrcEvent event).opens h = false := rfl
  rw [hnot, Bool.false_or]
  induction l with
  | nil => simp
  | cons s l ih =>
    rw [List.any_cons, List.any_cons, ih fun t ht => hl t (List.mem_cons_of_mem s ht),
      Function.comp_apply, opens_notified (hl s List.mem_cons_self), Bool.and_or_distrib_left]

theorem acks_eventEntries (hl : ∀ s ∈ l, s.isOf .dataService = true)
    (hst : st = .rsrcGranted ∨ st = .rsrcDenied ∨ st = .rsrcReleased ∧ ∀ s ∈ l, s.isActive = false) :
    ∀ e ∈ m.eventEntries event st l, e.acks h = false := by
  intro e he
  rcases List.mem_cons.mp he with rfl | he
  · rfl
  · obtain ⟨s, hs, rfl⟩ := List.mem_map.mp he
    apply acks_notified (hl s hs)
    exact hst.imp_right fun hst => hst.imp_right fun hst => ⟨hst.1, hst.2 s hs⟩

/-- A start opens the handle that it falls back for, and acknowledges nothing. -/
theorem any_opens_start (members : DSMembers) (env : Env) (connHandle : UInt32) (ret : Int32) :
    (Entry.requestDataCall .gpsRequestAgpsDataConn connHandle ret ::
        members.startEntries env connHandle).any (·.opens h) =
        (members.fallsBack env && connHandle == h) ∧
      ∀ e ∈ Entry.requestDataCall .gpsRequestAgpsDataConn connHandle ret ::
        members.startEntries env connHandle, e.acks h = false := by
  unfold DSMembers.startEntries
  cases members.fallsBack env with
  | true => simp [Entry.opens, Entry.acks, Entry.call]
  | false =>
    rw [if_neg Bool.false_ne_true]
    split <;> simp [Entry.opens, Entry.acks, Entry.call]

/-- What a subscriber that leaves is told opens nothing. -/
theorem any_opens_dropEntries (hm : ∀ s ∈ m.mSubscribers, s.isOf .dataService = true) :
    (m.dropEntries s).any (·.opens h) = false := by
  have hn : ((m.mSubscribers.filter (·.equals s)).map fun t =>
      Entry.notified t .rsrcUnsubscribe (m.notifyCall .rsrcUnsubscribe t)).any (·.opens h) =
        false := by
    rw [List.any_eq_false]
    intro e he
    obtain ⟨t, ht, rfl⟩ := List.mem_map.mp he
    rw [opens_notified (hm t (List.mem_filter.mp ht).1)]
    exact Bool.false_ne_true
  cases s with
  | bit ID a => exact hn
  | atl ID c => exact hn
  | wifi sender ssid password i => rfl
  | ds ID i => rfl

end Entries

/-! ### What a call opens -/

/-- A call opens a handle: it is granted or denied to Pending, or denied at the end of Releasing,
where the handle is listed; it is subscribed in Acquired; or a start falls back for it. -/
def Opens (h : UInt32) (m : AgpsStateMachine) (env : Env) : Call → Prop
  | .subscribeRsrc x =>
    m.mStatePtr = .acquired ∧ x.ID = h ∨
      m.mStatePtr = .released ∧ (m.join x).connHandle = h ∧
        ∃ members ∈ m.ds, members.fallsBack env = true
  | .onRsrcEvent event =>
    m.mStatePtr = .pending ∧ (event = .rsrcGranted ∧ ListsActive h m ∨
        (event = .rsrcDenied ∨ event = .rsrcReleased) ∧ lists h m = true) ∨
      m.mStatePtr = .releasing ∧ (event = .rsrcDenied ∧ ListsInactive h m ∨
        (event = .rsrcDenied ∨ event = .rsrcReleased) ∧
          m.mSubscribers.any (·.isActive) = true ∧ m.connHandle = h ∧
            ∃ members ∈ m.membersAt event, members.fallsBack env = true)
  | _ => False

theorem any_active_ID_iff {h : UInt32} {m : AgpsStateMachine} :
    (m.mSubscribers.filter (·.isActive)).any (·.ID == h) = true ↔ ListsActive h m := by
  simp [ListsActive, Subscriber.isActive, and_comm]

theorem any_inactive_ID_iff {h : UInt32} {m : AgpsStateMachine} :
    (m.mSubscribers.filter (!·.isActive)).any (·.ID == h) = true ↔ ListsInactive h m := by
  simp [ListsInactive, Subscriber.isActive, and_comm]

/-- The end of Releasing takes nothing from those it may make a start for. -/
theorem connHandle_prune (m : AgpsStateMachine) (event : AgpsRsrcStatus) :
    ((m.say (.rsrcEvent event)).prune event).connHandle = m.connHandle := by
  rw [connHandle, mSubscribers_prune, mSubscribers_say, List.find?_filter, connHandle]
  simp

/-- No call both acknowledges a release and opens a handle, and it opens the handle exactly when
`Opens` says so. -/
def OpensAs (h : UInt32) (m m' : AgpsStateMachine) (env : Env) (c : Call) : Prop :=
  ∃ es, m'.log = m.log ++ es ∧
    (es.any (·.opens h) = false ∧ ¬ Opens h m env c ∨
      (∀ e ∈ es, e.acks h = false) ∧ (es.any (·.opens h) = true ↔ Opens h m env c))

section Calls

variable {env : Env} {m m' : AgpsStateMachine}

theorem opensAs_subscribe {x : Subscriber} (hm : Orderly m) (hc : x.isOf .dataService = true)
    (hstep : Step env m (.subscribeRsrc x) m') (h : UInt32) :
    OpensAs h m m' env (.subscribeRsrc x) := by
  obtain ⟨members, hds⟩ := Option.isSome_iff_exists.mp hm.isDS
  cases hstep with
  | refused x hsingle hne =>
    rw [hm.many] at hsingle
    cases hsingle
  | requested x hs hfree =>
    -- a start is made, which may fall back
    obtain ⟨hopens, hacks⟩ := any_opens_start (h := h) members env (m.join x).connHandle
      env.openAndStartDataCall
    refine ⟨_, (sendRsrcRequest_start (m := m.join x) hds env).2, Or.inr ⟨hacks, ?_⟩⟩
    rw [hopens]
    simp [Opens, hs, hds, and_comm]
  | joined x hs hfree =>
    refine ⟨[], by simp, Or.inl ⟨rfl, ?_⟩⟩
    rcases hs with hs | hs <;> simp [Opens, hs]
  | grantedAtOnce x hs hfree =>
    refine ⟨[_], by rw [log_join, log_tell], Or.inr ⟨?_, ?_⟩⟩
    · intro e he
      rw [List.mem_singleton.mp he]
      exact acks_notified hc (Or.inl rfl)
    · rw [List.any_cons, opens_notified hc]
      simp [Opens, hs]

theorem opensAs_unsubscribe {x : Subscriber} (hm : Orderly m)
    (hstep : Step env m (.unsubscribeRsrc x) m') (h : UInt32) :
    OpensAs h m m' env (.unsubscribeRsrc x) := by
  obtain ⟨members, hds⟩ := Option.isSome_iff_exists.mp hm.isDS
  have hkind := hm.uniform.isOf
  cases hstep with
  | unknown x hx => exact ⟨[], by simp, Or.inl ⟨rfl, by simp [Opens]⟩⟩
  | toldOnly x s hx hs =>
    refine ⟨[_], log_tell _ _ _, Or.inl ⟨?_, by simp [Opens]⟩⟩
    rw [List.any_cons, opens_notified (hkind s (List.mem_of_find?_eq_some hx))]
    rfl
  | left x s hx hs hne hact =>
    exact ⟨_, log_leave _ _, Or.inl ⟨any_opens_dropEntries hkind, by simp [Opens]⟩⟩
  | leftReleasing x s hx hs hnil =>
    exact ⟨_, log_leave _ _, Or.inl ⟨any_opens_dropEntries hkind, by simp [Opens]⟩⟩
  | lastLeft x s hx hs hact =>
    have hlog := sendRsrcRequest_stop (m := m.leave s) hds env
    rw [log_leave, List.append_assoc] at hlog
    refine ⟨_, hlog, Or.inl ⟨?_, by simp [Opens]⟩⟩
    rw [List.any_append, any_opens_dropEntries hkind]
    rfl

theorem opensAs_event {event : AgpsRsrcStatus} (hm : Orderly m)
    (hstep : Step env m (.onRsrcEvent event) m') (h : UInt32) :
    OpensAs h m m' env (.onRsrcEvent event) := by
  obtain ⟨members, hds⟩ := Option.isSome_iff_exists.mp hm.isDS
  have hkind := hm.uniform.isOf
  have hfilter : ∀ p : Subscriber → Bool, ∀ s ∈ m.mSubscribers.filter p,
      s.isOf .dataService = true := fun p s hs => hkind s (List.mem_filter.mp hs).1
  cases hstep with
  | ignored event hp ha hr =>
    refine ⟨[_], rfl, Or.inl ⟨rfl, ?_⟩⟩
    -- Pending ignores none of the three events, Releasing neither of the two
    rintro (⟨hs, ⟨rfl, -⟩ | ⟨rfl | rfl, -⟩⟩ | ⟨hs, ⟨rfl, -⟩ | ⟨he, -⟩⟩)
    · exact (hp hs).1 rfl
    · exact (hp hs).2.1 rfl
    · have hnone := (hp hs).2.2 rfl
      rw [hds] at hnone
      cases hnone
    · exact (hr hs).2 rfl
    · rcases he with rfl | rfl
      · exact (hr hs).2 rfl
      · exact (hr hs).1 rfl
  | granted hs =>
    refine ⟨_, log_event_tellAll _ _ _ _, Or.inr ⟨acks_eventEntries (hfilter _) (Or.inl rfl), ?_⟩⟩
    rw [any_opens_eventEntries (hfilter _)]
    simpa [Opens, hs] using any_active_ID_iff
  | denied event hs he =>
    refine ⟨_, log_event_clear _ _ _,
      Or.inr ⟨acks_eventEntries hkind (Or.inr (Or.inl rfl)), ?_⟩⟩
    rw [any_opens_eventEntries hkind]
    rcases he with rfl | ⟨rfl, -⟩ <;> simp [Opens, hs, lists]
  | revoked hs =>
    refine ⟨_, log_event_clear _ _ _, Or.inl ⟨?_, by simp [Opens, hs]⟩⟩
    rw [any_opens_eventEntries hkind]
    rfl
  | closed event hs he hact =>
    refine ⟨_, log_event_prune _ _ _, ?_⟩
    rw [any_opens_eventEntries (hfilter _)]
    rcases he with rfl | rfl
    · exact Or.inl ⟨rfl, by simp [Opens, hs, hact]⟩
    · -- a denial is told to those who have been released
      refine Or.inr ⟨acks_eventEntries (hfilter _) (Or.inr (Or.inl rfl)), ?_⟩
      simpa [Opens, hs, hact] using any_inactive_ID_iff
  | reopened event hs he hact =>
    obtain ⟨members', hds'⟩ := exists_ds_prune_say hm.isDS (.rsrcEvent event) event
    have hlog := (sendRsrcRequest_start hds' env).2
    rw [log_event_prune, List.append_assoc, connHandle_prune] at hlog
    obtain ⟨hopens, hacks⟩ := any_opens_start (h := h) members' env m.connHandle
      env.openAndStartDataCall
    refine ⟨_, hlog, Or.inr ⟨?_, ?_⟩⟩
    · intro e he'
      rcases List.mem_append.mp he' with he' | he'
      · refine acks_eventEntries (hfilter _) ?_ e he'
        rcases he with rfl | rfl
        · refine Or.inr (Or.inr ⟨rfl, ?_⟩)
          intro s hs'
          simpa using (List.mem_filter.mp hs').2
        · exact Or.inr (Or.inl rfl)
      · exact hacks e he'
    · rw [ds_prune] at hds'
      rw [List.any_append, any_opens_eventEntries (hfilter _), hopens]
      rcases he with rfl | rfl
      · simp [Opens, hs, hact, hds', and_comm]
      · simp only [Bool.or_eq_true, Bool.and_eq_true, any_inactive_ID_iff]
        simp [Opens, hs, hact, hds', and_comm]

/-- **What a call opens.** -/
theorem opens_call {c : Call} (hm : Orderly m) (hc : c.isOf .dataService = true)
    (hstep : Step env m c m') (h : UInt32) : OpensAs h m m' env c := by
  cases c with
  | subscribeRsrc x => exact opensAs_subscribe hm hc hstep h
  | unsubscribeRsrc x => exact opensAs_unsubscribe hm hstep h
  | onRsrcEvent event => exact opensAs_event hm hstep h
  | setAPN apn =>
    cases hstep
    exact ⟨[], by simp, Or.inl ⟨rfl, by simp [Opens]⟩⟩
  | setBearer bearer =>
    cases hstep
    exact ⟨[], by simp, Or.inl ⟨rfl, by simp [Opens]⟩⟩

end Calls

/-! ### Watching a handle -/

/-- What has become of a handle: whether its release has been acknowledged and the modem has
not requested it since, and whether it was opened in that state. -/
structure Handle where
  closed : Bool
  reopened : Bool
  deriving DecidableEq, Repr

namespace Handle

/-- Reads one entry. -/
def note (h : UInt32) (k : Handle) (e : Entry) : Handle :=
  ⟨k.closed || e.acks h, k.reopened || k.closed && e.opens h⟩

theorem reopened_of_no_opens {h : UInt32} {es : List Entry}
    (hes : es.any (·.opens h) = false) (k : Handle) :
    (es.foldl (note h) k).reopened = k.reopened := by
  induction es generalizing k with
  | nil => rfl
  | cons e es ih =>
    rw [List.any_cons, Bool.or_eq_false_iff] at hes
    rw [List.foldl_cons, ih hes.2]
    simp [note, hes.1]

theorem reopened_of_no_acks {h : UInt32} {es : List Entry} (hes : ∀ e ∈ es, e.acks h = false)
    (k : Handle) :
    (es.foldl (note h) k).reopened = (k.reopened || k.closed && es.any (·.opens h)) := by
  induction es generalizing k with
  | nil => simp
  | cons e es ih =>
    have hclosed : (k.note h e).closed = k.closed := by
      simp [note, hes e List.mem_cons_self]
    rw [List.foldl_cons, ih fun e' he' => hes e' (List.mem_cons_of_mem e he'), hclosed,
      List.any_cons, Bool.and_or_distrib_left, ← Bool.or_assoc]
    rfl

end Handle

/-- A run, watched for one handle. -/
structure Watched where
  d : DataService
  handle : Handle
  deriving DecidableEq, Repr

namespace Watched

/-- The start of a run. -/
def new : Watched := ⟨.new, ⟨false, false⟩⟩

/-- The handle, after the modem has requested it if the input does.  A retry, which the machine
asks of itself, is no such request. -/
def requested (h : UInt32) (w : Watched) (i : Input) : Handle :=
  if i.subscribes h then { w.handle with closed := false } else w.handle

/-- One step. -/
def step (h : UInt32) (w : Watched) (i : Input) : Watched :=
  let d := w.d.step i
  ⟨d, (w.d.news d).foldl (Handle.note h) (w.requested h i)⟩

theorem handle_step (h : UInt32) (w : Watched) (i : Input) : (w.step h i).handle =
    (w.d.news (w.d.step i)).foldl (Handle.note h) (w.requested h i) := rfl

/-- The handle was not opened while its release was acknowledged. -/
def Unopened (w : Watched) : Prop := w.handle.reopened = false

/-- The call of a step, if it makes one, does not open the handle while its release is
acknowledged. -/
def KeepsClosed (h : UInt32) (w : Watched) (i : Input) : Prop :=
  (w.requested h i).closed = true → ∀ c, w.d.calls i = some c → ¬ Opens h w.d.sm c.2 c.1

theorem reopened_requested (h : UInt32) (w : Watched) (i : Input) :
    (w.requested h i).reopened = w.handle.reopened := by
  unfold requested
  split <;> rfl

theorem unopened_step {h : UInt32} {w : Watched} {i : Input} (hd : Orderly w.d.sm)
    (hi : i.isOf .dataService = true) (hw : w.Unopened) :
    (w.step h i).Unopened ↔ w.KeepsClosed h i := by
  have hreq : (w.requested h i).reopened = false := (w.reopened_requested h i).trans hw
  rcases w.d.sm_step i with ⟨c, hc, hsm⟩ | ⟨hc, hsm⟩
  · obtain ⟨es, hlog, hes⟩ := opens_call hd (isOf_calls hi hc) (call_step w.d.sm c) h
    have hnews : w.d.news (w.d.step i) = es := by
      simp [news, hsm, hlog]
    have hkeeps : w.KeepsClosed h i ↔
        ((w.requested h i).closed = true → ¬ Opens h w.d.sm c.2 c.1) := by
      unfold KeepsClosed
      rw [hc]
      simp
    rw [hkeeps, Unopened, handle_step, hnews]
    rcases hes with ⟨hopens, hno⟩ | ⟨hacks, hopens⟩
    · rw [Handle.reopened_of_no_opens hopens, hreq]
      exact iff_of_true rfl fun _ => hno
    · rw [Handle.reopened_of_no_acks hacks, hreq, ← hopens]
      simp
  · -- a timer and a message that is no retry open nothing
    have hnews : (w.d.news (w.d.step i)).any (·.opens h) = false := by
      rcases hsm with hsm | ⟨id, hsm⟩
      · simp [news, hsm]
      · simp [news, hsm, Entry.opens, Entry.call]
    refine iff_of_true ?_ ?_
    · rw [Unopened, handle_step, Handle.reopened_of_no_opens hnews, hreq]
    · intro _ c hc'
      rw [hc] at hc'
      cases hc'

/-- **When a released handle stays closed.**  In a run, no handle is opened between the
acknowledgement of its release and the modem's next request for it, exactly when no step of
the run takes one of the branches that open it. -/
theorem unopened_iff (h : UInt32) (is : List Input) (his : ∀ i ∈ is, i.isOf .dataService = true) :
    Always (Watched.step h) Unopened new is ↔
      StepsMeet (Watched.step h) (KeepsClosed h) new is := by
  have hstep : ∀ (w : Watched) (i : Input), i.isOf .dataService = true → Orderly w.d.sm →
      w.Unopened → Orderly (w.step h i).d.sm := fun _ _ hi hd _ => hd.call hi
  exact always_iff_stepsMeet_of_forall hstep (fun _ _ hi hd hw => unopened_step hd hi hw) is new
    his orderly_new rfl

/-- Two handles wait for a data call; the first one is released, and the call is not set up. -/
def releasedInPending : List Input :=
  [.call (.subscribeRsrc (.ds 1 false)) .ok, .call (.subscribeRsrc (.ds 2 false)) .ok,
    .call (.unsubscribeRsrc (.ds 1 false)) .ok, .call (.onRsrcEvent .rsrcReleased) .ok]

/-- A regular ATL is asked for in place of the first one too. -/
theorem releasedInPending_opened : ¬ Always (Watched.step 1) Unopened new releasedInPending := by
  have hopened : (exec (Watched.step 1) new releasedInPending).handle.reopened = true := by decide
  intro h
  have hlast : Unopened (exec (Watched.step 1) new releasedInPending) := h.2.2.2.2
  rw [hlast] at hopened
  cases hopened

theorem unopened_iff_releasedInPending :
    Always (Watched.step 1) Unopened new releasedInPending ↔
      StepsMeet (Watched.step 1) (KeepsClosed 1) new releasedInPending :=
  unopened_iff 1 releasedInPending (by decide)

end Watched

end Agps
end Nx507j
