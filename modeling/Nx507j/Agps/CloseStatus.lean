import Mathlib.Algebra.Order.Group.Multiset
import Nx507j.Agps.Engine

/-!
# The answer to a release

`LocEngReleaseATL` is answered by `atlCloseStatus`, which comes from different code in each
state of a machine, for an `ATLSubscriber` and for a `DSSubscriber`, and from the message
itself where no machine lists the handle.

## Main definitions

* `closeStatuses` — the close statuses that entries send.
* `Apart` — the listed subscribers but the BIT ones differ in `ID`.
* `Engine.closeStatuses` — every close status that has been sent.

## Main results

* `closeStatuses_unsubscribed` — a machine that finds the handle answers once.
* `Engine.closeStatuses_releaseATL` — so does the message.
-/

namespace Nx507j
namespace Agps

open AgpsStateMachine DataService Run

/-! ### Close statuses in the log -/

/-- The handle and the result of a close status. -/
def AdapterCall.closeStatus : AdapterCall → Option (UInt32 × Bool)
  | .atlCloseStatus handle isSucc => some (handle, isSucc)
  | _ => none

/-- The close statuses that entries send, in their order. -/
def closeStatuses (es : List Entry) : List (UInt32 × Bool) :=
  es.filterMap fun e => e.call.bind AdapterCall.closeStatus

theorem closeStatuses_append (es fs : List Entry) :
    closeStatuses (es ++ fs) = closeStatuses es ++ closeStatuses fs := List.filterMap_append

/-- A modem subscriber that is unsubscribed is sent a close status. -/
theorem closeStatuses_notified {m : AgpsStateMachine} {s : Subscriber}
    (hs : s.isOf .dataService = true) :
    closeStatuses [.notified s .rsrcUnsubscribe (m.notifyCall .rsrcUnsubscribe s)] =
      [(s.ID, true)] := by
  cases s with
  | bit ID a => cases hs
  | atl ID c => rfl
  | wifi sender ssid password i => cases hs
  | ds ID i => rfl

/-- A stop request sends no close status. -/
theorem closeStatuses_stop (m : AgpsStateMachine) (env : Env) :
    closeStatuses (m.sendRsrcRequest env .gpsReleaseAgpsDataConn).2.log =
      closeStatuses m.log := by
  cases hds : m.ds with
  | none =>
    rw [sendRsrcRequest_of_base hds]
    simp only [closeStatuses_append, requestEntries]
    split <;> simp [closeStatuses, Entry.call]
  | some members =>
    rw [DataService.sendRsrcRequest_stop hds, closeStatuses_append]
    simp [closeStatuses, Entry.call]

/-! ### Subscribers that differ -/

/-- The listed subscribers, but the BIT ones, differ in `ID`. -/
def Apart (m : AgpsStateMachine) : Prop :=
  (m.mSubscribers.map fun s => (s.isBit, s.ID)).Pairwise fun s t =>
    s.1 = false → t.1 = false → s.2 ≠ t.2

theorem apart_of_nil {m : AgpsStateMachine} (h : m.mSubscribers = []) : Apart m := by
  rw [Apart, h]
  exact List.Pairwise.nil

theorem Apart.sublist {m m' : AgpsStateMachine} (h : Apart m)
    (hsub : m'.mSubscribers.Sublist m.mSubscribers) : Apart m' :=
  List.Pairwise.sublist (hsub.map _) h

/-- A subscriber is only added where none with its `ID` is listed. -/
theorem Apart.addNew {m m' : AgpsStateMachine} {x : Subscriber} (h : Apart m)
    (hm' : m'.mSubscribers = addNew m.mSubscribers x) : Apart m' := by
  rw [Apart, hm']
  cases ha : m.mSubscribers.any (·.equals x) with
  | true =>
    rw [addNew_of_any ha]
    exact h
  | false =>
    rw [addNew_of_not_any ha, List.map_cons, List.pairwise_cons]
    refine ⟨?_, h⟩
    rintro _ hmem hx hs heq
    obtain ⟨s, hs', rfl⟩ := List.mem_map.mp hmem
    rw [List.any_eq_false] at ha
    apply ha s hs'
    rw [Subscriber.ID_clone] at heq
    cases s with
    | bit ID a => cases hs
    | atl ID c => exact beq_iff_eq.mpr heq.symm
    | wifi sender ssid password i => exact beq_iff_eq.mpr heq.symm
    | ds ID i => exact beq_iff_eq.mpr heq.symm

theorem Apart.dropped {m m' : AgpsStateMachine} {s : Subscriber} (h : Apart m)
    (hm' : m'.mSubscribers = dropped m.mSubscribers s) : Apart m' := by
  rw [Apart, hm', Agps.dropped]
  split
  · have heq : (s.setInactive.isBit, s.setInactive.ID) = (s.isBit, s.ID) := by
      cases s <;> rfl
    rw [Lists.map_replace_of_eq _ heq]
    exact h
  · exact List.Pairwise.sublist (List.filter_sublist.map _) h

/-- **A call keeps the subscribers apart**, whatever their classes. -/
theorem Step.apart {env : Env} {m m' : AgpsStateMachine} {c : Call} (h : Step env m c m')
    (hm : Apart m) : Apart m' := by
  rcases h.mSubscribers_cases with hsub | ⟨x, -, hadd⟩ | ⟨x, s, -, -, hdrop⟩
  · exact hm.sublist hsub
  · exact hm.addNew hadd
  · exact hm.dropped hdrop

/-! ### The answer of one machine -/

section Machine

variable {m : AgpsStateMachine} {x : Subscriber}

theorem find?_equals (hm : ∀ s ∈ m.mSubscribers, s.isOf .dataService = true)
    (hx : x.isOf .dataService = true) :
    (m.mSubscribers.find? (·.equals x)).isSome = lists x.ID m := by
  rw [List.isSome_find?, lists, Bool.eq_iff_iff]
  simp only [List.any_eq_true, beq_iff_eq]
  constructor
  · rintro ⟨s, hs, heq⟩
    exact ⟨s, hs, (DataService.equals_iff_ID (hm s hs) hx).mp heq⟩
  · rintro ⟨s, hs, heq⟩
    exact ⟨s, hs, (DataService.equals_iff_ID (hm s hs) hx).mpr heq⟩

/-- Of the listed subscribers only `s` is equal to `s`. -/
theorem filter_equals (hm : ∀ s ∈ m.mSubscribers, s.isOf .dataService = true) (ha : Apart m)
    {s : Subscriber} (hs : s ∈ m.mSubscribers) : m.mSubscribers.filter (·.equals s) = [s] := by
  have hpair : m.mSubscribers.Pairwise fun s t => s.equals t = false ∧ t.equals s = false := by
    refine List.Pairwise.imp_of_mem ?_ (List.pairwise_map.mp ha)
    intro s t hs ht hne
    have hbit : s.isBit = false ∧ t.isBit = false :=
      ⟨Subscriber.isBit_of_isOf (hm s hs), Subscriber.isBit_of_isOf (hm t ht)⟩
    have hID := hne hbit.1 hbit.2
    constructor
    · rw [← Bool.not_eq_true, DataService.equals_iff_ID (hm s hs) (hm t ht)]
      exact hID
    · rw [← Bool.not_eq_true, DataService.equals_iff_ID (hm t ht) (hm s hs)]
      exact hID.symm
  generalize m.mSubscribers = l at hs hpair
  induction l with
  | nil => cases hs
  | cons t l ih =>
    rw [List.pairwise_cons] at hpair
    rcases List.mem_cons.mp hs with rfl | hs
    · have hnil : l.filter (·.equals s) = [] := by
        rw [List.filter_eq_nil_iff]
        intro t ht
        simp [(hpair.1 t ht).2]
      simp [hnil]
    · simp [(hpair.1 s hs).1, ih hs hpair.2]

/-- What a subscriber is told that leaves the list. -/
theorem closeStatuses_dropEntries (hm : ∀ s ∈ m.mSubscribers, s.isOf .dataService = true)
    (ha : Apart m) {s : Subscriber} (hs : s ∈ m.mSubscribers) :
    closeStatuses (m.dropEntries s) = [(s.ID, true)] := by
  have hkind := hm s hs
  cases s with
  | bit ID a => cases hkind
  | atl ID c =>
    simp only [dropEntries, filter_equals hm ha hs]
    exact closeStatuses_notified hkind
  | wifi sender ssid password i => cases hkind
  | ds ID i => rfl

/-- **A machine that finds the handle answers once**, in whatever state it is. -/
theorem closeStatuses_unsubscribed (hm : ∀ s ∈ m.mSubscribers, s.isOf .dataService = true)
    (ha : Apart m) (hx : x.isOf .dataService = true) (hl : lists x.ID m = true) (env : Env) :
    closeStatuses (m.call (.unsubscribeRsrc x, env)).log =
      closeStatuses m.log ++ [(x.ID, true)] := by
  have hID : ∀ s, m.mSubscribers.find? (·.equals x) = some s →
      s ∈ m.mSubscribers ∧ s.ID = x.ID := by
    intro s hf
    have hs := List.mem_of_find?_eq_some hf
    have heq : s.equals x = true := List.find?_some (p := fun s => Subscriber.equals s x) hf
    exact ⟨hs, (DataService.equals_iff_ID (hm s hs) hx).mp heq⟩
  have hleave : ∀ s, m.mSubscribers.find? (·.equals x) = some s →
      closeStatuses (m.leave s).log = closeStatuses m.log ++ [(x.ID, true)] := by
    intro s hf
    obtain ⟨hs, hsID⟩ := hID s hf
    rw [log_leave, closeStatuses_append, closeStatuses_dropEntries hm ha hs, hsID]
  have hstep := call_step m (.unsubscribeRsrc x, env)
  generalize m.call (.unsubscribeRsrc x, env) = m' at hstep
  cases hstep with
  | unknown x hf =>
    rw [← find?_equals hm hx, hf] at hl
    cases hl
  | toldOnly x s hf hs =>
    -- Released tells the handle and keeps it
    obtain ⟨hmem, hsID⟩ := hID s hf
    rw [log_tell, closeStatuses_append, closeStatuses_notified (hm s hmem), hsID]
  | left x s hf hs hne hact => exact hleave s hf
  | leftReleasing x s hf hs hnil => exact hleave s hf
  | lastLeft x s hf hs hact => exact (closeStatuses_stop _ _).trans (hleave s hf)

/-- A machine that does not find the handle does nothing. -/
theorem call_unknown (hm : ∀ s ∈ m.mSubscribers, s.isOf .dataService = true)
    (hx : x.isOf .dataService = true) (hl : lists x.ID m = false) (env : Env) :
    m.call (.unsubscribeRsrc x, env) = m := by
  have hf : m.mSubscribers.find? (·.equals x) = none := by
    rw [← Option.not_isSome_iff_eq_none, find?_equals hm hx, hl]
    exact Bool.false_ne_true
  have hstep := call_step m (.unsubscribeRsrc x, env)
  generalize m.call (.unsubscribeRsrc x, env) = m' at hstep
  have hno : ∀ s, m.mSubscribers.find? (·.equals x) ≠ some s := by
    intro s hs
    rw [hf] at hs
    cases hs
  cases hstep with
  | unknown x _ => rfl
  | toldOnly x s hf' hs => exact absurd hf' (hno s)
  | left x s hf' hs hne hact => exact absurd hf' (hno s)
  | leftReleasing x s hf' hs hnil => exact absurd hf' (hno s)
  | lastLeft x s hf' hs hact => exact absurd hf' (hno s)

end Machine

/-! ### The answer of the message -/

namespace Engine

/-- The close statuses that a machine has sent. -/
def closeStatusesOf (e : Engine) (sm : Nif) : Multiset (UInt32 × Bool) :=
  Agps.closeStatuses ((e.machine sm).elim [] AgpsStateMachine.log)

/-- Every close status that has been sent, by the messages themselves and by the machines. -/
def closeStatuses (e : Engine) : Multiset (UInt32 × Bool) :=
  ↑(e.log.filterMap AdapterCall.closeStatus) + (e.closeStatusesOf .agnss +
    e.closeStatusesOf .internet + e.closeStatusesOf .wifi + e.closeStatusesOf .ds)

/-- The machine, if there is one, lists the handle. -/
def listedIn (h : UInt32) (e : Engine) (sm : Nif) : Bool := (e.machine sm).any (lists h)

/-- One of the machines that a release asks lists the handle. -/
def listed (h : UInt32) (e : Engine) : Bool :=
  e.listedIn h .agnss || e.listedIn h .internet || e.listedIn h .ds

/-- The machines that a release asks list `ATLSubscriber`s and `DSSubscriber`s only. -/
def OnlyModem (e : Engine) : Prop :=
  ∀ sm, sm ≠ .wifi → ∀ m ∈ e.machine sm, ∀ s ∈ m.mSubscribers, s.isOf .dataService = true

/-- The subscribers of each machine are apart. -/
def AllApart (e : Engine) : Prop := ∀ sm, ∀ m ∈ e.machine sm, Apart m

theorem allApart_init (conf : Conf) : AllApart (init conf) := by
  intro sm m hm
  apply apart_of_nil
  cases sm with
  | agnss =>
    simp only [init, machine, Option.mem_def] at hm
    split at hm
    · obtain rfl := Option.some.inj hm
      rfl
    · cases hm
  | internet =>
    obtain rfl := Option.some.inj hm
    rfl
  | wifi =>
    obtain rfl := Option.some.inj hm
    rfl
  | ds => cases hm

/-- Every run keeps them apart. -/
theorem allApart_exec (conf : Conf) (is : List Input) :
    AllApart (exec Engine.step (init conf) is) := by
  have hstep : ∀ (e : Engine) (i : Input), AllApart e → AllApart (e.step i) := fun _ _ he =>
    machines_step (fun m c hm => (call_step m c).apart hm) (fun m entry hm => hm)
      (fun m _ => apart_of_nil rfl) (apart_of_nil rfl) he
  exact exec_inv hstep is _ (allApart_init conf)

section Release

variable {e e' : Engine} {sm : Nif} {x : Subscriber}

/-- What an unsubscription that finds nobody leaves as it was. -/
structure Same (e e' : Engine) : Prop where
  log : e'.log = e.log
  machine : ∀ sm, e'.machine sm = e.machine sm

namespace Same

theorem trans {e'' : Engine} (h : Same e e') (h' : Same e' e'') : Same e e'' :=
  ⟨h'.log.trans h.log, fun sm => (h'.machine sm).trans (h.machine sm)⟩

theorem listedIn (h : Same e e') (id : UInt32) (sm : Nif) :
    e'.listedIn id sm = e.listedIn id sm := by
  rw [Engine.listedIn, h.machine, Engine.listedIn]

theorem onlyModem (h : Same e e') (hm : e.OnlyModem) : e'.OnlyModem := by
  intro sm
  rw [h.machine]
  exact hm sm

theorem allApart (h : Same e e') (ha : e.AllApart) : e'.AllApart := by
  intro sm
  rw [h.machine]
  exact ha sm

theorem closeStatusesOf (h : Same e e') (sm : Nif) :
    e'.closeStatusesOf sm = e.closeStatusesOf sm := by
  rw [Engine.closeStatusesOf, h.machine, Engine.closeStatusesOf]

theorem closeStatuses (h : Same e e') : e'.closeStatuses = e.closeStatuses := by
  simp only [Engine.closeStatuses, h.log, h.closeStatusesOf]

end Same

theorem log_callOn (e : Engine) (sm : Nif) (c : Call × Env) : (e.callOn sm c).log = e.log := by
  cases sm <;> rfl

/-- A machine is asked to release a handle that it does not list. -/
theorem unsubscribe_unlisted (hm : e.OnlyModem) (hsm : sm ≠ .wifi)
    (hx : x.isOf .dataService = true) (hl : e.listedIn x.ID sm = false) (env : Env) :
    (e.unsubscribe sm x env).1 = false ∧ Same e (e.unsubscribe sm x env).2 := by
  unfold unsubscribe
  cases heq : e.machine sm with
  | none => exact ⟨rfl, rfl, fun _ => rfl⟩
  | some m =>
    rw [listedIn, heq] at hl
    have hcall := call_unknown (hm sm hsm m heq) hx hl env
    refine ⟨?_, log_callOn _ _ _, ?_⟩
    · show (unsubscribeRsrc env x m).1 = false
      rw [unsubscribeRsrc_found, find?_equals (hm sm hsm m heq) hx]
      exact hl
    · intro sm'
      rw [machine_callOn]
      split
      · next h => rw [h, heq, Option.map_some, hcall]
      · rfl

/-- A machine is asked to release a handle that it lists. -/
theorem unsubscribe_listed (hm : e.OnlyModem) (ha : e.AllApart) (hsm : sm ≠ .wifi)
    (hx : x.isOf .dataService = true) (hl : e.listedIn x.ID sm = true) (env : Env) :
    (e.unsubscribe sm x env).1 = true ∧
      (e.unsubscribe sm x env).2.closeStatuses = (x.ID, true) ::ₘ e.closeStatuses := by
  unfold unsubscribe
  cases heq : e.machine sm with
  | none =>
    rw [listedIn, heq] at hl
    cases hl
  | some m =>
    rw [listedIn, heq] at hl
    refine ⟨?_, ?_⟩
    · show (unsubscribeRsrc env x m).1 = true
      rw [unsubscribeRsrc_found, find?_equals (hm sm hsm m heq) hx]
      exact hl
    · show (e.callOn sm (.unsubscribeRsrc x, env)).closeStatuses = _
      have hself : (e.callOn sm (.unsubscribeRsrc x, env)).closeStatusesOf sm =
          (x.ID, true) ::ₘ e.closeStatusesOf sm := by
        have hstatus := closeStatuses_unsubscribed (hm sm hsm m heq) (ha sm m heq) hx hl env
        simp only [closeStatusesOf, machine_callOn, if_true, heq, Option.map_some,
          Option.elim_some, hstatus]
        rw [← Multiset.coe_add, Multiset.coe_singleton, add_comm, Multiset.singleton_add]
      have hother : ∀ sm', sm' ≠ sm →
          (e.callOn sm (.unsubscribeRsrc x, env)).closeStatusesOf sm' = e.closeStatusesOf sm' := by
        intro sm' hne
        rw [closeStatusesOf, machine_callOn, if_neg hne, closeStatusesOf]
      -- of the five summands only that of the machine is another
      cases sm with
      | agnss => simp [closeStatuses, hself, hother, log_callOn]
      | internet => simp [closeStatuses, hself, hother, log_callOn]
      | wifi => exact absurd rfl hsm
      | ds => simp [closeStatuses, hself, hother, log_callOn]

/-- **One machine is asked to release a handle**: it finds the handle and answers once, or
nothing happens. -/
theorem unsubscribe_cases (hm : e.OnlyModem) (ha : e.AllApart) (hsm : sm ≠ .wifi)
    (hx : x.isOf .dataService = true) (env : Env) :
    (e.listedIn x.ID sm = true ∧ ∃ e', e.unsubscribe sm x env = (true, e') ∧
        e'.closeStatuses = (x.ID, true) ::ₘ e.closeStatuses) ∨
      e.listedIn x.ID sm = false ∧ ∃ e', e.unsubscribe sm x env = (false, e') ∧ Same e e' := by
  cases hl : e.listedIn x.ID sm with
  | true =>
    obtain ⟨hfound, hstatus⟩ := unsubscribe_listed hm ha hsm hx hl env
    exact Or.inl ⟨rfl, _, Prod.ext hfound rfl, hstatus⟩
  | false =>
    obtain ⟨hfound, hsame⟩ := unsubscribe_unlisted hm hsm hx hl env
    exact Or.inr ⟨rfl, _, Prod.ext hfound rfl, hsame⟩

theorem closeStatuses_say (e : Engine) (h : UInt32) (isSucc : Bool) :
    (e.say (.atlCloseStatus h isSucc)).closeStatuses = (h, isSucc) ::ₘ e.closeStatuses := by
  have hlog : (e.say (.atlCloseStatus h isSucc)).log.filterMap AdapterCall.closeStatus =
      e.log.filterMap AdapterCall.closeStatus ++ [(h, isSucc)] := List.filterMap_append
  have hother : ∀ sm, (e.say (.atlCloseStatus h isSucc)).closeStatusesOf sm =
      e.closeStatusesOf sm := fun sm => by cases sm <;> rfl
  simp only [closeStatuses, hlog, hother]
  rw [← Multiset.coe_add, Multiset.coe_singleton, add_right_comm, add_comm,
    Multiset.singleton_add]

/-- **A release is answered once**, by the first machine that lists the handle, or by the
message where none does. -/
theorem closeStatuses_releaseATL (hm : e.OnlyModem) (ha : e.AllApart) (h : UInt32) (env : Env) :
    (e.releaseATL h env).closeStatuses = (h, e.listed h) ::ₘ e.closeStatuses := by
  have hne : Nif.agnss ≠ .wifi ∧ Nif.internet ≠ .wifi ∧ Nif.ds ≠ .wifi := by decide
  rcases unsubscribe_cases (x := .atl h false) hm ha hne.1 rfl env with
    ⟨hA, e₁, hu₁, hstatus⟩ | ⟨hA, e₁, hu₁, h₁⟩
  · have hlisted : e.listed h = true := by
      rw [listed, show e.listedIn h .agnss = true from hA]
      rfl
    simp only [releaseATL, hu₁, hstatus, hlisted]
    rfl
  rcases unsubscribe_cases (x := .atl h false) (h₁.onlyModem hm) (h₁.allApart ha) hne.2.1 rfl env
    with ⟨hI, e₂, hu₂, hstatus⟩ | ⟨hI, e₂, hu₂, h₂⟩
  · rw [h₁.listedIn] at hI
    have hlisted : e.listed h = true := by
      rw [listed, show e.listedIn h .internet = true from hI, Bool.or_true, Bool.true_or]
    simp only [releaseATL, hu₁, hu₂, hstatus, h₁.closeStatuses, hlisted]
    rfl
  have h₁₂ := h₁.trans h₂
  rw [h₁.listedIn] at hI
  rcases unsubscribe_cases (x := .ds h false) (h₁₂.onlyModem hm) (h₁₂.allApart ha) hne.2.2 rfl env
    with ⟨hD, e₃, hu₃, hstatus⟩ | ⟨hD, e₃, hu₃, h₃⟩
  · rw [h₁₂.listedIn] at hD
    have hlisted : e.listed h = true := by
      rw [listed, show e.listedIn h .ds = true from hD, Bool.or_true]
    simp only [releaseATL, hu₁, hu₂, hu₃, hstatus, h₁₂.closeStatuses, hlisted]
    rfl
  · rw [h₁₂.listedIn] at hD
    have hlisted : e.listed h = false := by
      rw [listed, show e.listedIn h .agnss = false from hA,
        show e.listedIn h .internet = false from hI, show e.listedIn h .ds = false from hD]
      rfl
    simp only [releaseATL, hu₁, hu₂, hu₃, closeStatuses_say, (h₁₂.trans h₃).closeStatuses, hlisted]

end Release

/-- **Every release is answered once.**  In every state that a run can lead to and in which
the three machines list modem subscribers only, `LocEngReleaseATL` sends one close status,
for its own handle, which says whether one of the three has listed it. -/
theorem releaseATL_answered (conf : Conf) (is : List Input) (e : Engine)
    (he : e = exec Engine.step (init conf) is) (hm : e.OnlyModem) (h : UInt32) (env : Env) :
    (e.step (.msg (.releaseATL h) env)).closeStatuses = (h, e.listed h) ::ₘ e.closeStatuses := by
  have ha : e.AllApart := by
    rw [he]
    exact allApart_exec conf is
  exact closeStatuses_releaseATL hm ha h env

/-- The modem holds a regular connection, an internet one and an emergency one. -/
def threeConnections : List Input :=
  [.msg (.dataClientInit 0) .ok, .msg (.requestATL 1 agpsTypeSupl) .ok,
    .msg (.requestATL 2 agpsTypeWwanAny) .ok, .msg (.requestSuplEs 3) .ok]

/-- The emergency one is released. -/
theorem releaseATL_answered_threeConnections :
    ((exec Engine.step (init fullConf) threeConnections).step
      (.msg (.releaseATL 3) .ok)).closeStatuses = {(3, true)} := by
  have hm : (exec Engine.step (init fullConf) threeConnections).OnlyModem := by
    intro sm hsm
    cases sm with
    | wifi => exact absurd rfl hsm
    | _ => decide
  have hanswered := releaseATL_answered fullConf threeConnections _ rfl hm 3 .ok
  exact hanswered.trans (by decide)

end Engine

end Agps
end Nx507j
