import Nx507j.Agps.Answers
import Nx507j.Agps.LocEng

/-!
# The routing of the framework's answers

A machine that needs a data connection asks the framework for it, with the machine's own type in
the request.  The interface through which the framework answers has no type: `loc.cpp` hands
every answer on as one for `AGPS_TYPE_SUPL`.

## Main definitions

* `LocEng.answer` — the calls with which the framework answers a request.
* `Routing` — the engine, with the requests that await an answer and the answers that are queued.
* `delivered` — an answer has reached the machine that asked, and no other.
* `Routing.Routed` — the step processes no answer that goes astray.

## Main results

* `LocEng.Aimed.proc_answer` — what an answer does, whichever machine has asked.
* `Routing.allDelivered_iff` — the runs in which every answer is delivered.
-/

namespace Nx507j
namespace Agps

open AgpsStateMachine Run

/-! ### The interface of `loc.cpp` -/

def agpsApnBearerIpv4 : AGpsBearerType := 0
def agpsApnBearerIpv6 : AGpsBearerType := 1
def agpsApnBearerIpv4v6 : AGpsBearerType := 2

/-- `ApnIpType`, as the `switch` of `loc_agps_open_with_apniptype` takes it apart. -/
inductive ApnIpType
  | apnIpIpv4
  | apnIpIpv6
  | apnIpIpv4v6
  | other
  deriving DecidableEq, Repr

/-- The calls with which the framework answers a request for a data connection. -/
inductive Answer
  | agpsOpen (apn : Option CString)
  | agpsOpenWithApniptype (apn : Option CString) (apnIpType : ApnIpType)
  | agpsOpenFailed
  deriving DecidableEq, Repr

/-- An open without an APN is only logged. -/
def Answer.isTaken : Answer → Bool
  | .agpsOpen apn => apn.isSome
  | .agpsOpenWithApniptype apn _ => apn.isSome
  | .agpsOpenFailed => true

namespace LocEng

/-- `loc_agps_open`. -/
def locAgpsOpen (f : LocEng) (apn : Option CString) : LocEng :=
  f.locEngAgpsOpen agpsTypeSupl apn agpsApnBearerIpv4

/-- `loc_agps_open_with_apniptype`. -/
def locAgpsOpenWithApniptype (f : LocEng) (apn : Option CString) (apnIpType : ApnIpType) :
    LocEng :=
  let bearerType :=
    match apnIpType with
    | .apnIpIpv4 => agpsApnBearerIpv4
    | .apnIpIpv6 => agpsApnBearerIpv6
    | .apnIpIpv4v6 => agpsApnBearerIpv4v6
    | .other => agpsApnBearerInvalid
  f.locEngAgpsOpen agpsTypeSupl apn bearerType

/-- `loc_agps_closed`. -/
def locAgpsClosed (f : LocEng) : LocEng := f.locEngAgpsClosed agpsTypeSupl

/-- `loc_agps_open_failed`. -/
def locAgpsOpenFailed (f : LocEng) : LocEng := f.locEngAgpsOpenFailed agpsTypeSupl

/-- One of the three answers. -/
def answer (f : LocEng) : Answer → LocEng
  | .agpsOpen apn => f.locAgpsOpen apn
  | .agpsOpenWithApniptype apn apnIpType => f.locAgpsOpenWithApniptype apn apnIpType
  | .agpsOpenFailed => f.locAgpsOpenFailed

end LocEng

/-- The message carries an answer. -/
def Msg.isAnswer : Msg → Bool
  | .atlOpenSuccess .. | .atlOpenFailed .. => true
  | _ => false

/-- The machine that one of the framework's messages goes to. -/
def Msg.target : Msg → Option Nif
  | .atlOpenSuccess sm _ _ => sm
  | .atlClosed sm => sm
  | .atlOpenFailed sm => sm
  | _ => none

/-! ### What an answer does to the machines -/

/-- The state of a machine, if it is there. -/
def Engine.stateOf (e : Engine) (sm : Nif) : Option AgpsState :=
  (e.machine sm).map AgpsStateMachine.mStatePtr

/-- The entry is a `GPS_REQUEST_AGPS_DATA_CONN`. -/
def Entry.isConnRequest : Entry → Bool
  | .requestRsrc nifRequest => nifRequest.status == .gpsRequestAgpsDataConn
  | _ => false

/-- The number of connections that a machine has asked the framework for. -/
def Engine.connRequests (e : Engine) (sm : Nif) : ℕ :=
  (e.machine sm).elim 0 fun m => m.log.countP Entry.isConnRequest

/-- The machines that have asked the framework, which hears of it through the status callback. -/
def newRequests (e e' : Engine) : List Nif :=
  if e.agpsStatusCb then
    [.agnss, .internet, .wifi, .ds].flatMap fun sm =>
      List.replicate (e'.connRequests sm - e.connRequests sm) sm
  else []

/-- After an answer the machine that has asked does not wait any longer, and the other ones are
in the state in which they were. -/
def delivered (e e' : Engine) (sm : Nif) : Bool :=
  e'.stateOf sm != some .pending &&
    [.agnss, .internet, .wifi, .ds].all fun sm' => sm' == sm || e'.stateOf sm' == e.stateOf sm'

theorem delivered_iff {e e' : Engine} {sm : Nif} :
    delivered e e' sm = true ↔
      e'.stateOf sm ≠ some .pending ∧ ∀ sm', sm' ≠ sm → e'.stateOf sm' = e.stateOf sm' := by
  have hall : ∀ sm' : Nif, sm' ∈ [Nif.agnss, .internet, .wifi, .ds] := by
    intro sm'
    cases sm' <;> decide
  simp only [delivered, Bool.and_eq_true, bne_iff_ne, List.all_eq_true, Bool.or_eq_true,
    beq_iff_eq, hall, true_imp_iff]
  refine and_congr_right fun _ => forall_congr' fun sm' => ?_
  rw [or_iff_not_imp_left]

/-- A machine takes an answer exactly when it waits for one. -/
theorem Serves.answered {k : Kind} {m : AgpsStateMachine} (h : Serves k m) {event : AgpsRsrcStatus}
    (he : event = .rsrcGranted ∨ event = .rsrcDenied) (env : Env) :
    (m.call (.onRsrcEvent event, env)).mStatePtr ≠ .pending ∧
      ((m.call (.onRsrcEvent event, env)).mStatePtr = m.mStatePtr ↔ m.mStatePtr ≠ .pending) := by
  have hstep := call_step m (.onRsrcEvent event, env)
  generalize m.call (.onRsrcEvent event, env) = m' at hstep ⊢
  cases hstep with
  | ignored event hp ha hr =>
    have hne : m.mStatePtr ≠ .pending := by
      intro hs
      rcases he with rfl | rfl
      · exact (hp hs).1 rfl
      · exact (hp hs).2.1 rfl
    exact ⟨hne, iff_of_true rfl hne⟩
  | granted hs => exact ⟨by simp, by simp [hs]⟩
  | denied event hs he => exact ⟨by simp, by simp [hs]⟩
  | revoked hs => rcases he with he | he <;> cases he
  | closed event hs he hact => exact absurd hs h.settled
  | reopened event hs he hact => exact absurd hs h.settled

namespace Engine

theorem stateOf_callOn (e : Engine) (sm sm' : Nif) (c : Call × Env) :
    (e.callOn sm c).stateOf sm' =
      if sm' = sm then (e.machine sm).map fun m => (m.call c).mStatePtr else e.stateOf sm' := by
  rw [stateOf, machine_callOn]
  split
  · rw [Option.map_map]
    rfl
  · rfl

/-- What an answer does: it goes to `agnss_nif`, and is taken there if that machine waits. -/
structure Answered (e e' : Engine) : Prop where
  others : ∀ sm, sm ≠ .agnss → e'.stateOf sm = e.stateOf sm
  agnss : e'.stateOf .agnss ≠ some .pending
  unmoved : e'.stateOf .agnss = e.stateOf .agnss ↔ e.stateOf .agnss ≠ some .pending

/-- Without an `agnss_nif` an answer does nothing. -/
theorem answered_of_none {e : Engine} (h : e.machine .agnss = none) : Answered e e where
  others := fun _ _ => rfl
  agnss := by simp [stateOf, h]
  unmoved := by simp [stateOf, h]

theorem answered_callOn {k : Kind} {e : Engine} {event : AgpsRsrcStatus} {m : AgpsStateMachine}
    (hm : e.machine .agnss = some m) (h : Serves k m)
    (he : event = .rsrcGranted ∨ event = .rsrcDenied) (env : Env) :
    Answered e (e.callOn .agnss (.onRsrcEvent event, env)) where
  others := by
    intro sm hsm
    rw [stateOf_callOn, if_neg hsm]
  agnss := by
    rw [stateOf_callOn, if_pos rfl, hm]
    simpa using (h.answered he env).1
  unmoved := by
    rw [stateOf_callOn, if_pos rfl, stateOf, hm]
    simpa using (h.answered he env).2

/-- The APN and the bearer are set before. -/
theorem Answered.after {e e₁ e₂ : Engine} (h : ∀ sm, e₁.stateOf sm = e.stateOf sm)
    (ha : Answered e₁ e₂) : Answered e e₂ where
  others := fun sm hsm => (ha.others sm hsm).trans (h sm)
  agnss := ha.agnss
  unmoved := by
    rw [← h .agnss]
    exact ha.unmoved

/-- An answer is delivered to `agnss_nif`, and counts as one to another machine where it meets
nobody who waits. -/
theorem Answered.delivered_iff {e e' : Engine} (h : Answered e e') (sm : Nif) :
    delivered e e' sm = true ↔
      sm = .agnss ∨ e.stateOf sm ≠ some .pending ∧ e.stateOf .agnss ≠ some .pending := by
  rw [Agps.delivered_iff]
  by_cases hsm : sm = .agnss
  · subst hsm
    exact iff_of_true ⟨h.agnss, h.others⟩ (Or.inl rfl)
  · rw [or_iff_right hsm, h.others sm hsm, ← h.unmoved]
    refine and_congr_right fun _ => ⟨fun hall => hall .agnss (Ne.symm hsm), ?_⟩
    intro hagnss sm' _
    by_cases hsm' : sm' = .agnss
    · subst hsm'
      exact hagnss
    · exact h.others sm' hsm'

/-- The messages of the modem and of the framework keep `agnss_nif` out of Releasing. -/
theorem serves_step {e : Engine} {i : Input} (hi : i.isATL = true)
    (he : ∀ m ∈ e.machine .agnss, Serves .atl m) :
    ∀ m ∈ (e.step i).machine .agnss, Serves .atl m := by
  refine step_machine nofun (fun m c hc hm => hm.call c (hc hi)) ?_ he
  rintro env rfl
  cases hi

end Engine

/-! ### Where the queued answers go -/

/-- The machine that `getAgpsStateMachine` gives for `AGPS_TYPE_SUPL`. -/
def Conf.suplNif (conf : Conf) : Option Nif := if conf.hasAgnss then some .agnss else none

theorem Engine.Equipped.getAgpsStateMachine_supl {conf : Conf} {e : Engine} (h : e.Equipped conf) :
    e.getAgpsStateMachine agpsTypeSupl = conf.suplNif := by
  have hne : agpsTypeSupl ≠ agpsTypeWifi := by decide
  have hagnss : (e.machine .agnss).isSome = conf.hasAgnss := h.agnss
  simp only [Engine.getAgpsStateMachine, if_neg hne, or_true, if_true, hagnss, Conf.suplNif]

namespace LocEng

/-- Every queued message is the modem's or the framework's, and the answers among them go to the
machine for `AGPS_TYPE_SUPL`. -/
structure Aimed (conf : Conf) (f : LocEng) : Prop where
  equipped : f.engine.Equipped conf
  serves : ∀ m ∈ f.engine.machine .agnss, Serves .atl m
  atl : ∀ m ∈ f.queue, m.isATL = true
  target : ∀ m ∈ f.queue, m.isAnswer = true → m.target = conf.suplNif

theorem aimed_init (conf : Conf) (verbose : Bool) : Aimed conf (init conf verbose) where
  equipped := Engine.equipped_init conf
  serves := by
    intro m hm
    simp only [init, Engine.init, Engine.machine, Option.mem_def] at hm
    split at hm
    · obtain rfl := Option.some.inj hm
      exact serves_new (Or.inl rfl) agpsTypeSupl
    · cases hm
  atl := fun _ hm => absurd hm List.not_mem_nil
  target := fun _ hm => absurd hm List.not_mem_nil

namespace Aimed

variable {conf : Conf} {f : LocEng}

/-- A step of the engine that is none of the daemons' keeps the engine's side of it, and takes
no message into the queue. -/
theorem engine_step (h : Aimed conf f) {f' : LocEng} {i : Engine.Input} (hi : i.isATL = true)
    (he : f'.engine = f.engine.step i) (hq : ∀ m ∈ f'.queue, m ∈ f.queue) : Aimed conf f' where
  equipped := by
    rw [he]
    exact h.equipped.step i
  serves := by
    rw [he]
    exact Engine.serves_step hi h.serves
  atl := fun m hm => h.atl m (hq m hm)
  target := fun m hm => h.target m (hq m hm)

/-- A message is posted. -/
theorem post (h : Aimed conf f) {f' : LocEng} {m : Msg} (he : f'.engine = f.engine)
    (hq : f'.queue = f.queue ++ [m]) (hm : m.isATL = true)
    (ht : m.isAnswer = true → m.target = conf.suplNif) : Aimed conf f' where
  equipped := by
    rw [he]
    exact h.equipped
  serves := by
    rw [he]
    exact h.serves
  atl := by
    rw [hq, List.forall_mem_append, List.forall_mem_singleton]
    exact ⟨h.atl, hm⟩
  target := by
    rw [hq, List.forall_mem_append, List.forall_mem_singleton]
    exact ⟨h.target, ht⟩

/-- An answer that is taken posts a message to the machine for `AGPS_TYPE_SUPL`, and one that is
not does nothing. -/
theorem answer_cases (h : Aimed conf f) (hcb : conf.statusCb = true) (a : Answer) :
    a.isTaken = false ∧ f.answer a = f ∨
      a.isTaken = true ∧ (f.answer a).engine = f.engine ∧ ∃ m, (f.answer a).queue = f.queue ++ [m] ∧
        m.isATL = true ∧ m.isAnswer = true ∧ m.target = conf.suplNif := by
  have hcb' : f.engine.agpsStatusCb = true := h.equipped.statusCb.trans hcb
  have hsupl := h.equipped.getAgpsStateMachine_supl
  have hopen : ∀ (apn : Option CString) (bearerType : AGpsBearerType),
      apn.isSome = false ∧ f.locEngAgpsOpen agpsTypeSupl apn bearerType = f ∨
        apn.isSome = true ∧ (f.locEngAgpsOpen agpsTypeSupl apn bearerType).engine = f.engine ∧
          ∃ m, (f.locEngAgpsOpen agpsTypeSupl apn bearerType).queue = f.queue ++ [m] ∧
            m.isATL = true ∧ m.isAnswer = true ∧ m.target = conf.suplNif := by
    intro apn bearerType
    have hengine := f.engine_agpsOpen agpsTypeSupl apn bearerType
    simp only [locEngAgpsOpen, hcb', Bool.not_true, if_neg Bool.false_ne_true] at hengine ⊢
    cases apn with
    | none => exact Or.inl ⟨rfl, rfl⟩
    | some apn => exact Or.inr ⟨rfl, hengine, _, rfl, rfl, rfl, hsupl⟩
  cases a with
  | agpsOpen apn => exact hopen apn _
  | agpsOpenWithApniptype apn apnIpType => exact hopen apn _
  | agpsOpenFailed =>
    refine Or.inr ⟨rfl, f.engine_agpsOpenFailed agpsTypeSupl, ?_⟩
    simp only [answer, locAgpsOpenFailed, locEngAgpsOpenFailed, hcb', Bool.not_true,
      if_neg Bool.false_ne_true]
    exact ⟨_, rfl, rfl, rfl, hsupl⟩

/-- **An answer goes to `agnss_nif`**, whichever machine has asked. -/
theorem proc_answer (h : Aimed conf f) {m : Msg} {queue : List Msg} (hq : f.queue = m :: queue)
    (hm : m.isAnswer = true) (env : Env) : Engine.Answered f.engine (f.proc env).engine := by
  have ht := h.target m (hq ▸ List.mem_cons_self) hm
  have hagnss : (f.engine.machine .agnss).isSome = conf.hasAgnss := h.equipped.agnss
  rw [engine_proc env hq]
  cases hsm : f.engine.machine .agnss with
  | none =>
    -- the message follows the null pointer that the call has found
    rw [hsm] at hagnss
    rw [Conf.suplNif, ← hagnss, Option.isSome_none, if_neg Bool.false_ne_true] at ht
    have hproc : m.proc f.engine env = none := by
      cases m with
      | atlOpenSuccess target apn bearer =>
        obtain rfl : target = none := ht
        rfl
      | atlOpenFailed target =>
        obtain rfl : target = none := ht
        rfl
      | _ => cases hm
    rw [Engine.step, hproc, Option.getD_none]
    exact Engine.answered_of_none hsm
  | some sm =>
    rw [hsm] at hagnss
    rw [Conf.suplNif, ← hagnss, Option.isSome_some, if_pos rfl] at ht
    have hserves := h.serves sm hsm
    cases m with
    | atlOpenSuccess target apn bearer =>
      obtain rfl : target = some .agnss := ht
      have hmachine : ((f.engine.callOn .agnss (.setBearer bearer, env)).callOn .agnss
          (.setAPN (some apn), env)).machine .agnss =
          some ((sm.call (.setBearer bearer, env)).call (.setAPN (some apn), env)) := by
        simp only [Engine.machine_callOn, if_true, hsm, Option.map_some]
      refine Engine.Answered.after ?_ (Engine.answered_callOn hmachine
        ((hserves.call (.setBearer bearer, env) rfl).call (.setAPN (some apn), env) rfl)
        (Or.inl rfl) env)
      -- the two calls before leave every machine in its state
      intro sm'
      by_cases hsm' : sm' = .agnss
      · subst hsm'
        rw [Engine.stateOf, hmachine, Engine.stateOf, hsm]
        rfl
      · simp only [Engine.stateOf_callOn, if_neg hsm']
    | atlOpenFailed target =>
      obtain rfl : target = some .agnss := ht
      exact Engine.answered_callOn hsm hserves (Or.inr rfl) env
    | _ => cases hm

end Aimed

end LocEng

/-! ### Requests and answers -/

/-- The engine, with the machines whose requests the framework has not answered, and those whose
answers are queued, oldest first.  `misrouted` says that an answer was not delivered. -/
structure Routing where
  loc : LocEng
  unanswered : List Nif
  answering : List Nif
  misrouted : Bool
  deriving DecidableEq, Repr

namespace Routing

/-- The state after `loc_eng_agps_init`. -/
def init (conf : Conf) (verbose : Bool) : Routing := ⟨.init conf verbose, [], [], false⟩

/-- What can happen: a message of the modem or the data services is sent; the framework answers
a request of the machine `sm`, or reports that a connection is closed; or the engine takes a
step. -/
inductive Input
  | send (m : Msg)
  | answer (sm : Nif) (a : Answer)
  | closed
  | proc (env : Env)
  | timer
  | deliver (env : Env)
  deriving DecidableEq, Repr

/-- The engine has taken a step to `f`. -/
def moved (w : Routing) (f : LocEng) : Routing :=
  { w with
    loc := f
    unanswered := w.unanswered ++ newRequests w.loc.engine f.engine }

/-- The oldest answer has been processed. -/
def processed (w : Routing) (f : LocEng) : Routing :=
  match w.answering with
  | sm :: answering =>
    { w with
      answering := answering
      misrouted := w.misrouted || !delivered w.loc.engine f.engine sm }
  | [] => { w with misrouted := true }

/-- One step.  Every request is answered once; an answer that posts no message has been
processed at once. -/
def step (w : Routing) : Input → Routing
  | .send m => if m.isATL then { w with loc := w.loc.step (.send m) } else w
  | .answer sm a =>
    if sm ∈ w.unanswered then
      let f := w.loc.answer a
      let w := { w with unanswered := w.unanswered.erase sm }
      if f.queue = w.loc.queue then
        { w with
          loc := f
          misrouted := w.misrouted || !delivered w.loc.engine f.engine sm }
      else { w with loc := f, answering := w.answering ++ [sm] }
    else w
  | .closed => { w with loc := w.loc.locAgpsClosed }
  | .proc env =>
    let f := w.loc.proc env
    if w.loc.queue.head?.any Msg.isAnswer then (w.processed f).moved f else w.moved f
  | .timer => w.moved (w.loc.step .timer)
  | .deliver env => w.moved (w.loc.step (.deliver env))

/-- Every answer so far was delivered. -/
def AllDelivered (w : Routing) : Prop := w.misrouted = false

/-- The step processes no answer that goes astray: one to a machine other than `agnss_nif` while
that machine waits, or `agnss_nif` does, or an open without an APN to a machine that waits. -/
def Routed (w : Routing) : Input → Prop
  | .answer sm a =>
    sm ∈ w.unanswered → a.isTaken = false → w.loc.engine.stateOf sm ≠ some .pending
  | .proc _ =>
    w.loc.queue.head?.any Msg.isAnswer = true → ∀ sm ∈ w.answering.head?,
      sm = .agnss ∨ w.loc.engine.stateOf sm ≠ some .pending ∧
        w.loc.engine.stateOf .agnss ≠ some .pending
  | _ => True

/-- The queued answers are those that the framework has given, in their order. -/
structure Sound (conf : Conf) (w : Routing) : Prop where
  aimed : w.loc.Aimed conf
  answers : w.loc.queue.countP Msg.isAnswer = w.answering.length
  asked : w.unanswered ≠ [] → conf.statusCb = true

theorem sound_init (conf : Conf) (verbose : Bool) : Sound conf (init conf verbose) where
  aimed := LocEng.aimed_init conf verbose
  answers := rfl
  asked := fun h => absurd rfl h

section Step

variable {conf : Conf} {w : Routing}

/-- The engine takes a step.  Only one with a status callback asks the framework. -/
theorem sound_moved (he : w.loc.engine.Equipped conf)
    (hasked : w.unanswered ≠ [] → conf.statusCb = true) {f : LocEng} (hf : f.Aimed conf)
    (hanswers : f.queue.countP Msg.isAnswer = w.answering.length) : Sound conf (w.moved f) where
  aimed := hf
  answers := hanswers
  asked := by
    intro hne
    by_contra hcb
    have hun : w.unanswered = [] := by
      by_contra hun
      exact hcb (hasked hun)
    have hnew : newRequests w.loc.engine f.engine = [] := by
      rw [newRequests, he.statusCb, if_neg hcb]
    rw [Routing.moved, hun, hnew] at hne
    exact hne rfl

/-- An answer that is processed is one that a machine awaits. -/
theorem Sound.processed_eq (h : Sound conf w) {m : Msg} {queue : List Msg}
    (hq : w.loc.queue = m :: queue) (hm : m.isAnswer = true) (f : LocEng) :
    ∃ sm answering, w.answering = sm :: answering ∧
      queue.countP Msg.isAnswer = answering.length ∧
      w.processed f =
        { w with
          answering := answering
          misrouted := w.misrouted || !delivered w.loc.engine f.engine sm } := by
  have hcount := h.answers
  rw [hq, List.countP_cons_of_pos hm] at hcount
  cases hanswering : w.answering with
  | nil =>
    rw [hanswering] at hcount
    cases hcount
  | cons sm answering =>
    rw [hanswering, List.length_cons, Nat.add_right_cancel_iff] at hcount
    exact ⟨sm, answering, rfl, hcount, by rw [processed, hanswering]⟩

/-- The first message of the queue is not an answer. -/
theorem countP_tail {q : List Msg} (h : ¬ q.head?.any Msg.isAnswer = true) :
    q.tail.countP Msg.isAnswer = q.countP Msg.isAnswer := by
  cases q with
  | nil => rfl
  | cons m q =>
    have hm : ¬ m.isAnswer = true := h
    rw [List.countP_cons_of_neg hm, List.tail_cons]

/-- The first message of the queue is an answer. -/
theorem exists_answer {q : List Msg} (h : q.head?.any Msg.isAnswer = true) :
    ∃ m queue, q = m :: queue ∧ m.isAnswer = true := by
  cases q with
  | nil => cases h
  | cons m q => exact ⟨m, q, rfl, h⟩

theorem aimed_proc (h : w.loc.Aimed conf) (env : Env) : (w.loc.proc env).Aimed conf := by
  rcases hq : w.loc.queue with _ | ⟨m, queue⟩
  · rw [LocEng.proc_of_nil hq]
    exact h
  · refine h.engine_step (i := .msg m env) (h.atl m (hq ▸ List.mem_cons_self))
      (LocEng.engine_proc env hq) fun m' hm' => ?_
    rw [LocEng.queue_proc] at hm'
    exact List.mem_of_mem_tail hm'

/-- Every step keeps the answers in their order, and aimed at `agnss_nif`. -/
theorem Sound.step (h : Sound conf w) (i : Input) : Sound conf (w.step i) := by
  have haimed := h.aimed
  cases i with
  | send m =>
    simp only [Routing.step, LocEng.step]
    split
    · next hm =>
      split
      · exact h
      · next hf =>
        have hanswer : m.isAnswer = false := by
          cases m <;> first | rfl | exact absurd rfl hf
        refine ⟨haimed.post rfl rfl hm fun ha => ?_, ?_, h.asked⟩
        · rw [hanswer] at ha
          cases ha
        · rw [← h.answers, LocEng.sendMsg, List.countP_append,
            List.countP_singleton, hanswer, if_neg Bool.false_ne_true, Nat.add_zero]
    · exact h
  | answer sm a =>
    simp only [Routing.step]
    by_cases hsm : sm ∈ w.unanswered
    swap
    · rw [if_neg hsm]
      exact h
    have hcb := h.asked (List.ne_nil_of_mem hsm)
    have hasked : w.unanswered.erase sm ≠ [] → conf.statusCb = true := fun _ => hcb
    rw [if_pos hsm]
    rcases haimed.answer_cases hcb a with ⟨-, hf⟩ | ⟨-, he, m, hq, hm, hanswer, ht⟩
    · rw [hf, if_pos rfl]
      exact ⟨haimed, h.answers, hasked⟩
    · have hne : (w.loc.answer a).queue ≠ w.loc.queue := by
        rw [hq]
        simp
      rw [if_neg hne]
      refine ⟨haimed.post he hq hm fun _ => ht, ?_, hasked⟩
      rw [hq, List.countP_append, h.answers, List.countP_singleton, if_pos hanswer,
        List.length_append, List.length_singleton]
  | closed =>
    have he := w.loc.engine_agpsClosed agpsTypeSupl
    simp only [Routing.step, LocEng.locAgpsClosed]
    rw [LocEng.locEngAgpsClosed] at he ⊢
    split
    · exact h
    · refine ⟨haimed.post rfl rfl rfl fun ha => absurd ha Bool.false_ne_true, ?_, h.asked⟩
      rw [← h.answers, LocEng.sendMsg, List.countP_append]
      rfl
  | proc env =>
    simp only [Routing.step]
    have hproc := aimed_proc haimed env
    split
    · next hhead =>
      obtain ⟨m, queue, hq, hm⟩ := exists_answer hhead
      obtain ⟨sm, answering, -, hcount, heq⟩ := h.processed_eq hq hm (w.loc.proc env)
      have hqueue : (w.loc.proc env).queue.countP Msg.isAnswer = answering.length := by
        rw [LocEng.queue_proc, hq]
        exact hcount
      rw [heq]
      apply sound_moved
      · exact haimed.equipped
      · exact h.asked
      · exact hproc
      · exact hqueue
    · next hhead =>
      refine sound_moved haimed.equipped h.asked hproc ?_
      rw [LocEng.queue_proc, countP_tail hhead]
      exact h.answers
  | timer =>
    exact sound_moved haimed.equipped h.asked
      (haimed.engine_step (i := .timer) rfl rfl fun _ hm => hm) h.answers
  | deliver env =>
    exact sound_moved haimed.equipped h.asked
      (haimed.engine_step (i := .deliver env) rfl rfl fun _ hm => hm) h.answers

/-- **A step keeps every answer delivered** exactly when it processes none that goes astray. -/
theorem allDelivered_step (h : Sound conf w) (hw : w.AllDelivered) (i : Input) :
    (w.step i).AllDelivered ↔ w.Routed i := by
  have hw' : w.misrouted = false := hw
  cases i with
  | send m =>
    refine iff_of_true ?_ trivial
    simp only [Routing.step, AllDelivered]
    split <;> exact hw
  | answer sm a =>
    simp only [Routing.step, AllDelivered, Routed]
    by_cases hsm : sm ∈ w.unanswered
    swap
    · rw [if_neg hsm]
      exact iff_of_true hw fun h => absurd h hsm
    rw [if_pos hsm]
    rcases h.aimed.answer_cases (h.asked (List.ne_nil_of_mem hsm)) a with
      ⟨htaken, hf⟩ | ⟨htaken, -, m, hq, -⟩
    · -- nothing is posted, so the machine must not have waited
      rw [hf, if_pos rfl, hw', Bool.false_or, Bool.not_eq_false', delivered_iff]
      simp [hsm, htaken]
    · have hne : (w.loc.answer a).queue ≠ w.loc.queue := by
        rw [hq]
        simp
      rw [if_neg hne, htaken]
      exact iff_of_true hw nofun
  | closed => exact iff_of_true hw trivial
  | proc env =>
    simp only [Routing.step, AllDelivered, Routed]
    split
    · next hhead =>
      obtain ⟨m, queue, hq, hm⟩ := exists_answer hhead
      obtain ⟨sm, answering, hanswering, -, heq⟩ := h.processed_eq hq hm (w.loc.proc env)
      have hdelivered := (h.aimed.proc_answer hq hm env).delivered_iff sm
      rw [heq, hanswering]
      simp only [moved, hw', Bool.false_or, Bool.not_eq_false', hdelivered, hhead, true_imp_iff,
        List.head?_cons, Option.mem_some, forall_eq']
    · next hhead =>
      refine iff_of_true hw fun h => absurd h hhead
  | timer => exact iff_of_true hw trivial
  | deliver env => exact iff_of_true hw trivial

end Step

/-! ### Runs -/

/-- **The runs in which every answer is delivered** to the machine that has asked, and moves no
other machine: those in which no step processes an answer that goes astray. -/
theorem allDelivered_iff (conf : Conf) (verbose : Bool) (is : List Input) :
    Always step AllDelivered (init conf verbose) is ↔
      StepsMeet step Routed (init conf verbose) is :=
  always_iff_stepsMeet (fun _ i hs _ => hs.step i) (fun _ i hs hw => allDelivered_step hs hw i) is
    (init conf verbose) (sound_init conf verbose) rfl

/-- The modem asks for a connection of each of two machines, and the framework reports that the
second one is open. -/
def secondOpened : List Input :=
  [.send (.requestATL 1 agpsTypeSupl), .proc .ok, .send (.requestATL 2 agpsTypeWwanAny), .proc .ok,
    .answer .internet (.agpsOpen (some [110, 101, 116])), .proc .ok]

/-- The first machine takes the answer, and the second one waits on. -/
theorem secondOpened_misrouted :
    ¬ Always step AllDelivered (init Engine.fullConf false) secondOpened ∧
      (exec step (init Engine.fullConf false) secondOpened).loc.engine.stateOf .agnss =
        some .acquired ∧
      (exec step (init Engine.fullConf false) secondOpened).loc.engine.stateOf .internet =
        some .pending := by
  have hlast : (exec step (init Engine.fullConf false) secondOpened).misrouted = true := by decide
  refine ⟨fun h => ?_, by decide, by decide⟩
  have hno : AllDelivered (exec step (init Engine.fullConf false) secondOpened) :=
    h.2.2.2.2.2.2
  rw [AllDelivered, hlast] at hno
  cases hno

end Routing

end Agps
end Nx507j
