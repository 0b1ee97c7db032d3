import Nx507j.Agps.DataService

/-!
# The machines of the engine

The four machines of `loc_eng.cpp`, as `loc_eng_agps_init` leaves them, and the messages
that the engine's thread processes for them: requests of the modem and of the
daemons, answers of the framework and of the data services, and the restart of the
modem.

## Main definitions

* `Engine` — the machines, any of which may be missing.
* `Msg.proc` — what processing a message does; `none` where it would follow a null pointer.
* `Engine.step` — a message, a retry timer, or a message that the machines posted.
* `Engine.StepTo` — what a step can do, one constructor each.

## Main results

* `step_cases` — a step is one of these.
* `step_machine`, `machines_step` — what a step makes of one machine, and of all.
* `attended_iff` — when a restart of the modem leaves nobody waiting unattended.
-/

namespace Nx507j
namespace Agps

open AgpsStateMachine Run

/-! ### The engine -/

/-- One of the four machine pointers. -/
inductive Nif
  | agnss
  | internet
  | wifi
  | ds
  deriving DecidableEq, Repr

/-- The machines.  `dataClientInit` says that a `LocEngDataClientInit` has been posted
and not been processed; `log` holds the calls that the messages make of the adapter
themselves. -/
structure Engine where
  agnssNif : Option AgpsStateMachine
  internetNif : Option AgpsStateMachine
  wifiNif : Option AgpsStateMachine
  dsNif : Option DataService
  agpsStatusCb : Bool
  dataClientInit : Bool
  log : List AdapterCall
  deriving DecidableEq, Repr

/-- `GPS_CAPABILITY_MSB`. -/
def gpsCapabilityMsb : UInt32 := 0x2

/-- `GPS_CAPABILITY_MSA`. -/
def gpsCapabilityMsa : UInt32 := 0x4

/-- What `loc_eng_agps_init` looks at. -/
structure Conf where
  capabilities : UInt32
  statusCb : Bool
  supportsAgpsRequests : Bool
  useEmergencyPdnForEmergencySupl : Bool
  deriving DecidableEq, Repr

namespace Engine

/-- The state after `loc_eng_agps_init`. -/
def init (conf : Conf) : Engine :=
  let ms := conf.capabilities &&& gpsCapabilityMsa ≠ 0 ∨ conf.capabilities &&& gpsCapabilityMsb ≠ 0
  { agnssNif := if ms then some (new agpsTypeSupl false) else none
    internetNif := some (new agpsTypeWwanAny false)
    wifiNif := some (new agpsTypeWifi true)
    dsNif := none
    agpsStatusCb := conf.statusCb
    dataClientInit :=
      ms && conf.supportsAgpsRequests && conf.useEmergencyPdnForEmergencySupl
    log := [] }

/-- The machine that a pointer points to. -/
def machine (e : Engine) : Nif → Option AgpsStateMachine
  | .agnss => e.agnssNif
  | .internet => e.internetNif
  | .wifi => e.wifiNif
  | .ds => e.dsNif.map DataService.sm

/-- A call on a machine; nothing, where there is no machine. -/
def callOn (sm : Nif) (c : Call × Env) (e : Engine) : Engine :=
  match sm with
  | .agnss => { e with agnssNif := e.agnssNif.map (·.call c) }
  | .internet => { e with internetNif := e.internetNif.map (·.call c) }
  | .wifi => { e with wifiNif := e.wifiNif.map (·.call c) }
  | .ds => { e with dsNif := e.dsNif.map (·.call c) }

/-- Makes a call of the adapter. -/
def say (call : AdapterCall) (e : Engine) : Engine := { e with log := e.log ++ [call] }

/-- `getAgpsStateMachine`. -/
def getAgpsStateMachine (e : Engine) (agpsType : AGpsExtType) : Option Nif :=
  let sm : Nif :=
    if agpsType = agpsTypeWifi then .wifi
    else if agpsType = agpsTypeInvalid ∨ agpsType = agpsTypeSupl then .agnss
    else if agpsType = agpsTypeSuplEs then (if e.dsNif.isSome then .ds else .agnss)
    else .internet
  if (e.machine sm).isSome then some sm else none

/-- `sm->unsubscribeRsrc`, if there is a machine: whether it has found the subscriber. -/
def unsubscribe (sm : Nif) (x : Subscriber) (env : Env) (e : Engine) : Bool × Engine :=
  match e.machine sm with
  | some m => ((unsubscribeRsrc env x m).1, e.callOn sm (.unsubscribeRsrc x, env))
  | none => (false, e)

/-- `LocEngRequestSuplEs::proc`. -/
def requestSuplEs (id : UInt32) (env : Env) (e : Engine) : Engine :=
  if e.dsNif.isSome then e.callOn .ds (.subscribeRsrc (.ds id false), env)
  else if e.agnssNif.isSome then e.callOn .agnss (.subscribeRsrc (.atl id false), env)
  else e.say (.atlOpenStatus id false none (-1) (-1))

/-- `LocEngRequestATL::proc`. -/
def requestATL (id : UInt32) (agpsType : AGpsExtType) (env : Env) (e : Engine) : Engine :=
  match e.getAgpsStateMachine agpsType with
  | some sm => e.callOn sm (.subscribeRsrc (.atl id (agpsType == agpsTypeInvalid)), env)
  | none => e.say (.atlOpenStatus id false none (-1) agpsType)

/-- `LocEngReleaseATL::proc`: the first machine that lists the handle is the only one
asked to release it. -/
def releaseATL (id : UInt32) (env : Env) (e : Engine) : Engine :=
  match e.unsubscribe .agnss (.atl id false) env with
  | (true, e) => e
  | (false, e) =>
    match e.unsubscribe .internet (.atl id false) env with
    | (true, e) => e
    | (false, e) =>
      match e.unsubscribe .ds (.ds id false) env with
      | (true, e) => e
      | (false, e) => e.say (.atlCloseStatus id false)

/-- `loc_eng_handle_engine_up`. -/
def handleEngineUp (e : Engine) : Engine :=
  if e.agpsStatusCb then
    { e with
      agnssNif := e.agnssNif.map dropAllSubscribers
      internetNif := e.internetNif.map dropAllSubscribers }
  else e

end Engine

/-! ### Messages -/

/-- A message for the engine's thread.  A framework answer carries the pointer that
`getAgpsStateMachine` gave when it was posted. -/
inductive Msg
  | atlOpenSuccess (sm : Option Nif) (apn : CString) (bearer : AGpsBearerType)
  | atlClosed (sm : Option Nif)
  | atlOpenFailed (sm : Option Nif)
  | suplEsOpened
  | suplEsClosed
  | requestSuplEs (id : UInt32)
  | requestATL (id : UInt32) (agpsType : AGpsExtType)
  | releaseATL (id : UInt32)
  | reqRelBIT (agpsType : AGpsExtType) (ipv4 : UInt32) (ipv6 : Option (Vector UInt8 16))
      (isReq : Bool)
  | reqRelWifi (agpsType : AGpsExtType) (senderId : SenderId) (ssid password : Option CString)
      (isReq : Bool)
  | dataClientInit (ret : Int32)
  | up
  deriving DecidableEq, Repr

/-- The virtual `proc`. -/
def Msg.proc (e : Engine) (env : Env) : Msg → Option Engine
  | .atlOpenSuccess sm apn bearer =>
    sm.map fun sm => ((e.callOn sm (.setBearer bearer, env)).callOn sm
      (.setAPN (some apn), env)).callOn sm (.onRsrcEvent .rsrcGranted, env)
  | .atlClosed sm => sm.map fun sm => e.callOn sm (.onRsrcEvent .rsrcReleased, env)
  | .atlOpenFailed sm => sm.map fun sm => e.callOn sm (.onRsrcEvent .rsrcDenied, env)
  | .suplEsOpened => some (e.callOn .ds (.onRsrcEvent .rsrcGranted, env))
  | .suplEsClosed => some (e.callOn .ds (.onRsrcEvent .rsrcReleased, env))
  | .requestSuplEs id => some (e.requestSuplEs id env)
  | .requestATL id agpsType => some (e.requestATL id agpsType env)
  | .releaseATL id => some (e.releaseATL id env)
  | .reqRelBIT agpsType ipv4 ipv6 isReq =>
    let s : Subscriber := .bit ipv4 (ipv6.getD (Vector.replicate 16 0))
    (e.getAgpsStateMachine agpsType).map fun sm =>
      e.callOn sm (if isReq then .subscribeRsrc s else .unsubscribeRsrc s, env)
  | .reqRelWifi agpsType senderId ssid password isReq =>
    let s : Subscriber := .wifi senderId ssid password false
    if e.wifiNif.isSome then
      some (e.callOn .wifi (if isReq then .subscribeRsrc s else .unsubscribeRsrc s, env))
    else some (e.say (.atlOpenStatus senderId.toUInt32 false none (-1) agpsType))
  | .dataClientInit ret =>
    -- the message is posted once, by `loc_eng_agps_init`
    if e.dataClientInit then
      some { e with
        dataClientInit := false
        dsNif := if ret = 0 then some .new else e.dsNif }
    else some e
  | .up => some e.handleEngineUp

namespace Engine

/-- What can happen: a message from outside is processed, a retry timer of the data service
fires, or the oldest message that its machine has posted is processed. -/
inductive Input
  | msg (m : Msg) (env : Env)
  | timer
  | deliver (env : Env)
  deriving DecidableEq, Repr

/-- One step.  A message that would follow a null pointer changes nothing. -/
def step (e : Engine) : Input → Engine
  | .msg m env => (m.proc e env).getD e
  | .timer => { e with dsNif := e.dsNif.map DataService.timer }
  | .deliver env =>
    let e' := { e with dsNif := e.dsNif.map (·.deliver env) }
    match e.dsNif with
    | some ⟨_, _, .requestATL id agpsType :: _⟩ => e'.requestATL id agpsType env
    | _ => e'

/-! ### What a step makes of one machine -/

theorem machine_callOn (e : Engine) (sm sm' : Nif) (c : Call × Env) :
    (e.callOn sm c).machine sm' =
      if sm' = sm then (e.machine sm).map (·.call c) else e.machine sm' := by
  -- a call on the data service is a call on its machine
  have hds : (e.dsNif.map (·.call c)).map DataService.sm =
      (e.dsNif.map DataService.sm).map (·.call c) := by
    rw [Option.map_map, Option.map_map]
    rfl
  cases sm <;> cases sm' <;> first | rfl | exact hds

theorem dsNif_callOn (e : Engine) (sm : Nif) (c : Call × Env) :
    (e.callOn sm c).dsNif = if sm = .ds then e.dsNif.map (·.call c) else e.dsNif := by
  cases sm <;> rfl

/-- `e'` comes from `e` by calls on the machines that `P` allows, and calls of the adapter. -/
inductive Calls (P : Nif → Call → Prop) (e : Engine) : Engine → Prop
  | refl : Calls P e e
  | callOn {e' : Engine} (h : Calls P e e') (sm : Nif) (c : Call × Env) (hc : P sm c.1) :
      Calls P e (e'.callOn sm c)
  | say {e' : Engine} (h : Calls P e e') (call : AdapterCall) : Calls P e (e'.say call)

/-- What the calls on a machine keep, they keep together. -/
theorem Calls.machine {P : Nif → Call → Prop} {Q : AgpsStateMachine → Prop} {e e' : Engine}
    {sm : Nif} (h : Calls P e e') (hQ : ∀ m c, P sm c.1 → Q m → Q (m.call c))
    (he : ∀ m ∈ e.machine sm, Q m) : ∀ m ∈ e'.machine sm, Q m := by
  induction h with
  | refl => exact he
  | say h call ih => exact ih
  | callOn h sm' c hc ih =>
    intro m hm
    rw [machine_callOn] at hm
    split at hm
    · next hsm =>
      subst hsm
      obtain ⟨m', hm', rfl⟩ := Option.map_eq_some_iff.mp hm
      exact hQ m' c hc (ih m' hm')
    · exact ih m hm

theorem Calls.dsNif {P : Nif → Call → Prop} {Q : DataService → Prop} {e e' : Engine}
    (h : Calls P e e') (hQ : ∀ d c, P .ds c.1 → Q d → Q (d.call c))
    (he : ∀ d ∈ e.dsNif, Q d) : ∀ d ∈ e'.dsNif, Q d := by
  induction h with
  | refl => exact he
  | say h call ih => exact ih
  | callOn h sm' c hc ih =>
    intro d hd
    rw [dsNif_callOn] at hd
    split at hd
    · next hsm =>
      subst hsm
      obtain ⟨d', hd', rfl⟩ := Option.map_eq_some_iff.mp hd
      exact hQ d' c hc (ih d' hd')
    · exact ih d hd

end Engine

/-- The message asks for a resource for the subscriber with this ID. -/
def Msg.requests (id : UInt32) : Msg → Bool
  | .requestSuplEs id' => id' == id
  | .requestATL id' _ => id' == id
  | .reqRelBIT _ ipv4 _ isReq => isReq && ipv4 == id
  | .reqRelWifi _ senderId _ _ isReq => isReq && senderId.toUInt32 == id
  | _ => false

/-- The message is none of the daemons', and no restart. -/
def Msg.isATL : Msg → Bool
  | .reqRelBIT .. | .reqRelWifi .. | .up => false
  | _ => true

/-- The subscribers that the machine has without the daemons. -/
def Nif.kind : Nif → Kind
  | .ds => .dataService
  | _ => .atl

/-- The message denies `ds_nif` its resource. -/
def Msg.deniesDs : Msg → Bool
  | .atlOpenFailed sm => sm == some .ds
  | _ => false

/-- What a message calls on a machine. -/
structure Msg.Makes (m : Msg) (sm : Nif) (c : Call) : Prop where
  isOf : m.isATL = true → c.isOf sm.kind = true
  requests : ∀ x, c = .subscribeRsrc x → m.requests x.ID = true
  denies : sm = .ds → c = .onRsrcEvent .rsrcDenied → m.deniesDs = true

namespace Engine

/-- A request makes one call, or answers itself. -/
theorem requestATL_calls {P : Nif → Call → Prop} (id : UInt32) (agpsType : AGpsExtType)
    (e : Engine) (env : Env) (hP : ∀ sm b, P sm (.subscribeRsrc (.atl id b))) :
    Calls P e (e.requestATL id agpsType env) := by
  unfold requestATL
  split
  · exact .callOn .refl _ _ (hP _ _)
  · exact .say .refl _

/-- A release makes calls on the machines one after the other. -/
theorem releaseATL_calls {P : Nif → Call → Prop} {id : UInt32} (e : Engine) (env : Env)
    (hatl : ∀ sm, P sm (.unsubscribeRsrc (.atl id false)))
    (hds : P .ds (.unsubscribeRsrc (.ds id false))) : Calls P e (e.releaseATL id env) := by
  have hun : ∀ {e' : Engine} (sm : Nif) (x : Subscriber), Calls P e e' →
      P sm (.unsubscribeRsrc x) → Calls P e (e'.unsubscribe sm x env).2 := by
    intro e' sm x h hc
    unfold unsubscribe
    split
    · exact .callOn h sm _ hc
    · exact h
  have h₁ := hun .agnss _ .refl (hatl .agnss)
  unfold releaseATL
  split
  · next heq =>
    rw [heq] at h₁
    exact h₁
  · next heq =>
    rw [heq] at h₁
    have h₂ := hun .internet _ h₁ (hatl .internet)
    split
    · next heq =>
      rw [heq] at h₂
      exact h₂
    · next heq =>
      rw [heq] at h₂
      have h₃ := hun .ds _ h₂ hds
      split
      · next heq =>
        rw [heq] at h₃
        exact h₃
      · next heq =>
        rw [heq] at h₃
        exact .say h₃ _

/-- A message other than the two that touch the machines themselves makes calls on them. -/
theorem proc_calls {m : Msg} {e e' : Engine} {env : Env} (hup : m ≠ .up)
    (hinit : ∀ ret, m ≠ .dataClientInit ret) (h : m.proc e env = some e') :
    Calls m.Makes e e' := by
  have hevent : ∀ (m : Msg) (sm : Nif) (event : AgpsRsrcStatus), event ≠ .rsrcDenied →
      m.Makes sm (.onRsrcEvent event) := fun m sm event hne =>
    ⟨fun _ => rfl, nofun, fun _ h => absurd (Call.onRsrcEvent.inj h) hne⟩
  cases m with
  | atlOpenSuccess sm apn bearer =>
    obtain ⟨sm, -, rfl⟩ := Option.map_eq_some_iff.mp h
    refine .callOn (.callOn (.callOn .refl sm _ ?_) sm _ ?_) sm _ (hevent _ _ _ nofun)
    · exact ⟨fun _ => rfl, nofun, nofun⟩
    · exact ⟨fun _ => rfl, nofun, nofun⟩
  | atlClosed sm =>
    obtain ⟨sm, -, rfl⟩ := Option.map_eq_some_iff.mp h
    exact .callOn .refl sm _ (hevent _ _ _ nofun)
  | atlOpenFailed sm =>
    obtain ⟨sm, rfl, rfl⟩ := Option.map_eq_some_iff.mp h
    refine .callOn .refl sm _ ⟨fun _ => rfl, nofun, ?_⟩
    rintro rfl -
    rfl
  | suplEsOpened =>
    obtain rfl := Option.some.inj h
    exact .callOn .refl .ds _ (hevent _ _ _ nofun)
  | suplEsClosed =>
    obtain rfl := Option.some.inj h
    exact .callOn .refl .ds _ (hevent _ _ _ nofun)
  | requestSuplEs id =>
    obtain rfl := Option.some.inj h
    unfold requestSuplEs
    split
    · refine .callOn .refl .ds _ ⟨fun _ => rfl, ?_, nofun⟩
      intro x hx
      cases hx
      exact beq_self_eq_true id
    · split
      · refine .callOn .refl .agnss _ ⟨fun _ => rfl, ?_, nofun⟩
        intro x hx
        cases hx
        exact beq_self_eq_true id
      · exact .say .refl _
  | requestATL id agpsType =>
    obtain rfl := Option.some.inj h
    refine requestATL_calls id agpsType e env fun sm b =>
      ⟨fun _ => by cases sm <;> rfl, ?_, nofun⟩
    intro x hx
    cases hx
    exact beq_self_eq_true id
  | releaseATL id =>
    -- a release only unsubscribes
    obtain rfl := Option.some.inj h
    exact releaseATL_calls e env (fun sm => ⟨fun _ => by cases sm <;> rfl, nofun, nofun⟩)
      ⟨fun _ => rfl, nofun, nofun⟩
  | reqRelBIT agpsType ipv4 ipv6 isReq =>
    obtain ⟨sm, -, rfl⟩ := Option.map_eq_some_iff.mp h
    refine .callOn .refl sm _ ⟨nofun, ?_, ?_⟩
    · intro x hx
      cases isReq
      · cases hx
      · cases hx
        exact beq_self_eq_true ipv4
    · cases isReq <;> exact nofun
  | reqRelWifi agpsType senderId ssid password isReq =>
    simp only [Msg.proc] at h
    split at h
    · obtain rfl := Option.some.inj h
      refine .callOn .refl .wifi _ ⟨nofun, ?_, nofun⟩
      intro x hx
      cases isReq
      · cases hx
      · cases hx
        exact beq_self_eq_true senderId.toUInt32
    · obtain rfl := Option.some.inj h
      exact .say .refl _
  | dataClientInit ret => exact absurd rfl (hinit ret)
  | up => exact absurd rfl hup

/-- What a step can do, one constructor each.  A message that would follow a null pointer, a
restart without a callback and a `LocEngDataClientInit` that was not posted make no call. -/
inductive StepTo (e : Engine) : Input → Engine → Prop
  | calls {m : Msg} {env : Env} {e' : Engine} (h : Calls m.Makes e e') : StepTo e (.msg m env) e'
  | up (env : Env) (hcb : e.agpsStatusCb = true) :
    StepTo e (.msg .up env)
      { e with
        agnssNif := e.agnssNif.map dropAllSubscribers
        internetNif := e.internetNif.map dropAllSubscribers }
  | dataClientInit (ret : Int32) (env : Env) (h : e.dataClientInit = true) :
    StepTo e (.msg (.dataClientInit ret) env)
      { e with
        dataClientInit := false
        dsNif := if ret = 0 then some .new else e.dsNif }
  | timer : StepTo e .timer { e with dsNif := e.dsNif.map DataService.timer }
  | deliver (env : Env) : StepTo e (.deliver env) { e with dsNif := e.dsNif.map (·.deliver env) }
  | deliverATL (id : UInt32) (agpsType : AGpsExtType) (env : Env) {sm : AgpsStateMachine}
      {timers : ℕ} {queue : List Post}
      (h : e.dsNif = some ⟨sm, timers, .requestATL id agpsType :: queue⟩) :
    StepTo e (.deliver env)
      (requestATL id agpsType env { e with dsNif := e.dsNif.map (·.deliver env) })

/-- **What a step of the engine does** is one of these. -/
theorem step_cases (e : Engine) (i : Input) : StepTo e i (e.step i) := by
  cases i with
  | timer => exact .timer
  | deliver env =>
    simp only [step]
    split
    · next heq => exact .deliverATL _ _ env heq
    · exact .deliver env
  | msg m env =>
    rw [step]
    cases hp : m.proc e env with
    | none => exact .calls .refl
    | some e' =>
      rw [Option.getD_some]
      by_cases hup : m = .up
      · subst hup
        obtain rfl := Option.some.inj hp
        unfold handleEngineUp
        split
        · next hcb => exact .up env hcb
        · exact .calls .refl
      by_cases hinit : ∃ ret, m = .dataClientInit ret
      · obtain ⟨ret, rfl⟩ := hinit
        simp only [Msg.proc] at hp
        split at hp <;> obtain rfl := Option.some.inj hp
        · next h => exact .dataClientInit ret env h
        · exact .calls .refl
      · exact .calls (proc_calls hup (fun ret h => hinit ⟨ret, h⟩) hp)

/-- The step is none of the daemons', and no restart. -/
def Input.isATL : Input → Bool
  | .msg m _ => m.isATL
  | _ => true

/-- What a step makes of a machine of the framework: what its calls keep, and a restart
where there is one, the step keeps. -/
theorem step_machine {Q : AgpsStateMachine → Prop} {e : Engine} {i : Input} {sm : Nif}
    (hsm : sm ≠ .ds) (hcall : ∀ m c, (i.isATL = true → c.1.isOf .atl = true) → Q m → Q (m.call c))
    (hdrop : ∀ env, i = .msg .up env → e.agpsStatusCb = true → sm ≠ .wifi →
      ∀ m, Q m → Q m.dropAllSubscribers)
    (he : ∀ m ∈ e.machine sm, Q m) : ∀ m ∈ (e.step i).machine sm, Q m := by
  have hkind : sm.kind = .atl := by
    cases sm <;> first | rfl | exact absurd rfl hsm
  have hstep := step_cases e i
  generalize e.step i = e' at hstep ⊢
  cases hstep with
  | calls h =>
    refine h.machine (fun m' c hc => hcall m' c fun hi => ?_) he
    rw [← hkind]
    exact hc.isOf hi
  | up env hcb =>
    -- a restart is no call, so it is followed on its own
    intro m' hm'
    cases sm with
    | agnss =>
      obtain ⟨m, hm, rfl⟩ := Option.map_eq_some_iff.mp hm'
      exact hdrop env rfl hcb (by decide) m (he m hm)
    | internet =>
      obtain ⟨m, hm, rfl⟩ := Option.map_eq_some_iff.mp hm'
      exact hdrop env rfl hcb (by decide) m (he m hm)
    | wifi => exact he m' hm'
    | ds => exact absurd rfl hsm
  | dataClientInit ret env h => cases sm <;> first | exact he | exact absurd rfl hsm
  | timer => cases sm <;> first | exact he | exact absurd rfl hsm
  | deliver env => cases sm <;> first | exact he | exact absurd rfl hsm
  | deliverATL id agpsType env h =>
    -- the message may go on to a machine of the framework
    have he' : ∀ m ∈ machine { e with dsNif := e.dsNif.map (·.deliver env) } sm, Q m := by
      cases sm <;> first | exact he | exact absurd rfl hsm
    have hcalls := requestATL_calls (P := fun sm c => c.isOf sm.kind = true) id agpsType
      { e with dsNif := e.dsNif.map (·.deliver env) } env fun sm b => by cases sm <;> rfl
    refine hcalls.machine (fun m c hc => hcall m c fun _ => ?_) he'
    rw [← hkind]
    exact hc

/-- What the calls, the retries, a restart and the constructor keep of the machines, a step
keeps. -/
theorem machines_step {Q : AgpsStateMachine → Prop} {e : Engine} {i : Input}
    (hcall : ∀ m c, Q m → Q (m.call c)) (hsay : ∀ m entry, Q m → Q (m.say entry))
    (hdrop : ∀ m, Q m → Q m.dropAllSubscribers) (hnew : Q newDS)
    (he : ∀ sm, ∀ m ∈ e.machine sm, Q m) : ∀ sm, ∀ m ∈ (e.step i).machine sm, Q m := by
  intro sm
  by_cases hsm : sm = .ds
  swap
  · exact step_machine hsm (fun m c _ hm => hcall m c hm) (fun _ _ _ _ m hm => hdrop m hm) (he sm)
  subst hsm
  have hds : ∀ d ∈ e.dsNif, Q d.sm := fun d hd => he .ds d.sm (Option.mem_map_of_mem _ hd)
  have hdeliver : ∀ env, ∀ d ∈ e.dsNif.map (·.deliver env), Q d.sm := by
    intro env d' hd'
    obtain ⟨d, hd, rfl⟩ := Option.map_eq_some_iff.mp hd'
    exact DataService.step_keeps (i := .deliver env) (hds d hd)
      (fun c _ => hcall _ c (hds d hd)) fun _ => hsay _ _ (hds d hd)
  suffices h : ∀ d ∈ (e.step i).dsNif, Q d.sm by
    intro m hm
    obtain ⟨d, hd, rfl⟩ := Option.map_eq_some_iff.mp hm
    exact h d hd
  have hstep := step_cases e i
  generalize e.step i = e' at hstep ⊢
  cases hstep with
  | calls h => exact h.dsNif (Q := fun d => Q d.sm) (fun d c _ hd => hcall d.sm c hd) hds
  | up env hcb => exact hds
  | dataClientInit ret env h =>
    intro d hd
    change d ∈ (if ret = 0 then some DataService.new else e.dsNif) at hd
    split at hd
    · obtain rfl := Option.some.inj hd
      exact hnew
    · exact hds d hd
  | timer =>
    intro d' hd'
    obtain ⟨d, hd, rfl⟩ := Option.map_eq_some_iff.mp hd'
    exact DataService.step_keeps (i := .timer) (hds d hd) (fun c _ => hcall _ c (hds d hd))
      fun _ => hsay _ _ (hds d hd)
  | deliver env => exact hdeliver env
  | deliverATL id agpsType env h =>
    have hcalls := requestATL_calls (P := fun _ _ => True) id agpsType
      { e with dsNif := e.dsNif.map (·.deliver env) } env fun _ _ => trivial
    exact hcalls.dsNif (Q := fun d => Q d.sm) (fun d c _ hd => hcall d.sm c hd) (hdeliver env)

/-! ### The restart of the modem -/

/-- The two machines that serve the modem's connections. -/
def ServesModem (sm : Nif) : Prop := sm = .agnss ∨ sm = .internet

/-- The machine waits for the resource, or holds it. -/
def Holds (m : AgpsStateMachine) : Prop := m.mStatePtr = .pending ∨ m.mStatePtr = .acquired

/-- Each of the two machines is in Pending or Acquired only with an active subscriber. -/
def HoldsForSomebody (e : Engine) : Prop :=
  ∀ sm, ServesModem sm → ∀ m ∈ e.machine sm, Holds m → m.mSubscribers.any (·.isActive) = true

/-- A restart of the modem finds neither of the two machines in Pending or Acquired. -/
def QuietRestart (e : Engine) : Input → Prop
  | .msg .up _ => e.agpsStatusCb = true → ∀ sm, ServesModem sm → ∀ m ∈ e.machine sm, ¬ Holds m
  | _ => True

/-- What a restart leaves of the relation between state and list: nobody is listed in
Released. -/
def Plain (e : Engine) : Prop :=
  ∀ sm, ServesModem sm → ∀ m ∈ e.machine sm,
    m.ds = none ∧ (m.mStatePtr = .released → m.mSubscribers = [])

theorem attended_of {e : Engine} (hp : e.Plain) (hh : e.HoldsForSomebody) {sm : Nif}
    (hsm : ServesModem sm) : ∀ m ∈ e.machine sm, Attended m := by
  intro m hm
  obtain ⟨hbase, hrel⟩ := hp sm hsm m hm
  exact ⟨hbase, hrel, hh sm hsm m hm⟩

theorem attended_init (conf : Conf) {sm : Nif} (hsm : ServesModem sm) :
    ∀ m ∈ (init conf).machine sm, Attended m := by
  intro m hm
  rcases hsm with rfl | rfl
  · simp only [init, machine, Option.mem_def] at hm
    split at hm
    · obtain rfl := Option.some.inj hm
      exact attended_new _ _
    · cases hm
  · obtain rfl := Option.some.inj hm
    exact attended_new _ _

/-- A step that is no restart leaves nobody unattended. -/
theorem attended_step {e : Engine} {i : Input} (hi : ∀ env, i ≠ .msg .up env) {sm : Nif}
    (hsm : ServesModem sm) (he : ∀ m ∈ e.machine sm, Attended m) :
    ∀ m ∈ (e.step i).machine sm, Attended m := by
  have hne : sm ≠ .ds := by
    rcases hsm with rfl | rfl <;> exact nofun
  exact step_machine hne (fun m c _ hm => (call_step m c).attended hm)
    (fun env h => absurd h (hi env)) he

theorem plain_of_attended {e : Engine} (h : ∀ sm, ServesModem sm → ∀ m ∈ e.machine sm, Attended m) :
    e.Plain ∧ e.HoldsForSomebody := by
  constructor
  · intro sm hsm m hm
    exact ⟨(h sm hsm m hm).base, (h sm hsm m hm).released⟩
  · intro sm hsm m hm
    exact (h sm hsm m hm).active

/-- A step that is no restart keeps both. -/
theorem plain_step {e : Engine} {i : Input} (hi : ∀ env, i ≠ .msg .up env) (hp : e.Plain)
    (hh : e.HoldsForSomebody) : (e.step i).Plain ∧ (e.step i).HoldsForSomebody := by
  apply plain_of_attended
  intro sm hsm
  exact attended_step hi hsm (attended_of hp hh hsm)

theorem handleEngineUp_of_no_callback {e : Engine} (hcb : e.agpsStatusCb ≠ true) :
    e.handleEngineUp = e := if_neg hcb

/-- A restart flushes the lists and leaves the states as they are. -/
theorem machine_handleEngineUp {e : Engine} {sm : Nif} (hsm : ServesModem sm)
    (hcb : e.agpsStatusCb = true) :
    e.handleEngineUp.machine sm = (e.machine sm).map dropAllSubscribers := by
  unfold handleEngineUp
  rw [if_pos hcb]
  rcases hsm with rfl | rfl <;> rfl

theorem plain_handleEngineUp {e : Engine} (hp : e.Plain) : e.handleEngineUp.Plain := by
  by_cases hcb : e.agpsStatusCb = true
  · intro sm hsm m hm
    rw [machine_handleEngineUp hsm hcb] at hm
    obtain ⟨m', hm', rfl⟩ := Option.map_eq_some_iff.mp hm
    exact ⟨(hp sm hsm m' hm').1, fun _ => rfl⟩
  · rw [handleEngineUp_of_no_callback hcb]
    exact hp

/-- After a restart nobody is listed, so a machine that holds a connection then holds it for
nobody. -/
theorem holdsForSomebody_handleEngineUp {e : Engine} {env : Env} (hh : e.HoldsForSomebody) :
    e.handleEngineUp.HoldsForSomebody ↔ e.QuietRestart (.msg .up env) := by
  by_cases hcb : e.agpsStatusCb = true
  · constructor
    · intro h _ sm hsm m hm hholds
      have hm' : m.dropAllSubscribers ∈ e.handleEngineUp.machine sm := by
        rw [machine_handleEngineUp hsm hcb]
        exact Option.mem_map_of_mem _ hm
      have hact := h sm hsm _ hm' hholds
      cases hact
    · intro h sm hsm m hm hholds
      rw [machine_handleEngineUp hsm hcb] at hm
      obtain ⟨m', hm', rfl⟩ := Option.map_eq_some_iff.mp hm
      exact absurd hholds (h hcb sm hsm m' hm')
  · rw [handleEngineUp_of_no_callback hcb]
    exact iff_of_true hh fun h => absurd h hcb

theorem quietRestart_of_ne {e : Engine} {i : Input} (hi : ∀ env, i ≠ .msg .up env) :
    e.QuietRestart i := by
  unfold QuietRestart
  split
  · next env => exact absurd rfl (hi env)
  · trivial

/-- **When a restart leaves nobody waiting unattended.**  In a run, `agnss_nif` and
`internet_nif` are in Pending or Acquired only with an active subscriber, exactly when
every restart of the modem finds them in neither of the two states. -/
theorem attended_iff (conf : Conf) (is : List Input) :
    Always Engine.step HoldsForSomebody (init conf) is ↔
      StepsMeet Engine.step QuietRestart (init conf) is := by
  obtain ⟨hplain, hholds⟩ := plain_of_attended fun _ hsm => attended_init conf hsm
  refine always_iff_stepsMeet ?_ ?_ is _ hplain hholds
  · intro e i hp hh
    by_cases hi : ∃ env, i = .msg .up env
    · obtain ⟨env, rfl⟩ := hi
      exact plain_handleEngineUp hp
    · exact (plain_step (fun env h => hi ⟨env, h⟩) hp hh).1
  · intro e i hp hh
    by_cases hi : ∃ env, i = .msg .up env
    · obtain ⟨env, rfl⟩ := hi
      exact holdsForSomebody_handleEngineUp hh
    · have hne : ∀ env, i ≠ .msg .up env := fun env h => hi ⟨env, h⟩
      exact iff_of_true (plain_step hne hp hh).2 (quietRestart_of_ne hne)

/-- The modem restarts while a connection that it asked for is being set up. -/
def restarted : List Input := [.msg (.requestATL 1 agpsTypeSupl) .ok, .msg .up .ok]

/-- Everything that `loc_eng_agps_init` can set up. -/
def fullConf : Conf := ⟨0x6, true, true, true⟩

/-- Nobody is left to wait for the connection. -/
theorem restarted_unattended : ¬ HoldsForSomebody (exec Engine.step (init fullConf) restarted) := by
  have h : (exec Engine.step (init fullConf) restarted).agnssNif.map (fun m =>
      (m.mStatePtr, m.mSubscribers)) = some (.pending, []) := by decide
  intro hh
  obtain ⟨m, hm, heq⟩ := Option.map_eq_some_iff.mp h
  obtain ⟨hs, hl⟩ := Prod.mk.inj heq
  have hact := hh .agnss (Or.inl rfl) m hm (Or.inl hs)
  rw [hl] at hact
  cases hact

end Engine

end Agps
end Nx507j
