import Nx507j.Agps.Engine

/-!
# The framework's calls and the message queue

`loc_eng_agps_open`, `loc_eng_agps_closed` and `loc_eng_agps_open_failed` run on a thread of the
framework.  They look up the machine for a type, and post a message with the pointer they have
found; the engine's thread follows the pointer later.

## Main definitions

* `LocEng` — the engine with the queue of its adapter.
* `LocEng.step` — a call of the framework, a message that is sent, or one that is processed.
* `LocEng.Harmless` — no null pointer has been followed, and no queued message will follow one.
* `Input.needsAgnss` — the calls and messages that need `agnss_nif`.

## Main results

* `Equipped.step` — which machines there are never changes.
* `LocEng.harmless_iff` — the runs in which every machine that is used is there.
-/

namespace Nx507j
namespace Agps

open AgpsStateMachine Run

/-! ### Which machines there are -/

/-- `loc_eng_agps_init` makes an `agnss_nif`. -/
def Conf.hasAgnss (conf : Conf) : Bool :=
  conf.capabilities &&& gpsCapabilityMsa != 0 || conf.capabilities &&& gpsCapabilityMsb != 0

/-- The types for which `getAgpsStateMachine` has nothing but `agnss_nif` as long as there is no
`ds_nif`. -/
def forAgnss (agpsType : AGpsExtType) : Bool :=
  agpsType == agpsTypeInvalid || agpsType == agpsTypeSupl || agpsType == agpsTypeSuplEs

namespace Engine

/-- The machines that the configuration asks for.  A `ds_nif` is only made beside an
`agnss_nif`. -/
structure Equipped (conf : Conf) (e : Engine) : Prop where
  agnss : e.agnssNif.isSome = conf.hasAgnss
  internet : e.internetNif.isSome = true
  wifi : e.wifiNif.isSome = true
  ds : e.dsNif.isSome = true → conf.hasAgnss = true
  dataClientInit : e.dataClientInit = true → conf.hasAgnss = true
  statusCb : e.agpsStatusCb = conf.statusCb

theorem equipped_init (conf : Conf) : Equipped conf (init conf) where
  agnss := by
    simp only [init, Conf.hasAgnss]
    split
    · next h => simpa using h
    · next h => simpa using h
  internet := rfl
  wifi := rfl
  ds := nofun
  dataClientInit := by
    simp only [init, Conf.hasAgnss, Bool.and_eq_true, decide_eq_true_eq, Bool.or_eq_true,
      bne_iff_ne]
    exact fun h => h.1.1
  statusCb := rfl

theorem Equipped.callOn {conf : Conf} {e : Engine} (h : Equipped conf e) (sm : Nif)
    (c : Call × Env) : Equipped conf (e.callOn sm c) := by
  cases sm with
  | agnss => exact { h with agnss := Option.isSome_map.trans h.agnss }
  | internet => exact { h with internet := Option.isSome_map.trans h.internet }
  | wifi => exact { h with wifi := Option.isSome_map.trans h.wifi }
  | ds => exact { h with ds := fun hd => h.ds (Option.isSome_map.symm.trans hd) }

theorem Equipped.calls {conf : Conf} {P : Nif → Call → Prop} {e e' : Engine}
    (h : Equipped conf e) (hcalls : Calls P e e') : Equipped conf e' := by
  induction hcalls with
  | refl => exact h
  | callOn hcalls sm c hc ih => exact ih.callOn sm c
  | say hcalls call ih => exact { ih with }

/-- **No step changes which machines there are**, but for the one that makes `ds_nif`. -/
theorem Equipped.step {conf : Conf} {e : Engine} (h : Equipped conf e) (i : Input) :
    Equipped conf (e.step i) := by
  have hmap : ∀ f : DataService → DataService,
      Equipped conf { e with dsNif := e.dsNif.map f } := fun f =>
    { h with ds := fun hd => h.ds (Option.isSome_map.symm.trans hd) }
  have hstep := step_cases e i
  generalize e.step i = e' at hstep ⊢
  cases hstep with
  | calls hcalls => exact h.calls hcalls
  | up env hcb =>
    exact { h with
      agnss := Option.isSome_map.trans h.agnss
      internet := Option.isSome_map.trans h.internet }
  | dataClientInit ret env hd =>
    have hagnss := h.dataClientInit hd
    exact { h with ds := fun _ => hagnss, dataClientInit := fun _ => hagnss }
  | timer => exact hmap _
  | deliver env => exact hmap _
  | deliverATL id agpsType env hq =>
    exact (hmap _).calls (requestATL_calls (P := fun _ _ => True) id agpsType _ env
      fun _ _ => trivial)

/-- The machine for a type is there. -/
theorem Equipped.isSome_getAgpsStateMachine {conf : Conf} {e : Engine} (h : Equipped conf e)
    (agpsType : AGpsExtType) :
    (e.getAgpsStateMachine agpsType).isSome = (conf.hasAgnss || !forAgnss agpsType) := by
  have hne : agpsTypeWifi ≠ agpsTypeInvalid ∧ agpsTypeWifi ≠ agpsTypeSupl ∧
      agpsTypeWifi ≠ agpsTypeSuplEs := by decide
  have hpick : ∀ sm : Nif, (if (e.machine sm).isSome = true then some sm else none).isSome =
      (e.machine sm).isSome := by
    intro sm
    cases (e.machine sm).isSome <;> rfl
  rw [getAgpsStateMachine, hpick, forAgnss]
  by_cases hw : agpsType = agpsTypeWifi
  · subst hw
    simp [hne, machine, h.wifi]
  by_cases hs : agpsType = agpsTypeInvalid ∨ agpsType = agpsTypeSupl
  · rw [if_neg hw, if_pos hs]
    rcases hs with rfl | rfl <;> simp [machine, h.agnss]
  rw [if_neg hw, if_neg hs]
  rw [not_or] at hs
  by_cases hes : agpsType = agpsTypeSuplEs
  · rw [if_pos hes]
    cases hd : e.dsNif.isSome with
    | true => simp [machine, hd, h.ds hd]
    | false => simp [machine, h.agnss, hes]
  · rw [if_neg hes]
    simp [machine, h.internet, hs, hes]

end Engine

/-! ### The framework's calls -/

/-- The message is one that the framework's calls post. -/
def Msg.isFrameworks : Msg → Bool
  | .atlOpenSuccess .. | .atlClosed .. | .atlOpenFailed .. => true
  | _ => false

/-- The engine with the messages that its thread has to process, oldest first.  `verbose` says
that `LOC_LOGV` evaluates its arguments, `fault` that a null machine pointer has been
followed. -/
structure LocEng where
  engine : Engine
  queue : List Msg
  verbose : Bool
  fault : Bool
  deriving DecidableEq, Repr

namespace LocEng

def maxApnLen : ℕ := 100

/-- The state after `loc_eng_agps_init`. -/
def init (conf : Conf) (verbose : Bool) : LocEng := ⟨.init conf, [], verbose, false⟩

/-- `adapter->sendMsg`. -/
def sendMsg (f : LocEng) (m : Msg) : LocEng := { f with queue := f.queue ++ [m] }

/-- `loc_eng_agps_open`.  The constructor of `LocEngAtlOpenSuccess` logs the type of the
machine. -/
def locEngAgpsOpen (f : LocEng) (agpsType : AGpsExtType) (apn : Option CString)
    (bearerType : AGpsBearerType) : LocEng :=
  if !f.engine.agpsStatusCb then f
  else
    match apn with
    | none => f
    | some apn =>
      let sm := f.engine.getAgpsStateMachine agpsType
      { f.sendMsg (.atlOpenSuccess sm (apn.take maxApnLen) bearerType) with
        fault := f.fault || f.verbose && sm.isNone }

/-- `loc_eng_agps_closed`. -/
def locEngAgpsClosed (f : LocEng) (agpsType : AGpsExtType) : LocEng :=
  if !f.engine.agpsStatusCb then f
  else f.sendMsg (.atlClosed (f.engine.getAgpsStateMachine agpsType))

/-- `loc_eng_agps_open_failed`. -/
def locEngAgpsOpenFailed (f : LocEng) (agpsType : AGpsExtType) : LocEng :=
  if !f.engine.agpsStatusCb then f
  else f.sendMsg (.atlOpenFailed (f.engine.getAgpsStateMachine agpsType))

/-- The engine's thread processes the oldest message. -/
def proc (f : LocEng) (env : Env) : LocEng :=
  match f.queue with
  | [] => f
  | m :: queue =>
    match m.proc f.engine env with
    | some engine => { f with engine := engine, queue := queue }
    | none => { f with queue := queue, fault := true }

/-- What can happen: a call of the framework, a message of the modem, the daemons or the data
services, which none of these calls posts, or a step of the engine. -/
inductive Input
  | agpsOpen (agpsType : AGpsExtType) (apn : Option CString) (bearerType : AGpsBearerType)
  | agpsClosed (agpsType : AGpsExtType)
  | agpsOpenFailed (agpsType : AGpsExtType)
  | send (m : Msg)
  | proc (env : Env)
  | timer
  | deliver (env : Env)
  deriving DecidableEq, Repr

/-- One step. -/
def step (f : LocEng) : Input → LocEng
  | .agpsOpen agpsType apn bearerType => f.locEngAgpsOpen agpsType apn bearerType
  | .agpsClosed agpsType => f.locEngAgpsClosed agpsType
  | .agpsOpenFailed agpsType => f.locEngAgpsOpenFailed agpsType
  | .send m => if m.isFrameworks then f else f.sendMsg m
  | .proc env => f.proc env
  | .timer => { f with engine := f.engine.step .timer }
  | .deliver env => { f with engine := f.engine.step (.deliver env) }

/-- A call that posts a message to `agnss_nif`, or a message that looks for it. -/
def Input.needsAgnss (conf : Conf) : Input → Bool
  | .agpsOpen agpsType apn _ => conf.statusCb && apn.isSome && forAgnss agpsType
  | .agpsClosed agpsType => conf.statusCb && forAgnss agpsType
  | .agpsOpenFailed agpsType => conf.statusCb && forAgnss agpsType
  | .send (.reqRelBIT agpsType _ _ _) => forAgnss agpsType
  | _ => false

/-- No null pointer has been followed, and none will be by a message that is queued. -/
def Harmless (f : LocEng) : Prop :=
  f.fault = false ∧ ∀ m ∈ f.queue, ∀ env, (m.proc f.engine env).isSome = true

/-! ### What a message follows -/

/-- The machine that the message uses without a check is there. -/
def findsMachine (conf : Conf) : Msg → Bool
  | .atlOpenSuccess sm _ _ => sm.isSome
  | .atlClosed sm => sm.isSome
  | .atlOpenFailed sm => sm.isSome
  | .reqRelBIT agpsType _ _ _ => conf.hasAgnss || !forAgnss agpsType
  | _ => true

section Step

variable {conf : Conf} {f : LocEng}

theorem isSome_proc {e : Engine} (h : e.Equipped conf) (m : Msg) (env : Env) :
    (m.proc e env).isSome = findsMachine conf m := by
  cases m with
  | atlOpenSuccess sm apn bearer => exact Option.isSome_map
  | atlClosed sm => exact Option.isSome_map
  | atlOpenFailed sm => exact Option.isSome_map
  | reqRelBIT agpsType ipv4 ipv6 isReq =>
    exact Option.isSome_map.trans (h.isSome_getAgpsStateMachine agpsType)
  | reqRelWifi agpsType senderId ssid password isReq =>
    simp only [Msg.proc, h.wifi, if_true]
    rfl
  | dataClientInit ret =>
    simp only [Msg.proc]
    split <;> rfl
  | _ => rfl

/-- What is harmless, in the terms of the configuration. -/
theorem harmless_iff_queue (h : f.engine.Equipped conf) :
    f.Harmless ↔ f.fault = false ∧ f.queue.all (findsMachine conf) = true := by
  have hne : Nonempty Env := ⟨.ok⟩
  simp only [Harmless, isSome_proc h, List.all_eq_true, forall_const]

/-- The calls of the framework leave the machines to the engine's thread. -/
theorem engine_agpsOpen (f : LocEng) (agpsType : AGpsExtType) (apn : Option CString)
    (bearerType : AGpsBearerType) : (f.locEngAgpsOpen agpsType apn bearerType).engine = f.engine := by
  unfold locEngAgpsOpen
  split
  · rfl
  · cases apn <;> rfl

theorem engine_agpsClosed (f : LocEng) (agpsType : AGpsExtType) :
    (f.locEngAgpsClosed agpsType).engine = f.engine := by
  unfold locEngAgpsClosed
  split <;> rfl

theorem engine_agpsOpenFailed (f : LocEng) (agpsType : AGpsExtType) :
    (f.locEngAgpsOpenFailed agpsType).engine = f.engine := by
  unfold locEngAgpsOpenFailed
  split <;> rfl

theorem proc_of_nil {env : Env} (hq : f.queue = []) : f.proc env = f := by
  rw [proc, hq]

theorem proc_of_some {env : Env} {m : Msg} {queue : List Msg} {e : Engine}
    (hq : f.queue = m :: queue) (hp : m.proc f.engine env = some e) :
    f.proc env = { f with engine := e, queue := queue } := by
  simp only [proc, hq, hp]

theorem proc_of_none {env : Env} {m : Msg} {queue : List Msg} (hq : f.queue = m :: queue)
    (hp : m.proc f.engine env = none) : f.proc env = { f with queue := queue, fault := true } := by
  simp only [proc, hq, hp]

/-- What processing a message does to the machines. -/
theorem engine_proc (env : Env) {m : Msg} {queue : List Msg} (hq : f.queue = m :: queue) :
    (f.proc env).engine = f.engine.step (.msg m env) := by
  rw [Engine.step]
  cases hp : m.proc f.engine env with
  | none => rw [proc_of_none hq hp, Option.getD_none]
  | some e' => rw [proc_of_some hq hp, Option.getD_some]

theorem queue_proc (f : LocEng) (env : Env) : (f.proc env).queue = f.queue.tail := by
  rcases hq : f.queue with _ | ⟨m, queue⟩
  · rw [proc_of_nil hq, hq, List.tail_nil]
  · cases hp : m.proc f.engine env with
    | none => rw [proc_of_none hq hp, List.tail_cons]
    | some e' => rw [proc_of_some hq hp, List.tail_cons]

theorem equipped_step (h : f.engine.Equipped conf) (i : Input) :
    (f.step i).engine.Equipped conf := by
  cases i with
  | agpsOpen agpsType apn bearerType =>
    rw [step, engine_agpsOpen]
    exact h
  | agpsClosed agpsType =>
    rw [step, engine_agpsClosed]
    exact h
  | agpsOpenFailed agpsType =>
    rw [step, engine_agpsOpenFailed]
    exact h
  | send m =>
    simp only [step]
    split <;> exact h
  | timer => exact h.step .timer
  | deliver env => exact h.step (.deliver env)
  | proc env =>
    rw [step]
    rcases hq : f.queue with _ | ⟨m, queue⟩
    · rw [proc_of_nil hq]
      exact h
    · rw [engine_proc env hq]
      exact h.step (.msg m env)

/-- The machine that a call of the framework has found is there. -/
theorem findsMachine_open (h : f.engine.Equipped conf) (agpsType : AGpsExtType) :
    (f.engine.getAgpsStateMachine agpsType).isSome = true ↔
      conf.hasAgnss = true ∨ forAgnss agpsType = false := by
  rw [h.isSome_getAgpsStateMachine, Bool.or_eq_true, Bool.not_eq_true']

/-- A message that is posted does no harm where it finds its machine. -/
theorem harmless_post (h : f.engine.Equipped conf) {f' : LocEng} {m : Msg}
    (he : f'.engine = f.engine) (hq : f'.queue = f.queue ++ [m])
    (hfault : findsMachine conf m = true → f'.fault = f.fault) :
    f'.Harmless ↔ f.Harmless ∧ findsMachine conf m = true := by
  have h' : f'.engine.Equipped conf := by
    rw [he]
    exact h
  rw [harmless_iff_queue h, harmless_iff_queue h', hq, List.all_append, Bool.and_eq_true,
    List.all_cons, List.all_nil, Bool.and_true, ← and_assoc]
  refine and_congr_left fun hm => ?_
  rw [hfault hm]

/-- **What a step leaves harmless**: everything, unless it needs an `agnss_nif` that there is
not. -/
theorem harmless_step (h : f.engine.Equipped conf) (i : Input) :
    (f.step i).Harmless ↔ f.Harmless ∧ (conf.hasAgnss = true ∨ i.needsAgnss conf = false) := by
  have hcb := h.statusCb
  have hfinds := findsMachine_open h
  cases i with
  | agpsOpen agpsType apn bearerType =>
    simp only [step, locEngAgpsOpen, Input.needsAgnss, hcb]
    cases conf.statusCb with
    | false => simp
    | true =>
      cases apn with
      | none => simp
      | some apn =>
        rw [if_neg (by decide)]
        refine Iff.trans (harmless_post h rfl rfl ?_) ?_
        · -- the constructor follows a null pointer only for a message that would
          intro hsm
          have hsome : (f.engine.getAgpsStateMachine agpsType).isSome = true := hsm
          simp [Option.isNone_eq_false_iff.mpr hsome]
        · simp [findsMachine, hfinds]
  | agpsClosed agpsType =>
    simp only [step, locEngAgpsClosed, Input.needsAgnss, hcb]
    cases conf.statusCb with
    | false => simp
    | true =>
      rw [if_neg (by decide)]
      refine Iff.trans (harmless_post h rfl rfl fun _ => rfl) ?_
      simp [findsMachine, hfinds]
  | agpsOpenFailed agpsType =>
    simp only [step, locEngAgpsOpenFailed, Input.needsAgnss, hcb]
    cases conf.statusCb with
    | false => simp
    | true =>
      rw [if_neg (by decide)]
      refine Iff.trans (harmless_post h rfl rfl fun _ => rfl) ?_
      simp [findsMachine, hfinds]
  | send m =>
    simp only [step]
    cases hm : m.isFrameworks with
    | true => cases m <;> simp_all [Msg.isFrameworks, Input.needsAgnss]
    | false =>
      rw [if_neg Bool.false_ne_true]
      refine Iff.trans (harmless_post h rfl rfl fun _ => rfl) ?_
      cases m <;> simp_all [Msg.isFrameworks, Input.needsAgnss, findsMachine]
  | timer =>
    rw [harmless_iff_queue h, harmless_iff_queue (equipped_step h .timer)]
    simp [step, Input.needsAgnss]
  | deliver env =>
    rw [harmless_iff_queue h, harmless_iff_queue (equipped_step h (.deliver env))]
    simp [step, Input.needsAgnss]
  | proc env =>
    rw [harmless_iff_queue h, harmless_iff_queue (equipped_step h (.proc env)), step]
    rcases hq : f.queue with _ | ⟨m, queue⟩
    · simp [proc_of_nil hq, hq, Input.needsAgnss]
    · have hproc := isSome_proc h m env
      cases hp : m.proc f.engine env with
      | none =>
        rw [hp] at hproc
        simp [proc_of_none hq hp, ← hproc]
      | some e' =>
        rw [hp] at hproc
        simp [proc_of_some hq hp, ← hproc, Input.needsAgnss]

end Step

/-! ### Runs -/

theorem harmless_exec {conf : Conf} (is : List Input) {f : LocEng} (h : f.engine.Equipped conf) :
    (exec LocEng.step f is).Harmless ↔
      f.Harmless ∧ (conf.hasAgnss = true ∨ ∀ i ∈ is, i.needsAgnss conf = false) := by
  induction is generalizing f with
  | nil => simp
  | cons i is ih =>
    rw [exec_cons, ih (equipped_step h i), harmless_step h i, List.forall_mem_cons, and_assoc,
      ← or_and_left]

/-- **The runs in which every machine that is used is there**: all those in which nothing needs
`agnss_nif`, and with `MSA` or `MSB` in the capabilities all runs. -/
theorem harmless_iff (conf : Conf) (verbose : Bool) (is : List Input) :
    (exec LocEng.step (init conf verbose) is).Harmless ↔
      conf.hasAgnss = true ∨ ∀ i ∈ is, i.needsAgnss conf = false := by
  have hinit : (init conf verbose).Harmless := ⟨rfl, nofun⟩
  rw [harmless_exec is (Engine.equipped_init conf), and_iff_right hinit]

/-- `gps.conf` of the device: neither `MSA` nor `MSB`. -/
def deviceConf : Conf := ⟨0x31, true, true, false⟩

/-- The framework reports that a data connection is open. -/
def openReported : List Input := [.agpsOpen agpsTypeSupl (some [110, 101, 116]) 0, .proc .ok]

/-- The message follows the null pointer that the call has found. -/
theorem openReported_faults :
    (exec LocEng.step (init deviceConf false) openReported).fault = true ∧
      ¬ (exec LocEng.step (init deviceConf false) openReported).Harmless := by
  have hfault : (exec LocEng.step (init deviceConf false) openReported).fault = true := by decide
  refine ⟨hfault, ?_⟩
  rintro ⟨hno, -⟩
  rw [hno] at hfault
  cases hfault

end LocEng

end Agps
end Nx507j
