import Nx507j.Eng.Hal

/-!
# A receiver that works alone

On some targets the receiver has no help from a server.  `get_gps_interface` takes the capabilities
for that away, each update of the configuration takes them away again, and
`loc_eng_set_position_mode` looks at them.  So no other position mode comes to the modem there, where
an update is one step: while one is under way, `gps_conf` has what the carrier's text gives it.

## Main definitions

* `HalEvent.Alone` — a call that a receiver which works alone may get.
* `Hal.Alone` — the invariant.

## Main results

* `Hal.alone_exec` — what is called on such a target, in any run.
-/

namespace Nx507j
namespace Eng

open Run Target

/-- Neither of the modes with a server is among the capabilities. -/
def NoServer (capabilities : UInt32) : Prop :=
  capabilities &&& (gpsCapabilityMsa ||| gpsCapabilityMsb) = 0

instance (capabilities : UInt32) : Decidable (NoServer capabilities) :=
  inferInstanceAs (Decidable (_ = _))

/-! ### Capabilities -/

theorem noServer_alone (conf : LocGpsCfg) : NoServer (Hal.alone conf).capabilities :=
  Hal.and_not_and_self _ _

theorem NoServer.and {capabilities : UInt32} (h : NoServer capabilities) :
    capabilities &&& gpsCapabilityMsb = 0 ∧ capabilities &&& gpsCapabilityMsa = 0 := by
  have hmsb : (gpsCapabilityMsa ||| gpsCapabilityMsb) &&& gpsCapabilityMsb = gpsCapabilityMsb := by
    decide
  have hmsa : (gpsCapabilityMsa ||| gpsCapabilityMsb) &&& gpsCapabilityMsa = gpsCapabilityMsa := by
    decide
  constructor
  · rw [← hmsb, ← UInt32.and_assoc, h, UInt32.zero_and]
  · rw [← hmsa, ← UInt32.and_assoc, h, UInt32.zero_and]

/-- Fewer capabilities. -/
theorem NoServer.and_left {capabilities : UInt32} (h : NoServer capabilities) (mask : UInt32) :
    NoServer (capabilities &&& mask) := by
  rw [NoServer, UInt32.and_assoc, UInt32.and_comm mask, ← UInt32.and_assoc, h, UInt32.zero_and]

theorem NoServer.restrict {capabilities : UInt32} (h : NoServer capabilities)
    (suplMode carrierBit gpsConfBit : UInt32) :
    NoServer (restrict suplMode carrierBit gpsConfBit capabilities) := by
  unfold Eng.restrict
  split
  · exact h.and_left _
  · exact h

theorem NoServer.carrier {conf : LocGpsCfg} (h : NoServer conf.capabilities) :
    NoServer (getCarrierCapabilities conf) :=
  (h.restrict ..).restrict ..

theorem NoServer.measurements {capabilities : UInt32} (h : NoServer capabilities) :
    NoServer (capabilities ||| gpsCapabilityMeasurements) := by
  have hzero : gpsCapabilityMeasurements.toBitVec &&&
      (gpsCapabilityMsa ||| gpsCapabilityMsb).toBitVec = 0#32 := by decide
  rw [NoServer, ← UInt32.toBitVec_inj] at h ⊢
  rw [UInt32.toBitVec_and, UInt32.toBitVec_or, BitVec.and_or_distrib_right, hzero, BitVec.or_zero]
  exact h

/-! ### The invariant -/

/-- The mode is to stand alone, or none is set. -/
def AloneMode (mode : Int32) : Prop :=
  mode = locPositionModeStandalone ∨ mode = locPositionModeInvalid

/-- What is called where the receiver works alone. -/
def HalEvent.Alone : HalEvent → Prop
  | .session (.setPositionMode mode) => mode.mode = locPositionModeStandalone
  | .session (.startFix mode) => AloneMode mode.mode
  | .setCapabilities _ capabilities | .requestUlp capabilities
  | .update (.setCapabilities capabilities) => NoServer capabilities
  | _ => True

namespace Hal

variable {s s' : Hal} {engine : HalEngine}

/-- The invariant: the target is known, the capabilities lack both modes, and so do the messages
that wait and the mode that the adapter keeps. -/
structure Alone (s : Hal) : Prop where
  gnssType : WorksAlone s.sGnssType
  target : s.gTarget ≠ notFound ∧ getTargetGnssType s.gTarget = s.sGnssType
  configRead : s.configAlreadyRead = true
  capabilities : NoServer s.gpsConf.capabilities
  empty : ∀ engine, s.engine = some engine → engine.eng.queue = [] ∧ engine.eng.log = []
  agnss : ∀ engine, s.engine = some engine → engine.agnssNif = false
  mode : ∀ engine, s.engine = some engine → AloneMode engine.eng.adapter.mFixCriteria.mode
  queue : ∀ mode, .session (.positionMode mode) ∈ s.queue → mode.mode = locPositionModeStandalone
  log : ∀ e ∈ s.log, e.Alone

/-! ### What a message of the session calls -/

/-- A message but the two that name a mode calls nothing that names one. -/
theorem alone_toFramework {callbacks : GpsCallbacks} {msg : Msg} {event : Event}
    (hcalls : msg.calls event = true) (hposition : ∀ mode, msg ≠ .positionMode mode)
    (hstart : msg ≠ .startFix) : ∀ e ∈ s.toFramework callbacks event, e.Alone := by
  intro e he
  cases event with
  | locationCb location ext =>
    cases location with
    | none => cases he
    | some location =>
      obtain ⟨owner, -, rfl⟩ := List.mem_map.mp he
      trivial
  | svStatusCb svStatus ext =>
    obtain ⟨owner, -, rfl⟩ := List.mem_map.mp he
    trivial
  | setPositionMode mode =>
    cases msg with
    | positionMode mode' => exact absurd rfl (hposition mode')
    | _ => cases hcalls
  | startFix mode =>
    cases msg with
    | startFix => exact absurd rfl hstart
    | _ => cases hcalls
  | _ =>
    rw [List.mem_singleton.mp he]
    trivial

/-- What a message calls and keeps, if it names no mode but one that stands alone. -/
theorem alone_proc {eng : LocEngData} (o : Outcome) {msg : Msg}
    (hempty : eng.queue = [] ∧ eng.log = []) (hmode : AloneMode eng.adapter.mFixCriteria.mode)
    (hmsg : ∀ mode, msg = .positionMode mode → mode.mode = locPositionModeStandalone)
    (callbacks : GpsCallbacks) (s : Hal) :
    (∀ e ∈ (msg.proc o eng).log.flatMap (s.toFramework callbacks), e.Alone) ∧
      AloneMode (msg.proc o eng).adapter.mFixCriteria.mode ∧
      ∀ msg' ∈ (msg.proc o eng).queue, msg' = .startFix := by
  have hqueue : ∀ msg' ∈ (msg.proc o eng).queue, msg' = .startFix := by
    intro msg' hmem
    rcases LocEngData.queue_proc eng o msg with h | h
    · rw [h, hempty.1] at hmem
      cases hmem
    · rw [h, hempty.1] at hmem
      exact List.mem_singleton.mp hmem
  by_cases hposition : ∃ mode, msg = .positionMode mode
  · obtain ⟨mode, rfl⟩ := hposition
    have halone := hmsg mode rfl
    have hlog : (Msg.proc o (.positionMode mode) eng).log = [.setPositionMode mode] := by
      show eng.log ++ _ = _
      rw [hempty.2]
      rfl
    refine ⟨fun e he => ?_, .inl halone, hqueue⟩
    rw [hlog] at he
    obtain rfl := List.mem_singleton.mp he
    exact halone
  · have hother : ∀ mode, msg ≠ .positionMode mode := fun mode h => hposition ⟨mode, h⟩
    have hkept : AloneMode (msg.proc o eng).adapter.mFixCriteria.mode := by
      rcases LocEngData.adapter_proc o hother (s := eng) with h | ⟨inSession, h⟩
      · rw [h]
        exact hmode
      · rw [h]
        cases inSession with
        | true => exact hmode
        | false => exact .inr rfl
    refine ⟨?_, hkept, hqueue⟩
    by_cases hstart : msg = .startFix
    · subst hstart
      have hlog : ∀ event ∈ (Msg.proc o .startFix eng).log,
          event = .startFix eng.adapter.mFixCriteria := by
        intro event hevent
        change event ∈ (LocEngData.startHandler o.startFix eng).log at hevent
        unfold LocEngData.startHandler at hevent
        dsimp only at hevent
        split at hevent
        · rw [hempty.2] at hevent
          cases hevent
        · have hsay : event ∈ eng.log ++ [.startFix eng.adapter.mFixCriteria] := by
            split at hevent
            · exact hevent
            · exact hevent
          rw [hempty.2] at hsay
          exact List.mem_singleton.mp hsay
      intro e he
      obtain ⟨event, hevent, he⟩ := List.mem_flatMap.mp he
      rw [hlog event hevent] at he
      obtain rfl := List.mem_singleton.mp he
      exact hmode
    · obtain ⟨es, hlog, hes⟩ := LocEngData.calls_proc eng o msg
      intro e he
      obtain ⟨event, hevent, he⟩ := List.mem_flatMap.mp he
      rw [hlog, hempty.2] at hevent
      exact alone_toFramework (hes event hevent) hother hstart e he

/-- A vote on the power names no mode. -/
theorem alone_requestPowerVote : ∀ e ∈ engine.requestPowerVote, e.Alone := by
  intro e he
  rw [HalEngine.requestPowerVote] at he
  split at he
  · rw [List.mem_singleton.mp he]
    trivial
  · cases he

theorem alone_powerVoteCalls {powerOn : Bool} : ∀ e ∈ engine.powerVoteCalls powerOn, e.Alone := by
  intro e he
  rcases List.mem_append.mp he with he | he
  · exact alone_requestPowerVote e he
  · rw [List.mem_singleton.mp he]
    trivial

/-! ### Steps -/

/-- Calls that are allowed, with the rest as it was but for messages that are sent. -/
theorem Alone.add (h : Alone s) {es : List HalEvent} {msgs : List HalMsg}
    (hlog : s'.log = s.log ++ es) (hes : ∀ e ∈ es, e.Alone) (hqueue : s'.queue = s.queue ++ msgs)
    (hmsgs : ∀ mode, .session (.positionMode mode) ∈ msgs → mode.mode = locPositionModeStandalone)
    (hgnss : s'.sGnssType = s.sGnssType) (htarget : s'.gTarget = s.gTarget)
    (hread : s'.configAlreadyRead = s.configAlreadyRead) (hcap : NoServer s'.gpsConf.capabilities)
    (hengine : ∀ engine, s'.engine = some engine → (engine.eng.queue = [] ∧ engine.eng.log = []) ∧
      engine.agnssNif = false ∧ AloneMode engine.eng.adapter.mFixCriteria.mode) : Alone s' where
  gnssType := hgnss ▸ h.gnssType
  target := by
    rw [htarget, hgnss]
    exact h.target
  configRead := hread.trans h.configRead
  capabilities := hcap
  empty engine hs := (hengine engine hs).1
  agnss engine hs := (hengine engine hs).2.1
  mode engine hs := (hengine engine hs).2.2
  queue mode hmem := by
    rw [hqueue, List.mem_append] at hmem
    exact hmem.elim (h.queue mode) (hmsgs mode)
  log e he := by
    rw [hlog, List.mem_append] at he
    exact he.elim (h.log e) (hes e)

/-- Messages are sent, and there are no calls. -/
theorem Alone.send (h : Alone s) {msgs : List HalMsg} (hlog : s'.log = s.log)
    (hqueue : s'.queue = s.queue ++ msgs)
    (hmsgs : ∀ mode, .session (.positionMode mode) ∈ msgs → mode.mode = locPositionModeStandalone)
    (hgnss : s'.sGnssType = s.sGnssType) (htarget : s'.gTarget = s.gTarget)
    (hread : s'.configAlreadyRead = s.configAlreadyRead) (hcap : NoServer s'.gpsConf.capabilities)
    (hengine : ∀ engine, s'.engine = some engine → (engine.eng.queue = [] ∧ engine.eng.log = []) ∧
      engine.agnssNif = false ∧ AloneMode engine.eng.adapter.mFixCriteria.mode) : Alone s' :=
  h.add (hlog.trans (List.append_nil _).symm) (List.forall_mem_nil _) hqueue hmsgs hgnss htarget
    hread hcap hengine

/-- There are no calls and no messages. -/
theorem Alone.quiet (h : Alone s) (hlog : s'.log = s.log) (hqueue : s'.queue = s.queue)
    (hgnss : s'.sGnssType = s.sGnssType) (htarget : s'.gTarget = s.gTarget)
    (hread : s'.configAlreadyRead = s.configAlreadyRead) (hcap : NoServer s'.gpsConf.capabilities)
    (hengine : ∀ engine, s'.engine = some engine → (engine.eng.queue = [] ∧ engine.eng.log = []) ∧
      engine.agnssNif = false ∧ AloneMode engine.eng.adapter.mFixCriteria.mode) : Alone s' :=
  h.send hlog (hqueue.trans (List.append_nil _).symm)
    (fun _ hmem => (List.not_mem_nil hmem).elim) hgnss htarget hread hcap hengine

theorem Alone.ofEngine (h : Alone s) (hengine : s.engine = some engine) :
    (engine.eng.queue = [] ∧ engine.eng.log = []) ∧ engine.agnssNif = false ∧
      AloneMode engine.eng.adapter.mFixCriteria.mode :=
  ⟨h.empty engine hengine, h.agnss engine hengine, h.mode engine hengine⟩

/-- A message is sent. -/
theorem Alone.sendMsg (h : Alone s) {msg : Msg}
    (hmsg : ∀ mode, msg = .positionMode mode → mode.mode = locPositionModeStandalone) :
    Alone (s.sendMsg msg) := by
  rw [Hal.sendMsg]
  cases hengine : s.engine with
  | none => exact h
  | some engine =>
    refine h.send rfl rfl (fun mode hmem => ?_) rfl rfl rfl h.capabilities
      fun engine' hs' => h.ofEngine (hengine.trans hs')
    have heq := List.mem_singleton.mp hmem
    exact hmsg mode (HalMsg.session.inj heq).symm

theorem Alone.getGpsInterface (h : Alone s) (conf : LocGpsCfg) (device : Device) :
    Alone (s.getGpsInterface conf device) := by
  have htarget : locGetTarget s.gTarget device = s.gTarget := if_pos h.target.1
  have hgnss : getTargetGnssType (locGetTarget s.gTarget device) = s.sGnssType := by
    rw [htarget, h.target.2]
  refine h.quiet rfl rfl hgnss htarget
    h.configRead.symm ?_ fun engine hs => h.ofEngine hs
  have hconf : (s.getGpsInterface conf device).gpsConf = alone s.gpsConf := by
    rw [Hal.getGpsInterface, h.configRead, if_pos rfl, hgnss]
    exact if_pos h.gnssType
  rw [hconf]
  exact noServer_alone _

theorem Alone.locInit (h : Alone s) (callbacks : Option GpsCallbacks) (device : Device) :
    Alone (s.locInit callbacks device) := by
  cases callbacks with
  | none => exact h
  | some callbacks =>
    have htarget : locGetTarget s.gTarget device = s.gTarget := if_pos h.target.1
    refine h.add rfl (fun e he => ?_) rfl (fun mode hmem => ?_) rfl htarget rfl h.capabilities
      fun engine hs => ?_
    · rcases List.mem_append.mp he with he | he
      · simp only [List.mem_cons, List.not_mem_nil, or_false] at he
        rcases he with rfl | rfl
        · trivial
        · exact h.capabilities.carrier
      · exact alone_powerVoteCalls e he
    · rcases List.mem_append.mp hmem with hmem | hmem
      · split at hmem
        · cases List.mem_singleton.mp hmem
        · cases hmem
      · cases List.mem_singleton.mp hmem
    · obtain rfl := Option.some.inj hs
      cases hengine : s.engine with
      | none => exact ⟨⟨rfl, rfl⟩, rfl, .inr rfl⟩
      | some engine =>
        obtain ⟨hempty, hagnss, hmode⟩ := h.ofEngine hengine
        exact ⟨hempty, hagnss, hmode⟩

theorem Alone.locCleanup (h : Alone s) : Alone s.locCleanup := by
  rw [Hal.locCleanup]
  cases hengine : s.engine with
  | none => exact h
  | some engine =>
    refine h.add rfl (fun e he => ?_) rfl (fun mode hmem => ?_) rfl rfl rfl h.capabilities
      fun engine' hs => ?_
    · rcases List.mem_cons.mp he with rfl | he
      · trivial
      · exact alone_powerVoteCalls e he
    · rcases List.mem_cons.mp hmem with hmem | hmem
      · cases hmem
      · split at hmem
        · cases List.mem_singleton.mp hmem
        · cases hmem
    · obtain rfl := Option.some.inj hs
      obtain ⟨hempty, hagnss, hmode⟩ := h.ofEngine hengine
      exact ⟨hempty, hagnss, hmode⟩

/-- Only the mode that stands alone is sent. -/
theorem Alone.locEngSetPositionMode (h : Alone s) (params : LocPosMode) :
    Alone (s.locEngSetPositionMode params) := by
  refine h.sendMsg fun mode hmode => ?_
  obtain rfl := Msg.positionMode.inj hmode
  show (if _ then _ else _) = locPositionModeStandalone
  split
  · rfl
  · next hsame =>
    by_contra hne
    exact hsame ⟨h.capabilities.and.1, h.capabilities.and.2, hne⟩

theorem Alone.locAgpsInit (h : Alone s) (callbacks : Bool) : Alone (s.locAgpsInit callbacks) := by
  rw [Hal.locAgpsInit]
  cases hengine : s.engine with
  | none => exact h
  | some engine =>
    dsimp only
    split
    · exact h
    · refine h.quiet rfl rfl rfl rfl rfl
        h.capabilities fun engine' hs => ?_
      obtain rfl := Option.some.inj hs
      obtain ⟨hempty, -, hmode⟩ := h.ofEngine hengine
      refine ⟨hempty, ?_, hmode⟩
      refine decide_eq_false fun hcap => ?_
      exact hcap.elim (fun hmsa => hmsa h.capabilities.and.2) fun hmsb => hmsb h.capabilities.and.1

theorem Alone.locConfigurationUpdate (h : Alone s) (configData : Option (List UInt8))
    (length : Int32) (malloc : Bool) :
    Alone (s.locConfigurationUpdate configData length malloc) := by
  refine h.send rfl rfl (fun mode hmem => ?_) rfl rfl rfl ?_
    fun engine hs => h.ofEngine hs
  · obtain ⟨msg, -, hmsg⟩ := List.mem_map.mp hmem
    cases hmsg
  · have hconf : (s.locConfigurationUpdate configData length malloc).gpsConf = alone _ :=
      if_pos h.gnssType
    rw [hconf]
    exact noServer_alone _

theorem Alone.procSession (h : Alone s) (hengine : s.engine = some engine) (o : Outcome)
    {msg : Msg} (hmsg : ∀ mode, msg = .positionMode mode → mode.mode = locPositionModeStandalone) :
    Alone (s.procSession o engine msg) := by
  obtain ⟨hempty, hagnss, hmode⟩ := h.ofEngine hengine
  obtain ⟨hlog, hkept, hqueue⟩ := alone_proc o hempty hmode hmsg engine.callbacks s
  refine h.add rfl (fun e he => ?_) rfl (fun mode hmem => ?_) rfl rfl rfl h.capabilities
    fun engine' hs => ?_
  · rcases List.mem_append.mp he with he | he
    · split at he
      · exact alone_requestPowerVote e he
      · cases he
    · exact hlog e he
  · rcases List.mem_append.mp hmem with hmem | hmem
    · split at hmem
      · cases List.mem_singleton.mp hmem
      · cases hmem
    · obtain ⟨msg', hmem, heq⟩ := List.mem_map.mp hmem
      rw [hqueue msg' hmem] at heq
      cases heq
  · obtain rfl := Option.some.inj hs
    exact ⟨⟨rfl, rfl⟩, hagnss, hkept⟩

theorem Alone.proc (h : Alone s) (hengine : s.engine = some engine) (o : HalOutcome) {msg : HalMsg}
    (hmsg : ∀ mode, msg = .session (.positionMode mode) → mode.mode = locPositionModeStandalone) :
    Alone (s.proc o engine msg) := by
  have hlogged : ∀ {e : HalEvent}, e.Alone → Alone { s with log := s.log ++ [e] } := fun he =>
    h.add rfl (fun e' he' => List.mem_singleton.mp he' ▸ he) (List.append_nil _).symm
      (fun _ hmem => (List.not_mem_nil hmem).elim) rfl rfl rfl h.capabilities
      fun engine' hs => h.ofEngine hs
  cases msg with
  | session msg => exact h.procSession hengine o.outcome fun mode hmode => hmsg mode (hmode ▸ rfl)
  | update msg =>
    refine hlogged ?_
    cases msg with
    | told param value => trivial
    | suplMode => exact h.capabilities.carrier
  | gpsLock lockMask => exact hlogged trivial
  | init =>
    refine h.send rfl rfl (fun mode hmem => ?_) rfl rfl rfl h.capabilities
      fun engine' hs => h.ofEngine hs
    simp only [List.mem_cons, reduceCtorEq, List.not_mem_nil, or_false] at hmem
  | setCapabilities =>
    rw [Hal.proc]
    split
    · exact hlogged h.capabilities
    · exact h
  | gnssConstellationConfig =>
    rw [Hal.proc]
    split
    · exact h.quiet rfl rfl rfl rfl rfl
        h.capabilities.measurements fun engine' hs => h.ofEngine hs
    · exact h

/-- What happens beside the messages leaves the mode, the queue and the log. -/
theorem step_besideQueue (eng : LocEngData) {input : LocEngData.Input}
    (h : besideQueue input = true) : (eng.step input).queue = eng.queue ∧
      (eng.step input).log = eng.log ∧ (eng.step input).adapter = eng.adapter := by
  cases input with
  | send msg => cases h
  | process o => cases h
  | ni input =>
    rw [LocEngData.step]
    split
    · exact ⟨rfl, rfl, rfl⟩
    · exact ⟨rfl, rfl, rfl⟩
  | gpsMeasurementInit => exact ⟨rfl, rfl, rfl⟩
  | gpsMeasurementClose => exact ⟨rfl, rfl, rfl⟩

theorem Alone.step (h : Alone s) (input : Input) : Alone (s.step input) := by
  have hother : ∀ {msg : Msg}, (∀ mode, msg ≠ .positionMode mode) →
      ∀ mode, msg = .positionMode mode → mode.mode = locPositionModeStandalone :=
    fun hne mode hmode => absurd hmode (hne mode)
  rw [Hal.step]
  split
  case isFalse => exact h
  cases input with
  | getGpsInterface conf device => exact h.getGpsInterface conf device
  | locInit callbacks device => exact h.locInit callbacks device
  | locCleanup => exact h.locCleanup
  | locStart => exact h.sendMsg (hother fun _ => Msg.noConfusion)
  | locStop => exact h.sendMsg (hother fun _ => Msg.noConfusion)
  | locSetPositionMode => exact h.locEngSetPositionMode _
  | locDeleteAidingData f => exact h.sendMsg (hother fun _ => Msg.noConfusion)
  | locAgpsInit callbacks => exact h.locAgpsInit callbacks
  | locConfigurationUpdate configData length malloc =>
    exact h.locConfigurationUpdate configData length malloc
  | report msg =>
    rw [call]
    split
    · next hmodem =>
      refine h.sendMsg (hother fun mode hmode => ?_)
      rw [hmode] at hmodem
      cases hmodem
    · exact h
  | process o =>
    rw [call]
    split
    · next engine msg queue hengine hqueue =>
      have hpopped : Alone { s with queue := queue } :=
        { h with
          queue := fun mode hmem => h.queue mode (hqueue ▸ List.mem_cons_of_mem msg hmem) }
      refine hpopped.proc hengine o fun mode hmode => h.queue mode ?_
      rw [hqueue, hmode]
      exact List.mem_cons_self
    · exact h
  | engine input =>
    rw [call]
    cases hengine : s.engine with
    | none => exact h
    | some engine =>
      dsimp only
      split
      · next hbeside =>
        obtain ⟨hqueue, hlog, hadapter⟩ := step_besideQueue engine.eng hbeside
        obtain ⟨⟨hemptyQueue, hemptyLog⟩, hagnss, hmode⟩ := h.ofEngine hengine
        refine h.quiet rfl rfl rfl rfl rfl
          h.capabilities fun engine' hs => ?_
        obtain rfl := Option.some.inj hs
        refine ⟨⟨hqueue.trans hemptyQueue, hlog.trans hemptyLog⟩, hagnss, ?_⟩
        rw [hadapter]
        exact hmode
      · exact h

/-- **A receiver that works alone**: where the interface is first got on such a target, then in any
run the modem is given no position mode but the one that stands alone, neither the framework nor the
ULP hears of the capabilities that are missing, and there is no state machine for SUPL. -/
theorem alone_exec (conf : LocGpsCfg) (device : Device) (later : List Input)
    (h : WorksAlone (getTargetGnssType (detect device))) :
    (∀ e ∈ (exec step fresh (.getGpsInterface conf device :: later)).log, e.Alone) ∧
    ∀ engine, (exec step fresh (.getGpsInterface conf device :: later)).engine = some engine →
      engine.agnssNif = false := by
  have hdetect : locGetTarget fresh.gTarget device = detect device := if_neg fun hne => hne rfl
  have hfound : detect device ≠ notFound := by
    intro hnot
    rw [hnot] at h
    exact absurd h (by decide)
  have hfirst : Alone (fresh.step (.getGpsInterface conf device)) :=
    { gnssType := by
        show WorksAlone (getTargetGnssType (locGetTarget fresh.gTarget device))
        rw [hdetect]
        exact h
      target := by
        show locGetTarget fresh.gTarget device ≠ notFound ∧ _
        exact ⟨hdetect ▸ hfound, rfl⟩
      configRead := rfl
      capabilities := by
        have hconf : (fresh.step (.getGpsInterface conf device)).gpsConf = alone conf := by
          show (if WorksAlone (getTargetGnssType (locGetTarget fresh.gTarget device)) then _
            else _) = _
          rw [hdetect, if_pos h]
          rfl
        rw [hconf]
        exact noServer_alone conf
      empty := fun _ hs => by cases hs
      agnss := fun _ hs => by cases hs
      mode := fun _ hs => by cases hs
      queue := fun _ hmem => by cases hmem
      log := fun _ he => by cases he }
  have hstep : ∀ t input, Alone t → Alone (t.step input) := fun _ input ht => ht.step input
  have hrun := exec_inv hstep later _ hfirst
  exact ⟨hrun.log, hrun.agnss⟩

/-- A device whose baseband is that of a car. -/
def autoDevice : Device :=
  ⟨fun _ => none, CText.text "auto", ⟨false, none⟩, none, ⟨false, none⟩, none, none⟩

/-- The engine is started there, and a mode with a server is asked for. -/
def autoCalls : List Input :=
  [.locInit (some ⟨1, true, true, true, true, true⟩) autoDevice,
    .locSetPositionMode gpsPositionModeMsBased 0 1000 0 0, .locStart,
    .process ⟨⟨true, 0, []⟩, true⟩, .process ⟨⟨true, 0, []⟩, true⟩, .process ⟨⟨true, 0, []⟩, true⟩]

theorem alone_exec_auto : WorksAlone (getTargetGnssType (detect autoDevice)) ∧
    (∀ e ∈ (exec step fresh (.getGpsInterface {} autoDevice :: autoCalls)).log, e.Alone) ∧
    ∀ engine, (exec step fresh (.getGpsInterface {} autoDevice :: autoCalls)).engine =
      some engine → engine.agnssNif = false :=
  ⟨by decide, alone_exec {} autoDevice autoCalls (by decide)⟩

end Hal

end Eng
end Nx507j
