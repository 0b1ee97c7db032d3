import Nx507j.Eng.GpsConf
import Nx507j.Eng.NmeaPos
import Nx507j.Eng.Steps
import Nx507j.Lib.Trace
import Nx507j.Utils.Target

/-!
# The interface of the framework

`loc.cpp` gives the framework its interface, according to the target, and has the engine do what the
framework calls for.  A target whose receiver works alone loses the capabilities of the other modes
when the interface is got.

The calls of the framework and the messages of the engine's thread come in any order, but each is
taken as one step: nothing comes between the test of a callback and its call, between the reading of
the power vote and the vote, or between the parts of an update of the configuration.  The code takes
no lock for that.  The ULP proxy is the one of `UlpProxyBase`, which hands all back.  What is read of
`gps.conf` is part of the input, as is the device that the target is found on.  A call that comes
before the interface has been got, or one that would use an adapter that is not there, does nothing.

## Main definitions

* `Hal`, `Hal.step` — the static data of `loc.cpp` with the engine and its queue.
* `HalEvent` — the calls of the framework, and what is called for them.
* `Client` — the framework's view of whom it has named, and of the power.

## Main results

* `Hal.clientView_exec` — what reaches the framework is what its view allows.
* `Hal.vote_exec` — on which target the power is voted for, and for what, and who is told.
-/

namespace Nx507j
namespace Eng

open CText Run Target Trace

/-! ### Data -/

/-- `GPS_CAPABILITY_MSB`, `GPS_CAPABILITY_MSA` and `GPS_CAPABILITY_MEASUREMENTS`. -/
def gpsCapabilityMsb : UInt32 := 0x2

def gpsCapabilityMsa : UInt32 := 0x4

def gpsCapabilityMeasurements : UInt32 := 0x40

/-- `GPS_POSITION_MODE_MS_BASED` and `GPS_POSITION_MODE_MS_ASSISTED`. -/
def gpsPositionModeMsBased : UInt32 := 1

def gpsPositionModeMsAssisted : UInt32 := 2

/-- `LOC_POSITION_MODE_MS_BASED` and `LOC_POSITION_MODE_MS_ASSISTED`. -/
def locPositionModeMsBased : Int32 := 1

def locPositionModeMsAssisted : Int32 := 2

/-- The events that `loc_init` registers for: the bits 0 to 2 and 4 to 8. -/
def locInitEvent : UInt32 := 0x1F7

/-- `GpsCallbacks`: whose they are, and which of them are there. -/
structure GpsCallbacks where
  owner : ℕ
  locationCb : Bool
  statusCb : Bool
  svStatusCb : Bool
  nmeaCb : Bool
  setCapabilitiesCb : Bool
  deriving DecidableEq, Repr

/-- The messages: those of the session, those of an update of the configuration, and
`LocEngAdapterGpsLock`, `LocEngInit`, `LocEngSetCapabilities` and
`LocEngGnssConstellationConfig`. -/
inductive HalMsg
  | session (msg : Msg)
  | update (msg : UpdateMsg)
  | gpsLock (lockMask : UInt32)
  | init
  | setCapabilities
  | gnssConstellationConfig
  deriving DecidableEq

/-- The calls of the framework that count, what reaches the framework, and what is called of the
modem, of the ULP and of the LBS proxy.  A vote on the power is `setGpsLock` with 103 for up and with
101 for down, and the proxy is told of it by `modemPowerVote`. -/
inductive HalEvent
  | locInit (callbacks : GpsCallbacks)
  | locCleanup (gpsLock : UInt32)
  | location (owner : ℕ) (location : UlpLocation)
  | svStatus (owner : ℕ) (svStatus : Address)
  | status (owner : ℕ) (status : GpsStatusValue)
  | nmea (owner : ℕ) (now : ℤ) (nmea : String)
  | setCapabilities (owner : ℕ) (capabilities : UInt32)
  | requestUlp (capabilities : UInt32)
  | setGpsLock (lock : UInt32)
  | votePower (powerUp : Bool)
  | modemPowerVote (powerOn : Bool)
  | update (call : UpdateCall)
  | session (event : Event)
  deriving DecidableEq

/-- The engine with the callbacks that it has saved and its AGPS state machines.  Its own queue and
log are empty between two messages. -/
structure HalEngine where
  eng : LocEngData
  callbacks : GpsCallbacks
  mPowerVote : UInt32
  agpsStatusCb : Bool
  internetNif : Bool
  wifiNif : Bool
  agnssNif : Bool
  deriving DecidableEq

/-- The static data of `loc.cpp`, with `gps_conf`, `gTarget`, the engine's queue, and what has been
called, oldest first. -/
structure Hal where
  interface : Bool
  configAlreadyRead : Bool
  gpsConf : LocGpsCfg
  gTarget : UInt32
  sGnssType : UInt32
  gpsLocCb : Option ℕ
  gpsSvCb : Option ℕ
  engine : Option HalEngine
  queue : List HalMsg
  log : List HalEvent
  deriving DecidableEq

/-- What is found when the library is loaded. -/
def Hal.fresh : Hal :=
  ⟨false, false, {}, notFound, GnssTarget.unknown.index, none, none, none, [], []⟩

/-! ### The power vote -/

namespace HalEngine

/-- `POWER_VOTE_RIGHT` and `POWER_VOTE_VALUE`. -/
def powerVoteRight : UInt32 := 0x20

def powerVoteValue : UInt32 := 0x10

/-- `LocEngAdapter::setPowerVoteRight`. -/
def setPowerVoteRight (right : Bool) (engine : HalEngine) : HalEngine :=
  { engine with
    mPowerVote :=
      if right then engine.mPowerVote ||| powerVoteRight
      else engine.mPowerVote &&& ~~~powerVoteRight }

/-- `LocEngAdapter::getPowerVoteRight` and `LocEngAdapter::getPowerVote`. -/
def getPowerVoteRight (engine : HalEngine) : Bool := engine.mPowerVote &&& powerVoteRight ≠ 0

def getPowerVote (engine : HalEngine) : Bool := engine.mPowerVote &&& powerVoteValue ≠ 0

/-- `LocEngAdapter::requestPowerVote`. -/
def requestPowerVote (engine : HalEngine) : List HalEvent :=
  if engine.getPowerVoteRight then [.votePower engine.getPowerVote] else []

/-- `LocEngAdapter::setPowerVote`: what it leaves, and what it then calls.  The LBS proxy is told
whether the engine has the right to vote or not. -/
def setPowerVote (powerOn : Bool) (engine : HalEngine) : HalEngine :=
  { engine with
    mPowerVote :=
      if powerOn then engine.mPowerVote ||| powerVoteValue
      else engine.mPowerVote &&& ~~~powerVoteValue }

def powerVoteCalls (powerOn : Bool) (engine : HalEngine) : List HalEvent :=
  engine.requestPowerVote ++ [.modemPowerVote powerOn]

/-- The engine that `loc_eng_init` makes. -/
def new (callbacks : GpsCallbacks) (conf : LocGpsCfg) : HalEngine where
  eng :=
    .init ⟨true, true, callbacks.statusCb, callbacks.nmeaCb⟩
      ⟨conf.intermediatePos, conf.accuracyThres, conf.nmeaProvider⟩ locInitEvent
  callbacks := callbacks
  mPowerVote := 0
  agpsStatusCb := false
  internetNif := false
  wifiNif := false
  agnssNif := false

end HalEngine

namespace Hal

/-! ### The calls of the framework -/

/-- The capabilities that are left to a receiver that works alone. -/
def alone (conf : LocGpsCfg) : LocGpsCfg :=
  { conf with capabilities := conf.capabilities &&& ~~~(gpsCapabilityMsa ||| gpsCapabilityMsb) }

/-- The receiver of the target works alone. -/
def WorksAlone (gnssType : UInt32) : Prop :=
  gnssType = GnssTarget.gss.index ∨ gnssType = GnssTarget.auto.index ∨
    gnssType = GnssTarget.qca1530.index

instance (gnssType : UInt32) : Decidable (WorksAlone gnssType) := by
  unfold WorksAlone
  infer_instance

/-- `get_gps_interface`; `conf` is what `loc_eng_read_config` reads, where it has not yet. -/
def getGpsInterface (conf : LocGpsCfg) (device : Device) (s : Hal) : Hal :=
  let gpsConf := if s.configAlreadyRead then s.gpsConf else conf
  let gTarget := locGetTarget s.gTarget device
  let sGnssType := getTargetGnssType gTarget
  { s with
    interface := s.interface || sGnssType ≠ GnssTarget.none.index
    configAlreadyRead := true
    gpsConf := if WorksAlone sGnssType then alone gpsConf else gpsConf
    gTarget := gTarget
    sGnssType := sGnssType }

/-- `loc_init`.  An engine that is there keeps the callbacks that it has, but for those of the
location and of the satellites. -/
def locInit (callbacks : Option GpsCallbacks) (device : Device) (s : Hal) : Hal :=
  match callbacks with
  | none => s
  | some callbacks =>
    let gTarget := locGetTarget s.gTarget device
    let engine :=
      ((s.engine.getD (.new callbacks s.gpsConf)).setPowerVoteRight
        (gTarget = targetQca1530)).setPowerVote true
    { s with
      gTarget := gTarget
      gpsLocCb := if callbacks.locationCb then some callbacks.owner else none
      gpsSvCb := if callbacks.svStatusCb then some callbacks.owner else none
      engine := some engine
      queue := s.queue ++ ((if s.engine.isNone then [.init] else []) ++ [.gpsLock 0])
      log := s.log ++ ([.locInit callbacks, .requestUlp (getCarrierCapabilities s.gpsConf)] ++
        engine.powerVoteCalls true) }

/-- `loc_cleanup`: the engine stays, and a session that is on is stopped. -/
def locCleanup (s : Hal) : Hal :=
  match s.engine with
  | none => s
  | some engine =>
    let engine := engine.setPowerVote false
    { s with
      gpsLocCb := none
      gpsSvCb := none
      engine := some engine
      queue := s.queue ++ (.gpsLock s.gpsConf.gpsLock ::
        if engine.eng.adapter.mNavigating then [.session .stopFix] else [])
      log := s.log ++ (.locCleanup s.gpsConf.gpsLock :: engine.powerVoteCalls false) }

/-- `sendMsg` of an adapter that is there. -/
def sendMsg (msg : Msg) (s : Hal) : Hal :=
  match s.engine with
  | none => s
  | some _ => { s with queue := s.queue ++ [.session msg] }

/-- `loc_eng_set_position_mode`. -/
def locEngSetPositionMode (params : LocPosMode) (s : Hal) : Hal :=
  let mode :=
    if s.gpsConf.capabilities &&& gpsCapabilityMsb = 0 ∧
        s.gpsConf.capabilities &&& gpsCapabilityMsa = 0 ∧
        params.mode ≠ locPositionModeStandalone then
      locPositionModeStandalone
    else params.mode
  s.sendMsg (.positionMode { params with mode := mode })

/-- `loc_set_position_mode`. -/
def locSetPositionMode (mode recurrence minInterval preferredAccuracy preferredTime : UInt32)
    (s : Hal) : Hal :=
  let locMode :=
    if mode = gpsPositionModeMsBased then locPositionModeMsBased
    else if mode = gpsPositionModeMsAssisted then locPositionModeMsAssisted
    else locPositionModeStandalone
  s.locEngSetPositionMode
    ⟨locMode, recurrence, minInterval, preferredAccuracy, preferredTime, "", ""⟩

/-- `loc_eng_agps_init`, as far as it makes the state machines. -/
def locAgpsInit (callbacks : Bool) (s : Hal) : Hal :=
  match s.engine with
  | none => s
  | some engine =>
    if engine.agpsStatusCb || !callbacks then s
    else
      { s with
        engine := some
          { engine with
            agpsStatusCb := true
            internetNif := true
            wifiNif := true
            agnssNif := s.gpsConf.capabilities &&& gpsCapabilityMsa ≠ 0 ∨
              s.gpsConf.capabilities &&& gpsCapabilityMsb ≠ 0 } }

/-- `loc_configuration_update`, as one step: no message is processed while `gps_conf` has the
carrier's values. -/
def locConfigurationUpdate (configData : Option (List UInt8)) (length : Int32) (malloc : Bool)
    (s : Hal) : Hal :=
  let update : CarrierUpdate :=
    CarrierUpdate.locEngConfigurationUpdate ⟨s.gpsConf, s.engine.isSome, [], []⟩ configData length
      malloc
  { s with
    gpsConf := if WorksAlone s.sGnssType then alone update.gpsConf else update.gpsConf
    queue := s.queue ++ update.queue.map .update }

/-! ### The engine's thread -/

/-- What a call of the engine's comes to: `local_loc_cb` and `local_sv_cb` ask for the callback that
there is now, and call it before anything else happens; the others are those that were saved. -/
def toFramework (callbacks : GpsCallbacks) (s : Hal) : Event → List HalEvent
  | .locationCb none _ => []
  | .locationCb (some location) _ => s.gpsLocCb.toList.map (.location · location)
  | .svStatusCb svStatus _ => s.gpsSvCb.toList.map (.svStatus · svStatus)
  | .statusCb status => [.status callbacks.owner status]
  | .nmeaCb now nmea => [.nmea callbacks.owner now nmea]
  | event => [.session event]

/-- What the calls come to while a message is processed, and whether the modem supports
measurements. -/
structure HalOutcome where
  outcome : Outcome
  measurements : Bool
  deriving DecidableEq, Repr

/-- What a message of the session does.  When the modem comes up it is told the configuration and
the power vote again. -/
def procSession (o : Outcome) (engine : HalEngine) (msg : Msg) (s : Hal) : Hal :=
  let eng := msg.proc o engine.eng
  { s with
    engine := some { engine with eng := { eng with queue := [], log := [] } }
    queue := s.queue ++ ((if msg = .up then [.gnssConstellationConfig] else []) ++
      eng.queue.map .session)
    log := s.log ++ ((if msg = .up then engine.requestPowerVote else []) ++
      eng.log.flatMap (s.toFramework engine.callbacks)) }

/-- What a message does when it is processed. -/
def proc (o : HalOutcome) (engine : HalEngine) (msg : HalMsg) (s : Hal) : Hal :=
  match msg with
  | .session msg => s.procSession o.outcome engine msg
  | .update msg => { s with log := s.log ++ [.update (CarrierUpdate.proc s.gpsConf msg)] }
  | .gpsLock lockMask => { s with log := s.log ++ [.setGpsLock lockMask] }
  | .init => { s with queue := s.queue ++ [.gnssConstellationConfig, .setCapabilities] }
  | .setCapabilities =>
    if engine.callbacks.setCapabilitiesCb then
      { s with
        log := s.log ++ [.setCapabilities engine.callbacks.owner s.gpsConf.capabilities] }
    else s
  | .gnssConstellationConfig =>
    if o.measurements then
      { s with
        gpsConf :=
          { s.gpsConf with
            capabilities := s.gpsConf.capabilities ||| gpsCapabilityMeasurements } }
    else s

/-- The messages that the modem sends. -/
def ofModem : Msg → Bool
  | .startFix | .stopFix | .positionMode _ | .delAidData _ => false
  | _ => true

/-- What happens in the engine beside the messages. -/
def besideQueue : LocEngData.Input → Bool
  | .send _ | .process _ => false
  | _ => true

/-- What can happen. -/
inductive Input
  | getGpsInterface (conf : LocGpsCfg) (device : Device)
  | locInit (callbacks : Option GpsCallbacks) (device : Device)
  | locCleanup
  | locStart
  | locStop
  | locSetPositionMode (mode recurrence minInterval preferredAccuracy preferredTime : UInt32)
  | locDeleteAidingData (f : GpsAidingData)
  | locAgpsInit (callbacks : Bool)
  | locConfigurationUpdate (configData : Option (List UInt8)) (length : Int32) (malloc : Bool)
  | report (msg : Msg)
  | process (o : HalOutcome)
  | engine (input : LocEngData.Input)

/-- One step of a thread that has the interface. -/
def call (s : Hal) : Input → Hal
  | .getGpsInterface conf device => s.getGpsInterface conf device
  | .locInit callbacks device => s.locInit callbacks device
  | .locCleanup => s.locCleanup
  | .locStart => s.sendMsg .startFix
  | .locStop => s.sendMsg .stopFix
  | .locSetPositionMode mode recurrence minInterval preferredAccuracy preferredTime =>
    s.locSetPositionMode mode recurrence minInterval preferredAccuracy preferredTime
  | .locDeleteAidingData f => s.sendMsg (.delAidData f)
  | .locAgpsInit callbacks => s.locAgpsInit callbacks
  | .locConfigurationUpdate configData length malloc =>
    s.locConfigurationUpdate configData length malloc
  | .report msg => if ofModem msg then s.sendMsg msg else s
  | .process o =>
    match s.engine, s.queue with
    | some engine, msg :: queue => { s with queue := queue }.proc o engine msg
    | _, _ => s
  | .engine input =>
    match s.engine with
    | none => s
    | some engine =>
      if besideQueue input then
        { s with engine := some { engine with eng := engine.eng.step input } }
      else s

/-- The interface is got. -/
def Input.gets : Input → Bool
  | .getGpsInterface _ _ => true
  | _ => false

/-- One step. -/
def step (s : Hal) (input : Input) : Hal := if s.interface || input.gets then s.call input else s

end Hal

/-! ### What the framework sees -/

/-- The callbacks of the location, those of the satellites, if there are such. -/
def GpsCallbacks.locationOwner (callbacks : GpsCallbacks) : Option ℕ :=
  if callbacks.locationCb then some callbacks.owner else none

def GpsCallbacks.svStatusOwner (callbacks : GpsCallbacks) : Option ℕ :=
  if callbacks.svStatusCb then some callbacks.owner else none

/-- The framework's view: who gets the locations and who the satellites, who gets all else, and
whether the power is to be on. -/
structure Client where
  location : Option ℕ
  svStatus : Option ℕ
  saved : Option ℕ
  powered : Bool
  deriving DecidableEq, Repr

namespace Client

def start : Client := ⟨none, none, none, false⟩

/-- The calls of the framework change the view. -/
def next (c : Client) : HalEvent → Client
  | .locInit callbacks =>
    { location := callbacks.locationOwner
      svStatus := callbacks.svStatusOwner
      saved := some (c.saved.getD callbacks.owner)
      powered := true }
  | .locCleanup _ => { c with location := none, svStatus := none, powered := false }
  | _ => c

/-- What may come in a view. -/
def Allows (c : Client) : HalEvent → Prop
  | .location owner _ => c.location = some owner
  | .svStatus owner _ => c.svStatus = some owner
  | .status owner _ | .nmea owner _ _ | .setCapabilities owner _ => c.saved = some owner
  | .votePower powerUp | .modemPowerVote powerUp => powerUp = c.powered
  | .locCleanup _ => c.saved ≠ none
  | _ => True

end Client

namespace Hal

variable {s s' : Hal} {engine : HalEngine}

/-- The view that the state stands for. -/
def client (s : Hal) : Client :=
  ⟨s.gpsLocCb, s.gpsSvCb, s.engine.map (·.callbacks.owner),
    (s.engine.map HalEngine.getPowerVote).getD false⟩

/-- What has been called is what the framework's view allows, and the state stands for the view. -/
structure Seen (s : Hal) : Prop where
  meets : StepsMeet Client.next Client.Allows .start s.log
  view : exec Client.next .start s.log = s.client

theorem seen_fresh : fresh.Seen := ⟨trivial, rfl⟩

/-- What is called next is allowed in the view. -/
theorem Seen.add (h : Seen s) {es : List HalEvent} (hlog : s'.log = s.log ++ es)
    (hmeets : StepsMeet Client.next Client.Allows s.client es)
    (hview : exec Client.next s.client es = s'.client) : Seen s' where
  meets := by
    rw [hlog, stepsMeet_append, h.view]
    exact ⟨h.meets, hmeets⟩
  view := by
    rw [hlog, exec_append, h.view, hview]

/-- Calls that do not change the view. -/
theorem Seen.addQuiet (h : Seen s) {es : List HalEvent} (hlog : s'.log = s.log ++ es)
    (hes : ∀ e ∈ es, s.client.next e = s.client ∧ s.client.Allows e)
    (hview : s'.client = s.client) : Seen s' := by
  obtain ⟨hmeets, hexec⟩ := stepsMeet_of_fixed hes
  exact h.add hlog hmeets (hexec.trans hview.symm)

/-- Nothing is called. -/
theorem Seen.silent (h : Seen s) (hlog : s'.log = s.log) (hview : s'.client = s.client) : Seen s' :=
  h.addQuiet (hlog.trans (List.append_nil _).symm) nofun hview

theorem client_of_engine (hengine : s.engine = some engine) : s.client =
    ⟨s.gpsLocCb, s.gpsSvCb, some engine.callbacks.owner, engine.getPowerVote⟩ := by
  rw [client, hengine]
  rfl

theorem or_and_self (x y : UInt32) : (x ||| y) &&& y = y := by
  rw [← UInt32.toBitVec_inj]
  ext i
  simp only [UInt32.toBitVec_and, UInt32.toBitVec_or, BitVec.getElem_and, BitVec.getElem_or]
  cases x.toBitVec[i] <;> simp

theorem and_not_and_self (x y : UInt32) : x &&& ~~~y &&& y = 0 := by
  rw [← UInt32.toBitVec_inj]
  ext i
  simp

theorem getPowerVote_setPowerVote (powerOn : Bool) (engine : HalEngine) :
    (engine.setPowerVote powerOn).getPowerVote = powerOn := by
  unfold HalEngine.getPowerVote HalEngine.setPowerVote
  cases powerOn with
  | true =>
    rw [if_pos rfl, or_and_self]
    rfl
  | false =>
    rw [if_neg Bool.false_ne_true, and_not_and_self]
    rfl

/-- A request for the vote is for what the view has. -/
theorem allows_requestPowerVote {c : Client} (h : engine.getPowerVote = c.powered) :
    ∀ e ∈ engine.requestPowerVote, c.next e = c ∧ c.Allows e := by
  intro e he
  rw [HalEngine.requestPowerVote] at he
  split at he
  · rw [List.mem_singleton.mp he]
    exact ⟨rfl, h⟩
  · cases he

/-- A vote that is set is the one that the view has. -/
theorem allows_powerVoteCalls {c : Client} {powerOn : Bool} (hvote : engine.getPowerVote = c.powered)
    (hon : powerOn = c.powered) : ∀ e ∈ engine.powerVoteCalls powerOn, c.next e = c ∧ c.Allows e := by
  intro e he
  rcases List.mem_append.mp he with he | he
  · exact allows_requestPowerVote hvote e he
  · rw [List.mem_singleton.mp he]
    exact ⟨rfl, hon⟩

theorem allows_toFramework (hengine : s.engine = some engine) (event : Event) :
    ∀ e ∈ s.toFramework engine.callbacks event, s.client.next e = s.client ∧ s.client.Allows e := by
  intro e he
  rw [client_of_engine hengine]
  cases event with
  | locationCb location ext =>
    cases location with
    | none => cases he
    | some location =>
      obtain ⟨owner, howner, rfl⟩ := List.mem_map.mp he
      exact ⟨rfl, Option.mem_toList.mp howner⟩
  | svStatusCb svStatus ext =>
    obtain ⟨owner, howner, rfl⟩ := List.mem_map.mp he
    exact ⟨rfl, Option.mem_toList.mp howner⟩
  | statusCb | nmeaCb =>
    rw [List.mem_singleton.mp he]
    exact ⟨rfl, rfl⟩
  | _ =>
    rw [List.mem_singleton.mp he]
    exact ⟨rfl, trivial⟩

theorem Seen.locInit (h : Seen s) (callbacks : Option GpsCallbacks) (device : Device) :
    Seen (s.locInit callbacks device) := by
  cases callbacks with
  | none => exact h
  | some callbacks =>
    generalize hengine : ((s.engine.getD (.new callbacks s.gpsConf)).setPowerVoteRight
      (locGetTarget s.gTarget device = targetQca1530)).setPowerVote true = engine
    have hvote : engine.getPowerVote = true := by
      rw [← hengine, getPowerVote_setPowerVote]
    have howner : engine.callbacks.owner =
        ((s.engine.map (·.callbacks.owner)).getD callbacks.owner) := by
      rw [← hengine]
      cases s.engine <;> rfl
    have hinit : s.locInit (some callbacks) device =
        { s with
          gTarget := locGetTarget s.gTarget device
          gpsLocCb := callbacks.locationOwner
          gpsSvCb := callbacks.svStatusOwner
          engine := some engine
          queue := s.queue ++ ((if s.engine.isNone then [.init] else []) ++ [.gpsLock 0])
          log := s.log ++ ([.locInit callbacks, .requestUlp (getCarrierCapabilities s.gpsConf)] ++
            engine.powerVoteCalls true) } := by
      rw [← hengine]
      rfl
    obtain ⟨hmeets, hexec⟩ := stepsMeet_of_fixed
      (allows_powerVoteCalls (c := s.client.next (.locInit callbacks)) hvote rfl)
    rw [hinit]
    refine h.add rfl ?_ ?_
    · exact ⟨trivial, trivial, hmeets⟩
    · refine hexec.trans ?_
      show _ = (⟨_, _, some engine.callbacks.owner, engine.getPowerVote⟩ : Client)
      rw [hvote, howner]
      rfl

theorem Seen.locCleanup (h : Seen s) : Seen s.locCleanup := by
  cases hengine : s.engine with
  | none =>
    have hsame : s.locCleanup = s := by rw [Hal.locCleanup, hengine]
    rw [hsame]
    exact h
  | some engine =>
    have hvote : (engine.setPowerVote false).getPowerVote = false :=
      getPowerVote_setPowerVote false engine
    have hclient := client_of_engine hengine
    obtain ⟨hmeets, hexec⟩ := stepsMeet_of_fixed
      (allows_powerVoteCalls (c := s.client.next (.locCleanup s.gpsConf.gpsLock)) hvote rfl)
    have hcleanup : s.locCleanup =
        { s with
          gpsLocCb := none
          gpsSvCb := none
          engine := some (engine.setPowerVote false)
          queue := s.queue ++ (.gpsLock s.gpsConf.gpsLock ::
            if (engine.setPowerVote false).eng.adapter.mNavigating then [.session .stopFix] else [])
          log := s.log ++ (.locCleanup s.gpsConf.gpsLock ::
            (engine.setPowerVote false).powerVoteCalls false) } := by
      rw [Hal.locCleanup, hengine]
    rw [hcleanup]
    refine h.add rfl ?_ ?_
    · refine ⟨?_, hmeets⟩
      rw [hclient]
      exact Option.some_ne_none _
    · refine hexec.trans ?_
      show _ = (⟨none, none, some engine.callbacks.owner, _⟩ : Client)
      rw [hclient]
      exact congrArg (Client.mk none none (some engine.callbacks.owner)) hvote.symm

theorem Seen.proc (h : Seen s) (hengine : s.engine = some engine) (o : HalOutcome) (msg : HalMsg) :
    Seen (s.proc o engine msg) := by
  have hclient := client_of_engine hengine
  cases msg with
  | session msg =>
    refine h.addQuiet rfl (fun e he => ?_) ?_
    · rcases List.mem_append.mp he with he | he
      · split at he
        · exact allows_requestPowerVote (by rw [hclient]) e he
        · cases he
      · obtain ⟨event, -, he⟩ := List.mem_flatMap.mp he
        exact allows_toFramework hengine event e he
    · rw [hclient]
      rfl
  | update msg => exact h.addQuiet rfl (fun e he => List.mem_singleton.mp he ▸ ⟨rfl, trivial⟩) rfl
  | gpsLock lockMask =>
    exact h.addQuiet rfl (fun e he => List.mem_singleton.mp he ▸ ⟨rfl, trivial⟩) rfl
  | init => exact h.silent rfl rfl
  | setCapabilities =>
    rw [Hal.proc]
    split
    · refine h.addQuiet rfl (fun e he => ?_) rfl
      rw [List.mem_singleton.mp he, hclient]
      exact ⟨rfl, rfl⟩
    · exact h
  | gnssConstellationConfig =>
    rw [Hal.proc]
    split
    · exact h.silent rfl rfl
    · exact h

theorem Seen.sendMsg (h : Seen s) (msg : Msg) : Seen (s.sendMsg msg) := by
  rw [Hal.sendMsg]
  cases hengine : s.engine with
  | none => exact h
  | some engine =>
    refine h.silent rfl ?_
    rw [client, client, hengine]

theorem Seen.step (h : Seen s) (input : Input) : Seen (s.step input) := by
  rw [Hal.step]
  split
  case isFalse => exact h
  cases input with
  | getGpsInterface conf device => exact h.silent rfl rfl
  | locInit callbacks device => exact h.locInit callbacks device
  | locCleanup => exact h.locCleanup
  | locStart => exact h.sendMsg _
  | locStop => exact h.sendMsg _
  | locSetPositionMode => exact h.sendMsg _
  | locDeleteAidingData f => exact h.sendMsg _
  | locAgpsInit callbacks =>
    rw [call, locAgpsInit]
    cases hengine : s.engine with
    | none => exact h
    | some engine =>
      dsimp only
      split
      · exact h
      · refine h.silent rfl ?_
        rw [client_of_engine hengine]
        rfl
  | locConfigurationUpdate configData length malloc => exact h.silent rfl rfl
  | report msg =>
    rw [call]
    split
    · exact h.sendMsg msg
    · exact h
  | process o =>
    rw [call]
    split
    · next engine msg queue hengine hqueue =>
      have hpopped : Seen { s with queue := queue } := h.silent rfl rfl
      exact hpopped.proc hengine o msg
    · exact h
  | engine input =>
    rw [call]
    cases hengine : s.engine with
    | none => exact h
    | some engine =>
      dsimp only
      split
      · refine h.silent rfl ?_
        rw [client_of_engine hengine]
        rfl
      · exact h

theorem seen_exec (inputs : List Input) : (exec step fresh inputs).Seen :=
  exec_inv (fun _ input h => h.step input) inputs fresh seen_fresh

/-- **What reaches the framework**, in any run: a location or the satellites go to whom the last
`loc_init` named, and to nobody after a `loc_cleanup`; all else goes to whom the first `loc_init`
named; and a vote on the power is for what the last of these calls was. -/
theorem clientView_exec (inputs : List Input) :
    StepsMeet Client.next Client.Allows .start (exec step fresh inputs).log ∧
      exec Client.next .start (exec step fresh inputs).log = (exec step fresh inputs).client :=
  ⟨(seen_exec inputs).meets, (seen_exec inputs).view⟩

end Hal

/-! ### The last vote -/

/-- What a call votes for. -/
def HalEvent.vote : HalEvent → Option Bool
  | .votePower powerUp => some powerUp
  | _ => none

/-- What the LBS proxy is told of a vote. -/
def HalEvent.told : HalEvent → Option Bool
  | .modemPowerVote powerOn => some powerOn
  | _ => none

/-- The call is no vote, and tells of none. -/
def HalEvent.NoVote (e : HalEvent) : Prop := e.vote = none ∧ e.told = none

namespace Hal

variable {s s' : Hal} {engine : HalEngine}

/-- Votes are for one target only, and an engine that may vote has voted for what it is to be.  The
LBS proxy has been told what it is to be in any case. -/
structure Voted (s : Hal) : Prop where
  target : ∀ powerUp, .votePower powerUp ∈ s.log → s.gTarget = targetQca1530
  last : ∀ engine, s.engine = some engine → engine.getPowerVoteRight = true →
    s.gTarget = targetQca1530 ∧ latest HalEvent.vote s.log = some engine.getPowerVote
  told : latest HalEvent.told s.log = s.engine.map HalEngine.getPowerVote

theorem voted_fresh : fresh.Voted where
  target _ h := (List.not_mem_nil h).elim
  last _ h := by cases h
  told := rfl

theorem locGetTarget_qca1530 (device : Device) :
    locGetTarget targetQca1530 device = targetQca1530 :=
  if_pos (by decide)

/-- What is called votes for nothing, and the vote is as it was. -/
theorem Voted.silent (h : Voted s) {es : List HalEvent} (hlog : s'.log = s.log ++ es)
    (hes : ∀ e ∈ es, e.NoVote) (htarget : s.gTarget = targetQca1530 → s'.gTarget = targetQca1530)
    (hengine : s'.engine.map HalEngine.mPowerVote = s.engine.map HalEngine.mPowerVote) :
    Voted s' where
  target powerUp hmem := by
    rw [hlog, List.mem_append] at hmem
    rcases hmem with hmem | hmem
    · exact htarget (h.target powerUp hmem)
    · cases (hes _ hmem).1
  last engine' hs' hright := by
    rw [hs'] at hengine
    obtain ⟨engine, hs, hvote⟩ := Option.map_eq_some_iff.mp hengine.symm
    rw [HalEngine.getPowerVoteRight, ← hvote] at hright
    obtain ⟨hqca, hlast⟩ := h.last engine hs hright
    refine ⟨htarget hqca, ?_⟩
    rw [hlog, latest_append, latest_eq_none_iff.mpr fun e he => (hes e he).1,
      HalEngine.getPowerVote, ← hvote]
    exact hlast
  told := by
    have hmap : ∀ engine : Option HalEngine, engine.map HalEngine.getPowerVote =
        (engine.map HalEngine.mPowerVote).map fun vote =>
          decide (vote &&& HalEngine.powerVoteValue ≠ 0) := by
      intro engine
      cases engine <;> rfl
    rw [hlog, latest_append, latest_eq_none_iff.mpr fun e he => (hes e he).2, hmap, hengine, ← hmap]
    exact h.told

/-- The engine votes last, if it may. -/
theorem Voted.vote (h : Voted s) (es es' : List HalEvent) (hengine : s'.engine = some engine)
    (hlog : s'.log = s.log ++ (es ++ engine.requestPowerVote ++ es'))
    (hes : ∀ e ∈ es, e.vote = none) (hes' : ∀ e ∈ es', e.vote = none)
    (htarget : s.gTarget = targetQca1530 → s'.gTarget = targetQca1530)
    (hright : engine.getPowerVoteRight = true → s'.gTarget = targetQca1530)
    (htold : latest HalEvent.told s'.log = some engine.getPowerVote) : Voted s' where
  target powerUp hmem := by
    rw [hlog, List.mem_append, List.mem_append, List.mem_append] at hmem
    rcases hmem with hmem | (hmem | hmem) | hmem
    · exact htarget (h.target powerUp hmem)
    · cases hes _ hmem
    · rw [HalEngine.requestPowerVote] at hmem
      split at hmem
      · next hmay => exact hright hmay
      · cases hmem
    · cases hes' _ hmem
  last engine' hs' hmay := by
    obtain rfl := Option.some.inj (hengine.symm.trans hs')
    refine ⟨hright hmay, ?_⟩
    have hrequest : engine.requestPowerVote = [.votePower engine.getPowerVote] := if_pos hmay
    rw [hlog, latest_append, latest_append, latest_eq_none_iff.mpr hes', hrequest, latest_concat]
    rfl
  told := by
    rw [htold, hengine]
    rfl

/-- The vote of an engine is set: it votes, if it may, and the LBS proxy is told. -/
theorem Voted.setPowerVote (h : Voted s) (es : List HalEvent) (powerOn : Bool)
    (hengine : s'.engine = some engine) (hvote : engine.getPowerVote = powerOn)
    (hlog : s'.log = s.log ++ (es ++ engine.powerVoteCalls powerOn))
    (hes : ∀ e ∈ es, e.vote = none)
    (htarget : s.gTarget = targetQca1530 → s'.gTarget = targetQca1530)
    (hright : engine.getPowerVoteRight = true → s'.gTarget = targetQca1530) : Voted s' := by
  refine h.vote es [.modemPowerVote powerOn] hengine ?_ hes ?_ htarget hright ?_
  · rw [hlog, HalEngine.powerVoteCalls, List.append_assoc]
  · intro e he
    rw [List.mem_singleton.mp he]
    rfl
  · rw [hlog, HalEngine.powerVoteCalls, ← List.append_assoc, ← List.append_assoc, latest_concat,
      hvote]
    rfl

theorem getPowerVoteRight_setPowerVote (powerOn : Bool) (engine : HalEngine) :
    (engine.setPowerVote powerOn).getPowerVoteRight = engine.getPowerVoteRight := by
  have hbit : (if powerOn then engine.mPowerVote ||| HalEngine.powerVoteValue
      else engine.mPowerVote &&& ~~~HalEngine.powerVoteValue) &&& HalEngine.powerVoteRight =
        engine.mPowerVote &&& HalEngine.powerVoteRight := by
    rw [← UInt32.toBitVec_inj]
    cases powerOn with
    | true =>
      rw [if_pos rfl, UInt32.toBitVec_and, UInt32.toBitVec_or, UInt32.toBitVec_and,
        BitVec.and_or_distrib_right]
      have hzero : HalEngine.powerVoteValue.toBitVec &&& HalEngine.powerVoteRight.toBitVec = 0 := by
        decide
      rw [hzero]
      exact BitVec.or_zero
    | false =>
      have hall : (~~~HalEngine.powerVoteValue).toBitVec &&& HalEngine.powerVoteRight.toBitVec =
          HalEngine.powerVoteRight.toBitVec := by decide
      rw [if_neg Bool.false_ne_true, UInt32.toBitVec_and, UInt32.toBitVec_and, BitVec.and_assoc,
        hall, UInt32.toBitVec_and]
  exact congrArg (fun bits : UInt32 => decide (bits ≠ 0)) hbit

theorem getPowerVoteRight_setPowerVoteRight (right : Bool) (engine : HalEngine) :
    (engine.setPowerVoteRight right).getPowerVoteRight = right := by
  unfold HalEngine.getPowerVoteRight HalEngine.setPowerVoteRight
  cases right with
  | true =>
    rw [if_pos rfl, or_and_self]
    rfl
  | false =>
    rw [if_neg Bool.false_ne_true, and_not_and_self]
    rfl

theorem noVote_toFramework (callbacks : GpsCallbacks) (s : Hal) (event : Event) :
    ∀ e ∈ s.toFramework callbacks event, e.NoVote := by
  intro e he
  cases event with
  | locationCb location ext =>
    cases location with
    | none => cases he
    | some location =>
      obtain ⟨owner, -, rfl⟩ := List.mem_map.mp he
      exact ⟨rfl, rfl⟩
  | svStatusCb svStatus ext =>
    obtain ⟨owner, -, rfl⟩ := List.mem_map.mp he
    exact ⟨rfl, rfl⟩
  | _ =>
    rw [List.mem_singleton.mp he]
    exact ⟨rfl, rfl⟩

/-- Nothing is called, and the engine stays. -/
theorem Voted.same (h : Voted s) (hlog : s'.log = s.log) (htarget : s'.gTarget = s.gTarget)
    (hengine : s'.engine.map HalEngine.mPowerVote = s.engine.map HalEngine.mPowerVote) :
    Voted s' :=
  h.silent (hlog.trans (List.append_nil _).symm) nofun (fun hqca => htarget.trans hqca) hengine

theorem Voted.sendMsg (h : Voted s) (msg : Msg) : Voted (s.sendMsg msg) := by
  rw [Hal.sendMsg]
  cases hengine : s.engine with
  | none => exact h
  | some engine => exact h.same rfl rfl (by rw [hengine])

theorem Voted.locInit (h : Voted s) (callbacks : Option GpsCallbacks) (device : Device) :
    Voted (s.locInit callbacks device) := by
  cases callbacks with
  | none => exact h
  | some callbacks =>
    refine h.setPowerVote [.locInit callbacks, .requestUlp (getCarrierCapabilities s.gpsConf)] true
      rfl (getPowerVote_setPowerVote true _) rfl (fun e he => ?_) ?_ ?_
    · simp only [List.mem_cons, List.not_mem_nil, or_false] at he
      rcases he with rfl | rfl <;> rfl
    · intro hqca
      show locGetTarget s.gTarget device = targetQca1530
      rw [hqca, locGetTarget_qca1530]
    · intro hright
      rw [getPowerVoteRight_setPowerVote, getPowerVoteRight_setPowerVoteRight] at hright
      exact of_decide_eq_true hright

theorem Voted.locCleanup (h : Voted s) : Voted s.locCleanup := by
  rw [Hal.locCleanup]
  cases hengine : s.engine with
  | none => exact h
  | some engine =>
    refine h.setPowerVote [.locCleanup s.gpsConf.gpsLock] false rfl
      (getPowerVote_setPowerVote false engine) rfl (fun e he => ?_) id fun hright => ?_
    · rw [List.mem_singleton.mp he]
      rfl
    · rw [getPowerVoteRight_setPowerVote] at hright
      exact (h.last engine hengine hright).1

theorem Voted.proc (h : Voted s) (hengine : s.engine = some engine) (o : HalOutcome)
    (msg : HalMsg) : Voted (s.proc o engine msg) := by
  have hone : ∀ {s' : Hal} {e : HalEvent}, s'.log = s.log ++ [e] → e.NoVote →
      s'.gTarget = s.gTarget → s'.engine = s.engine → Voted s' := by
    intro s' e hlog he htarget hsame
    exact h.silent hlog (fun e' he' => List.mem_singleton.mp he' ▸ he)
      (fun hqca => htarget.trans hqca) (by rw [hsame])
  cases msg with
  | session msg =>
    have hreports : ∀ e ∈ (msg.proc o.outcome engine.eng).log.flatMap
        (s.toFramework engine.callbacks), e.NoVote := by
      intro e he
      obtain ⟨event, -, he⟩ := List.mem_flatMap.mp he
      exact noVote_toFramework _ _ event e he
    by_cases hup : msg = .up
    · have hlog : (s.proc o engine (.session msg)).log = s.log ++ ([] ++ engine.requestPowerVote ++
          (msg.proc o.outcome engine.eng).log.flatMap (s.toFramework engine.callbacks)) := by
        show s.log ++ ((if msg = .up then engine.requestPowerVote else []) ++ _) = _
        rw [if_pos hup]
        rfl
      refine h.vote [] _ rfl hlog nofun (fun e he => (hreports e he).1) id
        (fun hright => (h.last engine hengine hright).1) ?_
      -- the proxy is told nothing anew
      have hquiet : ∀ e ∈ engine.requestPowerVote, e.told = none := by
        intro e he
        rw [HalEngine.requestPowerVote] at he
        split at he
        · rw [List.mem_singleton.mp he]
          rfl
        · cases he
      rw [hlog, List.nil_append, latest_append, latest_append,
        latest_eq_none_iff.mpr fun e he => (hreports e he).2, latest_eq_none_iff.mpr hquiet]
      refine h.told.trans ?_
      rw [hengine]
      rfl
    · refine h.silent ?_ hreports id (by rw [hengine]; rfl)
      show s.log ++ ((if msg = .up then engine.requestPowerVote else []) ++ _) = _
      rw [if_neg hup]
      rfl
  | update msg => exact hone rfl ⟨rfl, rfl⟩ rfl rfl
  | gpsLock lockMask => exact hone rfl ⟨rfl, rfl⟩ rfl rfl
  | init => exact h.same rfl rfl rfl
  | setCapabilities =>
    rw [Hal.proc]
    split
    · exact hone rfl ⟨rfl, rfl⟩ rfl rfl
    · exact h
  | gnssConstellationConfig =>
    rw [Hal.proc]
    split
    · exact h.same rfl rfl rfl
    · exact h

theorem Voted.step (h : Voted s) (input : Input) : Voted (s.step input) := by
  rw [Hal.step]
  split
  case isFalse => exact h
  cases input with
  | getGpsInterface conf device =>
    refine h.silent (List.append_nil _).symm nofun (fun hqca => ?_) rfl
    show locGetTarget s.gTarget device = targetQca1530
    rw [hqca, locGetTarget_qca1530]
  | locInit callbacks device => exact h.locInit callbacks device
  | locCleanup => exact h.locCleanup
  | locStart => exact h.sendMsg _
  | locStop => exact h.sendMsg _
  | locSetPositionMode => exact h.sendMsg _
  | locDeleteAidingData f => exact h.sendMsg _
  | locAgpsInit callbacks =>
    rw [call, locAgpsInit]
    cases hengine : s.engine with
    | none => exact h
    | some engine =>
      dsimp only
      split
      · exact h
      · exact h.same rfl rfl (by rw [hengine]; rfl)
  | locConfigurationUpdate configData length malloc => exact h.same rfl rfl rfl
  | report msg =>
    rw [call]
    split
    · exact h.sendMsg msg
    · exact h
  | process o =>
    rw [call]
    split
    · next engine msg queue hengine hqueue =>
      have hpopped : Voted { s with queue := queue } := h.same rfl rfl rfl
      exact hpopped.proc hengine o msg
    · exact h
  | engine input =>
    rw [call]
    cases hengine : s.engine with
    | none => exact h
    | some engine =>
      dsimp only
      split
      · exact h.same rfl rfl (by rw [hengine]; rfl)
      · exact h

/-- **The lock is used to vote for the power on one target only**, and there, once the framework has
called `loc_init` with the target known, the last vote is for what its last call was.  On every
target the LBS proxy has been told last what the last `loc_init` or `loc_cleanup` asked. -/
theorem vote_exec (inputs : List Input) :
    (∀ powerUp, .votePower powerUp ∈ (exec step fresh inputs).log →
      (exec step fresh inputs).gTarget = targetQca1530) ∧
    ∀ engine, (exec step fresh inputs).engine = some engine →
      (engine.getPowerVoteRight = true → latest HalEvent.vote (exec step fresh inputs).log =
        some (exec Client.next .start (exec step fresh inputs).log).powered) ∧
      latest HalEvent.told (exec step fresh inputs).log =
        some (exec Client.next .start (exec step fresh inputs).log).powered := by
  have hvoted : Voted (exec step fresh inputs) :=
    exec_inv (fun _ input h => h.step input) inputs fresh voted_fresh
  refine ⟨hvoted.target, fun engine hengine => ?_⟩
  rw [(seen_exec inputs).view, client_of_engine hengine]
  refine ⟨fun hright => (hvoted.last engine hengine hright).2, hvoted.told.trans ?_⟩
  rw [hengine]
  rfl

end Hal

end Eng
end Nx507j
