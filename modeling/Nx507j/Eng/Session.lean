import Mathlib.Data.Rat.Cast.Order
import Nx507j.Lib.Rounding
import Nx507j.Lib.Run
import Nx507j.Ni.Session

/-!
# The engine's session

The messages that the engine's thread processes, from `loc_eng.cpp` and `LocEngAdapter.cpp`: the
reports of the modem, the session that is started and stopped, the aiding data that is deleted,
and the restart of the modem.

A message is processed in one step.  What the calls that leave the engine come to, and which
sentences the NMEA generators make of a report, is part of the input.  What the engine calls is
kept in its `log`, oldest first.

## Main definitions

* `LocEngData` — the engine with its adapter, its NI sessions and its queue.
* `Msg`, `Msg.proc` — the messages, and what they do.
* `LocEngData.step` — a message that is sent or processed, and what happens beside the messages.
-/

namespace Nx507j
namespace Eng

open Ni

/-! ### Data -/

/-- `GpsStatusValue`. -/
abbrev GpsStatusValue := UInt16

def gpsStatusNone : GpsStatusValue := 0
def gpsStatusSessionBegin : GpsStatusValue := 1
def gpsStatusSessionEnd : GpsStatusValue := 2
def gpsStatusEngineOn : GpsStatusValue := 3
def gpsStatusEngineOff : GpsStatusValue := 4

/-- `GpsAidingData`, a set of bits. -/
abbrev GpsAidingData := UInt16

/-- `loc_mute_session_e_type`. -/
inductive MuteSession
  | none
  | wait
  | inSession
  deriving DecidableEq, Repr

/-- `loc_sess_status`. -/
inductive LocSessStatus
  | success
  | intermediate
  | failure
  deriving DecidableEq, Repr

/-- `LOC_SESS_INTERMEDIATE`, to which the engine's `intermediateFix` is compared. -/
def locSessIntermediate : UInt8 := 1

/-- `LocPosTechMask`. -/
abbrev LocPosTechMask := UInt32

def locPosTechMaskSatellite : LocPosTechMask := 0x1
def locPosTechMaskSensors : LocPosTechMask := 0x8
def locPosTechMaskHybrid : LocPosTechMask := 0x80

/-- `GPS_LOCATION_HAS_ACCURACY`. -/
def gpsLocationHasAccuracy : UInt16 := 0x10

/-- `GPS_POSITION_RECURRENCE_SINGLE`. -/
def gpsPositionRecurrenceSingle : UInt32 := 1

/-- `LOC_POSITION_MODE_INVALID`. -/
def locPositionModeInvalid : Int32 := -1

/-- `loc_api_adapter_err`. -/
abbrev LocApiAdapterErr := Int32

def locApiAdapterErrSuccess : LocApiAdapterErr := 0
def locApiAdapterErrPhoneOffline : LocApiAdapterErr := 7
def locApiAdapterErrInternal : LocApiAdapterErr := 10
def locApiAdapterErrEngineDown : LocApiAdapterErr := locApiAdapterErrPhoneOffline

/-- `LOC_API_ADAPTER_BIT_NMEA_1HZ_REPORT`. -/
def locApiAdapterBitNmea1HzReport : UInt32 := 0x4

/-- `NMEA_PROVIDER_AP`. -/
def nmeaProviderAP : UInt32 := 0

/-- The address of data that the engine hands on without looking into it. -/
abbrev Address := ℕ

/-- What the engine looks at of a `UlpLocation`: the flags and the accuracy of its `gpsLocation`,
and the buffer with the raw data. -/
structure UlpLocation where
  flags : UInt16
  accuracy : ℚ
  rawData : Option Address
  deriving DecidableEq

/-- `LocPosMode`. -/
structure LocPosMode where
  mode : Int32
  recurrence : UInt32
  minInterval : UInt32
  preferredAccuracy : UInt32
  preferredTime : UInt32
  credentials : String
  provider : String
  deriving DecidableEq, Repr

/-- The messages of the engine's thread.  `locationExt` and `svExt` are what the parsers made of
the report's extension. -/
inductive Msg
  | requestNi (notif : GpsNiNotification) (payload : Option Payload)
  | reportStatus (status : GpsStatusValue)
  | reportPosition (location : UlpLocation) (locationExt : Option Address)
      (status : LocSessStatus) (techMask : LocPosTechMask)
  | reportSv (svStatus : Address) (svExt : Option Address)
  | reportNmea (nmea : String)
  | reportGpsMeasurement (gpsData : Address)
  | startFix
  | stopFix
  | positionMode (mode : LocPosMode)
  | delAidData (type : GpsAidingData)
  | down
  | up
  deriving DecidableEq

/-- What the engine calls: the callbacks, the modem, and `delete` on the raw data of a position. -/
inductive Event
  | locationCb (location : Option UlpLocation) (locationExt : Option Address)
  | svStatusCb (svStatus : Address) (svExt : Option Address)
  | nmeaCb (now : ℤ) (nmea : String)
  | gpsMeasurementCb (gpsData : Address)
  | statusCb (status : GpsStatusValue)
  | startFix (mode : LocPosMode)
  | stopFix
  | setPositionMode (mode : LocPosMode)
  | deleteAidingData (f : GpsAidingData)
  | deleteRawData (rawData : Address)
  deriving DecidableEq

/-- The adapter: the position mode, and whether a session is on. -/
structure LocEngAdapter where
  mFixCriteria : LocPosMode
  mNavigating : Bool
  deriving DecidableEq, Repr

/-- The part of `loc_eng_data_s_type` that these messages work on; a callback is there or not.
`accuracyThres` is `gps_conf.ACCURACY_THRES`. -/
structure LocEngData where
  locationCb : Bool
  statusCb : Bool
  svStatusCb : Bool
  nmeaCb : Bool
  gpsMeasurementCb : Bool
  intermediateFix : UInt8
  accuracyThres : UInt32
  engineStatus : GpsStatusValue
  fixSessionStatus : GpsStatusValue
  aidingDataForDeletion : GpsAidingData
  muteSessionState : MuteSession
  generateNmea : Bool
  adapter : LocEngAdapter
  ni : NiModule
  queue : List Msg
  log : List Event
  deriving DecidableEq

/-- The callbacks that are given to `loc_eng_init`. -/
structure LocCallbacks where
  locationCb : Bool
  svStatusCb : Bool
  statusCb : Bool
  nmeaCb : Bool
  deriving DecidableEq, Repr

/-- What is used here of `gps_conf`. -/
structure GpsConf where
  intermediatePos : UInt32
  accuracyThres : UInt32
  nmeaProvider : UInt32
  deriving DecidableEq, Repr

/-- What the calls that leave the engine come to while a message is processed, and what an NMEA
generator sends. -/
structure Outcome where
  threadCreated : Bool
  startFix : LocApiAdapterErr
  sentences : List String
  deriving DecidableEq, Repr

namespace LocEngData

/-- `loc_eng_init`. -/
def init (callbacks : LocCallbacks) (conf : GpsConf) (event : UInt32) : LocEngData where
  locationCb := callbacks.locationCb
  statusCb := callbacks.statusCb
  svStatusCb := callbacks.svStatusCb
  nmeaCb := callbacks.nmeaCb
  gpsMeasurementCb := false
  intermediateFix := conf.intermediatePos.toUInt8
  accuracyThres := conf.accuracyThres
  engineStatus := gpsStatusNone
  fixSessionStatus := gpsStatusNone
  aidingDataForDeletion := 0
  muteSessionState := .none
  generateNmea :=
    event &&& locApiAdapterBitNmea1HzReport ≠ 0 ∧ conf.nmeaProvider = nmeaProviderAP
  adapter := ⟨⟨locPositionModeInvalid, 0, 0, 0, 0, "", ""⟩, false⟩
  ni := NiModule.zero
  queue := []
  log := []

/-- Writes a call into the log. -/
def say (e : Event) (s : LocEngData) : LocEngData := { s with log := s.log ++ [e] }

/-- `adapter->sendMsg`. -/
def sendMsg (msg : Msg) (s : LocEngData) : LocEngData := { s with queue := s.queue ++ [msg] }

/-! ### The session -/

/-- `LocEngAdapter::setInSession`. -/
def setInSession (inSession : Bool) (s : LocEngData) : LocEngData :=
  { s with
    adapter :=
      { mNavigating := inSession
        mFixCriteria :=
          if inSession then s.adapter.mFixCriteria
          else { s.adapter.mFixCriteria with mode := locPositionModeInvalid } } }

/-- `LocEngAdapter::setPositionMode`. -/
def setPositionMode (mode : LocPosMode) (s : LocEngData) : LocEngData :=
  { s with adapter := { s.adapter with mFixCriteria := mode } }.say (.setPositionMode mode)

/-- `loc_eng_start_handler`. -/
def startHandler (err : LocApiAdapterErr) (s : LocEngData) : LocEngData :=
  if s.adapter.mNavigating then s
  else
    let s := s.say (.startFix s.adapter.mFixCriteria)
    if err = locApiAdapterErrSuccess ∨ err = locApiAdapterErrEngineDown ∨
        err = locApiAdapterErrPhoneOffline ∨ err = locApiAdapterErrInternal then
      s.setInSession true
    else s

/-- `loc_eng_stop_handler`. -/
def stopHandler (s : LocEngData) : LocEngData :=
  if s.adapter.mNavigating then (s.say .stopFix).setInSession false else s

/-! ### Reports -/

/-- `loc_eng_nmea_send`, for all that a generator sends; the time is in milliseconds. -/
def nmeaSend (sentences : List String) (s : LocEngData) : LocEngData :=
  if s.nmeaCb then { s with log := s.log ++ sentences.map (.nmeaCb (s.ni.clock / 1000)) } else s

/-- The `float` that a `uint32_t` is converted to when it is compared with one. -/
def floatOf (n : UInt32) : ℚ := Rounding.roundBits 24 n.toNat

/-- What `location_cb` is called with; `none`, when it is not called. -/
def locationArg (location : UlpLocation) (locationExt : Option Address) (status : LocSessStatus)
    (techMask : LocPosTechMask) (s : LocEngData) :
    Option (Option UlpLocation × Option Address) :=
  if !s.locationCb then none
  else if status = .failure then some (none, none)
  else if
      -- a final fix of the satellites or of a sensor
      (status = .success ∧
        (locPosTechMaskSatellite ||| locPosTechMaskSensors ||| locPosTechMaskHybrid) &&&
          techMask ≠ 0) ∨
      -- an intermediate fix, which is accepted and is not too inaccurate
      (locSessIntermediate = s.intermediateFix ∧
        ¬ (location.flags &&& gpsLocationHasAccuracy ≠ 0 ∧ s.accuracyThres ≠ 0 ∧
          floatOf s.accuracyThres < location.accuracy)) then
    some (some location, locationExt)
  else none

/-- The end of a single shot that has been reported. -/
def endSingleShot (status : LocSessStatus) (s : LocEngData) : LocEngData :=
  if gpsPositionRecurrenceSingle = s.adapter.mFixCriteria.recurrence then
    (if status = .intermediate then s.say .stopFix else s).setInSession false
  else s

/-- Deletes the raw data of a position. -/
def deleteRawData (location : UlpLocation) (s : LocEngData) : LocEngData :=
  match location.rawData with
  | some rawData => s.say (.deleteRawData rawData)
  | none => s

/-- `LocEngReportPosition::proc`. -/
def reportPosition (location : UlpLocation) (locationExt : Option Address)
    (status : LocSessStatus) (techMask : LocPosTechMask) (sentences : List String)
    (s : LocEngData) : LocEngData :=
  if s.muteSessionState ≠ .inSession then
    let s :=
      match s.locationArg location locationExt status techMask with
      | some (location, locationExt) =>
        (s.say (.locationCb location locationExt)).endSingleShot status
      | none => s
    let s := if s.generateNmea && s.adapter.mNavigating then s.nmeaSend sentences else s
    s.deleteRawData location
  else s

/-- `LocEngReportSv::proc`. -/
def reportSv (svStatus : Address) (svExt : Option Address) (sentences : List String)
    (s : LocEngData) : LocEngData :=
  if s.muteSessionState ≠ .inSession then
    let s := if s.svStatusCb then s.say (.svStatusCb svStatus svExt) else s
    if s.generateNmea then s.nmeaSend sentences else s
  else s

/-- `LocEngReportNmea::proc`. -/
def reportNmea (nmea : String) (s : LocEngData) : LocEngData :=
  if s.nmeaCb then s.say (.nmeaCb (s.ni.clock / 1000) nmea) else s

/-- `LocEngReportGpsMeasurement::proc`. -/
def reportGpsMeasurement (gpsData : Address) (s : LocEngData) : LocEngData :=
  if s.muteSessionState ≠ .inSession then
    if s.gpsMeasurementCb then s.say (.gpsMeasurementCb gpsData) else s
  else s

/-! ### The status of the engine -/

end LocEngData

/-- What `loc_eng_report_status` makes of `mute_session_state`: a session that is to be muted is
when it begins, and no longer when it ends. -/
def MuteSession.reportStatus (status : GpsStatusValue) (mute : MuteSession) : MuteSession :=
  let mute :=
    if status = gpsStatusSessionBegin ∨ status = gpsStatusEngineOn then
      if mute = .wait then .inSession else mute
    else mute
  if mute = .inSession ∧ (status = gpsStatusSessionEnd ∨ status = gpsStatusEngineOff) then .none
  else mute

namespace LocEngData

/-- `loc_inform_gps_status`. -/
def informGpsStatus (status : GpsStatusValue) (s : LocEngData) : LocEngData :=
  if s.statusCb then s.say (.statusCb status) else s

/-- `loc_eng_report_status`. -/
def reportStatus (status : GpsStatusValue) (s : LocEngData) : LocEngData :=
  let s := { s with muteSessionState := s.muteSessionState.reportStatus status }
  let s :=
    -- the end of a session is not reported while the framework is navigating
    if status ≠ gpsStatusNone ∧ ¬ (status = gpsStatusSessionEnd ∧ s.adapter.mNavigating) ∧
        ¬ (status = gpsStatusSessionBegin ∧ ¬ s.adapter.mNavigating) ∧
        s.muteSessionState ≠ .inSession then
      s.informGpsStatus status
    else s
  { s with
    engineStatus :=
      if status = gpsStatusEngineOn ∨ status = gpsStatusEngineOff then status
      else s.engineStatus
    fixSessionStatus :=
      if status = gpsStatusSessionBegin ∨ status = gpsStatusSessionEnd then status
      else s.fixSessionStatus }

/-- `update_aiding_data_for_deletion`. -/
def updateAidingDataForDeletion (s : LocEngData) : LocEngData :=
  if s.engineStatus ≠ gpsStatusEngineOn ∧ s.aidingDataForDeletion ≠ 0 then
    { s.say (.deleteAidingData s.aidingDataForDeletion) with aidingDataForDeletion := 0 }
  else s

/-! ### The NI sessions and the restart of the modem -/

/-- Something happens to the NI sessions, which may call `loc_eng_mute_one_session`. -/
def stepNi (input : NiModule.Input) (s : LocEngData) : LocEngData :=
  let ni := s.ni.step input
  { s with
    ni := ni
    muteSessionState :=
      if .muteOneSession ∈ ni.log.drop s.ni.log.length then .wait else s.muteSessionState }

/-- `loc_eng_handle_engine_down`. -/
def handleEngineDown (s : LocEngData) : LocEngData :=
  (s.stepNi .resetOnEngineRestart).reportStatus gpsStatusEngineOff

/-- `loc_eng_handle_engine_up`: a session that the modem has lost is started again. -/
def handleEngineUp (s : LocEngData) : LocEngData :=
  if s.adapter.mNavigating then (s.setInSession false).sendMsg .startFix else s

end LocEngData

/-! ### Steps -/

/-- What a message does when it is processed. -/
def Msg.proc (o : Outcome) : Msg → LocEngData → LocEngData
  | .requestNi notif payload => .stepNi (.requestHandler notif payload o.threadCreated)
  | .reportStatus status => fun s => (s.reportStatus status).updateAidingDataForDeletion
  | .reportPosition location locationExt status techMask =>
    .reportPosition location locationExt status techMask o.sentences
  | .reportSv svStatus svExt => .reportSv svStatus svExt o.sentences
  | .reportNmea nmea => .reportNmea nmea
  | .reportGpsMeasurement gpsData => .reportGpsMeasurement gpsData
  | .startFix => .startHandler o.startFix
  | .stopFix => .stopHandler
  | .positionMode mode => .setPositionMode mode
  | .delAidData type => fun s =>
    { s with aidingDataForDeletion := type }.updateAidingDataForDeletion
  | .down => .handleEngineDown
  | .up => .handleEngineUp

/-- The request handler and the restart are called by a message; all else of the NI sessions
happens beside the messages. -/
def besideMsgs : NiModule.Input → Bool
  | .requestHandler _ _ _ | .resetOnEngineRestart => false
  | _ => true

namespace LocEngData

/-- What can happen: a message is sent, the oldest one is processed, an NI session is answered or
its thread goes on, or `loc_eng_gps_measurement_init` or `loc_eng_gps_measurement_close` is
called. -/
inductive Input
  | send (msg : Msg)
  | process (outcome : Outcome)
  | ni (input : NiModule.Input)
  | gpsMeasurementInit
  | gpsMeasurementClose
  deriving DecidableEq

/-- One step. -/
def step (s : LocEngData) : Input → LocEngData
  | .send msg => s.sendMsg msg
  | .process outcome =>
    match s.queue with
    | [] => s
    | msg :: queue => msg.proc outcome { s with queue := queue }
  | .ni input => if besideMsgs input then s.stepNi input else s
  | .gpsMeasurementInit => { s with gpsMeasurementCb := true }
  | .gpsMeasurementClose => { s with gpsMeasurementCb := false }

end LocEngData

end Eng
end Nx507j
