import Nx507j.Eng.GpsConf
import Nx507j.Lib.Trace
import Nx507j.Utils.ConfNumbers

/-!
# The configuration files and the modem

`loc_eng_read_config` reads `gps.conf` and `sap.conf` once, over the defaults.  `loc_eng_reinit`, at
the start and whenever the modem comes back, sends the modem what is in `gps_conf` and `sap_conf`,
where carriers may have changed three of its parameters in between, and whether the network was
available when that was said last, be it before there was an adapter.  The properties of the sensors
have no defaults: they are sent if the file has one of them at least.

A call is a step here; what can come between a read and a message is in `Configuration`.  The
numbers with a fraction are of any type, and so are `atof` and the conversion to `float`.  What
becomes of `loc_param_table` is left out.

## Main definitions

* `LocSapCfg`, `sapConfTable` — `sap_conf`.
* `numberSaid`, `propertySaid` — what some assignments say of a parameter.
* `ConfigFiles.step` — files that are read, updates of the carrier and of the network, and restarts.

## Main results

* `sapConfTable_read`, `told_read` — what is in `sap_conf` and `gps_conf` after a file.
* `ConfigFiles.reinit_exec` — what the modem is sent, at any restart of any run.
-/

namespace Nx507j
namespace Eng

open CText LocCfg Run Tokens Trace

/-! ### `sap_conf` -/

/-- `loc_sap_cfg_s_type`. -/
structure LocSapCfg (F : Type*) where
  gyroBiasRandomWalkValid : UInt8
  gyroBiasRandomWalk : F
  sensorAccelBatchesPerSec : UInt32
  sensorAccelSamplesPerBatch : UInt32
  sensorGyroBatchesPerSec : UInt32
  sensorGyroSamplesPerBatch : UInt32
  sensorAccelBatchesPerSecHigh : UInt32
  sensorAccelSamplesPerBatchHigh : UInt32
  sensorGyroBatchesPerSecHigh : UInt32
  sensorGyroSamplesPerBatchHigh : UInt32
  sensorControlMode : UInt32
  sensorUsage : UInt32
  sensorAlgorithmConfigMask : UInt32
  accelRandomWalkSpectralDensityValid : UInt8
  accelRandomWalkSpectralDensity : F
  angleRandomWalkSpectralDensityValid : UInt8
  angleRandomWalkSpectralDensity : F
  rateRandomWalkSpectralDensityValid : UInt8
  rateRandomWalkSpectralDensity : F
  velocityRandomWalkSpectralDensityValid : UInt8
  velocityRandomWalkSpectralDensity : F
  sensorProvider : UInt32

section Table

variable {F : Type*}

/-- A property of the table, with its validity byte. -/
def propertyParam (name : String) (value : F) (valid : UInt8) : LocParam F :=
  ⟨text name, some (.f value), some valid⟩

/-- A number of the table. -/
def sensorParam (name : String) (value : UInt32) : LocParam F :=
  ⟨text name, some (.n value.toInt32), none⟩

/-- `sap_conf_table`. -/
def sapConfTable (conf : LocSapCfg F) : List (LocParam F) :=
  [propertyParam "GYRO_BIAS_RANDOM_WALK" conf.gyroBiasRandomWalk conf.gyroBiasRandomWalkValid,
    propertyParam "ACCEL_RANDOM_WALK_SPECTRAL_DENSITY" conf.accelRandomWalkSpectralDensity
      conf.accelRandomWalkSpectralDensityValid,
    propertyParam "ANGLE_RANDOM_WALK_SPECTRAL_DENSITY" conf.angleRandomWalkSpectralDensity
      conf.angleRandomWalkSpectralDensityValid,
    propertyParam "RATE_RANDOM_WALK_SPECTRAL_DENSITY" conf.rateRandomWalkSpectralDensity
      conf.rateRandomWalkSpectralDensityValid,
    propertyParam "VELOCITY_RANDOM_WALK_SPECTRAL_DENSITY" conf.velocityRandomWalkSpectralDensity
      conf.velocityRandomWalkSpectralDensityValid,
    sensorParam "SENSOR_ACCEL_BATCHES_PER_SEC" conf.sensorAccelBatchesPerSec,
    sensorParam "SENSOR_ACCEL_SAMPLES_PER_BATCH" conf.sensorAccelSamplesPerBatch,
    sensorParam "SENSOR_GYRO_BATCHES_PER_SEC" conf.sensorGyroBatchesPerSec,
    sensorParam "SENSOR_GYRO_SAMPLES_PER_BATCH" conf.sensorGyroSamplesPerBatch,
    sensorParam "SENSOR_ACCEL_BATCHES_PER_SEC_HIGH" conf.sensorAccelBatchesPerSecHigh,
    sensorParam "SENSOR_ACCEL_SAMPLES_PER_BATCH_HIGH" conf.sensorAccelSamplesPerBatchHigh,
    sensorParam "SENSOR_GYRO_BATCHES_PER_SEC_HIGH" conf.sensorGyroBatchesPerSecHigh,
    sensorParam "SENSOR_GYRO_SAMPLES_PER_BATCH_HIGH" conf.sensorGyroSamplesPerBatchHigh,
    sensorParam "SENSOR_CONTROL_MODE" conf.sensorControlMode,
    sensorParam "SENSOR_USAGE" conf.sensorUsage,
    sensorParam "SENSOR_ALGORITHM_CONFIG_MASK" conf.sensorAlgorithmConfigMask,
    sensorParam "SENSOR_PROVIDER" conf.sensorProvider]

/-- The property that is in a place of the table. -/
def propertyAt [Zero F] (table : List (LocParam F)) (i : ℕ) : F :=
  match table[i]?.bind LocParam.paramPtr with
  | some (.f value) => value
  | _ => 0

/-- The validity byte that is in a place of the table. -/
def validAt (table : List (LocParam F)) (i : ℕ) : UInt8 := (table[i]?.bind LocParam.paramSet).getD 0

/-- The number that is in a place of the table. -/
def sensorAt (table : List (LocParam F)) (i : ℕ) : UInt32 :=
  match table[i]?.bind LocParam.paramPtr with
  | some (.n value) => value.toUInt32
  | _ => 0

/-- What the pointers of `sap_conf_table` point to. -/
def LocSapCfg.ofTable [Zero F] (table : List (LocParam F)) : LocSapCfg F where
  gyroBiasRandomWalkValid := validAt table 0
  gyroBiasRandomWalk := propertyAt table 0
  accelRandomWalkSpectralDensityValid := validAt table 1
  accelRandomWalkSpectralDensity := propertyAt table 1
  angleRandomWalkSpectralDensityValid := validAt table 2
  angleRandomWalkSpectralDensity := propertyAt table 2
  rateRandomWalkSpectralDensityValid := validAt table 3
  rateRandomWalkSpectralDensity := propertyAt table 3
  velocityRandomWalkSpectralDensityValid := validAt table 4
  velocityRandomWalkSpectralDensity := propertyAt table 4
  sensorAccelBatchesPerSec := sensorAt table 5
  sensorAccelSamplesPerBatch := sensorAt table 6
  sensorGyroBatchesPerSec := sensorAt table 7
  sensorGyroSamplesPerBatch := sensorAt table 8
  sensorAccelBatchesPerSecHigh := sensorAt table 9
  sensorAccelSamplesPerBatchHigh := sensorAt table 10
  sensorGyroBatchesPerSecHigh := sensorAt table 11
  sensorGyroSamplesPerBatchHigh := sensorAt table 12
  sensorControlMode := sensorAt table 13
  sensorUsage := sensorAt table 14
  sensorAlgorithmConfigMask := sensorAt table 15
  sensorProvider := sensorAt table 16

end Table

/-! ### Reading -/

section Read

variable {F S : Type*} [Zero F] (atof : Text → F)

/-- `loc_default_parameters`, for `gps_conf`: the URLs stay. -/
def gpsDefaults (conf : LocGpsCfg) : LocGpsCfg :=
  { conf with
    intermediatePos := 0
    accuracyThres := 0
    nmeaProvider := 0
    gpsLock := 0
    suplVer := 0x10000
    suplMode := 0x3
    capabilities := 0x7
    lppProfile := 0
    aGlonassPosProtocolSelect := 0
    xtraVersionCheck := 0
    useEmergencyPdnForEmergencySupl := 1
    agpsCertWritableMask := 0 }

/-- `loc_default_parameters`, for `sap_conf`. -/
def sapDefaults : LocSapCfg F where
  gyroBiasRandomWalk := 0
  sensorAccelBatchesPerSec := 2
  sensorAccelSamplesPerBatch := 5
  sensorGyroBatchesPerSec := 2
  sensorGyroSamplesPerBatch := 5
  sensorAccelBatchesPerSecHigh := 4
  sensorAccelSamplesPerBatchHigh := 25
  sensorGyroBatchesPerSecHigh := 4
  sensorGyroSamplesPerBatchHigh := 25
  sensorControlMode := 0
  sensorUsage := 0
  sensorAlgorithmConfigMask := 0
  accelRandomWalkSpectralDensity := 0
  angleRandomWalkSpectralDensity := 0
  rateRandomWalkSpectralDensity := 0
  velocityRandomWalkSpectralDensity := 0
  gyroBiasRandomWalkValid := 0
  accelRandomWalkSpectralDensityValid := 0
  angleRandomWalkSpectralDensityValid := 0
  rateRandomWalkSpectralDensityValid := 0
  velocityRandomWalkSpectralDensityValid := 0
  sensorProvider := 1

/-- `UTIL_READ_CONF`, of which the given table is what counts here. -/
def utilReadConf (file : Option (List UInt8)) (table : List (LocParam F)) : List (LocParam F) :=
  (locReadConf atof file table []).1

/-! ### What is sent -/

/-- `LocEngSensorProperties`: the five properties, each with its validity. -/
structure SensorProperties (S : Type*) where
  gyroBiasRandomWalk : Bool × S
  accelRandomWalk : Bool × S
  angleRandomWalk : Bool × S
  rateRandomWalk : Bool × S
  velocityRandomWalk : Bool × S
  deriving DecidableEq

/-- `LocEngSensorPerfControlConfig`. -/
structure SensorPerfControl where
  controlMode : UInt32
  accelSamplesPerBatch : UInt32
  accelBatchesPerSec : UInt32
  gyroSamplesPerBatch : UInt32
  gyroBatchesPerSec : UInt32
  accelSamplesPerBatchHigh : UInt32
  accelBatchesPerSecHigh : UInt32
  gyroSamplesPerBatchHigh : UInt32
  gyroBatchesPerSecHigh : UInt32
  algorithmConfig : UInt32
  deriving DecidableEq

/-- The messages of `loc_eng_reinit`, and those of the network's updates: `LocEngEnableData` with
the name of an access point, or without it. -/
inductive ReinitMsg (S : Type*)
  | gnssConstellationConfig
  | told (param : ToldParam) (value : UInt32)
  | sensorControlConfig (sensorsDisabled sensorProvider : UInt32)
  | sensorProperties (properties : SensorProperties S)
  | sensorPerfControlConfig (control : SensorPerfControl)
  | enableData (enable : Int32) (apn : Option Text)
  | setXtraVersionCheck (check : UInt32)
  deriving DecidableEq

/-- The condition of `loc_eng_reinit`: one of the properties is in the file. -/
def anyValid (sap : LocSapCfg F) : Bool :=
  sap.gyroBiasRandomWalkValid != 0 || sap.accelRandomWalkSpectralDensityValid != 0 ||
    sap.angleRandomWalkSpectralDensityValid != 0 || sap.rateRandomWalkSpectralDensityValid != 0 ||
    sap.velocityRandomWalkSpectralDensityValid != 0

/-- The message with the properties; `toFloat` makes a `float` of a `double`. -/
def sensorProperties (toFloat : F → S) (sap : LocSapCfg F) : SensorProperties S where
  gyroBiasRandomWalk := (sap.gyroBiasRandomWalkValid != 0, toFloat sap.gyroBiasRandomWalk)
  accelRandomWalk :=
    (sap.accelRandomWalkSpectralDensityValid != 0, toFloat sap.accelRandomWalkSpectralDensity)
  angleRandomWalk :=
    (sap.angleRandomWalkSpectralDensityValid != 0, toFloat sap.angleRandomWalkSpectralDensity)
  rateRandomWalk :=
    (sap.rateRandomWalkSpectralDensityValid != 0, toFloat sap.rateRandomWalkSpectralDensity)
  velocityRandomWalk :=
    (sap.velocityRandomWalkSpectralDensityValid != 0,
      toFloat sap.velocityRandomWalkSpectralDensity)

/-- `loc_eng_reinit`: the messages, in their order. -/
def locEngReinit (toFloat : F → S) (gps : LocGpsCfg) (sap : LocSapCfg F) (agpsStatus : UInt32) :
    List (ReinitMsg S) :=
  [.gnssConstellationConfig, .told .suplVer gps.suplVer, .told .lppProfile gps.lppProfile,
    .sensorControlConfig sap.sensorUsage sap.sensorProvider,
    .told .aGlonassPosProtocolSelect gps.aGlonassPosProtocolSelect] ++
  (if anyValid sap then [.sensorProperties (sensorProperties toFloat sap)] else []) ++
  [.sensorPerfControlConfig ⟨sap.sensorControlMode, sap.sensorAccelSamplesPerBatch,
      sap.sensorAccelBatchesPerSec, sap.sensorGyroSamplesPerBatch, sap.sensorGyroBatchesPerSec,
      sap.sensorAccelSamplesPerBatchHigh, sap.sensorAccelBatchesPerSecHigh,
      sap.sensorGyroSamplesPerBatchHigh, sap.sensorGyroBatchesPerSecHigh,
      sap.sensorAlgorithmConfigMask⟩,
    .enableData (if agpsStatus != 0 then 1 else 0) none, .setXtraVersionCheck gps.xtraVersionCheck]

/-! ### Runs -/

/-- `MAX_APN_LEN`. -/
def maxApnLen : ℕ := 100

/-- Whether the files have been read, both configurations, whether the network is available, and
what has been sent, oldest first. -/
structure ConfigFiles (F S : Type*) where
  configAlreadyRead : Bool := false
  carrier : CarrierUpdate
  sapConf : LocSapCfg F
  agpsStatus : UInt32 := 0
  sent : List (ReinitMsg S) := []

namespace ConfigFiles

/-- What can happen; the files are as they are at the time. -/
inductive Input
  /-- `loc_eng_read_config`. -/
  | readConfig (gpsFile sapFile : Option (List UInt8))
  | carrier (input : CarrierUpdate.Input)
  | updateNetworkAvailability (available : Int32) (apn : Option (List UInt8))
  /-- The adapter is made. -/
  | init
  /-- `loc_eng_reinit`, at the start or when the modem comes back. -/
  | reinit
  deriving DecidableEq, Repr

/-- `loc_eng_read_config`. -/
def locEngReadConfig (gpsFile sapFile : Option (List UInt8)) (s : ConfigFiles F S) :
    ConfigFiles F S :=
  if s.configAlreadyRead then s
  else
    { s with
      configAlreadyRead := true
      carrier := { s.carrier with
        gpsConf := .ofTable (utilReadConf (fun _ => ()) gpsFile
          (gpsConfTable (gpsDefaults s.carrier.gpsConf))) }
      sapConf := .ofTable (utilReadConf atof sapFile (sapConfTable sapDefaults)) }

/-- `loc_eng_agps_ril_update_network_availability`. -/
def updateNetworkAvailability (available : Int32) (apn : Option (List UInt8))
    (s : ConfigFiles F S) : ConfigFiles F S :=
  let s := { s with agpsStatus := available.toUInt32 }
  match apn with
  | some apn =>
    if s.carrier.adapter then
      { s with sent := s.sent ++ [.enableData available (some ((untilNul apn).take maxApnLen))] }
    else s
  | none => s

def step (toFloat : F → S) (s : ConfigFiles F S) : Input → ConfigFiles F S
  | .readConfig gpsFile sapFile => s.locEngReadConfig atof gpsFile sapFile
  | .carrier input => { s with carrier := s.carrier.step input }
  | .updateNetworkAvailability available apn => s.updateNetworkAvailability available apn
  | .init => { s with carrier.adapter := true }
  | .reinit =>
    if s.carrier.adapter then
      { s with sent := s.sent ++ locEngReinit toFloat s.carrier.gpsConf s.sapConf s.agpsStatus }
    else s

end ConfigFiles

/-! ### What assignments say -/

/-- The number that some assignments give to a parameter: the last of them counts. -/
def numberIn (all : List (Text × Text)) (name : String) : Option UInt32 :=
  (lastValue all (text name)).map fun value => (intValue value).toUInt32

/-- The number that a parameter has after some assignments. -/
def numberSaid (all : List (Text × Text)) (name : String) (default : UInt32) : UInt32 :=
  (numberIn all name).getD default

/-- The property that some assignments give to a parameter; a hexadecimal one is zero. -/
def propertyIn (all : List (Text × Text)) (name : String) : Option F :=
  (lastValue all (text name)).map fun value => if isHex value then 0 else atof value

variable {atof} {all : List (Text × Text)}

theorem honour_of_eq_none {entry : LocParam F} (h : lastValue all entry.paramName = none) :
    honour atof all entry = entry := by
  rw [honour, h]

theorem honour_of_eq_some {entry : LocParam F} {value : Text} (stored : Storage F)
    (h : lastValue all entry.paramName = some value)
    (htake : entry.paramPtr.bind (·.take (configValue atof entry.paramName value)) = some stored) :
    honour atof all entry = entry.put stored := by
  rw [honour, h]
  exact congrArg Prod.fst (store_of_take atof htake)

/-- A number after some assignments. -/
theorem honour_number (name : String) (old : UInt32) :
    honour atof all (sensorParam name old) = sensorParam name (numberSaid all name old) := by
  unfold numberSaid numberIn
  cases hlast : lastValue all (text name) with
  | none => exact honour_of_eq_none hlast
  | some value =>
    rw [honour_of_eq_some (.n (intValue value)) hlast rfl, Option.map_some, Option.getD_some,
      sensorParam, sensorParam, Int32.toInt32_toUInt32]
    rfl

/-- A property after some assignments, its validity byte cleared before. -/
theorem honour_property (name : String) (old : F) (valid : UInt8) :
    honour atof all (propertyParam name old valid).clear =
      propertyParam name ((propertyIn atof all name).getD old)
        (if (propertyIn atof all name).isSome then 1 else 0) := by
  unfold propertyIn
  cases hlast : lastValue all (text name) with
  | none => exact honour_of_eq_none hlast
  | some value =>
    exact honour_of_eq_some (.f (if isHex value then 0 else atof value)) hlast rfl

end Read

/-! ### What a text says -/

/-- The assignments of some lines to some names. -/
def assigned (names lines : List Text) : List (Text × Text) :=
  (lines.filterMap operands).filter fun a => a.1 ∈ names

/-- The assignments of a file that count: as many as there are names. -/
def fileSays (names : List Text) : Option (List UInt8) → List (Text × Text)
  | none => []
  | some file => (assigned names (fgetsLines file)).take names.length

/-- The names of `gps_conf_table`. -/
def gpsNames : List Text := (gpsConfTable {}).map LocParam.paramName

/-- The names of `sap_conf_table`. -/
def sapNames : List Text := (sapConfTable (sapDefaults (F := Unit))).map LocParam.paramName

/-- The assignments of a carrier's text that count: one less than there are names. -/
def updateSays (configData : Option (List UInt8)) (length : Int32) (malloc : Bool) :
    List (Text × Text) :=
  match configData with
  | none => []
  | some data =>
    if 0 < length ∧ malloc = true then
      (assigned gpsNames ((strtokReader isNewline).all
        (untilNul (data.take length.toNatClampNeg)))).take (gpsNames.length - 1)
    else []

section Texts

variable {F S : Type*} [Zero F] {atof : Text → F} {table : List (LocParam F)}

omit [Zero F] in
theorem settings_eq_assigned (h : ∀ entry ∈ table, entry.Settable) (lines : List Text) :
    settings table lines = assigned (table.map LocParam.paramName) lines := by
  unfold settings assigned
  congr 1
  funext a
  rw [recognised, Bool.eq_iff_iff, List.any_eq_true, decide_eq_true_iff, List.mem_map]
  refine exists_congr fun entry => ?_
  rw [decide_eq_true_iff]
  exact and_congr_right fun hmem => and_iff_left (h entry hmem)

/-- What is in a table after a file. -/
theorem utilReadConf_some (hnames : NamesDistinct table)
    (hsettable : ∀ entry ∈ table, entry.Settable) (hne : table ≠ [])
    (hsize : table.length < 2 ^ 32) (file : List UInt8) :
    utilReadConf atof (some file) table = table.map fun entry =>
      honour atof (fileSays (table.map LocParam.paramName) (some file)) entry.clear := by
  have hempty : table.isEmpty = false := List.isEmpty_eq_false_iff.mpr hne
  have hlimit : (UInt32.ofNat table.length).toNat = table.length := by
    rw [UInt32.toNat_ofNat']
    omega
  have hclear : ∀ entry ∈ table.map LocParam.clear, entry.Settable := by
    intro entry hentry
    obtain ⟨entry, hmem, rfl⟩ := List.mem_map.mp hentry
    exact hsettable entry hmem
  have hsame : (table.map LocParam.clear).map LocParam.paramName =
      table.map LocParam.paramName := by
    rw [List.map_map]
    rfl
  rw [utilReadConf, locReadConf, hempty, if_neg Bool.false_ne_true, locReadConfR,
    fillWhile_eq hnames.clear, hlimit, settings_eq_assigned hclear, hsame, List.map_map, fileSays,
    List.length_map]
  rfl

/-! ### After a file -/

omit [Zero F] in
theorem namesDistinct_sapConfTable (conf : LocSapCfg F) : NamesDistinct (sapConfTable conf) := by
  have hnames : (sapConfTable conf).map LocParam.paramName = sapNames := rfl
  rw [NamesDistinct, hnames]
  decide

omit [Zero F] in
theorem settable_sapConfTable (conf : LocSapCfg F) :
    ∀ entry ∈ sapConfTable conf, entry.Settable := by
  simp [sapConfTable, propertyParam, sensorParam, LocParam.Settable]

theorem settable_gpsConfTable (conf : LocGpsCfg) :
    ∀ entry ∈ gpsConfTable conf, entry.Settable := by
  simp [gpsConfTable, numberParam, textParam, LocParam.Settable]

/-- What is in `sap_conf_table` after the assignments of a file. -/
theorem sapConfTable_read (file : Option (List UInt8)) :
    utilReadConf atof file (sapConfTable sapDefaults) = (sapConfTable sapDefaults).map fun entry =>
      honour atof (fileSays sapNames file) entry.clear := by
  cases file with
  | none => rfl
  | some file =>
    exact utilReadConf_some (namesDistinct_sapConfTable _) (settable_sapConfTable _)
      (List.cons_ne_nil _ _) (show 17 < 2 ^ 32 by decide) file

/-- What is in `gps_conf_table` after the assignments of a file. -/
theorem gpsConfTable_read (conf : LocGpsCfg) (file : Option (List UInt8)) :
    utilReadConf (fun _ => ()) file (gpsConfTable conf) =
      (gpsConfTable conf).map (honour (fun _ => ()) (fileSays gpsNames file)) := by
  cases file with
  | none => exact map_honour_nil.symm
  | some file =>
    exact utilReadConf_some (namesDistinct_gpsConfTable _) (settable_gpsConfTable _)
      (List.cons_ne_nil _ _) (show 15 < 2 ^ 32 by decide) file

/-- What is in `gps_conf_table` after an update of a carrier. -/
theorem gpsConfTable_update (conf : LocGpsCfg) (configData : Option (List UInt8)) {length : Int32}
    (hlength : 0 < length) (malloc : Bool) :
    (locUpdateConf (fun _ => ()) configData length malloc (gpsConfTable conf)).1 =
      (gpsConfTable conf).map (honour (fun _ => ()) (updateSays configData length malloc)) := by
  have hne : length ≠ 0 := fun hzero => by
    rw [hzero] at hlength
    cases hlength
  cases configData with
  | none => exact (map_honour_nil (F := Unit)).symm
  | some data =>
    rw [locUpdateConf, updateSays]
    cases malloc with
    | false =>
      have hsays : ¬ (0 < length ∧ false = true) := fun h => Bool.false_ne_true h.2
      dsimp only
      rw [if_pos (Or.inr (Or.inr rfl)), if_neg hsays]
      exact map_honour_nil.symm
    | true =>
      have hgood : ¬ (length = 0 ∨ (gpsConfTable conf).isEmpty = true ∨ true = false) := by
        rintro (hzero | hempty | hfalse)
        · exact hne hzero
        · cases hempty
        · cases hfalse
      have hsays : 0 < length ∧ true = true := ⟨hlength, rfl⟩
      have hlimit : (UInt32.ofNat (gpsConfTable conf).length - 1).toNat = gpsNames.length - 1 := by
        show (UInt32.ofNat 15 - 1).toNat = 15 - 1
        decide
      dsimp only
      rw [if_neg hgood, if_pos hsays, fillWhile_eq (namesDistinct_gpsConfTable conf), hlimit,
        settings_eq_assigned (settable_gpsConfTable conf)]
      rfl

/-- The name of a parameter that the modem is told. -/
def ToldParam.name : ToldParam → String
  | suplVer => "SUPL_VER"
  | lppProfile => "LPP_PROFILE"
  | aGlonassPosProtocolSelect => "A_GLONASS_POS_PROTOCOL_SELECT"

/-- Its default. -/
def ToldParam.default : ToldParam → UInt32
  | suplVer => 0x10000
  | lppProfile => 0
  | aGlonassPosProtocolSelect => 0

/-- A number of `gps_conf_table` after some assignments. -/
theorem number_honour (all : List (Text × Text)) (name : String) (old : UInt32) :
    (match (honour (fun _ => ()) all (numberParam name old)).paramPtr with
      | some (.n value) => value.toUInt32
      | _ => 0) = numberSaid all name old := by
  have hparam : numberParam name old = sensorParam (F := Unit) name old := rfl
  rw [hparam, honour_number, sensorParam]
  exact UInt32.toUInt32_toInt32 _

/-- A parameter that the modem is told, after some assignments. -/
theorem of_ofTable_honour (conf : LocGpsCfg) (all : List (Text × Text)) (param : ToldParam) :
    param.of (.ofTable ((gpsConfTable conf).map (honour (fun _ => ()) all))) =
      numberSaid all param.name (param.of conf) := by
  cases param with
  | suplVer => exact number_honour all _ _
  | lppProfile => exact number_honour all _ _
  | aGlonassPosProtocolSelect => exact number_honour all _ _

/-! ### What the modem should be sent -/

/-- The names of the properties. -/
def propertyNames : List String :=
  ["GYRO_BIAS_RANDOM_WALK", "ACCEL_RANDOM_WALK_SPECTRAL_DENSITY",
    "ANGLE_RANDOM_WALK_SPECTRAL_DENSITY", "RATE_RANDOM_WALK_SPECTRAL_DENSITY",
    "VELOCITY_RANDOM_WALK_SPECTRAL_DENSITY"]

variable (atof)

/-- A property as it is sent. -/
def propertySaid (toFloat : F → S) (all : List (Text × Text)) (name : String) : Bool × S :=
  ((propertyIn atof all name).isSome, toFloat ((propertyIn atof all name).getD 0))

/-- What the modem is sent of the parameters it is told, of the assignments of both files and of the
network: the properties, if the file has one of them. -/
def saidMsgs (toFloat : F → S) (told : ToldParam → UInt32) (gps sap : List (Text × Text))
    (available : Bool) : List (ReinitMsg S) :=
  [.gnssConstellationConfig, .told .suplVer (told .suplVer), .told .lppProfile (told .lppProfile),
    .sensorControlConfig (numberSaid sap "SENSOR_USAGE" 0) (numberSaid sap "SENSOR_PROVIDER" 1),
    .told .aGlonassPosProtocolSelect (told .aGlonassPosProtocolSelect)] ++
  (if propertyNames.any fun name => (propertyIn atof sap name).isSome then
    [.sensorProperties ⟨propertySaid atof toFloat sap "GYRO_BIAS_RANDOM_WALK",
      propertySaid atof toFloat sap "ACCEL_RANDOM_WALK_SPECTRAL_DENSITY",
      propertySaid atof toFloat sap "ANGLE_RANDOM_WALK_SPECTRAL_DENSITY",
      propertySaid atof toFloat sap "RATE_RANDOM_WALK_SPECTRAL_DENSITY",
      propertySaid atof toFloat sap "VELOCITY_RANDOM_WALK_SPECTRAL_DENSITY"⟩]
  else []) ++
  [.sensorPerfControlConfig ⟨numberSaid sap "SENSOR_CONTROL_MODE" 0,
      numberSaid sap "SENSOR_ACCEL_SAMPLES_PER_BATCH" 5,
      numberSaid sap "SENSOR_ACCEL_BATCHES_PER_SEC" 2,
      numberSaid sap "SENSOR_GYRO_SAMPLES_PER_BATCH" 5,
      numberSaid sap "SENSOR_GYRO_BATCHES_PER_SEC" 2,
      numberSaid sap "SENSOR_ACCEL_SAMPLES_PER_BATCH_HIGH" 25,
      numberSaid sap "SENSOR_ACCEL_BATCHES_PER_SEC_HIGH" 4,
      numberSaid sap "SENSOR_GYRO_SAMPLES_PER_BATCH_HIGH" 25,
      numberSaid sap "SENSOR_GYRO_BATCHES_PER_SEC_HIGH" 4,
      numberSaid sap "SENSOR_ALGORITHM_CONFIG_MASK" 0⟩,
    .enableData (if available then 1 else 0) none,
    .setXtraVersionCheck (numberSaid gps "XTRA_VERSION_CHECK" 0)]

variable {atof}

omit [Zero F] in
theorem clear_sensorParam (name : String) (value : UInt32) :
    (sensorParam (F := F) name value).clear = sensorParam name value := rfl

/-- **What `loc_eng_reinit` sends** of `sap_conf` after a file. -/
theorem locEngReinit_read (toFloat : F → S) (gps : LocGpsCfg) (sapFile : Option (List UInt8))
    (gpsAll : List (Text × Text)) (agpsStatus : UInt32)
    (hcheck : gps.xtraVersionCheck = numberSaid gpsAll "XTRA_VERSION_CHECK" 0) :
    locEngReinit toFloat gps
        (.ofTable (utilReadConf atof sapFile (sapConfTable sapDefaults))) agpsStatus =
      saidMsgs atof toFloat (fun param => param.of gps) gpsAll (fileSays sapNames sapFile)
        (agpsStatus != 0) := by
  obtain ⟨all, hall⟩ : ∃ all, all = fileSays sapNames sapFile := ⟨_, rfl⟩
  have hvalid : ∀ o : Option F, ((if o.isSome then 1 else 0 : UInt8) != 0) = o.isSome := by
    intro o
    cases o <;> rfl
  rw [sapConfTable_read, ← hall, sapConfTable]
  simp only [List.map_cons, List.map_nil, honour_property, clear_sensorParam, honour_number]
  simp [locEngReinit, anyValid, sensorProperties, saidMsgs, propertyNames, propertySaid,
    LocSapCfg.ofTable, validAt, propertyAt, sensorAt, propertyParam, sensorParam, sapDefaults,
    hvalid, hcheck, ToldParam.of, Bool.or_assoc]

/-! ### Runs -/

namespace ConfigFiles

/-- What an update of a carrier says of a parameter that the modem is told. -/
def Input.said? (param : ToldParam) : Input → Option UInt32
  | .carrier (.update configData length malloc) =>
    numberIn (updateSays configData length malloc) param.name
  | _ => none

/-- An update that is read says what a parameter is, or leaves it. -/
theorem of_update (s : CarrierUpdate) (configData : Option (List UInt8)) (length : Int32)
    (malloc : Bool) (param : ToldParam) :
    param.of (s.locEngConfigurationUpdate configData length malloc).gpsConf =
      numberSaid (updateSays configData length malloc) param.name (param.of s.gpsConf) := by
  unfold CarrierUpdate.locEngConfigurationUpdate
  split
  · next hgood =>
    dsimp only
    rw [CarrierUpdate.told_putBack, LocGpsCfg.parse, gpsConfTable_update _ _ hgood.2,
      of_ofTable_honour]
  · next hbad =>
    have hnone : updateSays configData length malloc = [] := by
      unfold updateSays
      split
      · rfl
      · next data =>
        refine if_neg fun hsays => hbad ⟨rfl, hsays.1⟩
    rw [hnone]
    rfl

/-- Whether the network is available, by an update. -/
def Input.available? : Input → Option Bool
  | .updateNetworkAvailability available _ => some (available != 0)
  | _ => none

/-- Both configurations are as the files and the carriers have them, and the network is as it has
been said to be. -/
structure Kept (atof : Text → F) (gpsFile sapFile : Option (List UInt8)) (inputs : List Input)
    (s : ConfigFiles F S) : Prop where
  read : s.configAlreadyRead = true
  sapConf : s.sapConf = .ofTable (utilReadConf atof sapFile (sapConfTable sapDefaults))
  told : ∀ param : ToldParam, param.of s.carrier.gpsConf =
    (latest (Input.said? param) inputs).getD
      (numberSaid (fileSays gpsNames gpsFile) param.name param.default)
  check : s.carrier.gpsConf.xtraVersionCheck =
    numberSaid (fileSays gpsNames gpsFile) "XTRA_VERSION_CHECK" 0
  available : (s.agpsStatus != 0) = (latest Input.available? inputs).getD false

variable {toFloat : F → S} {gpsFile sapFile : Option (List UInt8)} {inputs : List Input}
  {s : ConfigFiles F S}

theorem kept_read (s : ConfigFiles F S) (hread : s.configAlreadyRead = false)
    (hstatus : s.agpsStatus = 0) (gpsFile sapFile : Option (List UInt8)) :
    Kept atof gpsFile sapFile [] (s.locEngReadConfig atof gpsFile sapFile) := by
  rw [locEngReadConfig, hread, if_neg Bool.false_ne_true]
  refine ⟨rfl, rfl, fun param => ?_, ?_, ?_⟩
  · dsimp only
    rw [gpsConfTable_read, of_ofTable_honour]
    cases param <;> rfl
  · dsimp only
    rw [gpsConfTable_read]
    exact number_honour _ _ _
  · dsimp only
    rw [hstatus]
    rfl

/-- A step that changes neither the configurations nor the network. -/
theorem Kept.quiet (h : Kept atof gpsFile sapFile inputs s) {i : Input} {s' : ConfigFiles F S}
    (hsaid : ∀ param, i.said? param = none) (havailable : i.available? = none)
    (hread : s'.configAlreadyRead = s.configAlreadyRead) (hsap : s'.sapConf = s.sapConf)
    (hgps : s'.carrier.gpsConf = s.carrier.gpsConf) (hstatus : s'.agpsStatus = s.agpsStatus) :
    Kept atof gpsFile sapFile (inputs ++ [i]) s' where
  read := hread.trans h.read
  sapConf := hsap.trans h.sapConf
  told param := by
    rw [hgps, latest_concat, hsaid, h.told]
    rfl
  check := hgps ▸ h.check
  available := by
    rw [hstatus, latest_concat, havailable, h.available]
    rfl

theorem Kept.updateNetworkAvailability (h : Kept atof gpsFile sapFile inputs s) (available : Int32)
    (apn : Option (List UInt8)) :
    Kept atof gpsFile sapFile (inputs ++ [.updateNetworkAvailability available apn])
      (s.updateNetworkAvailability available apn) := by
  have hchanged : Kept atof gpsFile sapFile
      (inputs ++ [.updateNetworkAvailability available apn])
      { s with agpsStatus := available.toUInt32 } := by
    refine ⟨h.read, h.sapConf, fun param => ?_, h.check, ?_⟩
    · rw [latest_concat]
      exact h.told param
    · have hzero : available.toUInt32 = 0 ↔ available = 0 := by
        refine ⟨fun heq => ?_, fun heq => heq ▸ rfl⟩
        rw [← Int32.toInt32_toUInt32 available, heq]
        rfl
      rw [latest_concat]
      show (available.toUInt32 != 0) = (available != 0)
      rw [Bool.eq_iff_iff, bne_iff_ne, bne_iff_ne]
      exact not_congr hzero
  cases apn with
  | none => exact hchanged
  | some apn =>
    rw [ConfigFiles.updateNetworkAvailability]
    dsimp only
    split
    · exact ⟨hchanged.read, hchanged.sapConf, hchanged.told, hchanged.check, hchanged.available⟩
    · exact hchanged

theorem Kept.step (h : Kept atof gpsFile sapFile inputs s) (i : Input) :
    Kept atof gpsFile sapFile (inputs ++ [i]) (s.step atof toFloat i) := by
  cases i with
  | readConfig gpsFile' sapFile' =>
    have hsame : s.step atof toFloat (.readConfig gpsFile' sapFile') = s := if_pos h.read
    rw [hsame]
    exact h.quiet (fun _ => rfl) rfl rfl rfl rfl rfl
  | updateNetworkAvailability available apn => exact h.updateNetworkAvailability available apn
  | init => exact h.quiet (fun _ => rfl) rfl rfl rfl rfl rfl
  | reinit =>
    rw [ConfigFiles.step]
    split
    · exact h.quiet (fun _ => rfl) rfl rfl rfl rfl rfl
    · exact h.quiet (fun _ => rfl) rfl rfl rfl rfl rfl
  | carrier input =>
    cases input with
    | process => exact h.quiet (fun _ => rfl) rfl rfl rfl CarrierUpdate.process_eq.1 rfl
    | update configData length malloc =>
      have hsame := (CarrierUpdate.touches_only s.carrier configData length malloc).1
      refine ⟨h.read, h.sapConf, fun param => ?_, hsame.xtraVersionCheck.trans h.check, ?_⟩
      · show param.of (s.carrier.locEngConfigurationUpdate configData length malloc).gpsConf = _
        rw [of_update, latest_concat, h.told, Input.said?, numberSaid]
        cases numberIn (updateSays configData length malloc) param.name with
        | none => rfl
        | some value => rfl
      · rw [latest_concat]
        exact h.available

theorem kept_exec (s : ConfigFiles F S) (hread : s.configAlreadyRead = false)
    (hstatus : s.agpsStatus = 0) (gpsFile sapFile : Option (List UInt8)) (inputs : List Input) :
    Kept atof gpsFile sapFile inputs
      (exec (step atof toFloat) s (.readConfig gpsFile sapFile :: inputs)) := by
  induction inputs using List.reverseRecOn with
  | nil => exact kept_read s hread hstatus gpsFile sapFile
  | append_singleton inputs i ih =>
    rw [← List.cons_append, exec_append, exec_cons, exec_nil]
    exact ih.step i

/-- **What the modem is sent at a restart**, once the files have been read, whatever the carriers
have sent since and whatever has become of the files.  Of both files it is the last assignment to a
name that counts, among the first ones, as many as there are names, or the default; of the three
parameters that carriers may change it is the last update that has an assignment.  No carrier
changes anything else.  The modem is told whether the network was available when that was said
last, also if there was no adapter then. -/
theorem reinit_exec (atof : Text → F) (toFloat : F → S) (gps : LocGpsCfg) (sap : LocSapCfg F)
    (adapter : Bool) (gpsFile sapFile : Option (List UInt8)) (inputs : List Input) :
    let s := exec (step atof toFloat)
      { carrier := { gpsConf := gps, adapter := adapter }, sapConf := sap }
      (.readConfig gpsFile sapFile :: inputs)
    (s.step atof toFloat .reinit).sent = s.sent ++ if s.carrier.adapter then
      saidMsgs atof toFloat
        (fun param => (latest (Input.said? param) inputs).getD
          (numberSaid (fileSays gpsNames gpsFile) param.name param.default))
        (fileSays gpsNames gpsFile) (fileSays sapNames sapFile)
        ((latest Input.available? inputs).getD false)
      else [] := by
  intro s
  have h : Kept atof gpsFile sapFile inputs s := kept_exec _ rfl rfl gpsFile sapFile inputs
  have htold := funext h.told
  rw [← htold, ← h.available,
    ← locEngReinit_read toFloat s.carrier.gpsConf sapFile _ s.agpsStatus h.check, ← h.sapConf, step]
  split
  · rfl
  · exact (List.append_nil _).symm

end ConfigFiles

end Texts

end Eng
end Nx507j
