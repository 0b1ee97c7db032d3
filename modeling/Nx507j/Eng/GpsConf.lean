import Mathlib.Algebra.Group.PUnit
import Nx507j.Lib.Run
import Nx507j.Utils.ConfLines

/-!
# The carrier's configuration

`loc_eng_configuration_update` has the carrier's text parsed over `gps_conf`, sends a message for
each parameter that has changed, and puts back all of `gps_conf` but the four parameters that a
carrier may change.  The message for `SUPL_MODE` reads `gps_conf` when it is processed, and then the
mode has been put back.

## Main definitions

* `LocGpsCfg`, `gpsConfTable`, `LocGpsCfg.parse` — `gps_conf`, and what the parser makes of it.
* `getCarrierCapabilities` — the capabilities that the carrier allows.
* `CarrierUpdate`, `CarrierUpdate.step` — updates, and the messages that are processed.

## Main results

* `gpsConfTable_parse` — the parser leaves the table of a `gps_conf`.
* `CarrierUpdate.touches_only` — what an update changes, and what it sends.
* `CarrierUpdate.modeTakesEffect_iff` — when a new mode has the effect that it should have.
-/

namespace Nx507j
namespace Eng

open CText LocCfg Run

/-! ### `gps_conf` -/

/-- `loc_gps_cfg_s_type`. -/
structure LocGpsCfg where
  intermediatePos : UInt32 := 0
  accuracyThres : UInt32 := 0
  suplVer : UInt32 := 0
  suplMode : UInt32 := 0
  capabilities : UInt32 := 0
  lppProfile : UInt32 := 0
  xtraVersionCheck : UInt32 := 0
  xtraServer1 : Text := []
  xtraServer2 : Text := []
  xtraServer3 : Text := []
  useEmergencyPdnForEmergencySupl : UInt32 := 0
  nmeaProvider : UInt32 := 0
  gpsLock : UInt32 := 0
  aGlonassPosProtocolSelect : UInt32 := 0
  agpsCertWritableMask : UInt32 := 0
  deriving DecidableEq, Repr

/-- `MAX_XTRA_SERVER_URL_LENGTH`. -/
def maxXtraServerUrlLength : ℕ := 256

/-- A number of the table; no type 'f' is there. -/
def numberParam (name : String) (value : UInt32) : LocParam Unit :=
  ⟨text name, some (.n value.toInt32), none⟩

/-- A text of the table. -/
def textParam (name : String) (value : Text) : LocParam Unit :=
  ⟨text name, some (.s value), none⟩

/-- `gps_conf_table`. -/
def gpsConfTable (conf : LocGpsCfg) : List (LocParam Unit) :=
  [numberParam "GPS_LOCK" conf.gpsLock,
    numberParam "SUPL_VER" conf.suplVer,
    numberParam "LPP_PROFILE" conf.lppProfile,
    numberParam "A_GLONASS_POS_PROTOCOL_SELECT" conf.aGlonassPosProtocolSelect,
    numberParam "AGPS_CERT_WRITABLE_MASK" conf.agpsCertWritableMask,
    numberParam "SUPL_MODE" conf.suplMode,
    numberParam "INTERMEDIATE_POS" conf.intermediatePos,
    numberParam "ACCURACY_THRES" conf.accuracyThres,
    numberParam "NMEA_PROVIDER" conf.nmeaProvider,
    numberParam "CAPABILITIES" conf.capabilities,
    numberParam "XTRA_VERSION_CHECK" conf.xtraVersionCheck,
    textParam "XTRA_SERVER_1" conf.xtraServer1,
    textParam "XTRA_SERVER_2" conf.xtraServer2,
    textParam "XTRA_SERVER_3" conf.xtraServer3,
    numberParam "USE_EMERGENCY_PDN_FOR_EMERGENCY_SUPL" conf.useEmergencyPdnForEmergencySupl]

/-- The number that is in a place of the table. -/
def numberAt (table : List (LocParam Unit)) (i : ℕ) : UInt32 :=
  match table[i]?.bind LocParam.paramPtr with
  | some (.n value) => value.toUInt32
  | _ => 0

/-- The text that is in a place of the table. -/
def textAt (table : List (LocParam Unit)) (i : ℕ) : Text :=
  match table[i]?.bind LocParam.paramPtr with
  | some (.s value) => value
  | _ => []

/-- What the pointers of `gps_conf_table` point to. -/
def LocGpsCfg.ofTable (table : List (LocParam Unit)) : LocGpsCfg where
  gpsLock := numberAt table 0
  suplVer := numberAt table 1
  lppProfile := numberAt table 2
  aGlonassPosProtocolSelect := numberAt table 3
  agpsCertWritableMask := numberAt table 4
  suplMode := numberAt table 5
  intermediatePos := numberAt table 6
  accuracyThres := numberAt table 7
  nmeaProvider := numberAt table 8
  capabilities := numberAt table 9
  xtraVersionCheck := numberAt table 10
  xtraServer1 := textAt table 11
  xtraServer2 := textAt table 12
  xtraServer3 := textAt table 13
  useEmergencyPdnForEmergencySupl := numberAt table 14

/-- `UTIL_UPDATE_CONF` with `gps_conf_table`. -/
def LocGpsCfg.parse (conf : LocGpsCfg) (configData : Option (List UInt8)) (length : Int32)
    (malloc : Bool) : LocGpsCfg :=
  .ofTable (locUpdateConf (fun _ => ()) configData length malloc (gpsConfTable conf)).1

/-! ### What the parser leaves -/

/-- A parameter that has been tried with a number. -/
theorem locSetConfigEntry_numberParam (name : String) (old : UInt32) (value : LocParamV Unit) :
    (locSetConfigEntry (numberParam name old) value).1 =
      numberParam name
        (if text name = value.paramName then value.paramIntValue.toUInt32 else old) := by
  unfold locSetConfigEntry numberParam
  dsimp only
  split
  · rfl
  · rfl

/-- The text that is stored for a value. -/
def storedText (value : LocParamV Unit) : Text :=
  if value.paramStrValue = text "NULL" then []
  else strlcpy (locMaxParamString + 1) value.paramStrValue

theorem locSetConfigEntry_textParam (name : String) (old : Text) (value : LocParamV Unit) :
    (locSetConfigEntry (textParam name old) value).1 =
      textParam name (if text name = value.paramName then storedText value else old) := by
  have htake : (textParam name old).paramPtr.bind (·.take value) =
      some (.s (storedText value)) := by
    show (if value.paramStrValue = text "NULL" then _ else _) = _
    unfold storedText
    split
    · rfl
    · rfl
  rw [locSetConfigEntry, htake]
  by_cases hname : text name = value.paramName
  · have hentry : (textParam name old).paramName = value.paramName := hname
    rw [if_pos hentry, if_pos hname]
    rfl
  · have hentry : (textParam name old).paramName ≠ value.paramName := hname
    rw [if_neg hentry, if_neg hname]

/-- No text is too long for its field. -/
theorem length_storedText_lt (value : LocParamV Unit) :
    (storedText value).length < maxXtraServerUrlLength := by
  unfold storedText
  split
  · decide
  · exact Nat.lt_of_le_of_lt (length_strlcpy_le _ _) (by decide)

/-- A line leaves the table of a `gps_conf`. -/
theorem exists_setEntries (conf : LocGpsCfg) (value : LocParamV Unit) :
    ∃ conf', (setEntries value (gpsConfTable conf)).1 = gpsConfTable conf' := by
  unfold setEntries gpsConfTable
  simp only [List.map_cons, List.map_nil, locSetConfigEntry_numberParam,
    locSetConfigEntry_textParam]
  exact ⟨⟨_, _, _, _, _, _, _, _, _, _, _, _, _, _, _⟩, rfl⟩

/-- So do all the lines that are filled in. -/
theorem exists_fillWhile (lines : List Text) (numParams : UInt32) (conf : LocGpsCfg) :
    ∃ conf', (fillWhile (fun _ => ()) lines numParams (gpsConfTable conf)).1 =
      gpsConfTable conf' := by
  induction lines generalizing numParams conf with
  | nil => exact ⟨conf, rfl⟩
  | cons line lines ih =>
    unfold fillWhile
    split
    · exact ⟨conf, rfl⟩
    · rw [locFillConfItem_eq]
      cases operands line with
      | none => exact ih _ conf
      | some a =>
        obtain ⟨conf', hconf'⟩ := exists_setEntries conf (configValue (fun _ => ()) a.1 a.2)
        dsimp only
        rw [hconf']
        exact ih _ conf'

theorem ofTable_gpsConfTable (conf : LocGpsCfg) : LocGpsCfg.ofTable (gpsConfTable conf) = conf := rfl

/-- **The parser leaves the table of a `gps_conf`**: each value is where it is looked for. -/
theorem gpsConfTable_parse (conf : LocGpsCfg) (configData : Option (List UInt8)) (length : Int32)
    (malloc : Bool) :
    gpsConfTable (conf.parse configData length malloc) =
      (locUpdateConf (fun _ => ()) configData length malloc (gpsConfTable conf)).1 := by
  have hexists : ∃ conf', (locUpdateConf (fun _ => ()) configData length malloc
      (gpsConfTable conf)).1 = gpsConfTable conf' := by
    unfold locUpdateConf
    cases configData with
    | none => exact ⟨conf, rfl⟩
    | some data =>
      dsimp only
      split
      · exact ⟨conf, rfl⟩
      · exact exists_fillWhile _ _ conf
  obtain ⟨conf', hconf'⟩ := hexists
  rw [LocGpsCfg.parse, hconf', ofTable_gpsConfTable]

theorem namesDistinct_gpsConfTable (conf : LocGpsCfg) : NamesDistinct (gpsConfTable conf) := by
  have hnames : (gpsConfTable conf).map LocParam.paramName =
      (gpsConfTable {}).map LocParam.paramName := rfl
  rw [NamesDistinct, hnames]
  decide

/-- What the parser makes of a text: the lines that set something count, up to one less than there
are parameters. -/
theorem parse_text (conf : LocGpsCfg) {text : Text} (hlength : text.length < 2 ^ 31)
    (hnul : 0 ∉ text) :
    conf.parse (some text) (Int32.ofNat text.length) true =
      .ofTable ((gpsConfTable conf).map (honour (fun _ => ())
        ((settings (gpsConfTable conf) (Tokens.segments isNewline text)).take 14))) := by
  rw [LocGpsCfg.parse, locUpdateConf_settings _ (namesDistinct_gpsConfTable conf)
    (show 15 < 2 ^ 32 by decide) hlength hnul]
  rfl

/-! ### Capabilities -/

/-- `carrierMSA` and `carrierMSB`, of `SUPL_MODE`. -/
def carrierMSA : UInt32 := 0x2

def carrierMSB : UInt32 := 0x1

/-- `gpsConfMSA` and `gpsConfMSB`, of `CAPABILITIES`. -/
def gpsConfMSA : UInt32 := 0x4

def gpsConfMSB : UInt32 := 0x2

/-- The capabilities without a bit that the mode does not have. -/
def restrict (suplMode carrierBit gpsConfBit capabilities : UInt32) : UInt32 :=
  if suplMode &&& carrierBit ≠ carrierBit then capabilities &&& ~~~gpsConfBit else capabilities

/-- What a mode leaves of the capabilities. -/
def allowed (suplMode capabilities : UInt32) : UInt32 :=
  restrict suplMode carrierMSB gpsConfMSB (restrict suplMode carrierMSA gpsConfMSA capabilities)

/-- `getCarrierCapabilities`. -/
def getCarrierCapabilities (conf : LocGpsCfg) : UInt32 := allowed conf.suplMode conf.capabilities

/-- Two modes say the same of the bits that the capabilities have. -/
def SameEffect (capabilities mode mode' : UInt32) : Prop :=
  (capabilities &&& gpsConfMSA ≠ 0 →
    (mode &&& carrierMSA = carrierMSA ↔ mode' &&& carrierMSA = carrierMSA)) ∧
  (capabilities &&& gpsConfMSB ≠ 0 →
    (mode &&& carrierMSB = carrierMSB ↔ mode' &&& carrierMSB = carrierMSB))

instance (capabilities mode mode' : UInt32) : Decidable (SameEffect capabilities mode mode') := by
  unfold SameEffect; infer_instance

/-- A bit that is not there is not taken away. -/
theorem and_not_of_and_eq_zero {x y : UInt32} (h : x &&& y = 0) : x &&& ~~~y = x := by
  apply UInt32.eq_of_toBitVec_eq
  have hbits := congrArg UInt32.toBitVec h
  rw [UInt32.toBitVec_and] at hbits
  rw [UInt32.toBitVec_and, UInt32.toBitVec_not]
  ext i hi
  have hbit := congrArg (fun b => b.getLsbD i) hbits
  simp at hbit ⊢
  grind

/-- What is left of the MSA bit. -/
theorem allowed_and_msa (mode capabilities : UInt32) :
    allowed mode capabilities &&& gpsConfMSA =
      if mode &&& carrierMSA = carrierMSA then capabilities &&& gpsConfMSA else 0 := by
  have hkeep : ~~~gpsConfMSB &&& gpsConfMSA = gpsConfMSA := by decide
  have hdrop : ~~~gpsConfMSA &&& gpsConfMSA = 0 := by decide
  unfold allowed restrict
  by_cases ha : mode &&& carrierMSA = carrierMSA
  · by_cases hb : mode &&& carrierMSB = carrierMSB
    · simp [ha, hb]
    · simp [ha, hb, UInt32.and_assoc, hkeep]
  · by_cases hb : mode &&& carrierMSB = carrierMSB
    · simp [ha, hb, UInt32.and_assoc, hdrop]
    · simp [ha, hb, UInt32.and_assoc, hkeep, hdrop]

/-- What is left of the MSB bit. -/
theorem allowed_and_msb (mode capabilities : UInt32) :
    allowed mode capabilities &&& gpsConfMSB =
      if mode &&& carrierMSB = carrierMSB then capabilities &&& gpsConfMSB else 0 := by
  have hkeep : ~~~gpsConfMSA &&& gpsConfMSB = gpsConfMSB := by decide
  have hdrop : ~~~gpsConfMSB &&& gpsConfMSB = 0 := by decide
  unfold allowed restrict
  by_cases hb : mode &&& carrierMSB = carrierMSB
  · by_cases ha : mode &&& carrierMSA = carrierMSA
    · simp [ha, hb]
    · simp [ha, hb, UInt32.and_assoc, hkeep]
  · simp [hb, UInt32.and_assoc, hdrop]

theorem restrict_congr {mode mode' carrierBit gpsConfBit capabilities : UInt32}
    (h : capabilities &&& gpsConfBit ≠ 0 →
      (mode &&& carrierBit = carrierBit ↔ mode' &&& carrierBit = carrierBit)) :
    restrict mode carrierBit gpsConfBit capabilities =
      restrict mode' carrierBit gpsConfBit capabilities := by
  unfold restrict
  by_cases hzero : capabilities &&& gpsConfBit = 0
  · rw [and_not_of_and_eq_zero hzero, ite_self, ite_self]
  · simp only [ne_eq, h hzero]

/-- The modes leave the same capabilities just when they say the same of the bits that there are. -/
theorem allowed_eq_iff {capabilities mode mode' : UInt32} :
    allowed mode capabilities = allowed mode' capabilities ↔
      SameEffect capabilities mode mode' := by
  constructor
  · intro h
    have hmsa := congrArg (· &&& gpsConfMSA) h
    have hmsb := congrArg (· &&& gpsConfMSB) h
    rw [allowed_and_msa, allowed_and_msa] at hmsa
    rw [allowed_and_msb, allowed_and_msb] at hmsb
    refine ⟨fun hne => ?_, fun hne => ?_⟩
    · grind
    · grind
  · intro ⟨hmsa, hmsb⟩
    have hkeep : ~~~gpsConfMSA &&& gpsConfMSB = gpsConfMSB := by decide
    have hmsb' : restrict mode' carrierMSA gpsConfMSA capabilities &&& gpsConfMSB =
        capabilities &&& gpsConfMSB := by
      unfold restrict
      split
      · rw [UInt32.and_assoc, hkeep]
      · rfl
    rw [allowed, allowed, restrict_congr hmsa]
    exact restrict_congr fun hne => hmsb (hmsb' ▸ hne)

/-! ### Updates -/

/-- The parameters that the engine is told of. -/
inductive ToldParam
  | suplVer
  | lppProfile
  | aGlonassPosProtocolSelect
  deriving DecidableEq, Repr

/-- The parameter in `gps_conf`. -/
def ToldParam.of (conf : LocGpsCfg) : ToldParam → UInt32
  | suplVer => conf.suplVer
  | lppProfile => conf.lppProfile
  | aGlonassPosProtocolSelect => conf.aGlonassPosProtocolSelect

/-- The messages of an update: `told` is the `LocEngSuplVer`, the `LocEngLppConfig` or the
`LocEngAGlonassProtocol`. -/
inductive UpdateMsg
  | told (param : ToldParam) (value : UInt32)
  | suplMode
  deriving DecidableEq, Repr

/-- The value that the message has for a parameter. -/
def UpdateMsg.value? (param : ToldParam) : UpdateMsg → Option UInt32
  | .told param' value => if param' = param then some value else none
  | .suplMode => none

/-- What the messages have the adapter and the ULP proxy do. -/
inductive UpdateCall
  | setParam (param : ToldParam) (value : UInt32)
  | setCapabilities (capabilities : UInt32)
  deriving DecidableEq, Repr

/-- The capabilities that are passed. -/
def UpdateCall.capabilities? : UpdateCall → Option UInt32
  | .setCapabilities capabilities => some capabilities
  | .setParam _ _ => none

/-- `gps_conf`, whether there is an adapter, its messages, and the calls that have been made, oldest
first. -/
structure CarrierUpdate where
  gpsConf : LocGpsCfg
  adapter : Bool
  queue : List UpdateMsg := []
  calls : List UpdateCall := []
  deriving DecidableEq, Repr

/-- Nothing but the four parameters that a carrier may change differs. -/
structure SameElsewhere (conf conf' : LocGpsCfg) : Prop where
  intermediatePos : conf'.intermediatePos = conf.intermediatePos
  accuracyThres : conf'.accuracyThres = conf.accuracyThres
  suplMode : conf'.suplMode = conf.suplMode
  capabilities : conf'.capabilities = conf.capabilities
  xtraVersionCheck : conf'.xtraVersionCheck = conf.xtraVersionCheck
  xtraServer1 : conf'.xtraServer1 = conf.xtraServer1
  xtraServer2 : conf'.xtraServer2 = conf.xtraServer2
  xtraServer3 : conf'.xtraServer3 = conf.xtraServer3
  useEmergencyPdnForEmergencySupl :
    conf'.useEmergencyPdnForEmergencySupl = conf.useEmergencyPdnForEmergencySupl
  nmeaProvider : conf'.nmeaProvider = conf.nmeaProvider
  agpsCertWritableMask : conf'.agpsCertWritableMask = conf.agpsCertWritableMask

/-- A message for a parameter that has changed. -/
def changed (param : ToldParam) (conf conf' : LocGpsCfg) : List UpdateMsg :=
  if param.of conf ≠ param.of conf' then [.told param (param.of conf')] else []

/-- The messages for what has changed. -/
def updateMsgs (conf conf' : LocGpsCfg) : List UpdateMsg :=
  changed .suplVer conf conf' ++ changed .lppProfile conf conf' ++
    changed .aGlonassPosProtocolSelect conf conf' ++
    if conf.suplMode ≠ conf'.suplMode then [.suplMode] else []

/-- What is put back: all but four parameters. -/
def putBack (conf conf' : LocGpsCfg) : LocGpsCfg :=
  { conf with
    suplVer := conf'.suplVer
    lppProfile := conf'.lppProfile
    aGlonassPosProtocolSelect := conf'.aGlonassPosProtocolSelect
    gpsLock := conf'.gpsLock }

namespace CarrierUpdate

/-- `loc_eng_configuration_update`. -/
def locEngConfigurationUpdate (s : CarrierUpdate) (configData : Option (List UInt8))
    (length : Int32) (malloc : Bool) : CarrierUpdate :=
  if configData.isSome ∧ 0 < length then
    let conf' := s.gpsConf.parse configData length malloc
    { s with
      gpsConf := putBack s.gpsConf conf'
      queue := if s.adapter then s.queue ++ updateMsgs s.gpsConf conf' else s.queue }
  else s

/-- What the virtual `proc` of a message does. -/
def proc (conf : LocGpsCfg) : UpdateMsg → UpdateCall
  | .told param value => .setParam param value
  | .suplMode => .setCapabilities (getCarrierCapabilities conf)

/-- One message is processed. -/
def process (s : CarrierUpdate) : CarrierUpdate :=
  match s.queue with
  | [] => s
  | msg :: queue => { s with queue := queue, calls := s.calls ++ [proc s.gpsConf msg] }

/-- What can happen. -/
inductive Input
  | update (configData : Option (List UInt8)) (length : Int32) (malloc : Bool)
  | process
  deriving DecidableEq, Repr

/-- One step. -/
def step (s : CarrierUpdate) : Input → CarrierUpdate
  | .update configData length malloc => s.locEngConfigurationUpdate configData length malloc
  | .process => s.process

/-- The capabilities that have been passed last. -/
def lastCapabilities (s : CarrierUpdate) : Option UInt32 :=
  (s.calls.filterMap UpdateCall.capabilities?).getLast?

/-! ### What an update touches -/

theorem filterMap_changed (param param' : ToldParam) (conf conf' : LocGpsCfg) :
    (changed param' conf conf').filterMap (UpdateMsg.value? param) =
      if param' = param ∧ param.of conf ≠ param.of conf' then [param.of conf'] else [] := by
  unfold changed
  by_cases hparam : param' = param
  · subst hparam
    by_cases h : param'.of conf = param'.of conf' <;> simp [h, UpdateMsg.value?]
  · by_cases h : param'.of conf = param'.of conf' <;> simp [h, hparam, UpdateMsg.value?]

/-- One message for each parameter that has changed. -/
theorem filterMap_updateMsgs (param : ToldParam) (conf conf' : LocGpsCfg) :
    (updateMsgs conf conf').filterMap (UpdateMsg.value? param) =
      if param.of conf ≠ param.of conf' then [param.of conf'] else [] := by
  have hmode : (if conf.suplMode ≠ conf'.suplMode then [UpdateMsg.suplMode] else []).filterMap
      (UpdateMsg.value? param) = [] := by
    split <;> rfl
  unfold updateMsgs
  rw [List.filterMap_append, List.filterMap_append, List.filterMap_append, hmode,
    filterMap_changed, filterMap_changed, filterMap_changed]
  cases param <;> simp

theorem told_putBack (param : ToldParam) (conf conf' : LocGpsCfg) :
    param.of (putBack conf conf') = param.of conf' := by
  cases param <;> rfl

theorem sameElsewhere_putBack (conf conf' : LocGpsCfg) : SameElsewhere conf (putBack conf conf') :=
  ⟨rfl, rfl, rfl, rfl, rfl, rfl, rfl, rfl, rfl, rfl, rfl⟩

theorem sameElsewhere_refl (conf : LocGpsCfg) : SameElsewhere conf conf :=
  ⟨rfl, rfl, rfl, rfl, rfl, rfl, rfl, rfl, rfl, rfl, rfl⟩

/-- **What an update touches.**  The four parameters that a carrier may change, and with an adapter
there is one message for each of those that have changed, with the new value. -/
theorem touches_only (s : CarrierUpdate) (configData : Option (List UInt8)) (length : Int32)
    (malloc : Bool) :
    SameElsewhere s.gpsConf (s.locEngConfigurationUpdate configData length malloc).gpsConf ∧
      ∃ sent, (s.locEngConfigurationUpdate configData length malloc).queue = s.queue ++ sent ∧
        (s.adapter = true → ∀ param : ToldParam,
          sent.filterMap (UpdateMsg.value? param) =
            if param.of s.gpsConf ≠
                param.of (s.locEngConfigurationUpdate configData length malloc).gpsConf then
              [param.of (s.locEngConfigurationUpdate configData length malloc).gpsConf]
            else []) := by
  unfold locEngConfigurationUpdate
  by_cases hgood : configData.isSome ∧ 0 < length
  · rw [if_pos hgood]
    refine ⟨sameElsewhere_putBack _ _, ?_⟩
    cases hadapter : s.adapter with
    | false => exact ⟨[], (List.append_nil _).symm, fun h => by cases h⟩
    | true =>
      refine ⟨updateMsgs s.gpsConf (s.gpsConf.parse configData length malloc), rfl, ?_⟩
      intro _ param
      dsimp only
      rw [filterMap_updateMsgs, told_putBack]
  · rw [if_neg hgood]
    refine ⟨sameElsewhere_refl _, [], (List.append_nil _).symm, fun _ param => ?_⟩
    exact (if_neg fun h => h rfl).symm

/-! ### What the proxy is told -/

/-- The calls that have been made or will be when the queue has been processed. -/
def due (s : CarrierUpdate) : List UpdateCall := s.calls ++ s.queue.map (proc s.gpsConf)

variable {s : CarrierUpdate}

/-- Processing changes neither the configuration nor what is due. -/
theorem process_eq : s.process.gpsConf = s.gpsConf ∧ s.process.due = s.due := by
  unfold process due
  cases hqueue : s.queue with
  | nil => exact ⟨rfl, by rw [hqueue]⟩
  | cons msg queue =>
    refine ⟨rfl, ?_⟩
    dsimp only
    rw [List.map_cons, List.append_assoc, List.singleton_append]

theorem due_exec_process (n : ℕ) :
    (exec step s (List.replicate n .process)).due = s.due := by
  induction n generalizing s with
  | zero => rfl
  | succ n ih => rw [List.replicate_succ, exec_cons, ih]; exact process_eq.2

theorem adapter_step (s : CarrierUpdate) (i : Input) (h : s.adapter = true) :
    (step s i).adapter = true := by
  refine Eq.trans ?_ h
  cases i with
  | update configData length malloc =>
    unfold step locEngConfigurationUpdate
    dsimp only
    split <;> rfl
  | process =>
    unfold step process
    dsimp only
    split <;> rfl

/-- The mode that is put back is the one that the proxy is told of. -/
theorem lastDue_update (hadapter : s.adapter = true) {configData : Option (List UInt8)}
    {length : Int32} {malloc : Bool} (hgood : configData.isSome ∧ 0 < length)
    (hmode : (s.gpsConf.parse configData length malloc).suplMode ≠ s.gpsConf.suplMode) :
    ((s.locEngConfigurationUpdate configData length malloc).due.filterMap
        UpdateCall.capabilities?).getLast? = some (getCarrierCapabilities s.gpsConf) := by
  unfold locEngConfigurationUpdate due
  rw [if_pos hgood]
  dsimp only
  rw [if_pos hadapter, updateMsgs, if_pos (Ne.symm hmode), ← List.append_assoc, List.map_append,
    ← List.append_assoc, List.filterMap_append]
  exact List.getLast?_concat

/-- **When a new mode takes effect.**  The proxy is told what the mode before the update leaves of
the capabilities, which is right only if the new mode leaves the same. -/
theorem modeTakesEffect_iff (s : CarrierUpdate) (hadapter : s.adapter = true)
    (inputs : List Input) {configData : Option (List UInt8)} {length : Int32} {malloc : Bool}
    (hgood : configData.isSome ∧ 0 < length) {m : UInt32}
    (hm : ((exec step s inputs).gpsConf.parse configData length malloc).suplMode = m)
    (hnew : m ≠ (exec step s inputs).gpsConf.suplMode) {n : ℕ}
    (hdone : (exec step s
      (inputs ++ .update configData length malloc :: List.replicate n .process)).queue = []) :
    (exec step s
        (inputs ++ .update configData length malloc :: List.replicate n .process)).lastCapabilities =
        some (allowed m (exec step s inputs).gpsConf.capabilities) ↔
      SameEffect (exec step s inputs).gpsConf.capabilities (exec step s inputs).gpsConf.suplMode
        m := by
  subst hm
  rw [exec_append, exec_cons] at hdone ⊢
  have hbefore := exec_inv adapter_step inputs s hadapter
  generalize exec step s inputs = before at *
  have hlast := lastDue_update hbefore hgood hnew
  have hdue := due_exec_process (s := step before (.update configData length malloc)) n
  have hcalls : ∀ t : CarrierUpdate, t.queue = [] → t.due = t.calls := fun t ht => by
    rw [due, ht, List.map_nil, List.append_nil]
  rw [hcalls _ hdone] at hdue
  rw [lastCapabilities, hdue]
  show (((before.locEngConfigurationUpdate configData length malloc).due.filterMap
    UpdateCall.capabilities?).getLast? = _) ↔ _
  rw [hlast, Option.some_inj, getCarrierCapabilities]
  exact allowed_eq_iff

/-- An engine whose carrier allows both modes. -/
def bothModes : CarrierUpdate := { gpsConf := { suplMode := 3, capabilities := 7 }, adapter := true }

/-- The carrier takes one of them away. -/
def msbOnly : Text := text "SUPL_MODE=1\n"

theorem parse_msbOnly :
    bothModes.gpsConf.parse (some msbOnly) (Int32.ofNat msbOnly.length) true =
      { bothModes.gpsConf with suplMode := 1 } := by
  rw [parse_text _ (by decide) (by decide)]
  decide

/-- The update sends the message, and puts the mode back. -/
theorem update_msbOnly :
    step bothModes (.update (some msbOnly) (Int32.ofNat msbOnly.length) true) =
      { bothModes with queue := [.suplMode] } := by
  rw [step, locEngConfigurationUpdate, if_pos (by decide), parse_msbOnly]
  decide

theorem modeTakesEffect_iff_msbOnly :
    (exec step bothModes ([] ++ .update (some msbOnly) (Int32.ofNat msbOnly.length) true ::
        List.replicate 1 .process)).lastCapabilities =
        some (allowed 1 (exec step bothModes []).gpsConf.capabilities) ↔
      SameEffect (exec step bothModes []).gpsConf.capabilities
        (exec step bothModes []).gpsConf.suplMode 1 := by
  refine modeTakesEffect_iff bothModes rfl [] (by decide) ?_ (by decide) ?_
  · rw [exec_nil, parse_msbOnly]
  · rw [List.nil_append, exec_cons, update_msbOnly]
    decide

/-- The proxy is told of both modes although only one is allowed now. -/
theorem mode_without_effect :
    (bothModes.gpsConf.parse (some msbOnly) (Int32.ofNat msbOnly.length) true).suplMode = 1 ∧
      (exec step bothModes [.update (some msbOnly) (Int32.ofNat msbOnly.length) true,
        .process]).queue = [] ∧
      (exec step bothModes [.update (some msbOnly) (Int32.ofNat msbOnly.length) true,
        .process]).lastCapabilities ≠ some (allowed 1 bothModes.gpsConf.capabilities) := by
  rw [exec_cons, update_msbOnly, parse_msbOnly]
  decide

end CarrierUpdate
end Eng
end Nx507j
