import Mathlib.Data.List.Basic
import Nx507j.Eng.Session

/-!
# What the engine's messages do

What each message may call, and which parts of the engine it leaves as they are.  The invariants
of the engine are derived from these facts, and the messages are not unfolded again.

## Main definitions

* `LocEngData.Calls P s s'` — all that has been called from `s` to `s'` meets `P`.
* `Msg.calls` — what a message may call.

## Main results

* `LocEngData.calls_proc` — what a message calls.
* `LocEngData.reportStatus_eq`, `LocEngData.updateAidingDataForDeletion_eq` — what two of the
  handlers change.
* `LocEngData.onlySession_proc`, `LocEngData.adapter_proc` — what a message leaves as it is.
-/

namespace Nx507j
namespace Eng

open Ni

namespace LocEngData

/-! ### The log -/

/-- All that has been called from `s` to `s'` meets `P`. -/
def Calls (P : Event → Prop) (s s' : LocEngData) : Prop :=
  ∃ es, s'.log = s.log ++ es ∧ ∀ e ∈ es, P e

variable {P Q : Event → Prop} {s s' s'' : LocEngData}

theorem Calls.of_log (h : s'.log = s.log) : Calls P s s' :=
  ⟨[], h.trans (List.append_nil _).symm, nofun⟩

theorem Calls.say {e : Event} (h : P e) : Calls P s (s.say e) := by
  refine ⟨[e], rfl, fun e' he' => ?_⟩
  rw [List.mem_singleton.mp he']
  exact h

theorem Calls.trans (h : Calls P s s') (h' : Calls P s' s'') : Calls P s s'' := by
  obtain ⟨es, hlog, hes⟩ := h
  obtain ⟨es', hlog', hes'⟩ := h'
  refine ⟨es ++ es', by rw [hlog', hlog, List.append_assoc], fun e he => ?_⟩
  rcases List.mem_append.mp he with he | he
  · exact hes e he
  · exact hes' e he

theorem Calls.ite {c : Prop} [Decidable c] (h : c → Calls P s s') (h' : ¬ c → Calls P s s'') :
    Calls P s (if c then s' else s'') := by
  split
  · next hc => exact h hc
  · next hc => exact h' hc

theorem Calls.mono (h : Calls P s s') (hPQ : ∀ e, P e → Q e) : Calls Q s s' := by
  obtain ⟨es, hlog, hes⟩ := h
  exact ⟨es, hlog, fun e he => hPQ e (hes e he)⟩

/-- What is written into the log meets `P`. -/
theorem Calls.drop (h : Calls P s s') : ∀ e ∈ s'.log.drop s.log.length, P e := by
  obtain ⟨es, hlog, hes⟩ := h
  rw [hlog, List.drop_left]
  exact hes

/-- What is counted but does not meet `P` has not been called. -/
theorem Calls.countP (h : Calls P s s') {p : Event → Bool} (hp : ∀ e, P e → p e = false) :
    s'.log.countP p = s.log.countP p := by
  obtain ⟨es, hlog, hes⟩ := h
  have hnone : es.countP p = 0 := List.countP_eq_zero.mpr fun e he => by
    rw [hp e (hes e he)]
    exact Bool.false_ne_true
  rw [hlog, List.countP_append, hnone, Nat.add_zero]

end LocEngData

/-! ### What a message may call -/

/-- What a message may call. -/
def Msg.calls : Msg → Event → Bool
  | .reportStatus _, .statusCb _ | .reportStatus _, .deleteAidingData _
  | .reportPosition _ _ _ _, .locationCb _ _ | .reportPosition _ _ _ _, .stopFix
  | .reportPosition _ _ _ _, .nmeaCb _ _ | .reportPosition _ _ _ _, .deleteRawData _
  | .reportSv _ _, .svStatusCb _ _ | .reportSv _ _, .nmeaCb _ _
  | .reportNmea _, .nmeaCb _ _
  | .reportGpsMeasurement _, .gpsMeasurementCb _
  | .startFix, .startFix _
  | .stopFix, .stopFix
  | .positionMode _, .setPositionMode _
  | .delAidData _, .deleteAidingData _
  | .down, .statusCb _ => true
  | _, _ => false

namespace LocEngData

variable {P : Event → Prop} (s : LocEngData)

/-- The part of `reportPosition` that reports. -/
def reportLocation (location : UlpLocation) (locationExt : Option Address)
    (status : LocSessStatus) (techMask : LocPosTechMask) : LocEngData :=
  match s.locationArg location locationExt status techMask with
  | some (location, locationExt) => (s.say (.locationCb location locationExt)).endSingleShot status
  | none => s

/-- The part of `reportPosition` that generates NMEA. -/
def generatePos (sentences : List String) : LocEngData :=
  if s.generateNmea && s.adapter.mNavigating then s.nmeaSend sentences else s

theorem reportPosition_eq (location : UlpLocation) (locationExt : Option Address)
    (status : LocSessStatus) (techMask : LocPosTechMask) (sentences : List String) :
    s.reportPosition location locationExt status techMask sentences =
      if s.muteSessionState ≠ .inSession then
        ((s.reportLocation location locationExt status techMask).generatePos
          sentences).deleteRawData location
      else s := rfl

theorem calls_nmeaSend (hP : ∀ now nmea, P (.nmeaCb now nmea)) (sentences : List String) :
    Calls P s (s.nmeaSend sentences) := by
  refine .ite (fun _ => ?_) fun _ => .of_log rfl
  refine ⟨sentences.map (.nmeaCb (s.ni.clock / 1000)), rfl, fun e he => ?_⟩
  obtain ⟨nmea, -, rfl⟩ := List.mem_map.mp he
  exact hP _ nmea

theorem calls_endSingleShot (hP : P .stopFix) (status : LocSessStatus) :
    Calls P s (s.endSingleShot status) := by
  refine .ite (fun _ => ?_) fun _ => .of_log rfl
  exact (Calls.ite (fun _ => .say hP) fun _ => .of_log rfl).trans (.of_log rfl)

theorem calls_reportLocation (hloc : ∀ location ext, P (.locationCb location ext))
    (hstop : P .stopFix) (location : UlpLocation) (locationExt : Option Address)
    (status : LocSessStatus) (techMask : LocPosTechMask) :
    Calls P s (s.reportLocation location locationExt status techMask) := by
  unfold reportLocation
  split
  · exact (Calls.say (hloc _ _)).trans (calls_endSingleShot _ hstop status)
  · exact .of_log rfl

theorem calls_deleteRawData (hP : ∀ rawData, P (.deleteRawData rawData)) (location : UlpLocation) :
    Calls P s (s.deleteRawData location) := by
  unfold deleteRawData
  cases location.rawData with
  | some rawData => exact .say (hP rawData)
  | none => exact .of_log rfl

theorem calls_reportStatus (hP : ∀ status, P (.statusCb status)) (status : GpsStatusValue) :
    Calls P s (s.reportStatus status) := by
  have hinform : ∀ t : LocEngData, Calls P t (t.informGpsStatus status) := fun t =>
    .ite (fun _ => .say (hP status)) fun _ => .of_log rfl
  unfold reportStatus
  dsimp only
  split
  · exact hinform { s with muteSessionState := s.muteSessionState.reportStatus status }
  · exact .of_log rfl

theorem calls_updateAidingDataForDeletion (hP : ∀ f, P (.deleteAidingData f)) :
    Calls P s s.updateAidingDataForDeletion :=
  .ite (fun _ => .say (hP _)) fun _ => .of_log rfl

/-- **What a message calls.** -/
theorem calls_proc (o : Outcome) (msg : Msg) :
    Calls (fun e => msg.calls e = true) s (msg.proc o s) := by
  cases msg with
  | requestNi notif payload => exact .of_log rfl
  | reportStatus status =>
    exact (calls_reportStatus s (fun _ => rfl) status).trans
      (calls_updateAidingDataForDeletion _ fun _ => rfl)
  | reportPosition location locationExt status techMask =>
    refine .ite (fun _ => ?_) fun _ => .of_log rfl
    have hreport := calls_reportLocation
      (P := fun e => (Msg.reportPosition location locationExt status techMask).calls e = true) s
      (fun _ _ => rfl) rfl location locationExt status techMask
    refine hreport.trans ?_
    refine Calls.trans ?_ (calls_deleteRawData _ (fun _ => rfl) location)
    exact .ite (fun _ => calls_nmeaSend _ (fun _ _ => rfl) o.sentences) fun _ => .of_log rfl
  | reportSv svStatus svExt =>
    refine .ite (fun _ => ?_) fun _ => .of_log rfl
    have hsv : Calls (fun e => (Msg.reportSv svStatus svExt).calls e = true) s
        (if s.svStatusCb then s.say (.svStatusCb svStatus svExt) else s) :=
      .ite (fun _ => .say rfl) fun _ => .of_log rfl
    refine hsv.trans ?_
    exact .ite (fun _ => calls_nmeaSend _ (fun _ _ => rfl) o.sentences) fun _ => .of_log rfl
  | reportNmea nmea => exact .ite (fun _ => .say rfl) fun _ => .of_log rfl
  | reportGpsMeasurement gpsData =>
    exact .ite (fun _ => .ite (fun _ => .say rfl) fun _ => .of_log rfl) fun _ => .of_log rfl
  | startFix =>
    refine .ite (fun _ => .of_log rfl) fun _ => ?_
    have hsay : Calls (fun e => Msg.startFix.calls e = true) s
      (s.say (.startFix s.adapter.mFixCriteria)) := .say rfl
    exact .ite (fun _ => hsay.trans (.of_log rfl)) fun _ => hsay
  | stopFix =>
    have hsay : Calls (fun e => Msg.stopFix.calls e = true) s (s.say .stopFix) := .say rfl
    exact .ite (fun _ => hsay.trans (.of_log rfl)) fun _ => .of_log rfl
  | positionMode mode => exact (Calls.of_log rfl).trans (.say rfl)
  | delAidData type =>
    exact (Calls.of_log rfl).trans (calls_updateAidingDataForDeletion
      { s with aidingDataForDeletion := type } fun _ => rfl)
  | down => exact (Calls.of_log rfl).trans (calls_reportStatus (s.stepNi _) (fun _ => rfl) _)
  | up => exact .ite (fun _ => .of_log rfl) fun _ => .of_log rfl

end LocEngData

/-! ### What a message leaves as it is -/

namespace LocEngData

/-- What a status report changes. -/
theorem reportStatus_eq (s : LocEngData) (status : GpsStatusValue) : ∃ log, s.reportStatus status =
    { s with
      muteSessionState := s.muteSessionState.reportStatus status
      engineStatus :=
        if status = gpsStatusEngineOn ∨ status = gpsStatusEngineOff then status
        else s.engineStatus
      fixSessionStatus :=
        if status = gpsStatusSessionBegin ∨ status = gpsStatusSessionEnd then status
        else s.fixSessionStatus
      log := log } := by
  unfold reportStatus informGpsStatus
  dsimp only
  split
  · split <;> exact ⟨_, rfl⟩
  · exact ⟨_, rfl⟩

/-- What a release of the aiding data changes. -/
theorem updateAidingDataForDeletion_eq (s : LocEngData) :
    ∃ aiding log, s.updateAidingDataForDeletion =
      { s with aidingDataForDeletion := aiding, log := log } := by
  unfold updateAidingDataForDeletion
  split
  · exact ⟨_, _, rfl⟩
  · exact ⟨_, _, rfl⟩

end LocEngData

/-- The messages of the session: they work on the adapter, and on nothing else of the engine. -/
def Msg.ofSession : Msg → Bool
  | .reportPosition _ _ _ _ | .reportSv _ _ | .reportNmea _ | .reportGpsMeasurement _
  | .startFix | .stopFix | .positionMode _ => true
  | _ => false

namespace LocEngData

/-- From `s` to `s'` only the adapter and the log have changed. -/
def OnlySession (s s' : LocEngData) : Prop := s' = { s with adapter := s'.adapter, log := s'.log }

theorem OnlySession.trans {s s' s'' : LocEngData} (h : OnlySession s s') (h' : OnlySession s' s'') :
    OnlySession s s'' := by
  rw [OnlySession] at h h' ⊢
  rw [h', h]

theorem OnlySession.ite {s s' s'' : LocEngData} {c : Prop} [Decidable c] (h : OnlySession s s')
    (h' : OnlySession s s'') : OnlySession s (if c then s' else s'') := by
  split
  · exact h
  · exact h'

variable (s : LocEngData)

theorem onlySession_endSingleShot (status : LocSessStatus) :
    OnlySession s (s.endSingleShot status) := by
  refine .ite ?_ rfl
  have hstop : OnlySession s (if status = .intermediate then s.say .stopFix else s) := .ite rfl rfl
  exact hstop.trans rfl

theorem onlySession_reportLocation (location : UlpLocation) (locationExt : Option Address)
    (status : LocSessStatus) (techMask : LocPosTechMask) :
    OnlySession s (s.reportLocation location locationExt status techMask) := by
  unfold reportLocation
  split
  · next location locationExt _ =>
    have hsay : OnlySession s (s.say (.locationCb location locationExt)) := rfl
    exact hsay.trans (onlySession_endSingleShot _ status)
  · rfl

theorem onlySession_generatePos (sentences : List String) :
    OnlySession s (s.generatePos sentences) :=
  .ite (.ite rfl rfl) rfl

theorem onlySession_deleteRawData (location : UlpLocation) :
    OnlySession s (s.deleteRawData location) := by
  unfold deleteRawData
  cases location.rawData with
  | some rawData => rfl
  | none => rfl

theorem onlySession_proc (o : Outcome) {msg : Msg} (h : msg.ofSession = true) :
    OnlySession s (msg.proc o s) := by
  cases msg with
  | reportPosition location locationExt status techMask =>
    refine .ite ?_ rfl
    exact ((onlySession_reportLocation s location locationExt status techMask).trans
      (onlySession_generatePos _ o.sentences)).trans (onlySession_deleteRawData _ location)
  | reportSv svStatus svExt =>
    refine .ite ?_ rfl
    have hsv : OnlySession s (if s.svStatusCb then s.say (.svStatusCb svStatus svExt) else s) :=
      .ite rfl rfl
    exact hsv.trans (.ite (.ite rfl rfl) rfl)
  | reportNmea nmea => exact .ite rfl rfl
  | reportGpsMeasurement gpsData => exact .ite (.ite rfl rfl) rfl
  | startFix => exact .ite rfl (.ite rfl rfl)
  | stopFix => exact .ite rfl rfl
  | positionMode mode => rfl
  | requestNi | reportStatus | delAidData | down | up => cases h

/-! ### The adapter -/

/-- The adapter is as it was, or a session has been begun or ended. -/
def SameFix (s s' : LocEngData) : Prop :=
  s'.adapter = s.adapter ∨ ∃ inSession, s'.adapter = (s.setInSession inSession).adapter

variable {s}

theorem SameFix.setInSession {s' : LocEngData} (h : s'.adapter = s.adapter) (inSession : Bool) :
    SameFix s (s'.setInSession inSession) := by
  refine .inr ⟨inSession, ?_⟩
  rw [LocEngData.setInSession, h]
  rfl

theorem SameFix.trans {s' s'' : LocEngData} (h : SameFix s s') (h' : s''.adapter = s'.adapter) :
    SameFix s s'' := by
  rw [SameFix, h']
  exact h

theorem adapter_reportLocation (location : UlpLocation) (locationExt : Option Address)
    (status : LocSessStatus) (techMask : LocPosTechMask) :
    SameFix s (s.reportLocation location locationExt status techMask) := by
  unfold reportLocation
  split
  · unfold endSingleShot
    split
    · split
      · exact .setInSession rfl false
      · exact .setInSession rfl false
    · exact .inl rfl
  · exact .inl rfl

theorem adapter_generatePos (sentences : List String) :
    (s.generatePos sentences).adapter = s.adapter := by
  unfold generatePos nmeaSend
  split
  · split <;> rfl
  · rfl

theorem adapter_deleteRawData (location : UlpLocation) :
    (s.deleteRawData location).adapter = s.adapter := by
  unfold deleteRawData
  cases location.rawData <;> rfl

theorem adapter_reportStatus (status : GpsStatusValue) :
    (s.reportStatus status).adapter = s.adapter := by
  obtain ⟨log, h⟩ := s.reportStatus_eq status
  rw [h]

theorem adapter_updateAidingDataForDeletion :
    s.updateAidingDataForDeletion.adapter = s.adapter := by
  obtain ⟨aiding, log, h⟩ := s.updateAidingDataForDeletion_eq
  rw [h]

/-- Only the position mode that is set changes what a fix is to be, and only a session that
begins or ends changes the rest. -/
theorem adapter_proc (o : Outcome) {msg : Msg} (h : ∀ mode, msg ≠ .positionMode mode) :
    SameFix s (msg.proc o s) := by
  cases msg with
  | requestNi notif payload => exact .inl rfl
  | reportStatus status =>
    exact .inl (adapter_updateAidingDataForDeletion.trans (adapter_reportStatus status))
  | reportPosition location locationExt status techMask =>
    show SameFix s (s.reportPosition location locationExt status techMask o.sentences)
    rw [reportPosition_eq]
    split
    · exact (adapter_reportLocation location locationExt status techMask).trans
        ((adapter_deleteRawData location).trans (adapter_generatePos o.sentences))
    · exact .inl rfl
  | reportSv svStatus svExt =>
    refine .inl ?_
    show (s.reportSv svStatus svExt o.sentences).adapter = s.adapter
    unfold reportSv nmeaSend
    grind [say]
  | reportNmea nmea =>
    refine .inl ?_
    show (s.reportNmea nmea).adapter = s.adapter
    unfold reportNmea
    split <;> rfl
  | reportGpsMeasurement gpsData =>
    refine .inl ?_
    show (s.reportGpsMeasurement gpsData).adapter = s.adapter
    unfold reportGpsMeasurement
    grind [say]
  | startFix =>
    show SameFix s (s.startHandler o.startFix)
    unfold startHandler
    split
    · exact .inl rfl
    · dsimp only
      split
      · exact .setInSession rfl true
      · exact .inl rfl
  | stopFix =>
    show SameFix s s.stopHandler
    unfold stopHandler
    split
    · exact .setInSession rfl false
    · exact .inl rfl
  | positionMode mode => exact absurd rfl (h mode)
  | delAidData type =>
    have hsame : ({ s with aidingDataForDeletion := type }).updateAidingDataForDeletion.adapter =
      s.adapter := adapter_updateAidingDataForDeletion
    exact .inl hsame
  | down => exact .inl (adapter_reportStatus (s := s.stepNi .resetOnEngineRestart) _)
  | up =>
    show SameFix s s.handleEngineUp
    unfold handleEngineUp
    split
    · exact (SameFix.setInSession rfl false).trans rfl
    · exact .inl rfl

/-- The modem's coming up sends a start, and no other message sends anything. -/
theorem queue_proc (s : LocEngData) (o : Outcome) (msg : Msg) :
    (msg.proc o s).queue = s.queue ∨ (msg.proc o s).queue = s.queue ++ [.startFix] := by
  have hsession : msg.ofSession = true → (msg.proc o s).queue = s.queue := fun h => by
    have honly : msg.proc o s = _ := onlySession_proc s o h
    exact (congrArg queue honly).trans rfl
  have hupdate : ∀ t : LocEngData, t.updateAidingDataForDeletion.queue = t.queue := fun t => by
    obtain ⟨aiding, log, h⟩ := t.updateAidingDataForDeletion_eq
    rw [h]
  have hstatus : ∀ (t : LocEngData) (status : GpsStatusValue),
      (t.reportStatus status).queue = t.queue := fun t status => by
    obtain ⟨log, h⟩ := t.reportStatus_eq status
    rw [h]
  cases msg with
  | requestNi notif payload => exact .inl rfl
  | reportStatus status => exact .inl ((hupdate _).trans (hstatus s status))
  | delAidData type => exact .inl (hupdate { s with aidingDataForDeletion := type })
  | down => exact .inl (hstatus (s.stepNi .resetOnEngineRestart) gpsStatusEngineOff)
  | up =>
    show s.handleEngineUp.queue = s.queue ∨ s.handleEngineUp.queue = s.queue ++ [.startFix]
    unfold handleEngineUp
    split
    · exact .inr rfl
    · exact .inl rfl
  | _ => exact .inl (hsession rfl)

/-! ### Steps -/

/-- The message that a step processes. -/
def processed (s : LocEngData) : Input → Option Msg
  | .process _ => s.queue.head?
  | _ => none

/-- **What a step does**: a message is processed, or the adapter and what is asked of the engine
stay as they are. -/
theorem step_cases (s : LocEngData) (input : Input) :
    (∃ o msg queue, input = .process o ∧ s.queue = msg :: queue ∧ s.processed input = some msg ∧
      s.step input = msg.proc o { s with queue := queue }) ∨
    s.processed input = none ∧ ∃ queue ni mute measurement, s.queue <+: queue ∧
      s.step input =
        { s with
          queue := queue
          ni := ni
          muteSessionState := mute
          gpsMeasurementCb := measurement } := by
  cases input with
  | send msg => exact .inr ⟨rfl, s.queue ++ [msg], _, _, _, List.prefix_append _ _, rfl⟩
  | process o =>
    cases hqueue : s.queue with
    | nil =>
      have hself : s.step (.process o) = s := by rw [step, hqueue]
      exact .inr ⟨congrArg List.head? hqueue, s.queue, _, _, _, List.nil_prefix, hself⟩
    | cons msg queue =>
      refine .inl ⟨o, msg, queue, rfl, rfl, congrArg List.head? hqueue, ?_⟩
      rw [step, hqueue]
  | ni input =>
    refine .inr ⟨rfl, s.queue, (s.step (.ni input)).ni, (s.step (.ni input)).muteSessionState,
      s.gpsMeasurementCb, List.prefix_rfl, ?_⟩
    rw [step]
    split <;> rfl
  | gpsMeasurementInit => exact .inr ⟨rfl, s.queue, _, _, _, List.prefix_rfl, rfl⟩
  | gpsMeasurementClose => exact .inr ⟨rfl, s.queue, _, _, _, List.prefix_rfl, rfl⟩

/-- A step adds to the log. -/
theorem log_step (s : LocEngData) (input : Input) : ∃ es, (s.step input).log = s.log ++ es := by
  rcases s.step_cases input with ⟨o, msg, queue, -, -, -, hstep⟩ | ⟨-, queue, ni, mute, measurement,
    -, hstep⟩
  · obtain ⟨es, hlog, -⟩ := calls_proc { s with queue := queue } o msg
    exact ⟨es, by rw [hstep, hlog]⟩
  · exact ⟨[], by rw [hstep, List.append_nil]⟩

end LocEngData

end Eng
end Nx507j
