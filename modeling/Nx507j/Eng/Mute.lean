import Mathlib.Data.List.Basic
import Nx507j.Eng.Steps
import Nx507j.Ni.Steps

/-!
# Muted sessions

A request that overrides privacy has one session muted.  The reports of such a session are not to
come out of the engine: neither a position, nor the satellites, nor NMEA, nor measurements.

The position, satellite and measurement reports look at the mute state, and the NMEA generators
are called from there.  NMEA that comes from the modem is passed on without a look at it.

## Main definitions

* `LocEngData.Silent` — a step that calls no report callback while the session is muted.
* `LocEngData.Unmuted` — a step that passes on no NMEA of the modem while the session is muted.
* `LocEngData.KeepsMute` — a step that does not end the mute.

## Main results

* `LocEngData.silent_exec_iff` — the runs throughout which mute means mute.
* `LocEngData.exec_hushed` — what a muted session calls until its mute ends.
-/

namespace Nx507j
namespace Eng

open Ni Run

/-- A callback that reports something of the session. -/
def Event.isReport : Event → Bool
  | .locationCb _ _ | .svStatusCb _ _ | .nmeaCb _ _ | .gpsMeasurementCb _ => true
  | _ => false

namespace LocEngData

/-- What a step calls. -/
def news (s : LocEngData) (input : Input) : List Event := (s.step input).log.drop s.log.length

/-- No report callback is called while the session is muted. -/
def Silent (s : LocEngData) (input : Input) : Prop :=
  s.muteSessionState = .inSession → ∀ e ∈ s.news input, e.isReport = false

instance (s : LocEngData) (input : Input) : Decidable (s.Silent input) :=
  inferInstanceAs (Decidable (_ → _))

end LocEngData

/-- The message is NMEA of the modem. -/
def Msg.isNmea : Msg → Bool
  | .reportNmea _ => true
  | _ => false

namespace LocEngData

/-- No NMEA of the modem is processed while the session is muted and there is an `nmea_cb`. -/
def Unmuted (s : LocEngData) : Input → Prop
  | .process _ =>
    s.queue.head?.any Msg.isNmea = true → s.muteSessionState = .inSession → s.nmeaCb = false
  | _ => True

/-! ### What is called -/

/-- From `s` to `s'` no report callback has been called. -/
def Hushed (s s' : LocEngData) : Prop :=
  ∃ es, s'.log = s.log ++ es ∧ ∀ e ∈ es, e.isReport = false

variable {s s' s'' : LocEngData}

theorem Hushed.of_log (h : s'.log = s.log) : Hushed s s' := Calls.of_log h

theorem Hushed.trans (h : Hushed s s') (h' : Hushed s' s'') : Hushed s s'' := Calls.trans h h'

/-- A message that is processed while the session is muted calls no report callback, unless it is
NMEA of the modem. -/
theorem hushed_proc (o : Outcome) (msg : Msg) (hmute : s.muteSessionState = .inSession)
    (hnmea : msg.isNmea = true → s.nmeaCb = false) : Hushed s (msg.proc o s) := by
  cases msg with
  | reportPosition location locationExt status techMask =>
    exact .of_log (congrArg log (if_neg (not_not.mpr hmute)))
  | reportSv svStatus svExt => exact .of_log (congrArg log (if_neg (not_not.mpr hmute)))
  | reportGpsMeasurement gpsData => exact .of_log (congrArg log (if_neg (not_not.mpr hmute)))
  | reportNmea nmea =>
    have hcb : ¬ s.nmeaCb = true := by
      rw [hnmea rfl]
      exact Bool.false_ne_true
    exact .of_log (congrArg log (if_neg hcb))
  | _ =>
    -- the other messages have no report callback among their calls
    exact (calls_proc s o _).mono fun e he => by cases e <;> first | rfl | cases he

theorem hushed_step (hmute : s.muteSessionState = .inSession) {input : Input}
    (h : s.Unmuted input) : Hushed s (s.step input) := by
  rcases s.step_cases input with ⟨o, msg, queue, rfl, hqueue, -, hstep⟩ | ⟨-, queue, ni, mute,
    measurement, -, hstep⟩
  · have hnmea : msg.isNmea = true → s.nmeaCb = false := fun hmsg => by
      refine h ?_ hmute
      rw [hqueue]
      exact hmsg
    rw [hstep]
    exact (Hushed.of_log rfl).trans
      (hushed_proc (s := { s with queue := queue }) o msg hmute hnmea)
  · rw [hstep]
    exact .of_log rfl

/-- A step is silent exactly when it passes on no NMEA of the modem. -/
theorem silent_iff (s : LocEngData) (input : Input) : s.Silent input ↔ s.Unmuted input := by
  constructor
  · intro h
    cases input with
    | process outcome =>
      intro hhead hmute
      by_contra hcb
      rw [Bool.not_eq_false] at hcb
      cases hqueue : s.queue with
      | nil =>
        rw [hqueue] at hhead
        cases hhead
      | cons msg queue =>
        rw [hqueue] at hhead
        cases msg with
        | reportNmea nmea =>
          have hlog : (s.step (.process outcome)).log =
              s.log ++ [.nmeaCb (s.ni.clock / 1000) nmea] := by
            unfold step
            rw [hqueue]
            exact congrArg log (if_pos hcb)
          have hnews : s.news (.process outcome) = [.nmeaCb (s.ni.clock / 1000) nmea] := by
            rw [news, hlog, List.drop_left]
          have hfalse := h hmute (.nmeaCb (s.ni.clock / 1000) nmea)
            (by rw [hnews]; exact List.mem_singleton_self _)
          cases hfalse
        | _ => cases hhead
    | _ => trivial
  · intro h hmute
    exact Calls.drop (hushed_step hmute h)

/-- **Mute means mute** in the runs in which no NMEA of the modem is processed while the session
is muted, and in no others. -/
theorem silent_exec_iff (s : LocEngData) (inputs : List Input) :
    StepsMeet step Silent s inputs ↔ StepsMeet step Unmuted s inputs :=
  stepsMeet_congr silent_iff inputs s

/-- A request that overrides privacy, the start of the engine, and NMEA of the modem, which is
the one to provide it. -/
def nmeaOfModem : List Input :=
  [.ni .init, .send (.requestNi ⟨1, gpsNiPrivacyOverride, 0⟩ none),
    .send (.reportStatus gpsStatusEngineOn), .send (.reportNmea "$GPRMC"),
    .process ⟨true, 0, []⟩, .process ⟨true, 0, []⟩]

/-- The muted session's NMEA is passed on. -/
theorem not_silent_nmeaOfModem :
    let s := exec step (init ⟨true, true, true, true⟩ ⟨0, 0, 1⟩ locApiAdapterBitNmea1HzReport)
      nmeaOfModem
    s.muteSessionState = .inSession ∧ .nmeaCb 0 "$GPRMC" ∈ s.news (.process ⟨true, 0, []⟩) ∧
      ¬ s.Silent (.process ⟨true, 0, []⟩) := by
  decide

/-! ### Until the mute ends -/

end LocEngData

/-- The message has the mute end, or wait for the next session. -/
def Msg.endsMute : Msg → Bool
  | .requestNi notif _ => notif.notifyFlags = gpsNiPrivacyOverride
  | .reportStatus status => status = gpsStatusSessionEnd ∨ status = gpsStatusEngineOff
  | .down => true
  | _ => false

namespace LocEngData

/-- A step that does not process a message that ends the mute. -/
def KeepsMute (s : LocEngData) : Input → Prop
  | .process _ => s.queue.head?.any Msg.endsMute = false
  | _ => True

variable {s : LocEngData}

/-- Only a request that overrides privacy changes the mute state through the NI sessions. -/
theorem muteSessionState_stepNi {input : NiModule.Input}
    (h : ∀ notif passThrough created, input = .requestHandler notif passThrough created →
      notif.notifyFlags ≠ gpsNiPrivacyOverride) :
    (s.stepNi input).muteSessionState = s.muteSessionState := by
  refine if_neg fun hmuted => ?_
  obtain ⟨notif, passThrough, created, hinput, hflags⟩ :=
    NiModule.requestHandler_of_muteOneSession hmuted
  exact h notif passThrough created hinput hflags

theorem muteSessionState_reportStatus (s : LocEngData) (status : GpsStatusValue) :
    (s.reportStatus status).muteSessionState = s.muteSessionState.reportStatus status := by
  obtain ⟨log, h⟩ := s.reportStatus_eq status
  rw [h]

theorem muteSessionState_updateAidingDataForDeletion (s : LocEngData) :
    s.updateAidingDataForDeletion.muteSessionState = s.muteSessionState := by
  obtain ⟨aiding, log, h⟩ := s.updateAidingDataForDeletion_eq
  rw [h]

/-- A muted session stays muted when a message is processed that does not end the mute. -/
theorem inSession_proc (o : Outcome) {msg : Msg} (hmute : s.muteSessionState = .inSession)
    (h : msg.endsMute = false) : (msg.proc o s).muteSessionState = .inSession := by
  have hsession : msg.ofSession = true → (msg.proc o s).muteSessionState = .inSession := fun h => by
    have honly : msg.proc o s = _ := onlySession_proc s o h
    exact (congrArg muteSessionState honly).trans hmute
  cases msg with
  | requestNi notif payload =>
    refine (muteSessionState_stepNi ?_).trans hmute
    intro notif' passThrough created heq
    cases heq
    exact of_decide_eq_false h
  | reportStatus status =>
    have hstatus : ¬ (status = gpsStatusSessionEnd ∨ status = gpsStatusEngineOff) :=
      of_decide_eq_false h
    have hkeep : MuteSession.reportStatus status .inSession = .inSession := by
      simp [MuteSession.reportStatus, hstatus]
    show (s.reportStatus status).updateAidingDataForDeletion.muteSessionState = _
    rw [muteSessionState_updateAidingDataForDeletion, muteSessionState_reportStatus, hmute, hkeep]
  | delAidData type => exact (muteSessionState_updateAidingDataForDeletion _).trans hmute
  | down => cases h
  | up =>
    refine Eq.trans ?_ hmute
    show s.handleEngineUp.muteSessionState = s.muteSessionState
    unfold handleEngineUp
    split <;> rfl
  | _ => exact hsession rfl

theorem inSession_step (hmute : s.muteSessionState = .inSession) {input : Input}
    (h : s.KeepsMute input) : (s.step input).muteSessionState = .inSession := by
  cases input with
  | process outcome =>
    unfold step
    cases hqueue : s.queue with
    | nil => exact hmute
    | cons msg queue =>
      have hmsg : msg.endsMute = false := by
        have hhead : s.queue.head?.any Msg.endsMute = false := h
        rw [hqueue] at hhead
        exact hhead
      exact inSession_proc (s := { s with queue := queue }) outcome hmute hmsg
  | ni input =>
    unfold step
    dsimp only
    split
    · next hbeside =>
      refine (muteSessionState_stepNi ?_).trans hmute
      rintro notif passThrough created rfl
      cases hbeside
    · exact hmute
  | send msg => exact hmute
  | gpsMeasurementInit => exact hmute
  | gpsMeasurementClose => exact hmute

/-- **From a muted session nothing is reported** until its mute ends, as long as no NMEA of the
modem is processed. -/
theorem exec_hushed (hmute : s.muteSessionState = .inSession) (inputs : List Input)
    (h : StepsMeet step (fun s input => s.KeepsMute input ∧ s.Unmuted input) s inputs) :
    Hushed s (exec step s inputs) := by
  have hstep : ∀ (t : LocEngData) (input : Input),
      t.muteSessionState = .inSession ∧ Hushed s t → t.KeepsMute input ∧ t.Unmuted input →
        (t.step input).muteSessionState = .inSession ∧ Hushed s (t.step input) :=
    fun t input ht hinput =>
      ⟨inSession_step ht.1 hinput.1, ht.2.trans (hushed_step ht.1 hinput.2)⟩
  exact (exec_inv_of_stepsMeet hstep inputs s ⟨hmute, .of_log rfl⟩ h).2

end LocEngData

end Eng
end Nx507j
