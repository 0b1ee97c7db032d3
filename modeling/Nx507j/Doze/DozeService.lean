import Nx507j.Doze.ProximitySensor
import Nx507j.Lib.Trace

/-!
# The service of the doze gestures

`DozeService.java` listens to the proximity sensor while the screen is off.  `Utils.java`,
`BootCompletedReceiver.java` and `DozeSettings.java` start and stop it; in `doze_settings.xml` the
switches of the gestures depend on the one of the ambient display.  A gesture that is switched off
while the screen is off leaves the listener as it is, and so does the screen that goes on then.

What Android does is part of the steps: a service that is started twice is created once, its
receiver gets the broadcasts of the screen while it is there, and a service that has returned
`START_STICKY` is created again after its process has died.

## Main definitions

* `System.step` — the boot, the switches, the screen, the sensor, and the process that dies.
* `Event` — what the service gets to see.
* `sensedSince`, `Event.listens?` — what a log says of the sensor and of the listener.
* `System.Logs` — what the log gets of an input.

## Main results

* `System.pulses_exec` — which events of the sensor launch a pulse, in any run.
-/

namespace Nx507j
namespace Doze

open Run Trace

/-! ### The settings -/

/-- `Settings.Secure.DOZE_ENABLED`, where it has been set, and the preferences. -/
structure Settings where
  dozeEnabled : Option Int32
  gestures : Gestures
  deriving DecidableEq, Repr

def isDozeEnabled (settings : Settings) : Bool := settings.dozeEnabled.getD 1 != 0

def sensorsEnabled (gestures : Gestures) : Bool := gestures.handwave || gestures.pocket

/-- The keys of the switches. -/
inductive Key
  | ambientDisplay
  | gestureHandWave
  | gesturePocket
  deriving DecidableEq, Repr

/-! ### The service -/

/-- `DozeService`: its sensor, and whether that is registered as a listener. -/
structure DozeService where
  mProximitySensor : ProximitySensor
  listening : Bool
  deriving DecidableEq, Repr

namespace DozeService

def onCreate : DozeService := ⟨.init, false⟩

def onDisplayOn (gestures : Gestures) (d : DozeService) : DozeService :=
  if gestures.handwave || gestures.pocket then { d with listening := false } else d

def onDisplayOff (gestures : Gestures) (d : DozeService) : DozeService :=
  if gestures.handwave || gestures.pocket then { d with listening := true } else d

end DozeService

/-! ### The system -/

variable {V : Type*} [LT V] [DecidableLT V]

/-- What the service gets to see: that it is created and destroyed, or dies with its process, the
screen and the sensor, with the settings of the time, and whether a pulse is launched. -/
inductive Event (V : Type*)
  | created
  | destroyed
  | died
  | screenOn (gestures : Gestures)
  | screenOff (gestures : Gestures)
  | sensed (dozeEnabled : Bool) (gestures : Gestures) (event : SensorEvent V) (pulse : Bool)

/-- The settings, the switch of the ambient display where `DozeSettings` is open, the service where
it is there, whether it is to be created again, and the log, oldest first. -/
structure System (V : Type*) where
  settings : Settings
  mAmbientDisplayPreference : Option Bool := none
  service : Option DozeService := none
  sticky : Bool := false
  log : List (Event V) := []

/-- What can happen. -/
inductive Input (V : Type*)
  | bootCompleted
  /-- `DozeSettings` is opened. -/
  | onCreate
  | onPreferenceChange (key : Key) (value : Bool)
  /-- The setting is changed elsewhere. -/
  | putInt (value : Int32)
  | screenOn
  | screenOff
  | sensor (event : SensorEvent V)
  | die
  | restart

namespace System

/-- Android creates the service. -/
def create (s : System V) : System V :=
  { s with service := some .onCreate, sticky := false, log := s.log ++ [.created] }

def startService (s : System V) : System V := if s.service.isSome then s else s.create

/-- The service is destroyed where it is there, and is not created again. -/
def stopService (s : System V) : System V :=
  match s.service with
  | some _ => { s with service := none, sticky := false, log := s.log ++ [.destroyed] }
  | none => { s with sticky := false }

def enableDoze (enable : Bool) (s : System V) : System V :=
  let s := { s with settings.dozeEnabled := some (if enable then 1 else 0) }
  if enable then s.startService else s.stopService

/-- `onPreferenceChange` of `DozeSettings`, which is open. -/
def onPreferenceChange (key : Key) (value : Bool) (s : System V) : System V :=
  match key with
  | .ambientDisplay => { s with mAmbientDisplayPreference := some value }.enableDoze value
  | .gestureHandWave => { s with settings.gestures.handwave := value }.startService
  | .gesturePocket => { s with settings.gestures.pocket := value }.startService

/-- A switch can be changed: those of the gestures depend on the one of the ambient display. -/
def canChange (s : System V) (key : Key) : Bool :=
  match key with
  | .ambientDisplay => s.mAmbientDisplayPreference.isSome
  | .gestureHandWave | .gesturePocket => s.mAmbientDisplayPreference == some true

/-- An event of the sensor, for a service that listens. -/
def sense (maximumRange : V) (event : SensorEvent V) (d : DozeService) (s : System V) : System V :=
  let (sensor, pulse) := d.mProximitySensor.onSensorChanged maximumRange s.settings.gestures event
  { s with
    service := some { d with mProximitySensor := sensor }
    log := s.log ++ [.sensed (isDozeEnabled s.settings) s.settings.gestures event pulse] }

def step (maximumRange : V) (s : System V) : Input V → System V
  | .bootCompleted =>
    if isDozeEnabled s.settings && sensorsEnabled s.settings.gestures then s.startService else s
  | .onCreate => { s with mAmbientDisplayPreference := some (isDozeEnabled s.settings) }
  | .onPreferenceChange key value =>
    if s.canChange key then s.onPreferenceChange key value else s
  | .putInt value => { s with settings.dozeEnabled := some value }
  | .screenOn =>
    match s.service with
    | some d => { s with
        service := some (d.onDisplayOn s.settings.gestures)
        log := s.log ++ [.screenOn s.settings.gestures] }
    | none => s
  | .screenOff =>
    match s.service with
    | some d => { s with
        service := some (d.onDisplayOff s.settings.gestures)
        log := s.log ++ [.screenOff s.settings.gestures] }
    | none => s
  | .sensor event =>
    match s.service with
    | some d => if d.listening then s.sense maximumRange event d else s
    | none => s
  | .die =>
    match s.service with
    | some _ => { s with
        mAmbientDisplayPreference := none, service := none, sticky := true
        log := s.log ++ [.died] }
    | none => { s with mAmbientDisplayPreference := none }
  | .restart => if s.sticky then s.create else s

end System

/-! ### What a log says -/

/-- Whether the service is there after an event. -/
def Event.runs? : Event V → Option Bool
  | .created => some true
  | .destroyed | .died => some false
  | _ => none

/-- Whether the sensor is listened to after an event: the screen decides, where a gesture is
enabled. -/
def Event.listens? : Event V → Option Bool
  | .created | .destroyed | .died => some false
  | .screenOn gestures => if sensorsEnabled gestures then some false else none
  | .screenOff gestures => if sensorsEnabled gestures then some true else none
  | .sensed .. => none

/-- The service is created. -/
def Event.isCreated : Event V → Bool
  | .created => true
  | _ => false

/-- An event of the sensor. -/
def Event.sensed? : Event V → Option (Gestures × SensorEvent V)
  | .sensed _ gestures event _ => some (gestures, event)
  | _ => none

/-- The events of the sensor since the service has been created, whether the screen has been on in
between or not. -/
def sensedSince (log : List (Event V)) : List (Gestures × SensorEvent V) :=
  (log.rtakeWhile fun e => !e.isCreated).filterMap Event.sensed?

/-- What the gestures ask for, of the time since the last near event. -/
def Gestures.Wake (gestures : Gestures) (delta : Int64) : Prop :=
  gestures.handwave = true ∧ (gestures.pocket = true ∨ delta < handwaveMaxDeltaNs.toInt64) ∨
    gestures.pocket = true ∧ (gestures.handwave = true ∨ pocketMinDeltaNs.toInt64 ≤ delta)

omit [LT V] [DecidableLT V] in
theorem sensedSince_created (log : List (Event V)) : sensedSince (log ++ [.created]) = [] := by
  rw [sensedSince, List.rtakeWhile_concat]
  rfl

omit [LT V] [DecidableLT V] in
theorem sensedSince_concat (log : List (Event V)) {e : Event V} (h : e.isCreated = false) :
    sensedSince (log ++ [e]) = sensedSince log ++ e.sensed?.toList := by
  rw [sensedSince, List.rtakeWhile_concat, h, sensedSince]
  cases hsensed : e.sensed? with
  | none => simp [hsensed]
  | some i => simp [hsensed]

/-- What `shouldPulse` decides. -/
theorem shouldPulse_iff (gestures : Gestures) (timestamp inPocketTime : Int64) (sawNear : Bool) :
    ProximitySensor.shouldPulse gestures timestamp ⟨sawNear, inPocketTime⟩ = true ↔
      gestures.Wake (timestamp - inPocketTime) := by
  obtain ⟨handwave, pocket⟩ := gestures
  unfold ProximitySensor.shouldPulse Gestures.Wake
  cases handwave <;> cases pocket <;> simp

/-- What an event launches: a pulse, where it is a far one behind near ones and the gestures ask for
it. -/
theorem pulse_iff_wake (maximumRange : V) (history : List (Gestures × SensorEvent V))
    (gestures : Gestures) (e : SensorEvent V) :
    ((exec (ProximitySensor.step maximumRange) .init history).onSensorChanged maximumRange
        gestures e).2 = true ↔
      e.isNear maximumRange = false ∧
        ∃ last, (nearRun maximumRange history).getLast? = some last ∧
          gestures.Wake (e.timestamp - last.timestamp) := by
  cases hnear : e.isNear maximumRange with
  | true =>
    unfold ProximitySensor.onSensorChanged
    simp [hnear]
  | false =>
    rw [eq_self_iff_true, true_and]
    cases hlast : (nearRun maximumRange history).getLast? with
    | none =>
      rw [pulse_of_nearRun_eq_nil gestures hnear (List.getLast?_eq_none_iff.mp hlast)]
      simp
    | some last =>
      rw [pulse_of_getLast? gestures hnear hlast, shouldPulse_iff]
      simp

/-! ### Runs -/

namespace System

/-- What holds of an event of the sensor after those before it. -/
def EventOk (maximumRange : V) (Alone : Prop) (before : List (Event V)) : Event V → Prop
  | .sensed dozeEnabled gestures event pulse =>
    latest Event.runs? before = some true ∧ latest Event.listens? before = some true ∧
      (pulse = true ↔ event.isNear maximumRange = false ∧
        ∃ last, (nearRun maximumRange (sensedSince before)).getLast? = some last ∧
          gestures.Wake (event.timestamp - last.timestamp)) ∧
      (Alone → dozeEnabled = true)
  | _ => True

/-- The service comes or goes, and the log gets that. -/
def Turns (s s' : System V) : Prop :=
  s'.log = s.log ++
    match s.service, s'.service with
    | none, some _ => [.created]
    | some _, none => [.destroyed]
    | _, _ => []

/-- What the log gets of an input: a service that listens sees every event of the sensor, and one
that is there every broadcast of the screen. -/
def Logs (s s' : System V) : Input V → Prop
  | .sensor event =>
    if s.service.any (·.listening) then
      ∃ pulse, s'.log =
        s.log ++ [.sensed (isDozeEnabled s.settings) s.settings.gestures event pulse]
    else s'.log = s.log
  | .screenOn => s'.log = s.log ++ if s.service.isSome then [.screenOn s.settings.gestures] else []
  | .screenOff =>
    s'.log = s.log ++ if s.service.isSome then [.screenOff s.settings.gestures] else []
  | .die => s'.log = s.log ++ if s.service.isSome then [.died] else []
  | .restart => s'.log = s.log ++ if s.sticky then [.created] else []
  | .bootCompleted | .onCreate | .onPreferenceChange _ _ | .putInt _ => Turns s s'

/-- The state agrees with the log; where nobody else changes the setting, what runs or can be
switched on does so with the setting on. -/
structure Kept (maximumRange : V) (Alone : Prop) (s : System V) : Prop where
  runs : ∀ d, s.service = some d → latest Event.runs? s.log = some true
  listens : ∀ d, s.service = some d → d.listening = (latest Event.listens? s.log).getD false
  sensor : ∀ d, s.service = some d →
    d.mProximitySensor = exec (ProximitySensor.step maximumRange) .init (sensedSince s.log)
  enabled : Alone →
    s.service.isSome = true ∨ s.sticky = true ∨ s.mAmbientDisplayPreference = some true →
      isDozeEnabled s.settings = true
  events : ∀ before e after, s.log = before ++ e :: after → EventOk maximumRange Alone before e

variable {maximumRange : V} {Alone : Prop} {s : System V} {d : DozeService}

theorem kept_boot (maximumRange : V) (Alone : Prop) (settings : Settings) :
    Kept maximumRange Alone { settings } where
  runs _ hd := nomatch hd
  listens _ hd := nomatch hd
  sensor _ hd := nomatch hd
  enabled _ h := by simp at h
  events before e after heq := absurd heq.symm (List.append_ne_nil_of_right_ne_nil _
    (List.cons_ne_nil _ _))

/-- The settings and the switch change. -/
theorem Kept.of_settings (h : Kept maximumRange Alone s) (settings : Settings)
    (switch : Option Bool)
    (henabled : Alone → s.service.isSome = true ∨ s.sticky = true ∨ switch = some true →
      isDozeEnabled settings = true) :
    Kept maximumRange Alone { s with settings, mAmbientDisplayPreference := switch } where
  runs := h.runs
  listens := h.listens
  sensor := h.sensor
  enabled := henabled
  events := h.events

theorem Kept.create (h : Kept maximumRange Alone s)
    (henabled : Alone → isDozeEnabled s.settings = true) : Kept maximumRange Alone s.create where
  runs _ _ := latest_concat _ _
  listens d hd := by
    obtain rfl := Option.some.inj hd
    rw [System.create, latest_concat]
    rfl
  sensor d hd := by
    obtain rfl := Option.some.inj hd
    rw [System.create, sensedSince_created]
    rfl
  enabled halone _ := henabled halone
  events := forall_split_concat h.events trivial

theorem Kept.startService (h : Kept maximumRange Alone s)
    (henabled : Alone → isDozeEnabled s.settings = true) :
    Kept maximumRange Alone s.startService := by
  rw [System.startService]
  split
  · exact h
  · exact h.create henabled

/-- The service goes. -/
theorem Kept.gone (h : Kept maximumRange Alone s) (sticky : Bool) (switch : Option Bool)
    {e : Event V} (he : EventOk maximumRange Alone s.log e)
    (henabled : Alone → sticky = true ∨ switch = some true → isDozeEnabled s.settings = true) :
    Kept maximumRange Alone { s with
      mAmbientDisplayPreference := switch, service := none, sticky, log := s.log ++ [e] } where
  runs _ hd := nomatch hd
  listens _ hd := nomatch hd
  sensor _ hd := nomatch hd
  enabled halone hor := henabled halone (hor.resolve_left Bool.false_ne_true)
  events := forall_split_concat h.events he

omit [LT V] [DecidableLT V] in
theorem stopService_gone (s : System V) :
    s.stopService.service = none ∧ s.stopService.sticky = false := by
  rw [System.stopService]
  split
  · exact ⟨rfl, rfl⟩
  · next hservice => exact ⟨hservice, rfl⟩

theorem Kept.stopService (h : Kept maximumRange Alone s) :
    Kept maximumRange Alone s.stopService := by
  rw [System.stopService]
  split
  · refine h.gone false s.mAmbientDisplayPreference trivial fun halone hor => ?_
    exact h.enabled halone (.inr (.inr (hor.resolve_left Bool.false_ne_true)))
  · refine ⟨h.runs, h.listens, h.sensor, fun halone hor => h.enabled halone ?_, h.events⟩
    exact hor.imp_right fun hor => .inr (hor.resolve_left Bool.false_ne_true)

/-- The screen goes on or off. -/
theorem Kept.screen (h : Kept maximumRange Alone s) (hservice : s.service = some d)
    {e : Event V} (d' : DozeService) (he : EventOk maximumRange Alone s.log e)
    (hruns : e.runs? = none) (hcreated : e.isCreated = false) (hsensed : e.sensed? = none)
    (hsensor : d'.mProximitySensor = d.mProximitySensor)
    (hlistens : d'.listening = e.listens?.getD d.listening) :
    Kept maximumRange Alone { s with service := some d', log := s.log ++ [e] } where
  runs d'' _ := by
    rw [latest_concat, hruns]
    exact h.runs d hservice
  listens d'' hd := by
    obtain rfl := Option.some.inj hd
    rw [latest_concat, hlistens, h.listens d hservice]
    cases e.listens? with
    | none => rfl
    | some listens => rfl
  sensor d'' hd := by
    obtain rfl := Option.some.inj hd
    rw [sensedSince_concat _ hcreated, hsensed, hsensor, h.sensor d hservice]
    exact congrArg _ (List.append_nil _).symm
  enabled halone _ := h.enabled halone (.inl (hservice ▸ rfl))
  events := forall_split_concat h.events he

/-- The sensor changes, and the service listens. -/
theorem Kept.sense (h : Kept maximumRange Alone s) (hservice : s.service = some d)
    (hlistening : d.listening = true) (event : SensorEvent V) :
    Kept maximumRange Alone (s.sense maximumRange event d) where
  runs d' _ := by
    rw [System.sense, latest_concat]
    exact h.runs d hservice
  listens d' hd := by
    obtain rfl := Option.some.inj hd
    rw [System.sense, latest_concat]
    exact h.listens d hservice
  sensor d' hd := by
    obtain rfl := Option.some.inj hd
    rw [System.sense, sensedSince_concat _ rfl, exec_append, ← h.sensor d hservice]
    rfl
  enabled halone _ := h.enabled halone (.inl (hservice ▸ rfl))
  events := by
    refine forall_split_concat h.events ⟨h.runs d hservice, ?_, ?_, fun halone => ?_⟩
    · have hlistens := h.listens d hservice
      rw [hlistening] at hlistens
      cases hlatest : latest Event.listens? s.log with
      | none =>
        rw [hlatest] at hlistens
        cases hlistens
      | some listens =>
        rw [hlatest] at hlistens
        exact congrArg some hlistens.symm
    · rw [← pulse_iff_wake, ← h.sensor d hservice]
      rfl
    · exact h.enabled halone (.inl (hservice ▸ rfl))

theorem Kept.onPreferenceChange (h : Kept maximumRange Alone s) {key : Key}
    (hcan : s.canChange key = true) (value : Bool) :
    Kept maximumRange Alone (s.onPreferenceChange key value) := by
  have hgesture : s.mAmbientDisplayPreference = some true →
      ∀ gestures, Kept maximumRange Alone
        { s with settings.gestures := gestures }.startService := by
    intro hswitch gestures
    have henabled := fun halone => h.enabled halone (.inr (.inr hswitch))
    refine (h.of_settings { s.settings with gestures } s.mAmbientDisplayPreference
      fun halone _ => henabled halone).startService henabled
  cases key with
  | ambientDisplay =>
    cases value with
    | true =>
      refine Kept.startService (h.of_settings { s.settings with dozeEnabled := some 1 } (some true)
        fun _ _ => rfl) fun _ => rfl
    | false =>
      have hstop : s.onPreferenceChange .ambientDisplay false =
          { s.stopService with
            settings.dozeEnabled := some 0, mAmbientDisplayPreference := some false } := by
        rw [System.onPreferenceChange, System.enableDoze, System.stopService, System.stopService]
        cases s.service <;> rfl
      obtain ⟨hservice, hsticky⟩ := stopService_gone s
      rw [hstop]
      refine h.stopService.of_settings { s.stopService.settings with dozeEnabled := some 0 } _
        fun _ hor => ?_
      rw [hservice, hsticky] at hor
      simp at hor
  | gestureHandWave => exact hgesture (beq_iff_eq.mp hcan) _
  | gesturePocket => exact hgesture (beq_iff_eq.mp hcan) _

theorem Kept.step (h : Kept maximumRange Alone s) (i : Input V)
    (hi : Alone → ∀ value, i = .putInt value → value ≠ 0) :
    Kept maximumRange Alone (s.step maximumRange i) := by
  cases i with
  | bootCompleted =>
    rw [System.step]
    split
    · next hboot => exact h.startService fun _ => (Bool.and_eq_true_iff.mp hboot).1
    · exact h
  | onCreate =>
    refine h.of_settings s.settings _ fun halone hor => ?_
    rcases hor with hservice | hsticky | hswitch
    · exact h.enabled halone (.inl hservice)
    · exact h.enabled halone (.inr (.inl hsticky))
    · exact Option.some.inj hswitch
  | onPreferenceChange key value =>
    rw [System.step]
    split
    · next hcan => exact h.onPreferenceChange hcan value
    · exact h
  | putInt value =>
    refine h.of_settings { s.settings with dozeEnabled := some value } _ fun halone _ => ?_
    exact bne_iff_ne.mpr (hi halone value rfl)
  | screenOn =>
    rw [System.step]
    split
    · next d hservice =>
      refine h.screen hservice _ trivial rfl rfl rfl ?_ ?_
      · unfold DozeService.onDisplayOn
        split <;> rfl
      · unfold DozeService.onDisplayOn Event.listens? sensorsEnabled
        dsimp only
        split <;> rfl
    · exact h
  | screenOff =>
    rw [System.step]
    split
    · next d hservice =>
      refine h.screen hservice _ trivial rfl rfl rfl ?_ ?_
      · unfold DozeService.onDisplayOff
        split <;> rfl
      · unfold DozeService.onDisplayOff Event.listens? sensorsEnabled
        dsimp only
        split <;> rfl
    · exact h
  | sensor event =>
    rw [System.step]
    split
    · next d hservice =>
      split
      · next hlistening => exact h.sense hservice hlistening event
      · exact h
    · exact h
  | die =>
    rw [System.step]
    split
    · next d hservice =>
      exact h.gone true none trivial fun halone _ => h.enabled halone (.inl (hservice ▸ rfl))
    · refine h.of_settings s.settings none fun halone hor => ?_
      rcases hor with hservice | hsticky | hswitch
      · exact h.enabled halone (.inl hservice)
      · exact h.enabled halone (.inr (.inl hsticky))
      · cases hswitch
  | restart =>
    rw [System.step]
    split
    · next hsticky => exact h.create fun halone => h.enabled halone (.inr (.inl hsticky))
    · exact h

omit [LT V] [DecidableLT V] in
theorem turns_of_eq {s' : System V} (hservice : s'.service = s.service) (hlog : s'.log = s.log) :
    Turns s s' := by
  rw [Turns, hservice, hlog]
  cases s.service <;> exact (List.append_nil _).symm

omit [LT V] [DecidableLT V] in
theorem turns_startService (s : System V) : Turns s s.startService := by
  cases hservice : s.service with
  | none =>
    rw [Turns, System.startService, hservice]
    rfl
  | some d =>
    have hsame : s.startService = s := by
      rw [System.startService, hservice]
      rfl
    rw [hsame]
    exact turns_of_eq rfl rfl

omit [LT V] [DecidableLT V] in
theorem turns_stopService (s : System V) : Turns s s.stopService := by
  cases hservice : s.service with
  | none => simp [Turns, System.stopService, hservice]
  | some d => simp [Turns, System.stopService, hservice]

omit [LT V] [DecidableLT V] in
theorem turns_onPreferenceChange (s : System V) (key : Key) (value : Bool) :
    Turns s (s.onPreferenceChange key value) := by
  cases key with
  | ambientDisplay =>
    cases value with
    | true => exact turns_startService { s with
        mAmbientDisplayPreference := some true, settings.dozeEnabled := some 1 }
    | false => exact turns_stopService { s with
        mAmbientDisplayPreference := some false, settings.dozeEnabled := some 0 }
  | gestureHandWave => exact turns_startService { s with settings.gestures.handwave := value }
  | gesturePocket => exact turns_startService { s with settings.gestures.pocket := value }

/-- What the log gets of a step. -/
theorem logs_step (s : System V) (i : Input V) : Logs s (s.step maximumRange i) i := by
  cases i with
  | bootCompleted =>
    rw [System.step]
    split
    · exact turns_startService s
    · exact turns_of_eq rfl rfl
  | onCreate => exact turns_of_eq rfl rfl
  | onPreferenceChange key value =>
    rw [System.step]
    split
    · exact turns_onPreferenceChange s key value
    · exact turns_of_eq rfl rfl
  | putInt value => exact turns_of_eq rfl rfl
  | sensor event =>
    rw [System.step, Logs]
    cases hservice : s.service with
    | none => rfl
    | some d =>
      cases hlistening : d.listening with
      | true => simp [hlistening, System.sense]
      | false => simp [hlistening]
  | screenOn =>
    rw [System.step, Logs]
    cases hservice : s.service <;> simp
  | screenOff =>
    rw [System.step, Logs]
    cases hservice : s.service <;> simp
  | die =>
    rw [System.step, Logs]
    cases hservice : s.service <;> simp
  | restart =>
    rw [System.step, Logs]
    cases hsticky : s.sticky <;> simp [System.create]

/-- **Which events launch a pulse**, in any run.  The service listens while the last broadcast of
the screen that found a gesture enabled, since it was created, was that it is off, and it sees the
sensor only then, and every event of it.  A pulse is launched just where a far event comes behind near ones that the
service has seen since it was created, and the time since the last near event is what the gestures
of the moment ask for.  Where nobody else clears the setting, the ambient display is enabled
then. -/
theorem pulses_exec (maximumRange : V) (settings : Settings) (inputs : List (Input V)) :
    let s := exec (step maximumRange) { settings } inputs
    (∀ d, s.service = some d → d.listening = (latest Event.listens? s.log).getD false) ∧
    (∀ i, Logs s (s.step maximumRange i) i) ∧
    ∀ before dozeEnabled gestures event pulse after,
      s.log = before ++ .sensed dozeEnabled gestures event pulse :: after →
      latest Event.runs? before = some true ∧ latest Event.listens? before = some true ∧
      (pulse = true ↔ event.isNear maximumRange = false ∧
        ∃ last, (nearRun maximumRange (sensedSince before)).getLast? = some last ∧
          gestures.Wake (event.timestamp - last.timestamp)) ∧
      ((∀ value, .putInt value ∈ inputs → value ≠ 0) → dozeEnabled = true) := by
  have hkept : Kept maximumRange (∀ value, .putInt value ∈ inputs → value ≠ 0)
      (exec (step maximumRange) { settings } inputs) := by
    refine exec_inv_of_forall (I := fun i => i ∈ inputs) (fun s i hi h => ?_) inputs _
      (fun i hi => hi) (kept_boot maximumRange _ settings)
    exact h.step i fun halone value heq => halone value (heq ▸ hi)
  exact ⟨hkept.listens, logs_step _, fun before _ _ _ _ after heq => hkept.events before _ after heq⟩

end System
end Doze
end Nx507j
