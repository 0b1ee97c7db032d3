import Mathlib.Data.List.Induction
import Mathlib.Logic.Function.Basic
import Nx507j.Lib.Run

/-!
# The breath LED

`lights.c`: four lights share one LED.  Each call stores the state of its light, and the one with
the highest priority among those that are lit is shown.  Where the light that is shown stays the
same the LED is not always written again.

`g_lock` is held while a light is set, so a call is one step.  What is read from `sysfs` is part of
the input, with `none` for a file that gives no number; what is written is kept for each file.

## Main definitions

* `Lights` — the variables of the module, with the files.
* `setBreathLightLocked` — the arbitration.
* `Call`, `Lights.step` — the calls of the four lights.
* `lit`, `topSource` — the lights that are lit, and the one with the highest priority.

## Main results

* `setBreathLightLocked_cases`, `step_cases` — what the arbitration, and a call, does: the LED goes
  off, stays as it is, or is written anew.
* `arbitration_exec` — the LED is on with the light of the highest priority, or off.
-/

namespace Nx507j
namespace Light

open Run

/-! ### Data -/

/-- Whether `flashMode` is `LIGHT_FLASH_TIMED`. -/
inductive FlashMode
  | timed
  | other
  deriving DecidableEq, Repr

/-- `light_state_t`. -/
structure LightState where
  color : UInt32
  flashMode : FlashMode
  flashOnMS : Int32
  flashOffMS : Int32
  deriving DecidableEq, Repr

/-- The sources of the breath LED. -/
inductive Source
  | notification
  | battery
  | buttons
  | attention
  deriving DecidableEq, Repr

/-- `BREATH_SOURCE_…`. -/
def Source.toUInt32 : Source → UInt32
  | notification => 0x01
  | battery => 0x02
  | buttons => 0x04
  | attention => 0x08

/-- `BREATH_SOURCE_NONE`. -/
def breathSourceNone : UInt32 := 0xFF

/-- The files that are written. -/
inductive Node
  | breathLedBlink
  | breathLedLutFlags
  | breathLedPauseHi
  | breathLedPauseLo
  | breathLedRampStepMs
  | breathLedDutyPcts
  | leftButtonBlink
  | leftButtonRampStepMs
  | leftButtonLutFlags
  | leftButtonDutyPcts
  | rightButtonBlink
  | rightButtonRampStepMs
  | rightButtonLutFlags
  | rightButtonDutyPcts
  deriving DecidableEq, Repr

/-- A line that is written: a number or a text. -/
inductive Value
  | int (n : Int32)
  | str (s : String)
  deriving DecidableEq, Repr

/-- What is read from the files of the battery. -/
structure Readings where
  chargerOnline : Option Int32
  capacity : Option Int32
  deriving DecidableEq, Repr

/-- `read_int`: without a number the variable stays as it is. -/
def readInt (file : Option Int32) (value : Int32) : Int32 := file.getD value

def pmPwmLutLoop : Int32 := 0x01
def pmPwmLutRampUp : Int32 := 0x02
def pmPwmLutReverse : Int32 := 0x04
def pmPwmLutPauseHiEn : Int32 := 0x08
def pmPwmLutPauseLoEn : Int32 := 0x10

def breathLedBrightnessNotification : String :=
  "0,5,10,15,20,26,31,36,41,46,51,56,61,66,71,77,82,87,92,97,102,107,112,117,122,128,133,138," ++
  "143,148,153,158,163,168,173,179,184,189,194,199,204,209,214,219,224,230,235,240,245,250,255"

def breathLedBrightnessButtons : String := "0,1,2,3,4,5,6,7,8,9,10,11,12,13,14,15"

def breathLedBrightnessBattery : String := "0,50"

def breathLedBrightnessCharging : String :=
  "20,21,22,23,24,25,26,27,28,29,30,31,32,33,34,35,36,37,38,39,40,41,42,43,44,45,46,47,48,49,50," ++
  "51,52,53,54,55,56,57,58,59,60"

def breathLedSideButtons : String := "0,1,2,3,4,5,6,7,8,9,10"

/-- `rgb_to_brightness`. -/
def rgbToBrightness (state : LightState) : UInt32 :=
  let color : UInt32 := state.color &&& 0x00ffffff
  let byte : UInt32 := 0x00ff
  let red : UInt32 := color >>> 16 &&& byte
  let green : UInt32 := color >>> 8 &&& byte
  let blue : UInt32 := color &&& byte
  let weighted : UInt32 := 77 * red + 150 * green + 29 * blue
  weighted >>> 8

/-- The variables of the module, and what stands in the files, as far as it is known. -/
structure Lights where
  gNotification : LightState
  gBattery : LightState
  gButtons : LightState
  gAttention : LightState
  activeStates : UInt32
  lastState : UInt32
  files : Node → Option Value

/-- A light that has not been set. -/
def LightState.zero : LightState := ⟨0, .other, 0, 0⟩

namespace Lights

/-- Before the first call. -/
def init (files : Node → Option Value) : Lights where
  gNotification := .zero
  gBattery := .zero
  gButtons := .zero
  gAttention := .zero
  activeStates := 0
  lastState := breathSourceNone
  files := files

/-- `write_int`. -/
def writeInt (path : Node) (value : Int32) (s : Lights) : Lights :=
  { s with files := Function.update s.files path (some (.int value)) }

/-- `write_str`. -/
def writeStr (path : Node) (value : String) (s : Lights) : Lights :=
  { s with files := Function.update s.files path (some (.str value)) }

end Lights

/-! ### Patterns -/

/-- What the LED is to do. -/
structure Pattern where
  lightTemplate : String
  lutFlags : Int32
  onMS : Int32
  offMS : Int32
  deriving DecidableEq, Repr

def notificationPattern (state : LightState) : Pattern :=
  let onMS := if state.flashMode = .timed then state.flashOnMS else 0
  let offMS := if state.flashMode = .timed then state.flashOffMS else 0
  let lutFlags := if onMS + offMS ≠ 0 then
      pmPwmLutRampUp ||| pmPwmLutLoop ||| pmPwmLutReverse ||| pmPwmLutPauseHiEn |||
        pmPwmLutPauseLoEn
    else pmPwmLutRampUp
  ⟨breathLedBrightnessNotification, lutFlags, onMS, offMS⟩

/-- The state of the battery is not in the light's state, but is read. -/
def batteryPattern (readings : Readings) : Pattern :=
  let isCharging := readInt readings.chargerOnline 0
  let capacity := readInt readings.capacity 0
  if isCharging = 0 then
    -- battery low
    ⟨breathLedBrightnessBattery, pmPwmLutLoop ||| pmPwmLutRampUp ||| pmPwmLutReverse |||
      pmPwmLutPauseHiEn ||| pmPwmLutPauseLoEn, 300, 1500⟩
  else if capacity < 100 then
    -- battery charging
    ⟨breathLedBrightnessCharging, pmPwmLutLoop ||| pmPwmLutRampUp ||| pmPwmLutReverse, 0, 0⟩
  else
    -- battery full
    ⟨breathLedBrightnessBattery, pmPwmLutRampUp, 0, 0⟩

def buttonsPattern : Pattern := ⟨breathLedBrightnessButtons, pmPwmLutRampUp, 0, 0⟩

def attentionPattern : Pattern := ⟨breathLedBrightnessNotification, 0, 0, 0⟩

namespace Lights

/-- A pause is written if there is one. -/
def writePause (path : Node) (ms : Int32) (s : Lights) : Lights :=
  if ms > 0 then s.writeInt path ms else s

/-- The writes at the end of `set_breath_light_locked`. -/
def writePattern (p : Pattern) (s : Lights) : Lights :=
  let s := s.writeInt .breathLedBlink 0
  let s := s.writeStr .breathLedDutyPcts p.lightTemplate
  let s := s.writeInt .breathLedRampStepMs 20
  let s := s.writePause .breathLedPauseLo p.offMS
  let s := s.writePause .breathLedPauseHi p.onMS
  let s := s.writeInt .breathLedLutFlags p.lutFlags
  s.writeInt .breathLedBlink 1

/-- `set_breath_light_locked` from the choice of the pattern on. -/
def showPattern (readings : Readings) (s : Lights) : Lights :=
  if s.activeStates &&& Source.notification.toUInt32 ≠ 0 then
    writePattern (notificationPattern s.gNotification)
      { s with lastState := Source.notification.toUInt32 }
  else if s.activeStates &&& Source.battery.toUInt32 ≠ 0 then
    if s.lastState = Source.battery.toUInt32 then s
    else writePattern (batteryPattern readings) { s with lastState := Source.battery.toUInt32 }
  else if s.activeStates &&& Source.buttons.toUInt32 ≠ 0 then
    if s.lastState = Source.buttons.toUInt32 then s
    else writePattern buttonsPattern { s with lastState := Source.buttons.toUInt32 }
  else if s.activeStates &&& Source.attention.toUInt32 ≠ 0 then
    writePattern attentionPattern { s with lastState := Source.attention.toUInt32 }
  else { s with lastState := breathSourceNone }

/-- `set_breath_light_locked`. -/
def setBreathLightLocked (eventSource : UInt32) (state : LightState) (readings : Readings)
    (s : Lights) : Lights :=
  if rgbToBrightness state > 0 then
    let s := { s with activeStates := s.activeStates ||| eventSource }
    if s.lastState < eventSource then s else s.showPattern readings
  else
    let s := { s with activeStates := s.activeStates &&& ~~~eventSource }
    if s.activeStates = 0 then
      -- just turn the led off
      { s.writeInt .breathLedBlink 0 with lastState := breathSourceNone }
    else if s.lastState < eventSource then s else s.showPattern readings

/-! ### The calls -/

/-- What three of the lights do: the state is stored, and the LED is set. -/
def setLight (eventSource : Source) (store : LightState → Lights → Lights) (dev : Bool)
    (state : LightState) (readings : Readings) (s : Lights) : Lights × Int32 :=
  if !dev then (s, -1)
  else (setBreathLightLocked eventSource.toUInt32 state readings (store state s), 0)

def setLightNotifications : Bool → LightState → Readings → Lights → Lights × Int32 :=
  setLight .notification fun state s => { s with gNotification := state }

def setLightBattery : Bool → LightState → Readings → Lights → Lights × Int32 :=
  setLight .battery fun state s => { s with gBattery := state }

def setLightAttention : Bool → LightState → Readings → Lights → Lights × Int32 :=
  setLight .attention fun state s => { s with gAttention := state }

/-- The LEDs beside the buttons. -/
def writeSideButtons (brightness : UInt32) (s : Lights) : Lights :=
  let s := if brightness > 0 then
      (((((s.writeStr .leftButtonDutyPcts breathLedSideButtons).writeStr
        .rightButtonDutyPcts breathLedSideButtons).writeInt
        .leftButtonLutFlags pmPwmLutRampUp).writeInt
        .rightButtonLutFlags pmPwmLutRampUp).writeInt
        .leftButtonRampStepMs 40).writeInt .rightButtonRampStepMs 40
    else s
  (s.writeInt .leftButtonBlink (if brightness ≠ 0 then 1 else 0)).writeInt
    .rightButtonBlink (if brightness ≠ 0 then 1 else 0)

/-- The LEDs beside the buttons are set as well. -/
def setLightButtons (dev : Bool) (state : LightState) (readings : Readings) (s : Lights) :
    Lights × Int32 :=
  let brightness := rgbToBrightness state
  if !dev then (s, -1)
  else
    let s := writeSideButtons brightness { s with gButtons := state }
    (setBreathLightLocked Source.buttons.toUInt32 state readings s, 0)

end Lights

/-- A call of `set_light` of one of the lights: whether there is a device, the state, and what the
files of the battery give at the time. -/
structure Call where
  source : Source
  dev : Bool
  state : LightState
  readings : Readings
  deriving DecidableEq, Repr

/-- One call. -/
def Lights.step (s : Lights) (c : Call) : Lights :=
  match c.source with
  | .notification => (s.setLightNotifications c.dev c.state c.readings).1
  | .battery => (s.setLightBattery c.dev c.state c.readings).1
  | .buttons => (s.setLightButtons c.dev c.state c.readings).1
  | .attention => (s.setLightAttention c.dev c.state c.readings).1

/-! ### The lights that are lit -/

/-- The last call for the light had a colour with some brightness.  A call without a device does
nothing. -/
def lit (calls : List Call) (source : Source) : Bool :=
  match (calls.filter fun c => c.dev && c.source = source).getLast? with
  | some c => decide (rgbToBrightness c.state > 0)
  | none => false

/-- The one with the highest priority. -/
def topOf (notification battery buttons attention : Bool) : Option Source :=
  if notification then some .notification
  else if battery then some .battery
  else if buttons then some .buttons
  else if attention then some .attention
  else none

def topSource (A : Source → Bool) : Option Source :=
  topOf (A .notification) (A .battery) (A .buttons) (A .attention)

/-- The sources as bits. -/
def bits (notification battery buttons attention : Bool) : UInt32 :=
  (if notification then Source.notification.toUInt32 else 0) |||
    (if battery then Source.battery.toUInt32 else 0) |||
    (if buttons then Source.buttons.toUInt32 else 0) |||
    (if attention then Source.attention.toUInt32 else 0)

def mask (A : Source → Bool) : UInt32 :=
  bits (A .notification) (A .battery) (A .buttons) (A .attention)

/-- `last_state` where this one is shown. -/
def lastOf (top : Option Source) : UInt32 := top.elim breathSourceNone Source.toUInt32

theorem lit_append_singleton (calls : List Call) (c : Call) :
    lit (calls ++ [c]) =
      if c.dev then Function.update (lit calls) c.source (decide (rgbToBrightness c.state > 0))
      else lit calls := by
  funext source
  unfold lit
  rw [List.filter_append]
  cases hdev : c.dev with
  | false => simp [hdev]
  | true =>
    by_cases hsource : c.source = source
    · subst hsource
      simp [hdev]
    · have hne : source ≠ c.source := fun h => hsource h.symm
      simp [hdev, hsource, Function.update_of_ne hne]

variable {A : Source → Bool} {source w : Source} {b : Bool}

/-- The bit of a source says whether it is lit. -/
theorem mask_and_eq_zero (A : Source → Bool) (source : Source) :
    mask A &&& source.toUInt32 = 0 ↔ A source = false := by
  have hbits : ∀ x₁ x₂ x₃ x₄ : Bool,
      (bits x₁ x₂ x₃ x₄ &&& Source.notification.toUInt32 = 0 ↔ x₁ = false) ∧
      (bits x₁ x₂ x₃ x₄ &&& Source.battery.toUInt32 = 0 ↔ x₂ = false) ∧
      (bits x₁ x₂ x₃ x₄ &&& Source.buttons.toUInt32 = 0 ↔ x₃ = false) ∧
      (bits x₁ x₂ x₃ x₄ &&& Source.attention.toUInt32 = 0 ↔ x₄ = false) := by decide
  obtain ⟨h₁, h₂, h₃, h₄⟩ := hbits (A .notification) (A .battery) (A .buttons) (A .attention)
  cases source with
  | notification => exact h₁
  | battery => exact h₂
  | buttons => exact h₃
  | attention => exact h₄

/-- `active_states` after the first step of a call. -/
theorem mask_update (A : Source → Bool) (source : Source) (b : Bool) :
    mask (Function.update A source b) =
      if b then mask A ||| source.toUInt32 else mask A &&& ~~~source.toUInt32 := by
  have hbits : ∀ x₁ x₂ x₃ x₄ b : Bool,
      bits b x₂ x₃ x₄ = (if b then bits x₁ x₂ x₃ x₄ ||| Source.notification.toUInt32
        else bits x₁ x₂ x₃ x₄ &&& ~~~Source.notification.toUInt32) ∧
      bits x₁ b x₃ x₄ = (if b then bits x₁ x₂ x₃ x₄ ||| Source.battery.toUInt32
        else bits x₁ x₂ x₃ x₄ &&& ~~~Source.battery.toUInt32) ∧
      bits x₁ x₂ b x₄ = (if b then bits x₁ x₂ x₃ x₄ ||| Source.buttons.toUInt32
        else bits x₁ x₂ x₃ x₄ &&& ~~~Source.buttons.toUInt32) ∧
      bits x₁ x₂ x₃ b = (if b then bits x₁ x₂ x₃ x₄ ||| Source.attention.toUInt32
        else bits x₁ x₂ x₃ x₄ &&& ~~~Source.attention.toUInt32) := by decide
  obtain ⟨h₁, h₂, h₃, h₄⟩ :=
    hbits (A .notification) (A .battery) (A .buttons) (A .attention) b
  cases source with
  | notification => exact h₁
  | battery => exact h₂
  | buttons => exact h₃
  | attention => exact h₄

/-- A source below the one that is shown does not change which one that is. -/
theorem topSource_update_of_lt (h : lastOf (topSource A) < source.toUInt32) :
    topSource (Function.update A source b) = topSource A := by
  have htop : ∀ x₁ x₂ x₃ x₄ b : Bool,
      (lastOf (topOf x₁ x₂ x₃ x₄) < Source.notification.toUInt32 →
        topOf b x₂ x₃ x₄ = topOf x₁ x₂ x₃ x₄) ∧
      (lastOf (topOf x₁ x₂ x₃ x₄) < Source.battery.toUInt32 →
        topOf x₁ b x₃ x₄ = topOf x₁ x₂ x₃ x₄) ∧
      (lastOf (topOf x₁ x₂ x₃ x₄) < Source.buttons.toUInt32 →
        topOf x₁ x₂ b x₄ = topOf x₁ x₂ x₃ x₄) ∧
      (lastOf (topOf x₁ x₂ x₃ x₄) < Source.attention.toUInt32 →
        topOf x₁ x₂ x₃ b = topOf x₁ x₂ x₃ x₄) := by decide
  obtain ⟨h₁, h₂, h₃, h₄⟩ := htop (A .notification) (A .battery) (A .buttons) (A .attention) b
  cases source with
  | notification => exact h₁ h
  | battery => exact h₂ h
  | buttons => exact h₃ h
  | attention => exact h₄ h

theorem mask_eq_zero_iff (A : Source → Bool) : mask A = 0 ↔ topSource A = none := by
  have hbits : ∀ x₁ x₂ x₃ x₄ : Bool, bits x₁ x₂ x₃ x₄ = 0 ↔ topOf x₁ x₂ x₃ x₄ = none := by decide
  exact hbits (A .notification) (A .battery) (A .buttons) (A .attention)

theorem lastOf_injective {top top' : Option Source} (h : lastOf top = lastOf top') :
    top = top' := by
  rcases top with _ | source <;> rcases top' with _ | source'
  · rfl
  · cases source' <;> cases h
  · cases source <;> cases h
  · cases source <;> cases source' <;> first | rfl | cases h

/-! ### What the arbitration does -/

/-- The pattern of the light that is shown. -/
def Lights.pattern (s : Lights) (readings : Readings) : Source → Pattern
  | .notification => notificationPattern s.gNotification
  | .battery => batteryPattern readings
  | .buttons => buttonsPattern
  | .attention => attentionPattern

/-- These are not written again as long as they are shown. -/
def Source.kept : Source → Bool
  | .battery | .buttons => true
  | .notification | .attention => false

/-- What is shown: it leaves a light that is kept and is shown, or writes the pattern. -/
theorem showPattern_cases {s : Lights} (readings : Readings) (hactive : s.activeStates = mask A)
    (htop : topSource A = some w) :
    (w.kept = true ∧ s.lastState = w.toUInt32 ∧ s.showPattern readings = s) ∨
    ((w.kept = true → s.lastState ≠ w.toUInt32) ∧
      s.showPattern readings =
        Lights.writePattern (s.pattern readings w) { s with lastState := w.toUInt32 }) := by
  unfold Lights.showPattern
  unfold topSource topOf at htop
  rw [hactive]
  simp only [ne_eq, mask_and_eq_zero, Bool.not_eq_false]
  split_ifs at htop with hnotification hbattery hbuttons hattention
  · obtain rfl := Option.some.inj htop
    rw [if_pos hnotification]
    exact .inr ⟨fun h => absurd h (by decide), rfl⟩
  · obtain rfl := Option.some.inj htop
    rw [if_neg hnotification, if_pos hbattery]
    split_ifs with hlast
    · exact .inl ⟨rfl, hlast, rfl⟩
    · exact .inr ⟨fun _ => hlast, rfl⟩
  · obtain rfl := Option.some.inj htop
    rw [if_neg hnotification, if_neg hbattery, if_pos hbuttons]
    split_ifs with hlast
    · exact .inl ⟨rfl, hlast, rfl⟩
    · exact .inr ⟨fun _ => hlast, rfl⟩
  · obtain rfl := Option.some.inj htop
    rw [if_neg hnotification, if_neg hbattery, if_neg hbuttons, if_pos hattention]
    exact .inr ⟨fun h => absurd h (by decide), rfl⟩

/-- What follows when some light is lit: a light below the one that is shown leaves the LED. -/
theorem showPattern_or_stay {s : Lights} (readings : Readings)
    (hactive : s.activeStates = mask (Function.update A source b))
    (hlast : s.lastState = lastOf (topSource A))
    (htop : topSource (Function.update A source b) = some w) :
    let s' := if s.lastState < source.toUInt32 then s else s.showPattern readings
    (s.lastState = w.toUInt32 ∧ (w = source → w.kept = true) ∧ s' = s) ∨
    ((w.kept = true → s.lastState ≠ w.toUInt32) ∧
      s' = Lights.writePattern (s.pattern readings w) { s with lastState := w.toUInt32 }) := by
  intro s'
  by_cases hlt : s.lastState < source.toUInt32
  · have hsame : topSource A = some w := by
      rw [← htop, topSource_update_of_lt (hlast ▸ hlt)]
    have hshown : s.lastState = w.toUInt32 := by
      rw [hlast, hsame]
      rfl
    refine .inl ⟨hshown, fun heq => ?_, if_pos hlt⟩
    rw [hshown, heq] at hlt
    exact absurd hlt (UInt32.lt_irrefl _)
  · have hshow : s' = s.showPattern readings := if_neg hlt
    rcases showPattern_cases readings hactive htop with ⟨hkept, hshown, hsame⟩ | ⟨hnew, hwrite⟩
    · exact .inl ⟨hshown, fun _ => hkept, hshow.trans hsame⟩
    · exact .inr ⟨hnew, hshow.trans hwrite⟩

/-- A light that is lit is among those that are. -/
theorem exists_topSource (A : Source → Bool) (source : Source) (h : b = true) :
    ∃ w, topSource (Function.update A source b) = some w := by
  rw [← Option.ne_none_iff_exists', Ne, ← mask_eq_zero_iff]
  intro hzero
  have hlit : Function.update A source b source = false := by
    rw [← mask_and_eq_zero, hzero]
    exact UInt32.zero_and
  rw [Function.update_self, h] at hlit
  cases hlit

/-- **What the arbitration does**: the LED goes off with the last light; it stays as it is where the
light that is shown stays and is kept, or is not the one that is set; or it is written anew. -/
theorem setBreathLightLocked_cases {s : Lights} (source : Source) (state : LightState)
    (readings : Readings) (hactive : s.activeStates = mask A)
    (hlast : s.lastState = lastOf (topSource A)) :
    let A' := Function.update A source (decide (rgbToBrightness state > 0))
    let s' := s.setBreathLightLocked source.toUInt32 state readings
    (topSource A' = none ∧
      s' = { s.writeInt .breathLedBlink 0 with activeStates := 0, lastState := breathSourceNone }) ∨
    ∃ w, topSource A' = some w ∧
      ((s.lastState = w.toUInt32 ∧ (w = source → w.kept = true) ∧
        s' = { s with activeStates := mask A' }) ∨
      ((w.kept = true → s.lastState ≠ w.toUInt32) ∧
        s' = Lights.writePattern (s.pattern readings w)
          { s with activeStates := mask A', lastState := w.toUInt32 })) := by
  intro A' s'
  let lit : Lights := { s with activeStates := mask A' }
  have hmask := mask_update A source (decide (rgbToBrightness state > 0))
  by_cases hbright : rgbToBrightness state > 0
  · have hupdate : mask A' = s.activeStates ||| source.toUInt32 := by
      rw [hactive, hmask, decide_eq_true hbright]
      rfl
    obtain ⟨w, htop⟩ := exists_topSource A source (decide_eq_true hbright)
    have hs' : s' = if lit.lastState < source.toUInt32 then lit else lit.showPattern readings := by
      unfold lit
      rw [hupdate]
      exact if_pos hbright
    rw [hs']
    exact .inr ⟨w, htop, showPattern_or_stay (s := lit) readings rfl hlast htop⟩
  · have hupdate : mask A' = s.activeStates &&& ~~~source.toUInt32 := by
      rw [hactive, hmask, decide_eq_false hbright]
      rfl
    have hs' : s' = if mask A' = 0 then
        { s.writeInt .breathLedBlink 0 with activeStates := mask A', lastState := breathSourceNone }
        else if lit.lastState < source.toUInt32 then lit else lit.showPattern readings := by
      unfold lit
      rw [hupdate]
      exact if_neg hbright
    rcases htop : topSource A' with _ | w
    · have hzero := (mask_eq_zero_iff A').mpr htop
      rw [if_pos hzero, hzero] at hs'
      exact .inl ⟨rfl, hs'⟩
    · have hne : mask A' ≠ 0 := fun hzero => by
        rw [(mask_eq_zero_iff A').mp hzero] at htop
        cases htop
      rw [if_neg hne] at hs'
      rw [hs']
      exact .inr ⟨w, rfl, showPattern_or_stay (s := lit) readings rfl hlast htop⟩

/-! ### The files after the writes -/

section Files

variable (path node : Node) (value : Int32) (str : String) (ms : Int32) (p : Pattern) (s : Lights)

/-- The state of the light of a source. -/
def Lights.stateOf (s : Lights) : Source → LightState
  | .notification => s.gNotification
  | .battery => s.gBattery
  | .buttons => s.gButtons
  | .attention => s.gAttention

/-- Only files have changed. -/
structure Lights.OnlyFiles (s s' : Lights) : Prop where
  activeStates : s'.activeStates = s.activeStates
  lastState : s'.lastState = s.lastState
  stateOf : ∀ source, s'.stateOf source = s.stateOf source

theorem Lights.OnlyFiles.rfl {s : Lights} : s.OnlyFiles s :=
  ⟨Eq.refl _, Eq.refl _, fun _ => Eq.refl _⟩

theorem Lights.OnlyFiles.trans {s s' s'' : Lights} (h : s.OnlyFiles s') (h' : s'.OnlyFiles s'') :
    s.OnlyFiles s'' where
  activeStates := h'.activeStates.trans h.activeStates
  lastState := h'.lastState.trans h.lastState
  stateOf source := (h'.stateOf source).trans (h.stateOf source)

theorem onlyFiles_writeInt : s.OnlyFiles (s.writeInt path value) :=
  ⟨rfl, rfl, fun source => by cases source <;> rfl⟩

theorem onlyFiles_writeStr : s.OnlyFiles (s.writeStr path str) :=
  ⟨rfl, rfl, fun source => by cases source <;> rfl⟩

theorem onlyFiles_writePause : s.OnlyFiles (s.writePause path ms) := by
  unfold Lights.writePause
  split
  · exact onlyFiles_writeInt ..
  · exact .rfl

theorem onlyFiles_writePattern : s.OnlyFiles (s.writePattern p) := by
  apply Lights.OnlyFiles.trans _ (onlyFiles_writeInt ..)
  apply Lights.OnlyFiles.trans _ (onlyFiles_writeInt ..)
  apply Lights.OnlyFiles.trans _ (onlyFiles_writePause ..)
  apply Lights.OnlyFiles.trans _ (onlyFiles_writePause ..)
  apply Lights.OnlyFiles.trans _ (onlyFiles_writeInt ..)
  apply Lights.OnlyFiles.trans _ (onlyFiles_writeStr ..)
  exact onlyFiles_writeInt ..

@[simp] theorem files_writeInt : (s.writeInt path value).files node =
    if node = path then some (.int value) else s.files node := Function.update_apply ..

@[simp] theorem files_writeStr : (s.writeStr path str).files node =
    if node = path then some (.str str) else s.files node := Function.update_apply ..

@[simp] theorem files_writePause : (s.writePause path ms).files node =
    if node = path ∧ ms > 0 then some (.int ms) else s.files node := by
  unfold Lights.writePause
  split_ifs with hms h h
  · rw [files_writeInt, if_pos h.1]
  · rw [files_writeInt, if_neg fun hnode => h ⟨hnode, hms⟩]
  · exact absurd h.2 hms
  · rfl

theorem onlyFiles_writeSideButtons (brightness : UInt32) :
    s.OnlyFiles (s.writeSideButtons brightness) := by
  unfold Lights.writeSideButtons
  apply Lights.OnlyFiles.trans _ (onlyFiles_writeInt ..)
  apply Lights.OnlyFiles.trans _ (onlyFiles_writeInt ..)
  split
  · apply Lights.OnlyFiles.trans _ (onlyFiles_writeInt ..)
    apply Lights.OnlyFiles.trans _ (onlyFiles_writeInt ..)
    apply Lights.OnlyFiles.trans _ (onlyFiles_writeInt ..)
    apply Lights.OnlyFiles.trans _ (onlyFiles_writeInt ..)
    exact (onlyFiles_writeStr ..).trans (onlyFiles_writeStr ..)
  · exact .rfl

/-- The file belongs to the breath LED. -/
def Node.ofBreathLed : Node → Bool
  | .breathLedBlink | .breathLedLutFlags | .breathLedPauseHi | .breathLedPauseLo
  | .breathLedRampStepMs | .breathLedDutyPcts => true
  | _ => false

theorem files_writeSideButtons (brightness : UInt32) {node : Node}
    (hnode : node.ofBreathLed = true) :
    (s.writeSideButtons brightness).files node = s.files node := by
  have hne : ∀ path : Node, path.ofBreathLed = false → node ≠ path := by
    rintro path hpath rfl
    rw [hnode] at hpath
    cases hpath
  unfold Lights.writeSideButtons
  dsimp only
  rw [files_writeInt, if_neg (hne _ rfl), files_writeInt, if_neg (hne _ rfl)]
  split
  · rw [files_writeInt, if_neg (hne _ rfl), files_writeInt, if_neg (hne _ rfl),
      files_writeInt, if_neg (hne _ rfl), files_writeInt, if_neg (hne _ rfl),
      files_writeStr, if_neg (hne _ rfl), files_writeStr, if_neg (hne _ rfl)]
  · rfl

/-- The files that the pattern is read back from. -/
theorem files_writePattern :
    (s.writePattern p).files .breathLedBlink = some (.int 1) ∧
      (s.writePattern p).files .breathLedDutyPcts = some (.str p.lightTemplate) ∧
      (s.writePattern p).files .breathLedLutFlags = some (.int p.lutFlags) ∧
      (s.writePattern p).files .breathLedPauseLo =
        (if p.offMS > 0 then some (.int p.offMS) else s.files .breathLedPauseLo) ∧
      (s.writePattern p).files .breathLedPauseHi =
        (if p.onMS > 0 then some (.int p.onMS) else s.files .breathLedPauseHi) := by
  simp [Lights.writePattern]

end Files

/-! ### A call -/

/-- A call has stored its state, and has not yet come to the breath LED. -/
structure Lights.Stored (s : Lights) (c : Call) (s₁ : Lights) : Prop where
  activeStates : s₁.activeStates = s.activeStates
  lastState : s₁.lastState = s.lastState
  files : ∀ node, node.ofBreathLed = true → s₁.files node = s.files node
  stateOf : ∀ source, s₁.stateOf source = if source = c.source then c.state else s.stateOf source

/-- A call stores its state, and then the LED is set. -/
theorem step_eq (s : Lights) {c : Call} (hdev : c.dev = true) :
    ∃ s₁, s.step c = s₁.setBreathLightLocked c.source.toUInt32 c.state c.readings ∧
      s.Stored c s₁ := by
  obtain ⟨source, dev, state, readings⟩ := c
  obtain rfl : dev = true := hdev
  cases source with
  | notification => exact ⟨_, rfl, rfl, rfl, fun _ _ => rfl, fun w => by cases w <;> rfl⟩
  | battery => exact ⟨_, rfl, rfl, rfl, fun _ _ => rfl, fun w => by cases w <;> rfl⟩
  | attention => exact ⟨_, rfl, rfl, rfl, fun _ _ => rfl, fun w => by cases w <;> rfl⟩
  | buttons =>
    have hside := onlyFiles_writeSideButtons { s with gButtons := state } (rgbToBrightness state)
    refine ⟨_, rfl, hside.activeStates, hside.lastState,
      fun node hnode => files_writeSideButtons _ _ hnode, fun w => ?_⟩
    rw [hside.stateOf]
    cases w <;> rfl

/-- **What a call does**: the LED goes off, stays as it is, or is written anew. -/
theorem step_cases {s : Lights} {c : Call} (hdev : c.dev = true)
    (hactive : s.activeStates = mask A) (hlast : s.lastState = lastOf (topSource A)) :
    let A' := Function.update A c.source (decide (rgbToBrightness c.state > 0))
    ∃ s₁, s.Stored c s₁ ∧
      ((topSource A' = none ∧ s.step c =
        { s₁.writeInt .breathLedBlink 0 with activeStates := 0, lastState := breathSourceNone }) ∨
      ∃ w, topSource A' = some w ∧
        ((s.lastState = w.toUInt32 ∧ (w = c.source → w.kept = true) ∧
          s.step c = { s₁ with activeStates := mask A' }) ∨
        ((w.kept = true → s.lastState ≠ w.toUInt32) ∧
          s.step c = Lights.writePattern (s₁.pattern c.readings w)
            { s₁ with activeStates := mask A', lastState := w.toUInt32 }))) := by
  intro A'
  obtain ⟨s₁, hstep, hstored⟩ := step_eq s hdev
  rw [hstep, ← hstored.lastState]
  exact ⟨s₁, hstored, setBreathLightLocked_cases c.source c.state c.readings
    (hstored.activeStates.trans hactive) (hstored.lastState.trans hlast)⟩

theorem step_of_not_dev (s : Lights) {c : Call} (hdev : c.dev = false) : s.step c = s := by
  obtain ⟨source, dev, state, readings⟩ := c
  obtain rfl : dev = false := hdev
  cases source <;> rfl

/-! ### The LED after any calls -/

/-- The templates that belong to a source. -/
def Source.templates : Source → List String
  | .notification => [breathLedBrightnessNotification]
  | .battery => [breathLedBrightnessBattery, breathLedBrightnessCharging]
  | .buttons => [breathLedBrightnessButtons]
  | .attention => [breathLedBrightnessNotification]

theorem lightTemplate_mem (s : Lights) (readings : Readings) (w : Source) :
    (s.pattern readings w).lightTemplate ∈ w.templates := by
  cases w with
  | notification => exact List.mem_singleton_self _
  | buttons => exact List.mem_singleton_self _
  | attention => exact List.mem_singleton_self _
  | battery =>
    unfold Lights.pattern batteryPattern
    dsimp only
    split_ifs
    · exact List.mem_cons_self
    · exact List.mem_cons_of_mem _ List.mem_cons_self
    · exact List.mem_cons_self

/-- The LED shows the source. -/
structure Lights.Shows (s : Lights) (w : Source) : Prop where
  blink : s.files .breathLedBlink = some (.int 1)
  template : ∃ template ∈ w.templates, s.files .breathLedDutyPcts = some (.str template)

/-- The variables tell the lights that are lit, and the LED shows the one of the highest
priority. -/
structure Arbitrated (A : Source → Bool) (s : Lights) : Prop where
  activeStates : s.activeStates = mask A
  lastState : s.lastState = lastOf (topSource A)
  shows : ∀ w, topSource A = some w → s.Shows w

theorem arbitrated_init (files : Node → Option Value) :
    Arbitrated (fun _ => false) (Lights.init files) where
  activeStates := rfl
  lastState := rfl
  shows _ h := nomatch h

/-- **One call** changes the lights that are lit, and the LED goes off with the last of them. -/
theorem Arbitrated.step {s : Lights} (h : Arbitrated A s) {c : Call} (hdev : c.dev = true) :
    let A' := Function.update A c.source (decide (rgbToBrightness c.state > 0))
    Arbitrated A' (s.step c) ∧
      (topSource A' = none → (s.step c).files .breathLedBlink = some (.int 0)) := by
  intro A'
  obtain ⟨s₁, hstored, ⟨hnone, hoff⟩ | ⟨w, hw, ⟨hshown, -, hkept⟩ | ⟨-, hnew⟩⟩⟩ :=
    step_cases hdev h.activeStates h.lastState
  · rw [hoff]
    refine ⟨⟨((mask_eq_zero_iff A').mpr hnone).symm, congrArg lastOf hnone.symm, ?_⟩, fun _ => ?_⟩
    · intro w hw
      rw [hnone] at hw
      cases hw
    · have hblink := files_writeInt .breathLedBlink .breathLedBlink 0 s₁
      exact hblink.trans (if_pos rfl)
  · -- the LED shows this light already
    have htop : topSource A = some w := by
      refine lastOf_injective ?_
      rw [← h.lastState, hshown]
      rfl
    rw [hkept]
    refine ⟨⟨rfl, ?_, ?_⟩, fun hnone => ?_⟩
    · exact hstored.lastState.trans (hshown.trans (congrArg lastOf hw.symm))
    · intro w' hw'
      obtain rfl : w = w' := Option.some.inj (hw.symm.trans hw')
      obtain ⟨hblink, template, htemplate, hduty⟩ := h.shows w htop
      exact ⟨(hstored.files _ rfl).trans hblink, template, htemplate,
        (hstored.files _ rfl).trans hduty⟩
    · exact absurd (hw.symm.trans hnone) (by simp)
  · obtain ⟨hblink, hduty, -⟩ := files_writePattern (s₁.pattern c.readings w)
      { s₁ with activeStates := mask A', lastState := w.toUInt32 }
    have honly := onlyFiles_writePattern (s₁.pattern c.readings w)
      { s₁ with activeStates := mask A', lastState := w.toUInt32 }
    rw [hnew]
    refine ⟨⟨honly.activeStates, ?_, ?_⟩, fun hnone => ?_⟩
    · exact honly.lastState.trans (congrArg lastOf hw.symm)
    · intro w' hw'
      obtain rfl : w = w' := Option.some.inj (hw.symm.trans hw')
      exact ⟨hblink, _, lightTemplate_mem s₁ c.readings w, hduty⟩
    · exact absurd (hw.symm.trans hnone) (by simp)

/-- What holds at the start, and is kept by a call with a device, which takes a step, and by one
without, which does nothing, holds after any calls. -/
theorem history_inv {P : List Call → Lights → Prop} (files : Node → Option Value)
    (hinit : P [] (Lights.init files))
    (hstep : ∀ calls c s, c.dev = true → P calls s → P (calls ++ [c]) (s.step c))
    (hskip : ∀ calls c s, c.dev = false → P calls s → P (calls ++ [c]) s) (calls : List Call) :
    P calls (exec Lights.step (Lights.init files) calls) := by
  induction calls using List.reverseRecOn with
  | nil => exact hinit
  | append_singleton calls c ih =>
    rw [exec_append, exec_cons, exec_nil]
    cases hdev : c.dev with
    | true => exact hstep calls c _ hdev ih
    | false =>
      rw [step_of_not_dev _ hdev]
      exact hskip calls c _ hdev ih

theorem arbitrated_exec (files : Node → Option Value) (calls : List Call) :
    Arbitrated (lit calls) (exec Lights.step (Lights.init files) calls) := by
  apply history_inv (P := fun calls s => Arbitrated (lit calls) s) files (arbitrated_init files)
  · intro calls c s hdev h
    rw [lit_append_singleton, if_pos hdev]
    exact (h.step hdev).1
  · intro calls c s hdev h
    rw [lit_append_singleton, hdev]
    exact h

/-- **The arbitration of the LED**, after any calls: the variables tell the lights that are lit and
the one with the highest priority; the LED is on with a template of that light, and off when the
last light has just gone out. -/
theorem arbitration_exec (calls : List Call) :
    let s := exec Lights.step (Lights.init fun _ => none) calls
    s.activeStates = mask (lit calls) ∧
    s.lastState = (topSource (lit calls)).elim breathSourceNone Source.toUInt32 ∧
    (∀ w, topSource (lit calls) = some w → s.files .breathLedBlink = some (.int 1) ∧
      ∃ template ∈ w.templates, s.files .breathLedDutyPcts = some (.str template)) ∧
    ∀ before c, calls = before ++ [c] → topSource (lit before) ≠ none →
      topSource (lit calls) = none → s.files .breathLedBlink = some (.int 0) := by
  intro s
  have h : Arbitrated (lit calls) s := arbitrated_exec _ calls
  refine ⟨h.activeStates, h.lastState, fun w hw => ⟨(h.shows w hw).blink, (h.shows w hw).template⟩,
    ?_⟩
  rintro before c rfl hbefore hafter
  have hs : s = (exec Lights.step (Lights.init fun _ => none) before).step c := exec_append ..
  rw [lit_append_singleton] at hafter
  cases hdev : c.dev with
  | false =>
    rw [hdev] at hafter
    exact absurd hafter hbefore
  | true =>
    rw [hdev] at hafter
    rw [hs]
    exact ((arbitrated_exec _ before).step hdev).2 hafter

end Light
end Nx507j
