import Mathlib.Data.Int.Init
import Mathlib.Data.List.DropRight
import Mathlib.Data.List.Induction
import Mathlib.Tactic.Ring
import Nx507j.Lib.Run

/-!
# The proximity sensor of the doze gestures

`ProximitySensor.java`: a far event after near ones launches a pulse, for a hand-wave if the sensor
was covered for less than a second, for a pocket if it was covered for two seconds at least.  The
time is taken anew at every near event, so that it is the last near event that counts and not the
one that covered the sensor.

Time stamps are `long`: their difference wraps.  Values are compared and nothing else, so their type
is arbitrary.

## Main definitions

* `ProximitySensor.onSensorChanged` — an event.
* `nearRun` — the near events at the end of a history.
* `age` — how much older an event is.

## Main results

* `seen_exec` — the state tells the last near event.
* `pulse_iff` — when the time since the first near event decides about the pulse.
-/

namespace Nx507j
namespace Doze

open Run

/-! ### The sensor -/

/-- `HANDWAVE_MAX_DELTA_NS`: maximum time for the hand to cover the sensor. -/
def handwaveMaxDeltaNs : Int32 := 1000 * 1000 * 1000

/-- `POCKET_MIN_DELTA_NS`: minimum time until the device is considered to have been in the
pocket. -/
def pocketMinDeltaNs : Int32 := 2000 * 1000 * 1000

/-- `SensorEvent`, with the first of its values. -/
structure SensorEvent (V : Type*) where
  value : V
  timestamp : Int64
  deriving DecidableEq, Repr

/-- The settings: `handwaveGestureEnabled` and `pocketGestureEnabled`. -/
structure Gestures where
  handwave : Bool
  pocket : Bool
  deriving DecidableEq, Repr

structure ProximitySensor where
  mSawNear : Bool
  mInPocketTime : Int64
  deriving DecidableEq, Repr

variable {V : Type*} [LT V] [DecidableLT V]

/-- Closer than `getMaximumRange`. -/
def SensorEvent.isNear (maximumRange : V) (event : SensorEvent V) : Bool :=
  event.value < maximumRange

namespace ProximitySensor

def init : ProximitySensor := ⟨false, 0⟩

def shouldPulse (gestures : Gestures) (timestamp : Int64) (s : ProximitySensor) : Bool :=
  let delta := timestamp - s.mInPocketTime
  if gestures.handwave && gestures.pocket then true
  else if gestures.handwave then delta < handwaveMaxDeltaNs.toInt64
  else if gestures.pocket then delta ≥ pocketMinDeltaNs.toInt64
  else false

/-- The new state, and whether a pulse is launched. -/
def onSensorChanged (maximumRange : V) (gestures : Gestures) (event : SensorEvent V)
    (s : ProximitySensor) : ProximitySensor × Bool :=
  let isNear := event.isNear maximumRange
  if s.mSawNear && !isNear then
    ({ s with mSawNear := isNear }, s.shouldPulse gestures event.timestamp)
  else (⟨isNear, event.timestamp⟩, false)

/-- An event, with the settings of the time. -/
def step (maximumRange : V) (s : ProximitySensor) (i : Gestures × SensorEvent V) :
    ProximitySensor :=
  (s.onSensorChanged maximumRange i.1 i.2).1

end ProximitySensor

/-! ### The near events at the end -/

/-- The near events at the end of a history. -/
def nearRun (maximumRange : V) (history : List (Gestures × SensorEvent V)) :
    List (SensorEvent V) :=
  (history.map Prod.snd).rtakeWhile (SensorEvent.isNear maximumRange)

/-- How much older than the event another one is. -/
def SensorEvent.age (event earlier : SensorEvent V) : ℤ :=
  event.timestamp.toInt - earlier.timestamp.toInt

/-- The time stamps do not decrease. -/
def Chronological (events : List (SensorEvent V)) : Prop :=
  events.Pairwise fun a b => a.timestamp ≤ b.timestamp

variable {maximumRange : V} {history : List (Gestures × SensorEvent V)}
  {first last e : SensorEvent V}

/-- After a near event the time is its time. -/
theorem seen_exec (maximumRange : V) (history : List (Gestures × SensorEvent V)) :
    let s := exec (ProximitySensor.step maximumRange) .init history
    (s.mSawNear = true ↔ nearRun maximumRange history ≠ []) ∧
      ∀ last, (nearRun maximumRange history).getLast? = some last →
        s.mInPocketTime = last.timestamp := by
  induction history using List.reverseRecOn with
  | nil => exact ⟨by simp [nearRun, ProximitySensor.init], fun last h => nomatch h⟩
  | append_singleton history i _ =>
    rw [exec_append, exec_cons, exec_nil]
    unfold nearRun
    rw [List.map_append, List.map_singleton, List.rtakeWhile_concat]
    unfold ProximitySensor.step ProximitySensor.onSensorChanged
    cases hnear : i.2.isNear maximumRange with
    | false =>
      refine ⟨?_, by simp⟩
      dsimp only
      split <;> simp
    | true => simp

theorem Chronological.first_le_last (h : Chronological (history.map Prod.snd ++ [e]))
    (hfirst : (nearRun maximumRange history).head? = some first)
    (hlast : (nearRun maximumRange history).getLast? = some last) :
    first.timestamp ≤ last.timestamp ∧ last.timestamp ≤ e.timestamp := by
  have hsuffix : nearRun maximumRange history <:+ history.map Prod.snd :=
    List.rtakeWhile_suffix ..
  obtain ⟨hhistory, -, hle⟩ := List.pairwise_append.mp h
  have hmem : last ∈ nearRun maximumRange history := List.mem_of_getLast? hlast
  have hend : last.timestamp ≤ e.timestamp :=
    hle last (hsuffix.subset hmem) e (List.mem_singleton_self e)
  refine ⟨?_, hend⟩
  have hrun := hhistory.sublist hsuffix.sublist
  obtain ⟨rest, hrest⟩ := List.head?_eq_some_iff.mp hfirst
  rw [hrest] at hrun hmem
  rcases List.mem_cons.mp hmem with rfl | hlater
  · exact Int64.le_refl _
  · exact (List.pairwise_cons.mp hrun).1 last hlater

/-! ### The difference of two time stamps -/

/-- A difference of 2⁶³ and more is negative. -/
theorem toInt_sub_of_le {a b : Int64} (h : b ≤ a) :
    (a - b).toInt =
      if a.toInt - b.toInt < 2 ^ 63 then a.toInt - b.toInt else a.toInt - b.toInt - 2 ^ 64 := by
  have hle := Int64.le_iff_toInt_le.mp h
  have ha := a.toInt_lt
  have hb := b.le_toInt
  rw [Int64.toInt_sub, Int.bmod_def]
  split_ifs <;> omega

omit [LT V] [DecidableLT V] in
theorem pocketMinDeltaNs_le_iff (h : last.timestamp ≤ e.timestamp) :
    pocketMinDeltaNs.toInt64 ≤ e.timestamp - last.timestamp ↔
      pocketMinDeltaNs.toInt ≤ e.age last ∧ e.age last < 2 ^ 63 := by
  have hmin : pocketMinDeltaNs.toInt = 2000000000 := by decide
  have hwide : pocketMinDeltaNs.toInt64.toInt = 2000000000 := by decide
  have hend := e.timestamp.toInt_lt
  have hlast := last.timestamp.le_toInt
  rw [Int64.le_iff_toInt_le, hwide, hmin, toInt_sub_of_le h]
  unfold SensorEvent.age
  split_ifs <;> omega

omit [LT V] [DecidableLT V] in
theorem lt_handwaveMaxDeltaNs_iff (h : last.timestamp ≤ e.timestamp) :
    e.timestamp - last.timestamp < handwaveMaxDeltaNs.toInt64 ↔
      ¬ (handwaveMaxDeltaNs.toInt ≤ e.age last ∧ e.age last < 2 ^ 63) := by
  have hmax : handwaveMaxDeltaNs.toInt = 1000000000 := by decide
  have hwide : handwaveMaxDeltaNs.toInt64.toInt = 1000000000 := by decide
  have hend := e.timestamp.toInt_lt
  have hlast := last.timestamp.le_toInt
  rw [Int64.lt_iff_toInt_lt, hwide, hmax, toInt_sub_of_le h]
  unfold SensorEvent.age
  split_ifs <;> omega

/-! ### The pulse -/

/-- The last near event of the run is as far from the bound as the first one is: the sensor was
covered for less than the bound, or it is the last near event, too, that is so much older. -/
def LastDecides (bound : ℤ) (run : List (SensorEvent V)) (e : SensorEvent V) : Prop :=
  ∀ first last, run.head? = some first → run.getLast? = some last →
    e.age first < bound ∨ bound ≤ e.age last ∧ e.age last < 2 ^ 63

/-- What a far event launches. -/
theorem onSensorChanged_far {s : ProximitySensor} (gestures : Gestures)
    (hfar : e.isNear maximumRange = false) :
    (s.onSensorChanged maximumRange gestures e).2 =
      (s.mSawNear && s.shouldPulse gestures e.timestamp) := by
  unfold ProximitySensor.onSensorChanged
  rw [hfar]
  cases s.mSawNear <;> rfl

/-- A far event that follows no near event launches nothing. -/
theorem pulse_of_nearRun_eq_nil (gestures : Gestures) (hfar : e.isNear maximumRange = false)
    (hrun : nearRun maximumRange history = []) :
    ((exec (ProximitySensor.step maximumRange) .init history).onSensorChanged
      maximumRange gestures e).2 = false := by
  obtain ⟨hsaw, -⟩ := seen_exec maximumRange history
  have hnot : (exec (ProximitySensor.step maximumRange) .init history).mSawNear = false := by
    rw [← Bool.not_eq_true, hsaw, not_not]
    exact hrun
  rw [onSensorChanged_far gestures hfar, hnot, Bool.false_and]

/-- After near events it is the time since the last one that counts. -/
theorem pulse_of_getLast? (gestures : Gestures) (hfar : e.isNear maximumRange = false)
    (hlast : (nearRun maximumRange history).getLast? = some last) :
    ((exec (ProximitySensor.step maximumRange) .init history).onSensorChanged
      maximumRange gestures e).2 =
      ProximitySensor.shouldPulse gestures e.timestamp ⟨true, last.timestamp⟩ := by
  obtain ⟨hsaw, htime⟩ := seen_exec maximumRange history
  have hne : nearRun maximumRange history ≠ [] := by
    intro hrun
    rw [hrun] at hlast
    cases hlast
  rw [onSensorChanged_far gestures hfar, hsaw.mpr hne, Bool.true_and]
  unfold ProximitySensor.shouldPulse
  rw [htime last hlast]

/-- **When a far event does what the gestures say.**  With one gesture enabled, a far event launches
a pulse exactly when it ends near events the first of which is two seconds older, or for a hand-wave
less than one second, if and only if the last of them decides as the first one does. -/
theorem pulse_iff (maximumRange : V) (history : List (Gestures × SensorEvent V))
    (gestures : Gestures) (e : SensorEvent V) (hfar : e.isNear maximumRange = false)
    (htimes : Chronological (history.map Prod.snd ++ [e])) :
    let run := nearRun maximumRange history
    let s := exec (ProximitySensor.step maximumRange) .init history
    let pulse := (s.onSensorChanged maximumRange gestures e).2
    (gestures = ⟨false, true⟩ →
      ((pulse = true ↔ ∃ first, run.head? = some first ∧ pocketMinDeltaNs.toInt ≤ e.age first) ↔
        LastDecides pocketMinDeltaNs.toInt run e)) ∧
    (gestures = ⟨true, false⟩ →
      ((pulse = true ↔ ∃ first, run.head? = some first ∧ e.age first < handwaveMaxDeltaNs.toInt) ↔
        LastDecides handwaveMaxDeltaNs.toInt run e)) := by
  intro run s pulse
  rcases hrun : run.head? with _ | first
  · -- no near event
    have hnil : run = [] := List.head?_eq_none_iff.mp hrun
    have hpulse : pulse = false := pulse_of_nearRun_eq_nil gestures hfar hnil
    have hdecides : ∀ bound, LastDecides bound run e := by
      intro bound first last hfirst
      rw [hrun] at hfirst
      cases hfirst
    simp [hpulse, hdecides]
  · have hne : run ≠ [] := by
      intro hnil
      rw [hnil] at hrun
      cases hrun
    obtain ⟨last, hlast⟩ : ∃ last, run.getLast? = some last :=
      ⟨run.getLast hne, List.getLast?_eq_some_getLast hne⟩
    obtain ⟨hfl, hle⟩ := htimes.first_le_last hrun hlast
    have hage : e.age last ≤ e.age first := by
      have := Int64.le_iff_toInt_le.mp hfl
      unfold SensorEvent.age
      omega
    have hdecides : ∀ bound, LastDecides bound run e ↔
        (e.age first < bound ∨ bound ≤ e.age last ∧ e.age last < 2 ^ 63) := by
      intro bound
      constructor
      · exact fun h => h first last hrun hlast
      · intro h first' last' hfirst' hlast'
        obtain rfl : first = first' := Option.some.inj (hrun.symm.trans hfirst')
        obtain rfl : last = last' := Option.some.inj (hlast.symm.trans hlast')
        exact h
    have hpulse : pulse = ProximitySensor.shouldPulse gestures e.timestamp ⟨true, last.timestamp⟩ :=
      pulse_of_getLast? gestures hfar hlast
    refine ⟨?_, ?_⟩
    · rintro rfl
      have hcode : pulse = true ↔ pocketMinDeltaNs.toInt ≤ e.age last ∧ e.age last < 2 ^ 63 := by
        rw [hpulse, ← pocketMinDeltaNs_le_iff hle]
        exact decide_eq_true_iff
      rw [hdecides, hcode]
      simp only [Option.some.injEq, exists_eq_left']
      omega
    · rintro rfl
      have hcode : pulse = true ↔
          ¬ (handwaveMaxDeltaNs.toInt ≤ e.age last ∧ e.age last < 2 ^ 63) := by
        rw [hpulse, ← lt_handwaveMaxDeltaNs_iff hle]
        exact decide_eq_true_iff
      rw [hdecides, hcode]
      simp only [Option.some.injEq, exists_eq_left']
      omega

/-- The device is put into a pocket and moves a little there: near at 0 s and at 2.5 s, and far at
3 s. -/
theorem pocket_noPulse :
    let pocketOnly : Gestures := ⟨false, true⟩
    let near : SensorEvent ℕ := ⟨0, 0⟩
    let nearAgain : SensorEvent ℕ := ⟨0, 2500000000⟩
    let far : SensorEvent ℕ := ⟨5, 3000000000⟩
    let history := [(pocketOnly, near), (pocketOnly, nearAgain)]
    let s := exec (ProximitySensor.step 5) .init history
    Chronological (history.map Prod.snd ++ [far]) ∧ (nearRun 5 history).head? = some near ∧
      pocketMinDeltaNs.toInt ≤ far.age near ∧
      (s.onSensorChanged 5 pocketOnly far).2 = false := by
  refine ⟨?_, by decide, by decide, by decide⟩
  unfold Chronological
  decide

/-- A hand that stays from 0.5 s on, and is seen again at 0.8 s, is in the pocket at 3 s. -/
theorem pulse_iff_pocket :
    let pocketOnly : Gestures := ⟨false, true⟩
    let near : SensorEvent ℕ := ⟨0, 500000000⟩
    let nearAgain : SensorEvent ℕ := ⟨0, 800000000⟩
    let far : SensorEvent ℕ := ⟨5, 3000000000⟩
    let s := exec (ProximitySensor.step 5) .init [(pocketOnly, near), (pocketOnly, nearAgain)]
    (s.onSensorChanged 5 pocketOnly far).2 = true := by
  intro pocketOnly near nearAgain far s
  have htimes : Chronological [near, nearAgain, far] := by
    unfold Chronological
    decide
  obtain ⟨hpocket, -⟩ :=
    pulse_iff 5 [(pocketOnly, near), (pocketOnly, nearAgain)] pocketOnly far (by decide) htimes
  refine ((hpocket rfl).mpr ?_).mpr ⟨near, by decide, by decide⟩
  rintro first last hfirst hlast
  obtain rfl : near = first := Option.some.inj hfirst
  obtain rfl : nearAgain = last := Option.some.inj hlast
  exact .inr (by decide)

end Doze
end Nx507j
