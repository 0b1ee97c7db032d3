import Nx507j.Light.Breath

/-!
# What the breath LED shows

Two histories of the lights end in the same call, with the same lights lit and the same states
stored, and the light of that call is shown.  The pattern that stands in the files is not always the
same one: the battery's is chosen when the battery takes the LED over and is not looked at again as
long as it is shown, and a pause that is not positive is enabled without being written.

## Main definitions

* `takeover` — what was read when the light that is shown came to be shown.
* `Lights.Written` — the files hold a pattern.
* `SamePattern` — two LEDs look the same.

## Main results

* `written_exec` — the files hold the pattern of the light that is shown.
* `present_iff` — when the LED shows the same after two histories.
-/

namespace Nx507j
namespace Light

open Run

/-! ### The light that is shown came to be shown -/

/-- The lights that are lit, and what was read when the light that is shown took the LED over. -/
structure Takeover where
  lit : Source → Bool
  readings : Option Readings

def Takeover.step (t : Takeover) (c : Call) : Takeover :=
  if c.dev then
    let lit := Function.update t.lit c.source (decide (rgbToBrightness c.state > 0))
    ⟨lit, if topSource lit = topSource t.lit then t.readings else some c.readings⟩
  else t

/-- What was read when the light that is shown took the LED over. -/
def takeover (calls : List Call) : Option Readings :=
  (exec Takeover.step ⟨fun _ => false, none⟩ calls).readings

theorem lit_exec_takeover (calls : List Call) :
    (exec Takeover.step ⟨fun _ => false, none⟩ calls).lit = lit calls := by
  induction calls using List.reverseRecOn with
  | nil => rfl
  | append_singleton calls c ih =>
    rw [exec_append, exec_cons, exec_nil, lit_append_singleton, ← ih]
    unfold Takeover.step
    split <;> rfl

theorem takeover_append_singleton (calls : List Call) (c : Call) :
    takeover (calls ++ [c]) =
      if c.dev then
        if topSource (lit (calls ++ [c])) = topSource (lit calls) then takeover calls
        else some c.readings
      else takeover calls := by
  unfold takeover
  rw [exec_append, exec_cons, exec_nil, lit_append_singleton, ← lit_exec_takeover calls]
  cases hdev : c.dev with
  | true => simp [Takeover.step, hdev]
  | false => simp [Takeover.step, hdev]

/-! ### The pattern in the files -/

/-- The files hold the pattern, with those of its pauses that are written. -/
structure Lights.Written (s : Lights) (p : Pattern) : Prop where
  template : s.files .breathLedDutyPcts = some (.str p.lightTemplate)
  lutFlags : s.files .breathLedLutFlags = some (.int p.lutFlags)
  pauseLo : p.offMS > 0 → s.files .breathLedPauseLo = some (.int p.offMS)
  pauseHi : p.onMS > 0 → s.files .breathLedPauseHi = some (.int p.onMS)

theorem written_writePattern (p : Pattern) (s : Lights) : (s.writePattern p).Written p := by
  obtain ⟨-, htemplate, hflags, hlo, hhi⟩ := files_writePattern p s
  refine ⟨htemplate, hflags, fun hpos => ?_, fun hpos => ?_⟩
  · rw [hlo, if_pos hpos]
  · rw [hhi, if_pos hpos]

theorem Lights.Written.congr {s s' : Lights} {p : Pattern} (h : s.Written p)
    (hfiles : ∀ node, node.ofBreathLed = true → s'.files node = s.files node) : s'.Written p where
  template := (hfiles _ rfl).trans h.template
  lutFlags := (hfiles _ rfl).trans h.lutFlags
  pauseLo hpos := (hfiles _ rfl).trans (h.pauseLo hpos)
  pauseHi hpos := (hfiles _ rfl).trans (h.pauseHi hpos)

variable {A : Source → Bool} {s s₁ s₂ : Lights} {w : Source} {r r' : Readings}

/-- The pattern of a light depends on its state, or on what is read from the battery's files. -/
theorem pattern_congr (hstate : w.kept = false → s₁.stateOf w = s₂.stateOf w)
    (hreadings : w.kept = true → r = r') : s₁.pattern r w = s₂.pattern r' w := by
  cases w with
  | notification => exact congrArg notificationPattern (hstate rfl)
  | battery => exact congrArg batteryPattern (hreadings rfl)
  | buttons => rfl
  | attention => rfl

/-- The files hold the pattern of the light that is shown, as chosen from what was read at the
takeover. -/
structure Showing (A : Source → Bool) (readings : Option Readings) (s : Lights) : Prop
    extends Arbitrated A s where
  written : ∀ w, topSource A = some w → ∃ r, readings = some r ∧ s.Written (s.pattern r w)

theorem showing_init (files : Node → Option Value) :
    Showing (fun _ => false) none (Lights.init files) where
  toArbitrated := arbitrated_init files
  written _ h := nomatch h

/-- A call with a device. -/
theorem Showing.step {readings : Option Readings} (h : Showing A readings s) {c : Call}
    (hdev : c.dev = true) :
    let A' := Function.update A c.source (decide (rgbToBrightness c.state > 0))
    Showing A' (if topSource A' = topSource A then readings else some c.readings) (s.step c) := by
  intro A'
  refine ⟨(h.toArbitrated.step hdev).1, fun w' hw' => ?_⟩
  obtain ⟨s₁, hstored, ⟨hnone, -⟩ | ⟨w, hw, hshow⟩⟩ := step_cases hdev h.activeStates h.lastState
  · exact absurd (hw'.symm.trans hnone) (by simp)
  obtain rfl : w = w' := Option.some.inj (hw.symm.trans hw')
  rcases hshow with ⟨hshown, hkept, hsame⟩ | ⟨hnew, hwrite⟩
  · -- the light was shown before the call, and its pattern is the one it had
    have htop : topSource A = some w := by
      apply lastOf_injective
      rw [← h.lastState, hshown]
      rfl
    obtain ⟨r, hr, hwritten⟩ := h.written w htop
    refine ⟨r, ?_, ?_⟩
    · rw [if_pos (hw.trans htop.symm), hr]
    · have hpattern : s₁.pattern r w = s.pattern r w := by
        apply pattern_congr _ fun _ => rfl
        intro hnot
        rw [hstored.stateOf, if_neg]
        intro heq
        rw [hkept heq] at hnot
        cases hnot
      have hwritten₁ : s₁.Written (s₁.pattern r w) :=
        Lights.Written.congr (hpattern ▸ hwritten) hstored.files
      rw [hsame]
      exact ⟨hwritten₁.template, hwritten₁.lutFlags, hwritten₁.pauseLo, hwritten₁.pauseHi⟩
  · -- the pattern is written anew
    have hwritten : ∀ r, (w.kept = true → c.readings = r) →
        (s.step c).Written ((s.step c).pattern r w) := by
      intro r hr
      have honly := onlyFiles_writePattern (s₁.pattern c.readings w)
        { s₁ with activeStates := mask A', lastState := w.toUInt32 }
      have hpattern : s₁.pattern c.readings w = Lights.pattern _ r w :=
        pattern_congr (fun _ => (honly.stateOf w).symm) hr
      rw [hwrite, ← hpattern]
      exact written_writePattern ..
    by_cases htop : topSource A' = topSource A
    · obtain ⟨r, hr, -⟩ := h.written w (htop.symm.trans hw)
      refine ⟨r, ?_, hwritten r fun hkept => ?_⟩
      · rw [if_pos htop, hr]
      · refine absurd ?_ (hnew hkept)
        rw [h.lastState, ← htop, hw]
        rfl
    · exact ⟨c.readings, if_neg htop, hwritten _ fun _ => rfl⟩

/-- After any calls the files hold the pattern of the light that is shown. -/
theorem written_exec (files : Node → Option Value) (calls : List Call) :
    Showing (lit calls) (takeover calls) (exec Lights.step (Lights.init files) calls) := by
  apply history_inv (P := fun calls s => Showing (lit calls) (takeover calls) s) files
    (showing_init files)
  · intro calls c s hdev h
    rw [takeover_append_singleton, lit_append_singleton, if_pos hdev, if_pos hdev]
    exact h.step hdev
  · intro calls c s hdev h
    rw [takeover_append_singleton, lit_append_singleton, hdev]
    exact h

/-! ### The pauses -/

/-- A call that shows the notification leaves a pause as it was if there is none. -/
theorem pauses_notification (files : Node → Option Value) (calls : List Call) {c : Call}
    (hsource : c.source = .notification)
    (htop : topSource (lit (calls ++ [c])) = some .notification) :
    let s := exec Lights.step (Lights.init files) calls
    let s' := exec Lights.step (Lights.init files) (calls ++ [c])
    let p := notificationPattern s'.gNotification
    s'.files .breathLedPauseLo =
        (if p.offMS > 0 then some (.int p.offMS) else s.files .breathLedPauseLo) ∧
      s'.files .breathLedPauseHi =
        (if p.onMS > 0 then some (.int p.onMS) else s.files .breathLedPauseHi) := by
  intro s s' p
  have hs' : s' = s.step c := exec_append ..
  cases hdev : c.dev with
  | false =>
    -- nothing happens, and what there is of the pauses has been written before
    have hsame : s' = s := hs'.trans (step_of_not_dev s hdev)
    obtain ⟨r, -, hwritten⟩ := (written_exec files (calls ++ [c])).written _ htop
    refine ⟨?_, ?_⟩
    · split_ifs with hpos
      · exact hwritten.pauseLo hpos
      · rw [hsame]
    · split_ifs with hpos
      · exact hwritten.pauseHi hpos
      · rw [hsame]
  | true =>
    have hshowing : Showing (lit calls) (takeover calls) s := written_exec files calls
    rw [lit_append_singleton, if_pos hdev] at htop
    obtain ⟨s₁, hstored, ⟨hnone, -⟩ | ⟨w, hw, ⟨-, hkept, -⟩ | ⟨-, hwrite⟩⟩⟩ :=
      step_cases hdev hshowing.activeStates hshowing.lastState
    · exact absurd (htop.symm.trans hnone) (by simp)
    · obtain rfl : Source.notification = w := Option.some.inj (htop.symm.trans hw)
      exact absurd (hkept hsource.symm) (by decide)
    · obtain rfl : Source.notification = w := Option.some.inj (htop.symm.trans hw)
      have hanew := hs'.trans hwrite
      have hstate : s'.gNotification = s₁.gNotification := by
        rw [hanew]
        exact (onlyFiles_writePattern ..).stateOf .notification
      obtain ⟨-, -, -, hlo, hhi⟩ := files_writePattern (s₁.pattern c.readings .notification)
        { s₁ with
          activeStates :=
            mask (Function.update (lit calls) c.source (decide (rgbToBrightness c.state > 0)))
          lastState := Source.notification.toUInt32 }
      have hp : s₁.pattern c.readings .notification = p := by
        rw [Lights.pattern, ← hstate]
      rw [← hanew, hp] at hlo hhi
      refine ⟨hlo.trans ?_, hhi.trans ?_⟩
      · exact congrArg (if p.offMS > 0 then _ else ·) (hstored.files _ rfl)
      · exact congrArg (if p.onMS > 0 then _ else ·) (hstored.files _ rfl)

/-! ### Two LEDs that look the same -/

/-- The pause is enabled by the flags. -/
def Lights.Enables (s : Lights) (pause : Int32) : Prop :=
  ∃ flags : Int32, s.files .breathLedLutFlags = some (.int flags) ∧ flags &&& pause ≠ 0

/-- The files of the LED agree, but for pauses that are not enabled. -/
structure SamePattern (s₁ s₂ : Lights) : Prop where
  template : s₁.files .breathLedDutyPcts = s₂.files .breathLedDutyPcts
  lutFlags : s₁.files .breathLedLutFlags = s₂.files .breathLedLutFlags
  pauseLo : s₁.Enables pmPwmLutPauseLoEn →
    s₁.files .breathLedPauseLo = s₂.files .breathLedPauseLo
  pauseHi : s₁.Enables pmPwmLutPauseHiEn →
    s₁.files .breathLedPauseHi = s₂.files .breathLedPauseHi

theorem Lights.Written.enables_iff {p : Pattern} (h : s.Written p) (pause : Int32) :
    s.Enables pause ↔ p.lutFlags &&& pause ≠ 0 := by
  constructor
  · rintro ⟨flags, hflags, hne⟩
    rw [h.lutFlags] at hflags
    cases hflags
    exact hne
  · exact fun hne => ⟨p.lutFlags, h.lutFlags, hne⟩

/-- Every pause that is enabled is written. -/
structure Pattern.Complete (p : Pattern) : Prop where
  pauseLo : p.lutFlags &&& pmPwmLutPauseLoEn ≠ 0 → p.offMS > 0
  pauseHi : p.lutFlags &&& pmPwmLutPauseHiEn ≠ 0 → p.onMS > 0

theorem Lights.Written.samePattern {p : Pattern} (h₁ : s₁.Written p) (h₂ : s₂.Written p)
    (hp : p.Complete) : SamePattern s₁ s₂ where
  template := h₁.template.trans h₂.template.symm
  lutFlags := h₁.lutFlags.trans h₂.lutFlags.symm
  pauseLo hen := by
    have hpos := hp.pauseLo ((h₁.enables_iff _).mp hen)
    rw [h₁.pauseLo hpos, h₂.pauseLo hpos]
  pauseHi hen := by
    have hpos := hp.pauseHi ((h₁.enables_iff _).mp hen)
    rw [h₁.pauseHi hpos, h₂.pauseHi hpos]

theorem complete_buttonsPattern : buttonsPattern.Complete :=
  ⟨fun h => absurd h (by decide), fun h => absurd h (by decide)⟩

theorem complete_attentionPattern : attentionPattern.Complete :=
  ⟨fun h => absurd h (by decide), fun h => absurd h (by decide)⟩

theorem complete_batteryPattern (r : Readings) : (batteryPattern r).Complete := by
  unfold batteryPattern
  dsimp only
  split_ifs
  · exact ⟨fun _ => by decide, fun _ => by decide⟩
  · exact ⟨fun h => absurd h (by decide), fun h => absurd h (by decide)⟩
  · exact ⟨fun h => absurd h (by decide), fun h => absurd h (by decide)⟩

/-- The flags tell the patterns of the battery apart. -/
theorem batteryPattern_eq_of_lutFlags
    (h : (batteryPattern r).lutFlags = (batteryPattern r').lutFlags) :
    batteryPattern r = batteryPattern r' := by
  unfold batteryPattern at h ⊢
  dsimp only at h ⊢
  split_ifs at h ⊢ <;> first | rfl | exact absurd h (by decide)

theorem samePattern_battery_iff (h₁ : s₁.Written (batteryPattern r))
    (h₂ : s₂.Written (batteryPattern r')) :
    SamePattern s₁ s₂ ↔ batteryPattern r = batteryPattern r' := by
  constructor
  · intro hsame
    have hflags := hsame.lutFlags
    rw [h₁.lutFlags, h₂.lutFlags] at hflags
    apply batteryPattern_eq_of_lutFlags
    exact Value.int.inj (Option.some.inj hflags)
  · intro hp
    exact h₁.samePattern (hp ▸ h₂) (complete_batteryPattern r)

/-- The notification enables both pauses or none. -/
theorem notificationPattern_enables (state : LightState) :
    let p := notificationPattern state
    (p.lutFlags &&& pmPwmLutPauseLoEn ≠ 0 ↔ p.onMS + p.offMS ≠ 0) ∧
      (p.lutFlags &&& pmPwmLutPauseHiEn ≠ 0 ↔ p.onMS + p.offMS ≠ 0) := by
  intro p
  have hflags : p.lutFlags = if p.onMS + p.offMS ≠ 0 then
      pmPwmLutRampUp ||| pmPwmLutLoop ||| pmPwmLutReverse ||| pmPwmLutPauseHiEn |||
        pmPwmLutPauseLoEn
      else pmPwmLutRampUp := rfl
  rw [hflags]
  split_ifs with hblink
  · exact ⟨iff_of_true (by decide) hblink, iff_of_true (by decide) hblink⟩
  · exact ⟨iff_of_false (by decide) hblink, iff_of_false (by decide) hblink⟩

/-- A pause that is written where it is positive, and left as it was where it is not. -/
theorem pause_eq_iff {ms : Int32} {before₁ before₂ : Option Value} :
    (if ms > 0 then some (Value.int ms) else before₁) =
      (if ms > 0 then some (Value.int ms) else before₂) ↔ ms > 0 ∨ before₁ = before₂ := by
  split_ifs with hpos
  · exact iff_of_true rfl (.inl hpos)
  · exact (or_iff_right hpos).symm

/-- **When the LED shows the present.**  Two histories of the lights, which end in the same call,
with the same states stored and the same lights lit, leave the same pattern when the light of the
call is the one that is shown, but for a battery that took the LED over with other readings, and
for a notification whose pause is not positive. -/
theorem present_iff (files₁ files₂ : Node → Option Value) (calls₁ calls₂ : List Call) (c : Call)
    (hstates : ∀ source,
      (exec Lights.step (Lights.init files₁) (calls₁ ++ [c])).stateOf source =
        (exec Lights.step (Lights.init files₂) (calls₂ ++ [c])).stateOf source)
    (hlit : lit (calls₁ ++ [c]) = lit (calls₂ ++ [c]))
    (htop : topSource (lit (calls₁ ++ [c])) = some c.source) :
    let before₁ := exec Lights.step (Lights.init files₁) calls₁
    let before₂ := exec Lights.step (Lights.init files₂) calls₂
    let after₁ := exec Lights.step (Lights.init files₁) (calls₁ ++ [c])
    let after₂ := exec Lights.step (Lights.init files₂) (calls₂ ++ [c])
    let p := notificationPattern after₁.gNotification
    SamePattern after₁ after₂ ↔
      (c.source = .battery → (takeover (calls₁ ++ [c])).map batteryPattern =
        (takeover (calls₂ ++ [c])).map batteryPattern) ∧
      (c.source = .notification → p.onMS + p.offMS ≠ 0 →
        (p.offMS > 0 ∨ before₁.files .breathLedPauseLo = before₂.files .breathLedPauseLo) ∧
        (p.onMS > 0 ∨ before₁.files .breathLedPauseHi = before₂.files .breathLedPauseHi)) := by
  intro before₁ before₂ after₁ after₂ p
  obtain ⟨r₁, hr₁, h₁⟩ := (written_exec files₁ (calls₁ ++ [c])).written _ htop
  obtain ⟨r₂, hr₂, h₂⟩ := (written_exec files₂ (calls₂ ++ [c])).written _ (hlit ▸ htop)
  rw [hr₁, hr₂]
  cases hsource : c.source with
  | battery =>
    rw [hsource] at h₁ h₂
    rw [samePattern_battery_iff h₁ h₂]
    constructor
    · exact fun hp => ⟨fun _ => congrArg some hp, fun h => (nomatch h)⟩
    · exact fun hp => Option.some.inj (hp.1 rfl)
  | buttons =>
    rw [hsource] at h₁ h₂
    exact iff_of_true (h₁.samePattern h₂ complete_buttonsPattern)
      ⟨fun h => (nomatch h), fun h => (nomatch h)⟩
  | attention =>
    rw [hsource] at h₁ h₂
    exact iff_of_true (h₁.samePattern h₂ complete_attentionPattern)
      ⟨fun h => (nomatch h), fun h => (nomatch h)⟩
  | notification =>
    have hp : notificationPattern after₂.gNotification = p :=
      congrArg notificationPattern (hstates .notification).symm
    rw [hsource] at h₁ h₂ htop
    obtain ⟨hlo₁, hhi₁⟩ := pauses_notification files₁ calls₁ hsource htop
    obtain ⟨hlo₂, hhi₂⟩ := pauses_notification files₂ calls₂ hsource (hlit ▸ htop)
    rw [hp] at hlo₂ hhi₂
    have hwritten₁ : after₁.Written p := h₁
    have hwritten₂ : after₂.Written p := hp ▸ h₂
    obtain ⟨henLo, henHi⟩ := notificationPattern_enables after₁.gNotification
    constructor
    · intro hsame
      refine ⟨fun h => (nomatch h), fun _ hblink => ⟨?_, ?_⟩⟩
      · apply pause_eq_iff.mp
        exact hlo₁.symm.trans <| (hsame.pauseLo ((hwritten₁.enables_iff _).mpr
          (henLo.mpr hblink))).trans hlo₂
      · apply pause_eq_iff.mp
        exact hhi₁.symm.trans <| (hsame.pauseHi ((hwritten₁.enables_iff _).mpr
          (henHi.mpr hblink))).trans hhi₂
    · rintro ⟨-, hpauses⟩
      refine ⟨hwritten₁.template.trans hwritten₂.template.symm,
        hwritten₁.lutFlags.trans hwritten₂.lutFlags.symm, fun hen => ?_, fun hen => ?_⟩
      · have hblink := henLo.mp ((hwritten₁.enables_iff _).mp hen)
        exact hlo₁.trans <| (pause_eq_iff.mpr (hpauses rfl hblink).1).trans hlo₂.symm
      · have hblink := henHi.mp ((hwritten₁.enables_iff _).mp hen)
        exact hhi₁.trans <| (pause_eq_iff.mpr (hpauses rfl hblink).2).trans hhi₂.symm

/-- A battery that is full at the last call: one was charging when it took the LED over, and its
LED still shows that. -/
theorem charged_stale :
    let charging : Call := ⟨.battery, true, ⟨0xffff00, .other, 0, 0⟩, ⟨some 1, some 50⟩⟩
    let full : Call := ⟨.battery, true, ⟨0x00ff00, .other, 0, 0⟩, ⟨some 1, some 100⟩⟩
    let after₁ := exec Lights.step (Lights.init fun _ => none) [charging, full]
    let after₂ := exec Lights.step (Lights.init fun _ => none) [full]
    (∀ source, after₁.stateOf source = after₂.stateOf source) ∧
      lit [charging, full] = lit [full] ∧ topSource (lit [charging, full]) = some .battery ∧
      ¬ SamePattern after₁ after₂ := by
  intro charging full after₁ after₂
  refine ⟨fun source => by cases source <;> decide, ?_, by decide, fun hsame => ?_⟩
  · funext source
    cases source <;> decide
  · have hne : after₁.files .breathLedLutFlags ≠ after₂.files .breathLedLutFlags := by decide
    exact hne hsame.lutFlags

theorem present_iff_lowBattery :
    let low : Call := ⟨.battery, true, ⟨0xff0000, .timed, 300, 1500⟩, ⟨some 0, some 9⟩⟩
    let buttons : Call := ⟨.buttons, true, ⟨0, .other, 0, 0⟩, ⟨none, none⟩⟩
    let lower : Call := ⟨.battery, true, ⟨0xff0000, .timed, 300, 1500⟩, ⟨some 0, some 8⟩⟩
    SamePattern (exec Lights.step (Lights.init fun _ => none) [low, buttons, lower])
      (exec Lights.step (Lights.init fun _ => none) [lower]) := by
  intro low buttons lower
  refine (present_iff (fun _ => none) (fun _ => none) [low, buttons] [] lower
    (fun source => by cases source <;> decide) ?_ (by decide)).mpr
    ⟨fun _ => by decide, fun h => (nomatch h)⟩
  funext source
  cases source <;> decide

end Light
end Nx507j
