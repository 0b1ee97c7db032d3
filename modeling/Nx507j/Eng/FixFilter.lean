import Nx507j.Eng.Steps

/-!
# The filter of the fixes

Which positions reach `location_cb`.  The comment in `LocEngReportPosition::proc` has it that a
final fix is reported when it is one of the satellites or of a sensor, and an intermediate one
when such fixes are accepted and it is accurate enough; that the second case is about
intermediate fixes is called implicit there.  It is not: the second test does not look at the
status, and an accurate final fix of any other technology comes through it.  Nor is the accuracy
compared with the threshold itself, but with the `float` nearest to it.

## Main definitions

* `LocEngData.documentedArg` — what `location_cb` is to be called with.
* `LocEngData.SlipsThrough` — a final fix that only the test for intermediate fixes lets through.
* `LocEngData.Misjudged` — an intermediate fix whose accuracy lies between the threshold and the
  `float` that it is compared with.

## Main results

* `LocEngData.locationCalls_documented_iff` — when the filter is the documented one.
-/

namespace Nx507j
namespace Eng

/-- What `location_cb` is called with, call by call. -/
def locationCalls (es : List Event) : List (Option UlpLocation × Option Address) :=
  es.filterMap fun
    | .locationCb location locationExt => some (location, locationExt)
    | _ => none

/-- A final fix of the satellites or of a sensor. -/
def ofSatelliteOrSensor (techMask : LocPosTechMask) : Prop :=
  (locPosTechMaskSatellite ||| locPosTechMaskSensors ||| locPosTechMaskHybrid) &&& techMask ≠ 0

instance (techMask : LocPosTechMask) : Decidable (ofSatelliteOrSensor techMask) :=
  inferInstanceAs (Decidable (_ ≠ _))

namespace LocEngData

variable (s : LocEngData) (location : UlpLocation) (locationExt : Option Address)
  (status : LocSessStatus) (techMask : LocPosTechMask)

/-- Intermediate fixes are accepted, and this one is not too inaccurate. -/
def acceptsIntermediate : Prop :=
  locSessIntermediate = s.intermediateFix ∧
    ¬ (location.flags &&& gpsLocationHasAccuracy ≠ 0 ∧ s.accuracyThres ≠ 0 ∧
      (s.accuracyThres.toNat : ℚ) < location.accuracy)

instance : Decidable (s.acceptsIntermediate location) := inferInstanceAs (Decidable (_ ∧ _))

/-- The test of the code for an intermediate fix, which compares with a `float`. -/
def passesIntermediate : Prop :=
  locSessIntermediate = s.intermediateFix ∧
    ¬ (location.flags &&& gpsLocationHasAccuracy ≠ 0 ∧ s.accuracyThres ≠ 0 ∧
      floatOf s.accuracyThres < location.accuracy)

instance : Decidable (s.passesIntermediate location) := inferInstanceAs (Decidable (_ ∧ _))

/-- What `location_cb` is to be called with, as the comment has it; `none`, when it is not to be
called. -/
def documentedArg : Option (Option UlpLocation × Option Address) :=
  match status with
  | .failure => some (none, none)
  | .success => if ofSatelliteOrSensor techMask then some (some location, locationExt) else none
  | .intermediate =>
    if s.acceptsIntermediate location then some (some location, locationExt) else none

/-- A final fix, neither of the satellites nor of a sensor, at a time when it would pass as an
intermediate one. -/
def SlipsThrough : Prop :=
  status = .success ∧ ¬ ofSatelliteOrSensor techMask ∧ s.passesIntermediate location

instance : Decidable (s.SlipsThrough location status techMask) :=
  inferInstanceAs (Decidable (_ ∧ _ ∧ _))

/-- An intermediate fix, when such are accepted, that exceeds one of the threshold and the `float`
nearest to it, and not the other. -/
def Misjudged : Prop :=
  status = .intermediate ∧ locSessIntermediate = s.intermediateFix ∧
    location.flags &&& gpsLocationHasAccuracy ≠ 0 ∧ s.accuracyThres ≠ 0 ∧
      ((s.accuracyThres.toNat : ℚ) < location.accuracy ∧
          location.accuracy ≤ floatOf s.accuracyThres ∨
        floatOf s.accuracyThres < location.accuracy ∧
          location.accuracy ≤ (s.accuracyThres.toNat : ℚ))

instance : Decidable (s.Misjudged location status) :=
  inferInstanceAs (Decidable (_ ∧ _ ∧ _ ∧ _ ∧ (_ ∨ _)))

/-- A threshold of no more than 24 bits misjudges nothing. -/
theorem not_misjudged_of_lt (h : s.accuracyThres.toNat < 2 ^ 24) :
    ¬ s.Misjudged location status := by
  rintro ⟨-, -, -, -, hbetween⟩
  rw [floatOf, Rounding.roundBits_of_lt h] at hbetween
  rcases hbetween with ⟨hlt, hle⟩ | ⟨hlt, hle⟩ <;> exact absurd hlt (not_lt.mpr hle)

/-! ### The calls -/

variable {s} in
/-- What calls no `location_cb` adds none to those of the log. -/
theorem Calls.locationCalls {s' : LocEngData}
    (h : Calls (fun e => Eng.locationCalls [e] = []) s s') :
    Eng.locationCalls s'.log = Eng.locationCalls s.log := by
  obtain ⟨es, hlog, hes⟩ := h
  have hnone : Eng.locationCalls es = [] := by
    refine List.filterMap_eq_nil_iff.mpr fun e he => ?_
    simpa [Eng.locationCalls] using hes e he
  rw [hlog, Eng.locationCalls, List.filterMap_append]
  exact (congrArg _ hnone).trans (List.append_nil _)

/-- The report calls `location_cb` with what `locationArg` says, and not otherwise. -/
theorem locationCalls_reportLocation :
    locationCalls (s.reportLocation location locationExt status techMask).log =
      locationCalls s.log ++ (s.locationArg location locationExt status techMask).toList := by
  unfold reportLocation
  cases s.locationArg location locationExt status techMask with
  | none => exact (List.append_nil _).symm
  | some arg =>
    have hend := calls_endSingleShot (P := fun e => Eng.locationCalls [e] = [])
      (s.say (.locationCb arg.1 arg.2)) rfl status
    rw [hend.locationCalls]
    simp [say, Eng.locationCalls]

/-- Outside a muted session a position calls `location_cb` with what `locationArg` says. -/
theorem locationCalls_proc (o : Outcome) (hmute : s.muteSessionState ≠ .inSession) :
    locationCalls ((Msg.reportPosition location locationExt status techMask).proc o s).log =
      locationCalls s.log ++ (s.locationArg location locationExt status techMask).toList := by
  have hproc : (Msg.reportPosition location locationExt status techMask).proc o s =
      ((s.reportLocation location locationExt status techMask).generatePos
        o.sentences).deleteRawData location :=
    (s.reportPosition_eq location locationExt status techMask o.sentences).trans (if_pos hmute)
  have hgenerate : Calls (fun e => Eng.locationCalls [e] = [])
      (s.reportLocation location locationExt status techMask)
      ((s.reportLocation location locationExt status techMask).generatePos o.sentences) :=
    .ite (fun _ => calls_nmeaSend _ (fun _ _ => rfl) o.sentences) fun _ => .of_log rfl
  have hdelete := calls_deleteRawData (P := fun e => Eng.locationCalls [e] = [])
    ((s.reportLocation location locationExt status techMask).generatePos o.sentences)
    (fun _ => rfl) location
  rw [hproc, (hgenerate.trans hdelete).locationCalls, locationCalls_reportLocation]

/-- The comparison with the `float` makes a difference on the fixes that are misjudged. -/
theorem passesIntermediate_iff (hstatus : status = .intermediate) :
    (s.passesIntermediate location ↔ s.acceptsIntermediate location) ↔
      ¬ s.Misjudged location status := by
  unfold passesIntermediate acceptsIntermediate Misjudged
  by_cases hfix : locSessIntermediate = s.intermediateFix
  swap
  · simp [hfix]
  by_cases hflag : location.flags &&& gpsLocationHasAccuracy ≠ 0
  swap
  · simp [hflag]
  by_cases hthres : s.accuracyThres ≠ 0
  swap
  · simp [hthres]
  -- only the two comparisons are left
  simp only [hstatus, hfix, hflag, hthres, true_and, not_lt, ne_eq, not_false_eq_true]
  constructor
  · rintro hsame (⟨hlt, hle⟩ | ⟨hlt, hle⟩)
    · exact absurd hlt (not_lt.mpr (hsame.mp hle))
    · exact absurd hlt (not_lt.mpr (hsame.mpr hle))
  · intro hno
    rw [not_or, not_and, not_and] at hno
    refine ⟨fun hle => not_lt.mp fun hlt => hno.1 hlt hle, fun hle => not_lt.mp fun hlt => ?_⟩
    exact hno.2 hlt hle

/-- With a `location_cb`, the code and the comment part on the fixes that slip through, and on
those that are misjudged. -/
theorem locationArg_eq_documentedArg_iff (hcb : s.locationCb = true) :
    s.locationArg location locationExt status techMask =
        s.documentedArg location locationExt status techMask ↔
      ¬ s.SlipsThrough location status techMask ∧ ¬ s.Misjudged location status := by
  have harg : s.locationArg location locationExt status techMask =
      if status = .failure then some (none, none)
      else if (status = .success ∧ ofSatelliteOrSensor techMask) ∨
          s.passesIntermediate location then some (some location, locationExt)
      else none := by
    rw [locationArg, hcb]
    rfl
  rw [harg]
  unfold documentedArg
  cases status with
  | failure => simp [SlipsThrough, Misjudged]
  | intermediate =>
    rw [← s.passesIntermediate_iff location .intermediate rfl]
    by_cases hpass : s.passesIntermediate location <;>
      by_cases haccept : s.acceptsIntermediate location <;>
      simp [SlipsThrough, hpass, haccept]
  | success =>
    by_cases htech : ofSatelliteOrSensor techMask
    · simp [SlipsThrough, Misjudged, htech]
    · by_cases hpass : s.passesIntermediate location <;>
        simp [SlipsThrough, Misjudged, htech, hpass]

/-- **The filter is the documented one** on every position but a final fix that slips through and
an intermediate one that is misjudged: when there is a `location_cb` and the session is not muted,
the calls of `location_cb` that such a report makes are those of the comment. -/
theorem locationCalls_documented_iff (o : Outcome) (hcb : s.locationCb = true)
    (hmute : s.muteSessionState ≠ .inSession) :
    let s' := (Msg.reportPosition location locationExt status techMask).proc o s
    locationCalls (s'.log.drop s.log.length) =
        (s.documentedArg location locationExt status techMask).toList ↔
      ¬ s.SlipsThrough location status techMask ∧ ¬ s.Misjudged location status := by
  intro s'
  obtain ⟨es, hlog, -⟩ := calls_proc s o (.reportPosition location locationExt status techMask)
  have hes : locationCalls es =
      (s.locationArg location locationExt status techMask).toList := by
    have hcalls := locationCalls_proc s location locationExt status techMask o hmute
    rw [hlog, Eng.locationCalls, List.filterMap_append] at hcalls
    exact List.append_cancel_left hcalls
  have hinj : ∀ a b : Option (Option UlpLocation × Option Address),
      a.toList = b.toList ↔ a = b := by
    rintro (_ | a) (_ | b) <;> simp
  rw [hlog, List.drop_left, hes, hinj]
  exact s.locationArg_eq_documentedArg_iff location locationExt status techMask hcb

/-- A fix of the satellites is reported, and so is an accurate intermediate one. -/
theorem locationCalls_documented_satellite :
    let s := init ⟨true, true, true, true⟩ ⟨1, 50, 0⟩ 0
    let msg : Msg := .reportPosition ⟨0, 0, none⟩ none .success locPosTechMaskSatellite
    let accurate : Msg := .reportPosition ⟨gpsLocationHasAccuracy, 50, none⟩ none .intermediate 0
    locationCalls ((msg.proc ⟨true, 0, []⟩ s).log.drop s.log.length) =
        [(some ⟨0, 0, none⟩, none)] ∧
      locationCalls ((accurate.proc ⟨true, 0, []⟩ s).log.drop s.log.length) =
        [(some ⟨gpsLocationHasAccuracy, 50, none⟩, none)] :=
  ⟨(locationCalls_documented_iff _ ⟨0, 0, none⟩ none .success locPosTechMaskSatellite
      ⟨true, 0, []⟩ rfl (by decide)).mpr (by decide),
    (locationCalls_documented_iff _ ⟨gpsLocationHasAccuracy, 50, none⟩ none .intermediate 0
      ⟨true, 0, []⟩ rfl (by decide)).mpr ⟨by decide, not_misjudged_of_lt _ _ _ (by decide)⟩⟩

/-- A final fix of the network is reported when intermediate fixes are accepted, and is not to
be. -/
theorem locationCalls_slipsThrough :
    let s := init ⟨true, true, true, true⟩ ⟨1, 0, 0⟩ 0
    let s' := (Msg.reportPosition ⟨0, 0, none⟩ none .success 0).proc ⟨true, 0, []⟩ s
    locationCalls (s'.log.drop s.log.length) = [(some ⟨0, 0, none⟩, none)] ∧
      s.documentedArg ⟨0, 0, none⟩ none .success 0 = none := by
  decide

/-- An accuracy of 16777220 exceeds a threshold of 16777219, and not the `float` nearest to it. -/
example :
    (init ⟨true, true, true, true⟩ ⟨1, 16777219, 0⟩ 0).Misjudged
      ⟨gpsLocationHasAccuracy, 16777220, none⟩ .intermediate := by
  decide

end LocEngData
end Eng
end Nx507j
