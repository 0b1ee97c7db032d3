import Mathlib.Data.List.Basic
import Nx507j.Eng.Mute
import Nx507j.Eng.Steps

/-!
# Starts and stops of a fix

The modem is to be asked for a fix only while no session is on, and to stop only while one is.
The handlers of a start and of a stop look at the session first.  A position report that ends a
single shot does not: when it is an intermediate one, the modem is asked to stop whether or not
the session is still on.

## Main definitions

* `LocEngData.Balanced` — a step that starts and stops only as the session allows.
* `LocEngData.ReportsInTime` — a step that ends no single shot once its session has ended.

## Main results

* `LocEngData.balanced_exec_iff` — the runs throughout which starts and stops are balanced.
-/

namespace Nx507j
namespace Eng

open Run

namespace LocEngData

/-- A fix is started only while no session is on, and stopped only while one is.  No message
changes the session before it has made these calls. -/
def Balanced (s : LocEngData) (input : Input) : Prop :=
  (∀ mode, .startFix mode ∈ s.news input → s.adapter.mNavigating = false) ∧
    (.stopFix ∈ s.news input → s.adapter.mNavigating = true)

/-- The report is an intermediate one that is passed on, and ends a single shot. -/
def EndsEarly (s : LocEngData) (location : UlpLocation) (locationExt : Option Address)
    (status : LocSessStatus) (techMask : LocPosTechMask) : Prop :=
  s.muteSessionState ≠ .inSession ∧
    (s.locationArg location locationExt status techMask).isSome = true ∧
    gpsPositionRecurrenceSingle = s.adapter.mFixCriteria.recurrence ∧ status = .intermediate

/-- A report that ends a single shot early comes while the session is on. -/
def ReportsInTime (s : LocEngData) (input : Input) : Prop :=
  ∀ location locationExt status techMask,
    s.processed input = some (.reportPosition location locationExt status techMask) →
      s.EndsEarly location locationExt status techMask → s.adapter.mNavigating = true

/-! ### What is called -/

variable {s s' s'' : LocEngData}

theorem mem_stopFix_endSingleShot (s : LocEngData) (status : LocSessStatus) :
    ∃ es, (s.endSingleShot status).log = s.log ++ es ∧
      (.stopFix ∈ es ↔ gpsPositionRecurrenceSingle = s.adapter.mFixCriteria.recurrence ∧
        status = .intermediate) := by
  have hnil : s.log = s.log ++ [] := (List.append_nil _).symm
  unfold endSingleShot
  split
  · next hsingle =>
    split
    · next hstatus =>
      exact ⟨[.stopFix], rfl, iff_of_true (List.mem_singleton_self _) ⟨hsingle, hstatus⟩⟩
    · next hstatus => exact ⟨[], hnil, iff_of_false List.not_mem_nil fun h => hstatus h.2⟩
  · next hsingle => exact ⟨[], hnil, iff_of_false List.not_mem_nil fun h => hsingle h.1⟩

/-- A position report asks the modem to stop exactly when it ends a single shot early. -/
theorem mem_stopFix_reportPosition (s : LocEngData) (location : UlpLocation)
    (locationExt : Option Address) (status : LocSessStatus) (techMask : LocPosTechMask)
    (sentences : List String) :
    ∃ es, (s.reportPosition location locationExt status techMask sentences).log = s.log ++ es ∧
      (.stopFix ∈ es ↔ s.EndsEarly location locationExt status techMask) := by
  rw [reportPosition_eq]
  split
  · next hmute =>
    have hreport : ∃ es, (s.reportLocation location locationExt status techMask).log =
        s.log ++ es ∧ (.stopFix ∈ es ↔ s.EndsEarly location locationExt status techMask) := by
      unfold reportLocation EndsEarly
      cases s.locationArg location locationExt status techMask with
      | none =>
        exact ⟨[], (List.append_nil _).symm,
          iff_of_false List.not_mem_nil fun h => Bool.false_ne_true h.2.1⟩
      | some arg =>
        obtain ⟨es, hlog, hes⟩ :=
          mem_stopFix_endSingleShot (s.say (.locationCb arg.1 arg.2)) status
        refine ⟨.locationCb arg.1 arg.2 :: es, ?_, ?_⟩
        · show ((s.say (.locationCb arg.1 arg.2)).endSingleShot status).log = _
          rw [hlog, say, List.append_assoc]
          rfl
        · rw [List.mem_cons, or_iff_right Event.noConfusion, hes]
          exact ⟨fun h => ⟨hmute, rfl, h⟩, fun h => h.2.2⟩
    have hrest : Calls (· ≠ .stopFix) (s.reportLocation location locationExt status techMask)
        (((s.reportLocation location locationExt status techMask).generatePos
          sentences).deleteRawData location) := by
      refine Calls.trans ?_ (calls_deleteRawData _ (fun _ => Event.noConfusion) location)
      exact .ite (fun _ => calls_nmeaSend _ (fun _ _ => Event.noConfusion) sentences)
        fun _ => .of_log rfl
    obtain ⟨es, hlog, hes⟩ := hreport
    obtain ⟨es', hlog', hes'⟩ := hrest
    refine ⟨es ++ es', by rw [hlog', hlog, List.append_assoc], ?_⟩
    rw [List.mem_append, or_iff_left fun hmem => hes' _ hmem rfl, hes]
  · next hmute =>
    exact ⟨[], (List.append_nil _).symm, iff_of_false List.not_mem_nil fun h => hmute h.1⟩

/-- A step is balanced exactly when it ends no single shot once its session has ended. -/
theorem balanced_iff (s : LocEngData) (input : Input) :
    s.Balanced input ↔ s.ReportsInTime input := by
  rcases s.step_cases input with ⟨o, msg, queue, -, -, hmsg, hstep⟩ | ⟨hmsg, queue, ni, mute,
    measurement, -, hstep⟩
  · rw [Balanced, ReportsInTime, news, hmsg, hstep]
    have hcalls := (calls_proc { s with queue := queue } o msg).drop
    cases msg with
    | reportPosition location locationExt status techMask =>
      obtain ⟨es, hlog, hes⟩ := mem_stopFix_reportPosition { s with queue := queue } location
        locationExt status techMask o.sentences
      have hnews : ((Msg.reportPosition location locationExt status techMask).proc o
          { s with queue := queue }).log.drop s.log.length = es := by
        show (reportPosition location locationExt status techMask o.sentences
          { s with queue := queue }).log.drop s.log.length = es
        rw [hlog, List.drop_left]
      rw [hnews] at hcalls ⊢
      constructor
      · rintro ⟨-, hstop⟩ location' locationExt' status' techMask' heq hends
        cases heq
        exact hstop (hes.mpr hends)
      · intro hintime
        exact ⟨fun mode hmem => absurd (hcalls _ hmem) Bool.false_ne_true,
          fun hmem => hintime location locationExt status techMask rfl (hes.mp hmem)⟩
    | startFix =>
      refine iff_of_true ⟨fun mode hmem => ?_, fun hmem => ?_⟩ fun _ _ _ _ h => by cases h
      · by_contra hnav
        have hsame : Msg.startFix.proc o { s with queue := queue } = { s with queue := queue } :=
          if_pos (Bool.not_eq_false _ ▸ hnav)
        rw [hsame, List.drop_length] at hmem
        cases hmem
      · exact absurd (hcalls _ hmem) Bool.false_ne_true
    | stopFix =>
      refine iff_of_true ⟨fun mode hmem => ?_, fun hmem => ?_⟩ fun _ _ _ _ h => by cases h
      · exact absurd (hcalls _ hmem) Bool.false_ne_true
      · by_contra hnav
        have hsame : Msg.stopFix.proc o { s with queue := queue } = { s with queue := queue } :=
          if_neg hnav
        rw [hsame, List.drop_length] at hmem
        cases hmem
    | _ =>
      refine iff_of_true ⟨fun mode hmem => ?_, fun hmem => ?_⟩ fun _ _ _ _ h => by cases h
      · exact absurd (hcalls _ hmem) Bool.false_ne_true
      · exact absurd (hcalls _ hmem) Bool.false_ne_true
  · rw [Balanced, ReportsInTime, news, hmsg, hstep, List.drop_length]
    exact iff_of_true ⟨fun _ h => absurd h List.not_mem_nil, fun h => absurd h List.not_mem_nil⟩
      fun _ _ _ _ h => by cases h

/-- **Starts and stops are balanced** in the runs in which no report ends a single shot once its
session has ended, and in no others. -/
theorem balanced_exec_iff (s : LocEngData) (inputs : List Input) :
    StepsMeet step Balanced s inputs ↔ StepsMeet step ReportsInTime s inputs :=
  stepsMeet_congr balanced_iff inputs s

/-- A single shot is started and stopped; then an intermediate report of it is processed. -/
def stoppedSingleShot : List Input :=
  [.send (.positionMode ⟨0, gpsPositionRecurrenceSingle, 0, 0, 0, "", ""⟩), .send .startFix,
    .send .stopFix, .send (.reportPosition ⟨0, 0, none⟩ none .intermediate 0),
    .process ⟨true, 0, []⟩, .process ⟨true, 0, []⟩, .process ⟨true, 0, []⟩]

/-- The modem is asked to stop once more, with no session on. -/
theorem not_balanced_stoppedSingleShot :
    let s := exec step (init ⟨true, true, true, true⟩ ⟨1, 0, 0⟩ 1) stoppedSingleShot
    s.adapter.mNavigating = false ∧ .stopFix ∈ s.news (.process ⟨true, 0, []⟩) ∧
      ¬ s.Balanced (.process ⟨true, 0, []⟩) := by
  have hnav : (exec step (init ⟨true, true, true, true⟩ ⟨1, 0, 0⟩ 1)
    stoppedSingleShot).adapter.mNavigating = false := by decide
  have hstop : .stopFix ∈ (exec step (init ⟨true, true, true, true⟩ ⟨1, 0, 0⟩ 1)
    stoppedSingleShot).news (.process ⟨true, 0, []⟩) := by decide
  refine ⟨hnav, hstop, fun h => ?_⟩
  have htrue := h.2 hstop
  rw [hnav] at htrue
  cases htrue

end LocEngData

end Eng
end Nx507j
