import Mathlib.Algebra.BigOperators.Group.List.Lemmas
import Nx507j.Core.LocApiBase
import Nx507j.Eng.Steps

/-!
# The raw data of a position

`LocApiBase::reportPosition` hands a position to every adapter.  The location is copied into one
message for each of them, and all the copies have the same buffer with raw data.  An engine that
processes its copy deletes the buffer, unless its session is muted.

## Main definitions

* `Engines` — the adapters of one `LocApiBase`, each with its engine.
* `Engines.deleted` — how often a buffer has been deleted.
* `Engines.mutes` — a step in which a muted engine processes a copy.

## Main results

* `Engines.balance_exec` — where the copies of a buffer have gone.
* `Engines.deletedOnce_iff` — the runs that delete each buffer once.
-/

namespace Nx507j
namespace Eng

open Run Nx507j.Lists

/-- The message is a copy of a position with this buffer. -/
def Msg.carries (rawData : Address) : Msg → Bool
  | .reportPosition location _ _ _ => location.rawData = some rawData
  | _ => false

/-- The message is a copy of a position. -/
def Msg.isPosition : Msg → Bool
  | .reportPosition _ _ _ _ => true
  | _ => false

namespace LocEngData

/-- How often the engine has deleted the buffer. -/
def deleted (rawData : Address) (s : LocEngData) : ℕ := s.log.countP (· = .deleteRawData rawData)

/-- How many copies the engine has still to process. -/
def copies (rawData : Address) (s : LocEngData) : ℕ := s.queue.countP (·.carries rawData)

/-- The step processes a copy in a muted session. -/
def mutes (rawData : Address) (s : LocEngData) (input : Input) : Bool :=
  s.muteSessionState = .inSession && (s.processed input).any (·.carries rawData)

/-- A position is sent to the engine otherwise than by the `LocApiBase`. -/
def Input.sendsPosition : Input → Bool
  | .send msg => msg.isPosition
  | _ => false

/-! ### One engine -/

variable {s : LocEngData} (rawData : Address)

theorem carries_of_isPosition {msg : Msg} (h : msg.isPosition = false) :
    msg.carries rawData = false := by
  cases msg with
  | reportPosition location locationExt status techMask => cases h
  | _ => rfl

theorem deleted_of_calls {s' : LocEngData} (h : Calls (∀ raw, · ≠ .deleteRawData raw) s s') :
    s'.deleted rawData = s.deleted rawData :=
  h.countP fun _ he => decide_eq_false (he rawData)

theorem deleted_deleteRawData (s : LocEngData) (location : UlpLocation) :
    (s.deleteRawData location).deleted rawData =
      s.deleted rawData + if location.rawData = some rawData then 1 else 0 := by
  unfold deleteRawData
  cases location.rawData with
  | none => rfl
  | some raw =>
    show (s.log ++ [Event.deleteRawData raw]).countP _ = _
    rw [List.countP_append, List.countP_singleton]
    simp only [decide_eq_true_eq, Event.deleteRawData.injEq, Option.some.injEq]
    rfl

/-- A report that is not muted deletes its buffer, and no other. -/
theorem deleted_reportPosition (hmute : s.muteSessionState ≠ .inSession) (location : UlpLocation)
    (locationExt : Option Address) (status : LocSessStatus) (techMask : LocPosTechMask)
    (sentences : List String) :
    (s.reportPosition location locationExt status techMask sentences).deleted rawData =
      s.deleted rawData + if location.rawData = some rawData then 1 else 0 := by
  have hreport : Calls (∀ raw, · ≠ .deleteRawData raw) s
      ((s.reportLocation location locationExt status techMask).generatePos sentences) := by
    refine Calls.trans (calls_reportLocation s (fun _ _ _ => nofun) (fun _ => nofun) location
      locationExt status techMask) ?_
    exact .ite (fun _ => calls_nmeaSend _ (fun _ _ _ => nofun) sentences) fun _ => .of_log rfl
  rw [reportPosition_eq, if_pos hmute, deleted_deleteRawData, deleted_of_calls rawData hreport]

/-- A message deletes the buffer that it carries, unless the session is muted. -/
theorem deleted_proc (s : LocEngData) (o : Outcome) (msg : Msg) :
    (msg.proc o s).deleted rawData +
        (if s.muteSessionState = .inSession ∧ msg.carries rawData = true then 1 else 0) =
      s.deleted rawData + if msg.carries rawData = true then 1 else 0 := by
  cases hposition : msg.isPosition with
  | true =>
    cases msg with
    | reportPosition location locationExt status techMask =>
      have hcarries : (Msg.reportPosition location locationExt status techMask).carries rawData =
        true ↔ location.rawData = some rawData := decide_eq_true_iff
      simp only [hcarries]
      by_cases hmute : s.muteSessionState = .inSession
      · have hsame : (Msg.reportPosition location locationExt status techMask).proc o s = s :=
          if_neg (not_not.mpr hmute)
        rw [hsame]
        simp only [hmute, true_and]
      · have hdeleted := deleted_reportPosition rawData hmute location locationExt status techMask
          o.sentences
        simp only [hmute, false_and, if_false]
        exact hdeleted
    | _ => cases hposition
  | false =>
    have hcarries := carries_of_isPosition rawData hposition
    have hcalls : Calls (∀ raw, · ≠ .deleteRawData raw) s (msg.proc o s) := by
      refine (calls_proc s o msg).mono ?_
      rintro _ he raw rfl
      cases msg <;>
        first | exact absurd he Bool.false_ne_true | exact absurd hposition.symm Bool.false_ne_true
    simp only [hcarries, Bool.false_eq_true, and_false, if_false, deleted_of_calls rawData hcalls]

/-- **Where a copy goes.**  An engine that takes a step deletes the buffer for each copy that it
processes, but for a muted one. -/
theorem balance_step (s : LocEngData) (input : Input) (h : input.sendsPosition = false) :
    (s.step input).deleted rawData + (s.step input).copies rawData +
      (if s.mutes rawData input then 1 else 0) = s.deleted rawData + s.copies rawData := by
  cases input with
  | process o =>
    cases hqueue : s.queue with
    | nil =>
      have hself : s.step (.process o) = s := by rw [step, hqueue]
      rw [hself, mutes, processed, hqueue, List.head?_nil, Option.any_none, Bool.and_false,
        if_neg Bool.false_ne_true, Nat.add_zero]
    | cons msg queue =>
      have hstep : s.step (.process o) = msg.proc o { s with queue := queue } := by
        rw [step, hqueue]
      have hdeleted : (msg.proc o { s with queue := queue }).deleted rawData +
          (if s.muteSessionState = .inSession ∧ msg.carries rawData = true then 1 else 0) =
        s.deleted rawData + if msg.carries rawData = true then 1 else 0 :=
        deleted_proc rawData { s with queue := queue } o msg
      have hcopies : (msg.proc o { s with queue := queue }).copies rawData =
          queue.countP (·.carries rawData) := by
        rw [copies]
        rcases queue_proc { s with queue := queue } o msg with hsame | hsent
        · rw [hsame]
        · rw [hsent, List.countP_append]
          rfl
      have hmutes : s.mutes rawData (.process o) = true ↔
          s.muteSessionState = .inSession ∧ msg.carries rawData = true := by
        rw [mutes, processed, hqueue, List.head?_cons, Option.any_some, Bool.and_eq_true,
          decide_eq_true_iff]
      have hold : s.copies rawData =
          queue.countP (·.carries rawData) + if msg.carries rawData = true then 1 else 0 := by
        rw [copies, hqueue, List.countP_cons]
      rw [hstep, hcopies, hold, if_congr hmutes rfl rfl]
      omega
  | send msg =>
    have hcopies : (s.step (.send msg)).copies rawData = s.copies rawData := by
      show (s.queue ++ [msg]).countP _ = _
      rw [List.countP_append, List.countP_singleton, carries_of_isPosition rawData h]
      rfl
    rw [hcopies]
    simp [mutes, processed, deleted, step, sendMsg]
  | ni input =>
    have hlog : (s.step (.ni input)).log = s.log := by
      rw [step]
      split <;> rfl
    have hqueue : (s.step (.ni input)).queue = s.queue := by
      rw [step]
      split <;> rfl
    simp [mutes, processed, deleted, copies, hlog, hqueue]
  | gpsMeasurementInit => simp [mutes, processed, deleted, copies, step]
  | gpsMeasurementClose => simp [mutes, processed, deleted, copies, step]

end LocEngData

/-! ### All engines -/

/-- The adapters of one `LocApiBase`, by their numbers, and their engines.  The engines have one
thread; here they process their messages in any order, of which the thread's is one. -/
structure Engines where
  locApi : LocApiBase ℕ
  engines : List LocEngData

namespace Engines

/-- The engines that `loc_eng_init` makes, with the adapters that the table holds. -/
def start (table : LocApiBase ℕ) (conf : GpsConf) (specs : List (LocCallbacks × UInt32)) :
    Engines where
  locApi := table
  engines := specs.map fun spec => .init spec.1 conf spec.2

/-- `LocApiBase::reportPosition`, and `LocEngAdapter::reportPosition` for each of the adapters;
`locationExts` is what their parsers make of the extension. -/
def reportPosition (location : UlpLocation) (locationExts : ℕ → Option Address)
    (status : LocSessStatus) (techMask : LocPosTechMask) (s : Engines) : Engines :=
  { s with
    engines := s.locApi.toAllAdapters (fun i engines => engines.modify i
      (·.sendMsg (.reportPosition location (locationExts i) status techMask))) s.engines }

/-- What can happen: the modem reports a position, or an engine takes a step. -/
inductive Input
  | reportPosition (location : UlpLocation) (locationExts : ℕ → Option Address)
      (status : LocSessStatus) (techMask : LocPosTechMask)
  | engine (i : ℕ) (input : LocEngData.Input)

/-- One step.  An engine is sent a position by the `LocApiBase` only. -/
def step (s : Engines) : Input → Engines
  | .reportPosition location locationExts status techMask =>
    s.reportPosition location locationExts status techMask
  | .engine i input =>
    if input.sendsPosition then s else { s with engines := s.engines.modify i (·.step input) }

/-- The buffer that a step reports. -/
def Input.rawData : Input → Option Address
  | .reportPosition location _ _ _ => location.rawData
  | .engine _ _ => none

/-- How often the buffer has been deleted. -/
def deleted (rawData : Address) (s : Engines) : ℕ := (s.engines.map (·.deleted rawData)).sum

/-- How many copies have still to be processed. -/
def copies (rawData : Address) (s : Engines) : ℕ := (s.engines.map (·.copies rawData)).sum

/-- The step processes a copy in a muted session. -/
def mutes (rawData : Address) (s : Engines) : Input → Bool
  | .engine i input => s.engines[i]?.any (·.mutes rawData input)
  | .reportPosition _ _ _ _ => false

/-- The table is the list `xs`, and each of these adapters has an engine. -/
structure Registered (s : Engines) (xs : List ℕ) : Prop where
  holds : s.locApi.Holds xs
  lt_length : ∀ i ∈ xs, i < s.engines.length

variable {s : Engines} {xs : List ℕ}

theorem reportPosition_engines (h : s.Registered xs) (location : UlpLocation)
    (locationExts : ℕ → Option Address) (status : LocSessStatus) (techMask : LocPosTechMask) :
    (s.reportPosition location locationExts status techMask).engines =
      xs.foldl (fun engines i => engines.modify i
        (·.sendMsg (.reportPosition location (locationExts i) status techMask))) s.engines :=
  h.holds.toAllAdapters _ _

theorem length_foldl_modify (g : ℕ → LocEngData → LocEngData) :
    ∀ (xs : List ℕ) (engines : List LocEngData),
      (xs.foldl (fun engines i => engines.modify i (g i)) engines).length = engines.length := by
  intro xs
  induction xs with
  | nil => intro engines; rfl
  | cons i xs ih => intro engines; exact (ih _).trans (List.length_modify ..)

/-- What is called for each adapter in turn adds to a sum as often as there are adapters. -/
theorem sum_foldl_modify {f : LocEngData → ℕ} {g : ℕ → LocEngData → LocEngData} {c : ℕ}
    (hg : ∀ i e, f (g i e) = f e + c) :
    ∀ (xs : List ℕ) (engines : List LocEngData), (∀ i ∈ xs, i < engines.length) →
      ((xs.foldl (fun engines i => engines.modify i (g i)) engines).map f).sum =
        (engines.map f).sum + xs.length * c := by
  intro xs
  induction xs with
  | nil => intro engines _; rw [List.length_nil, Nat.zero_mul]; rfl
  | cons i xs ih =>
    intro engines hlt
    have hi : i < engines.length := hlt i List.mem_cons_self
    have hmodify := sum_map_modify (f := f) (g := g i) (List.getElem?_eq_getElem hi)
    have hsum := ih (engines.modify i (g i)) fun j hj => by
      rw [List.length_modify]
      exact hlt j (List.mem_cons_of_mem i hj)
    rw [hg] at hmodify
    rw [List.foldl_cons, hsum, List.length_cons, Nat.succ_mul]
    omega

theorem Registered.step (h : s.Registered xs) (input : Input) : (s.step input).Registered xs := by
  cases input with
  | reportPosition location locationExts status techMask =>
    refine ⟨h.holds, fun i hi => ?_⟩
    show i < (s.reportPosition location locationExts status techMask).engines.length
    rw [reportPosition_engines h, length_foldl_modify]
    exact h.lt_length i hi
  | engine i input =>
    unfold Engines.step
    dsimp only
    split
    · exact h
    · refine ⟨h.holds, fun j hj => ?_⟩
      show j < (s.engines.modify i _).length
      rw [List.length_modify]
      exact h.lt_length j hj

theorem deleted_add_copies (rawData : Address) (s : Engines) :
    s.deleted rawData + s.copies rawData =
      (s.engines.map fun e => e.deleted rawData + e.copies rawData).sum :=
  (List.sum_map_add ..).symm

/-- **Where the copies of a buffer go**, in one step: a report makes one for each adapter, and
each one that is processed is a deletion, but for a muted one. -/
theorem balance_step (rawData : Address) (h : s.Registered xs) (input : Input) :
    ((s.step input).deleted rawData + (s.step input).copies rawData) +
        (if s.mutes rawData input then 1 else 0) =
      (s.deleted rawData + s.copies rawData) +
        if input.rawData = some rawData then xs.length else 0 := by
  rw [deleted_add_copies, deleted_add_copies]
  cases input with
  | reportPosition location locationExts status techMask =>
    show ((s.reportPosition location locationExts status techMask).engines.map _).sum = _ +
      if location.rawData = some rawData then xs.length else 0
    rw [reportPosition_engines h, sum_foldl_modify
      (c := if location.rawData = some rawData then 1 else 0) ?_ xs s.engines h.lt_length]
    · split
      · rw [Nat.mul_one]
      · rfl
    · intro i e
      have hcopies : (e.sendMsg (.reportPosition location (locationExts i) status
          techMask)).copies rawData =
          e.copies rawData + if location.rawData = some rawData then 1 else 0 := by
        show (e.queue ++ [Msg.reportPosition location (locationExts i) status
          techMask]).countP _ = _
        rw [List.countP_append, List.countP_singleton]
        simp only [Msg.carries, decide_eq_true_eq]
        rfl
      rw [hcopies, ← Nat.add_assoc]
      rfl
  | engine i input =>
    have hrawData : ¬ (Input.engine i input).rawData = some rawData := nofun
    rw [if_neg hrawData, Nat.add_zero]
    cases hsends : input.sendsPosition with
    | true =>
      have hsame : s.step (.engine i input) = s := if_pos hsends
      have hmutes : s.mutes rawData (.engine i input) = false := by
        cases input with
        | send msg =>
          cases hget : s.engines[i]? <;>
            simp [mutes, LocEngData.mutes, LocEngData.processed, hget]
        | _ => cases hsends
      rw [hsame, hmutes]
      rfl
    | false =>
      have hstep : (s.step (.engine i input)).engines = s.engines.modify i (·.step input) := by
        rw [Engines.step, hsends]
        rfl
      rw [hstep, mutes]
      cases hget : s.engines[i]? with
      | none =>
        rw [List.modify_eq_self (List.getElem?_eq_none_iff.mp hget)]
        rfl
      | some e =>
        have hmodify := sum_map_modify (f := fun e => e.deleted rawData + e.copies rawData)
          (g := (·.step input)) hget
        have hengine := e.balance_step rawData input hsends
        rw [Option.any_some]
        omega

/-! ### Runs -/

/-- The buffers that a run reports. -/
def reported (inputs : List Input) : List Address := inputs.filterMap Input.rawData

theorem start_registered {table : LocApiBase ℕ} (htable : table.Holds xs) (conf : GpsConf)
    {specs : List (LocCallbacks × UInt32)} (hlt : ∀ i ∈ xs, i < specs.length) :
    (start table conf specs).Registered xs :=
  ⟨htable, by rw [start, List.length_map]; exact hlt⟩

/-- **Where the copies of a buffer have gone**, after any run. -/
theorem balance_exec (rawData : Address) {table : LocApiBase ℕ} (htable : table.Holds xs)
    (conf : GpsConf) {specs : List (LocCallbacks × UInt32)} (hlt : ∀ i ∈ xs, i < specs.length)
    (inputs : List Input) :
    (exec step (start table conf specs) inputs).deleted rawData +
        (exec step (start table conf specs) inputs).copies rawData +
        countSteps step (mutes rawData) (start table conf specs) inputs =
      (reported inputs).count rawData * xs.length := by
  have hstart : (start table conf specs).deleted rawData +
      (start table conf specs).copies rawData = 0 := by
    rw [deleted_add_copies, start, List.map_map, List.sum_eq_zero]
    intro n hn
    obtain ⟨spec, -, rfl⟩ := List.mem_map.mp hn
    rfl
  have hreports : (inputs.map fun input =>
      if input.rawData = some rawData then xs.length else 0).sum =
        (reported inputs).count rawData * xs.length := by
    induction inputs with
    | nil => exact (Nat.zero_mul _).symm
    | cons input inputs ih =>
      rw [List.map_cons, List.sum_cons, ih, reported, reported, List.filterMap_cons]
      cases input.rawData with
      | none => exact Nat.zero_add _
      | some raw =>
        rw [List.count_cons, Nat.add_mul, Nat.add_comm]
        simp only [Option.some.injEq, beq_iff_eq]
        split
        · rw [Nat.one_mul]
        · rw [Nat.zero_mul]
  have hinv : ∀ (s : Engines) (input : Input), s.Registered xs → (step s input).Registered xs :=
    fun _ input h => h.step input
  have hbalance := exec_balance (mutes rawData)
    (fun s => s.deleted rawData + s.copies rawData)
    (fun input => if input.rawData = some rawData then xs.length else 0) hinv
    (fun _ input h => balance_step rawData h input) inputs
    (start table conf specs) (start_registered htable conf hlt)
  rw [hstart, hreports, Nat.zero_add] at hbalance
  exact hbalance

/-- **Each buffer is deleted once**, when all is processed, exactly in the runs in which all the
adapters but one are muted when they process their copy. -/
theorem deletedOnce_iff {table : LocApiBase ℕ} (htable : table.Holds xs) (conf : GpsConf)
    {specs : List (LocCallbacks × UInt32)} (hlt : ∀ i ∈ xs, i < specs.length)
    (inputs : List Input) (hdistinct : (reported inputs).Nodup)
    (hdone : ∀ e ∈ (exec step (start table conf specs) inputs).engines, e.queue = []) :
    (∀ rawData ∈ reported inputs,
      (exec step (start table conf specs) inputs).deleted rawData = 1) ↔
    ∀ rawData ∈ reported inputs,
      countSteps step (mutes rawData) (start table conf specs) inputs + 1 = xs.length := by
  refine forall₂_congr fun rawData hmem => ?_
  have hcopies : (exec step (start table conf specs) inputs).copies rawData = 0 := by
    refine List.sum_eq_zero fun n hn => ?_
    obtain ⟨e, he, rfl⟩ := List.mem_map.mp hn
    rw [LocEngData.copies, hdone e he]
    rfl
  have hbalance := balance_exec rawData htable conf hlt inputs
  rw [hcopies, List.count_eq_one_of_mem hdistinct hmem] at hbalance
  omega

/-- The table with the adapters `0`, ..., `n - 1`. -/
def tableOf (n : ℕ) : LocApiBase ℕ :=
  (List.range n).foldl (fun table i => (table.addAdapter (fun _ => 0) i).2) (LocApiBase.init 0)

theorem holds_tableOf : ∀ {n : ℕ}, n ≤ maxAdapters → (tableOf n).Holds (List.range n) := by
  intro n
  induction n with
  | zero => intro _; exact LocApiBase.holds_init 0
  | succ n ih =>
    intro hn
    rw [tableOf, List.range_succ, List.foldl_concat]
    refine (ih (by omega)).addAdapter_of_notMem _ _ ?_ ?_
    · exact List.not_mem_range_self
    · rw [List.length_range]
      exact hn

/-- The modem reports a position, and the adapters `is` process it. -/
def reportTo (is : List ℕ) : List Input :=
  .reportPosition ⟨0, 0, some 7⟩ (fun _ => none) .success locPosTechMaskSatellite ::
    is.map fun i => .engine i (.process ⟨true, 0, []⟩)

/-- Two adapters delete the one buffer. -/
theorem not_deletedOnce_twoAdapters :
    let s := exec step (start (tableOf 2) ⟨0, 0, 0⟩ [(⟨true, true, true, true⟩, 1),
      (⟨true, true, true, true⟩, 1)]) (reportTo [0, 1])
    reported (reportTo [0, 1]) = [7] ∧ (∀ e ∈ s.engines, e.queue = []) ∧ s.deleted 7 = 2 := by
  decide

/-- A request that overrides privacy mutes the session of the second adapter, and the modem reports
a position to both. -/
def reportToMuted : List Input :=
  [.engine 1 (.ni .init), .engine 1 (.send (.requestNi ⟨1, Ni.gpsNiPrivacyOverride, 0⟩ none)),
    .engine 1 (.send (.reportStatus gpsStatusEngineOn)), .engine 1 (.process ⟨true, 0, []⟩),
    .engine 1 (.process ⟨true, 0, []⟩)] ++ reportTo [0, 1]

/-- Only the first adapter deletes the buffer then. -/
theorem deletedOnce_iff_oneMuted :
    (∀ rawData ∈ reported reportToMuted,
      (exec step (start (tableOf 2) ⟨0, 0, 0⟩ [(⟨true, true, true, true⟩, 1),
        (⟨true, true, true, true⟩, 1)]) reportToMuted).deleted rawData = 1) ↔
    ∀ rawData ∈ reported reportToMuted,
      countSteps step (mutes rawData) (start (tableOf 2) ⟨0, 0, 0⟩ [(⟨true, true, true, true⟩, 1),
        (⟨true, true, true, true⟩, 1)]) reportToMuted + 1 = (List.range 2).length :=
  deletedOnce_iff (holds_tableOf (by decide)) ⟨0, 0, 0⟩ (by decide) reportToMuted (by decide)
    (by decide)

/-- The witness is one of the runs that delete the buffer once. -/
example : countSteps step (mutes 7) (start (tableOf 2) ⟨0, 0, 0⟩ [(⟨true, true, true, true⟩, 1),
    (⟨true, true, true, true⟩, 1)]) reportToMuted = 1 := by
  decide

end Engines

end Eng
end Nx507j
