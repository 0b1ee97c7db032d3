import Mathlib.Data.Nat.Bitwise
import Nx507j.Eng.Mute
import Nx507j.Eng.Steps

/-!
# Aiding data that is to be deleted

Aiding data can be deleted only while the engine is off.  A request that comes while it is on is
parked in `aiding_data_for_deletion`, and the status report that turns the engine off releases it.

The next request overwrites what is parked, and the modem's going down turns the engine off
without a release.

## Main definitions

* `Asked`, `Asked.NothingLost` — every bit that has been asked for is parked or has been deleted.
* `Asked.Covers` — a step that overwrites no parked bit.
* `LocEngData.ParkedOn`, `LocEngData.DeletesOff` — what is parked waits for an engine that is on,
  and nothing is deleted while it is on.
* `LocEngData.DownUnparked` — a step in which the modem does not go down with something parked.

## Main results

* `Asked.nothingLost_always_iff` — the runs throughout which no request is lost.
* `LocEngData.parkedOn_always_iff` — the runs throughout which what is parked waits for an engine
  that is on.
-/

namespace Nx507j
namespace Eng

open Run

namespace LocEngData

/-- The deletion that a step is asked for. -/
def asks (s : LocEngData) (input : Input) : Option GpsAidingData :=
  match s.processed input with
  | some (.delAidData type) => some type
  | _ => none

/-- Nothing is deleted from `s` to `s'`. -/
abbrev NoDeletion : LocEngData → LocEngData → Prop := Calls fun e => ∀ f, e ≠ .deleteAidingData f

/-! ### What a step does with the aiding data -/

variable (s : LocEngData)

theorem aidingDataForDeletion_reportStatus (status : GpsStatusValue) :
    (s.reportStatus status).aidingDataForDeletion = s.aidingDataForDeletion := by
  obtain ⟨log, h⟩ := s.reportStatus_eq status
  rw [h]

theorem engineStatus_reportStatus_off : (s.reportStatus gpsStatusEngineOff).engineStatus =
    gpsStatusEngineOff := by
  have hoff : gpsStatusEngineOff = gpsStatusEngineOn ∨ gpsStatusEngineOff = gpsStatusEngineOff :=
    Or.inr rfl
  obtain ⟨log, h⟩ := s.reportStatus_eq gpsStatusEngineOff
  rw [h, if_pos hoff]

/-- Something is deleted exactly when the engine is not on and something is parked. -/
theorem updateAidingDataForDeletion_cases :
    (s.engineStatus = gpsStatusEngineOn ∨ s.aidingDataForDeletion = 0) ∧
      s.updateAidingDataForDeletion = s ∨
    s.engineStatus ≠ gpsStatusEngineOn ∧ s.updateAidingDataForDeletion =
      { s.say (.deleteAidingData s.aidingDataForDeletion) with aidingDataForDeletion := 0 } := by
  by_cases h : s.engineStatus ≠ gpsStatusEngineOn ∧ s.aidingDataForDeletion ≠ 0
  · exact Or.inr ⟨h.1, if_pos h⟩
  · have hkeep : s.updateAidingDataForDeletion = s := if_neg h
    rw [not_and_or, not_not, not_not] at h
    exact Or.inl ⟨h, hkeep⟩

/-- The messages that have nothing to do with aiding data. -/
theorem aiding_ofSession (o : Outcome) (msg : Msg) (h : msg.ofSession = true) :
    s.NoDeletion (msg.proc o s) ∧
      (msg.proc o s).aidingDataForDeletion = s.aidingDataForDeletion ∧
      (msg.proc o s).engineStatus = s.engineStatus := by
  have honly : msg.proc o s = _ := onlySession_proc s o h
  refine ⟨(calls_proc s o msg).mono ?_, ?_, ?_⟩
  · rintro _ he f rfl
    cases msg <;>
      first | exact absurd he Bool.false_ne_true | exact absurd h Bool.false_ne_true
  · exact (congrArg aidingDataForDeletion honly).trans rfl
  · exact (congrArg engineStatus honly).trans rfl

/-- A status report and a request end with a release; the modem's going down does not. -/
theorem aiding_cases (input : Input) :
    (∃ t, s.asks input = none ∧ s.processed input ≠ some .down ∧ s.NoDeletion t ∧
      t.aidingDataForDeletion = s.aidingDataForDeletion ∧
      s.step input = t.updateAidingDataForDeletion) ∨
    (∃ t type, s.asks input = some type ∧ s.processed input ≠ some .down ∧ s.NoDeletion t ∧
      t.aidingDataForDeletion = type ∧ s.step input = t.updateAidingDataForDeletion) ∨
    (s.asks input = none ∧ s.NoDeletion (s.step input) ∧
      (s.step input).aidingDataForDeletion = s.aidingDataForDeletion ∧
      (s.processed input = some .down ∧ (s.step input).engineStatus = gpsStatusEngineOff ∨
        s.processed input ≠ some .down ∧ (s.step input).engineStatus = s.engineStatus)) := by
  rcases s.step_cases input with ⟨o, msg, queue, -, -, hmsg, hstep⟩ | ⟨hmsg, queue, ni, mute,
    measurement, -, hstep⟩
  · rw [asks, hmsg, hstep]
    have hcalls := calls_proc { s with queue := queue } o msg
    have hsession := aiding_ofSession { s with queue := queue } o msg
    cases msg with
    | reportStatus status =>
      refine .inl ⟨({ s with queue := queue } : LocEngData).reportStatus status, rfl, nofun, ?_,
        aidingDataForDeletion_reportStatus _ status, rfl⟩
      exact (Calls.of_log rfl).trans (calls_reportStatus { s with queue := queue }
        (fun _ _ => nofun) status)
    | delAidData type =>
      exact .inr (.inl ⟨{ s with queue := queue, aidingDataForDeletion := type }, type, rfl, nofun,
        .of_log rfl, rfl, rfl⟩)
    | down =>
      refine .inr (.inr ⟨rfl, ?_, aidingDataForDeletion_reportStatus _ _,
        .inl ⟨rfl, engineStatus_reportStatus_off _⟩⟩)
      refine (Calls.of_log rfl).trans (hcalls.mono ?_)
      rintro _ he f rfl
      cases he
    | requestNi notif payload => exact .inr (.inr ⟨rfl, .of_log rfl, rfl, .inr ⟨nofun, rfl⟩⟩)
    | up =>
      refine .inr (.inr ⟨rfl, hcalls.mono ?_, ?_, .inr ⟨nofun, ?_⟩⟩)
      · rintro _ he f rfl
        cases he
      · exact apply_ite aidingDataForDeletion _ _ _ |>.trans (ite_self _)
      · exact apply_ite engineStatus _ _ _ |>.trans (ite_self _)
    | _ =>
      obtain ⟨hno, hsame, hstatus⟩ := hsession rfl
      exact .inr (.inr ⟨rfl, (Calls.of_log rfl).trans hno, hsame, .inr ⟨nofun, hstatus⟩⟩)
  · rw [asks, hmsg, hstep]
    exact .inr (.inr ⟨rfl, .of_log rfl, rfl, .inr ⟨nofun, rfl⟩⟩)

/-! ### Nothing is parked while the engine is off -/

/-- What is parked waits for an engine that is on. -/
def ParkedOn (s : LocEngData) : Prop :=
  s.aidingDataForDeletion ≠ 0 → s.engineStatus = gpsStatusEngineOn

/-- Nothing is deleted while the engine is on.  No message changes the engine's status once it has
called for a deletion. -/
def DeletesOff (s : LocEngData) (input : Input) : Prop :=
  ∀ f, .deleteAidingData f ∈ s.news input → (s.step input).engineStatus ≠ gpsStatusEngineOn

/-- The modem does not go down with something parked. -/
def DownUnparked (s : LocEngData) (input : Input) : Prop :=
  s.processed input = some .down → s.aidingDataForDeletion = 0

variable {s}

theorem parkedOn_updateAidingDataForDeletion : s.updateAidingDataForDeletion.ParkedOn := by
  rcases s.updateAidingDataForDeletion_cases with ⟨h, hkeep⟩ | ⟨-, hclear⟩
  · rw [hkeep]
    exact fun hparked => h.resolve_right hparked
  · rw [hclear]
    exact fun hparked => absurd rfl hparked

theorem NoDeletion.not_mem_news {input : Input} (h : s.NoDeletion (s.step input))
    (f : GpsAidingData) : .deleteAidingData f ∉ s.news input :=
  fun hmem => Calls.drop h _ hmem f rfl

/-- Whatever the modem does, nothing is deleted while the engine is on. -/
theorem deletesOff (s : LocEngData) (input : Input) : s.DeletesOff input := by
  have hupdate : ∀ t, s.NoDeletion t → s.step input = t.updateAidingDataForDeletion →
      s.DeletesOff input := by
    intro t hno hstep f hmem
    rcases t.updateAidingDataForDeletion_cases with ⟨-, hkeep⟩ | ⟨hoff, hclear⟩
    · rw [hkeep] at hstep
      rw [← hstep] at hno
      exact absurd hmem (hno.not_mem_news f)
    · rw [hstep, hclear]
      exact hoff
  rcases s.aiding_cases input with ⟨t, -, -, hno, -, hstep⟩ | ⟨t, type, -, -, hno, -, hstep⟩ |
    ⟨-, hno, -⟩
  · exact hupdate t hno hstep
  · exact hupdate t hno hstep
  · exact fun f hmem => absurd hmem (hno.not_mem_news f)

/-- A step parks nothing in an engine that is off, unless the modem goes down. -/
theorem parkedOn_step (h : s.ParkedOn) (input : Input) :
    (s.step input).ParkedOn ↔ s.DownUnparked input := by
  rcases s.aiding_cases input with ⟨t, -, hdown, -, -, hstep⟩ | ⟨t, type, -, hdown, -, -, hstep⟩ |
    ⟨-, -, hsame, ⟨hdown, hoff⟩ | ⟨hdown, hstatus⟩⟩
  · rw [hstep]
    exact iff_of_true parkedOn_updateAidingDataForDeletion fun hmsg => absurd hmsg hdown
  · rw [hstep]
    exact iff_of_true parkedOn_updateAidingDataForDeletion fun hmsg => absurd hmsg hdown
  · rw [ParkedOn, hsame, hoff, DownUnparked]
    constructor
    · intro hparked _
      by_contra hne
      exact absurd (hparked hne) (by decide)
    · exact fun hzero hne => absurd (hzero hdown) hne
  · refine iff_of_true ?_ fun hmsg => absurd hmsg hdown
    rw [ParkedOn, hsame, hstatus]
    exact h

/-- **What is parked waits for an engine that is on**, in the runs in which the modem does not go
down with something parked, and in no others; and in every run nothing is deleted while the
engine is on. -/
theorem parkedOn_always_iff (callbacks : LocCallbacks) (conf : GpsConf) (event : UInt32)
    (inputs : List Input) :
    (Always step ParkedOn (init callbacks conf event) inputs ∧
      StepsMeet step DeletesOff (init callbacks conf event) inputs) ↔
    StepsMeet step DownUnparked (init callbacks conf event) inputs := by
  have hdeletes : StepsMeet step DeletesOff (init callbacks conf event) inputs :=
    stepsMeet_of_forall deletesOff inputs _
  rw [and_iff_left hdeletes]
  have hinv : ∀ (s : LocEngData) (input : Input), True → ParkedOn s → True :=
    fun _ _ _ _ => trivial
  exact always_iff_stepsMeet hinv (fun s input _ h => parkedOn_step h input) inputs _ trivial
    fun h => absurd rfl h

/-- Aiding data is to be deleted while the engine is on; then the modem goes down. -/
def downWithParked : List Input :=
  [.send (.reportStatus gpsStatusEngineOn), .process ⟨true, 0, []⟩, .send (.delAidData 1),
    .process ⟨true, 0, []⟩, .send .down, .process ⟨true, 0, []⟩]

/-- The engine is off, and the aiding data stays parked. -/
theorem not_parkedOn_downWithParked :
    let s := exec step (init ⟨true, true, true, true⟩ ⟨0, 0, 0⟩ 1) downWithParked
    s.aidingDataForDeletion = 1 ∧ s.engineStatus = gpsStatusEngineOff ∧ ¬ s.ParkedOn := by
  have hparked : (exec step (init ⟨true, true, true, true⟩ ⟨0, 0, 0⟩ 1)
    downWithParked).aidingDataForDeletion = 1 := by decide
  have hoff : (exec step (init ⟨true, true, true, true⟩ ⟨0, 0, 0⟩ 1)
    downWithParked).engineStatus = gpsStatusEngineOff := by decide
  refine ⟨hparked, hoff, fun h => ?_⟩
  rw [ParkedOn, hparked, hoff] at h
  exact absurd (h (by decide)) (by decide)

/-! ### What becomes of a request -/

/-- The mask has the bit. -/
def HasBit (mask : GpsAidingData) (i : ℕ) : Prop := mask.toNat.testBit i = true

instance (mask : GpsAidingData) (i : ℕ) : Decidable (HasBit mask i) :=
  inferInstanceAs (Decidable (_ = true))

theorem not_hasBit_zero (i : ℕ) : ¬ HasBit 0 i := by
  rw [HasBit, UInt16.toNat_zero, Nat.zero_testBit]
  exact Bool.false_ne_true

theorem and_eq_left_iff (a b : GpsAidingData) : a &&& b = a ↔ ∀ i, HasBit a i → HasBit b i := by
  rw [← UInt16.toNat_inj, UInt16.toNat_and]
  constructor
  · intro h i hi
    rw [HasBit, ← h, Nat.testBit_and, Bool.and_eq_true] at hi
    exact hi.2
  · intro h
    refine Nat.eq_of_testBit_eq fun i => ?_
    rw [Nat.testBit_and, Bool.and_eq_left_iff_imp]
    exact h i

/-- The bit is parked, or has been deleted since the log had length `k`. -/
def Held (s : LocEngData) (k i : ℕ) : Prop :=
  HasBit s.aidingDataForDeletion i ∨ ∃ f, .deleteAidingData f ∈ s.log.drop k ∧ HasBit f i

variable {s : LocEngData} {k : ℕ}

/-- Where nothing is deleted, it depends on what is parked. -/
theorem NoDeletion.held_iff {t : LocEngData} (h : s.NoDeletion t) (hk : k ≤ s.log.length) (i : ℕ) :
    t.Held k i ↔
      HasBit t.aidingDataForDeletion i ∨ ∃ f, .deleteAidingData f ∈ s.log.drop k ∧ HasBit f i := by
  obtain ⟨es, hlog, hes⟩ := h
  rw [Held, hlog, List.drop_append_of_le_length hk]
  refine or_congr_right (exists_congr fun f => and_congr_left fun _ => ?_)
  rw [List.mem_append, or_iff_left fun hmem => hes _ hmem f rfl]

/-- A release deletes what has been parked. -/
theorem held_updateAidingDataForDeletion (hk : k ≤ s.log.length) (i : ℕ) :
    s.updateAidingDataForDeletion.Held k i ↔ s.Held k i := by
  rcases s.updateAidingDataForDeletion_cases with ⟨-, hkeep⟩ | ⟨-, hclear⟩
  · rw [hkeep]
  · rw [hclear, Held, Held, say, List.drop_append_of_le_length hk]
    constructor
    · rintro (hbit | ⟨f, hmem, hbit⟩)
      · exact absurd hbit (not_hasBit_zero i)
      · rcases List.mem_append.mp hmem with hmem | hmem
        · exact .inr ⟨f, hmem, hbit⟩
        · cases List.mem_singleton.mp hmem
          exact .inl hbit
    · rintro (hbit | ⟨f, hmem, hbit⟩)
      · exact .inr ⟨_, List.mem_append_right _ (List.mem_singleton_self _), hbit⟩
      · exact .inr ⟨f, List.mem_append_left _ hmem, hbit⟩

/-- A step takes away what is parked only to put in its place what it is asked for. -/
theorem held_step (s : LocEngData) (input : Input) (hk : k ≤ s.log.length) (i : ℕ) :
    (s.step input).Held k i ↔
      HasBit ((s.asks input).getD s.aidingDataForDeletion) i ∨
        ∃ f, .deleteAidingData f ∈ s.log.drop k ∧ HasBit f i := by
  have hupdate : ∀ t, s.NoDeletion t → s.step input = t.updateAidingDataForDeletion →
      ((s.step input).Held k i ↔ HasBit t.aidingDataForDeletion i ∨
        ∃ f, .deleteAidingData f ∈ s.log.drop k ∧ HasBit f i) := by
    intro t hno hstep
    have hkt : k ≤ t.log.length := by
      obtain ⟨es, hlog, -⟩ := hno
      rw [hlog, List.length_append]
      omega
    rw [hstep, held_updateAidingDataForDeletion hkt]
    exact NoDeletion.held_iff hno hk i
  rcases s.aiding_cases input with ⟨t, hasks, -, hno, hsame, hstep⟩ |
    ⟨t, type, hasks, -, hno, htype, hstep⟩ | ⟨hasks, hno, hsame, -⟩
  · rw [hasks, hupdate t hno hstep, hsame]
    rfl
  · rw [hasks, hupdate t hno hstep, htype]
    rfl
  · rw [hasks, NoDeletion.held_iff hno hk i, hsame]
    rfl

/-- What is parked after a step has been parked before, and then nothing has been deleted, or it
is what the step has been asked for. -/
theorem parked_step (input : Input) (h : (s.step input).aidingDataForDeletion ≠ 0) :
    s.NoDeletion (s.step input) ∧
      (s.step input).aidingDataForDeletion = (s.asks input).getD s.aidingDataForDeletion := by
  have hupdate : ∀ t, s.NoDeletion t → s.step input = t.updateAidingDataForDeletion →
      s.NoDeletion (s.step input) ∧
        (s.step input).aidingDataForDeletion = t.aidingDataForDeletion := by
    intro t hno hstep
    rcases t.updateAidingDataForDeletion_cases with ⟨-, hkeep⟩ | ⟨-, hclear⟩
    · rw [hstep, hkeep]
      exact ⟨hno, rfl⟩
    · rw [hstep, hclear] at h
      exact absurd rfl h
  rcases s.aiding_cases input with ⟨t, hasks, -, hno, hsame, hstep⟩ |
    ⟨t, type, hasks, -, hno, htype, hstep⟩ | ⟨hasks, hno, hsame, -⟩
  · rw [hasks, ← hsame]
    exact hupdate t hno hstep
  · rw [hasks, ← htype]
    exact hupdate t hno hstep
  · rw [hasks]
    exact ⟨hno, hsame⟩

end LocEngData

/-- The engine, with the masks of the requests that have been processed, each with the length that
the log had then. -/
structure Asked where
  eng : LocEngData
  asked : List (GpsAidingData × ℕ)

namespace Asked

open LocEngData

/-- The engine takes a step. -/
def step (w : Asked) (input : Input) : Asked where
  eng := w.eng.step input
  asked := w.asked ++ (w.eng.asks input).toList.map fun type => (type, w.eng.log.length)

/-- Every bit of every request is parked, or has been deleted since the request was processed. -/
def NothingLost (w : Asked) : Prop :=
  ∀ m k, (m, k) ∈ w.asked → ∀ i, HasBit m i → w.eng.Held k i

/-- A step that overwrites no parked bit. -/
def Covers (w : Asked) (input : Input) : Prop :=
  ∀ type, w.eng.asks input = some type →
    w.eng.aidingDataForDeletion &&& type = w.eng.aidingDataForDeletion

/-- What is parked is what has been asked for last, and nothing has been deleted since. -/
structure Parked (w : Asked) : Prop where
  le_length : ∀ m k, (m, k) ∈ w.asked → k ≤ w.eng.log.length
  last : w.eng.aidingDataForDeletion ≠ 0 → ∃ k, (w.eng.aidingDataForDeletion, k) ∈ w.asked ∧
    ∀ f, .deleteAidingData f ∉ w.eng.log.drop k

variable {w : Asked}

theorem mem_asked_step {input : Input} {m : GpsAidingData} {k : ℕ} :
    (m, k) ∈ (w.step input).asked ↔
      (m, k) ∈ w.asked ∨ w.eng.asks input = some m ∧ k = w.eng.log.length := by
  rw [step, List.mem_append]
  refine or_congr_right ?_
  cases w.eng.asks input with
  | none => exact iff_of_false nofun nofun
  | some type =>
    rw [Option.toList_some, List.map_singleton, List.mem_singleton, Prod.mk.injEq,
      Option.some.injEq, eq_comm]

theorem Parked.step (h : w.Parked) (input : Input) : (w.step input).Parked where
  le_length m k hmem := by
    obtain ⟨es, hlog⟩ := w.eng.log_step input
    show k ≤ (w.eng.step input).log.length
    rw [hlog, List.length_append]
    rcases mem_asked_step.mp hmem with hmem | ⟨-, rfl⟩
    · have hle := h.le_length m k hmem
      omega
    · omega
  last hparked := by
    obtain ⟨⟨es, hlog, hes⟩, hsame⟩ := parked_step input hparked
    show ∃ k, ((w.eng.step input).aidingDataForDeletion, k) ∈ (w.step input).asked ∧
      ∀ f, .deleteAidingData f ∉ (w.eng.step input).log.drop k
    have hne : (w.eng.step input).aidingDataForDeletion ≠ 0 := hparked
    rw [hsame] at hne ⊢
    rw [hlog]
    cases hasks : w.eng.asks input with
    | none =>
      rw [hasks, Option.getD_none] at hne
      obtain ⟨k, hmem, hno⟩ := h.last hne
      refine ⟨k, mem_asked_step.mpr (.inl hmem), fun f hdel => ?_⟩
      rw [List.drop_append_of_le_length (h.le_length _ k hmem)] at hdel
      rcases List.mem_append.mp hdel with hdel | hdel
      · exact hno f hdel
      · exact hes _ hdel f rfl
    | some type =>
      refine ⟨w.eng.log.length, mem_asked_step.mpr (.inr ⟨hasks, rfl⟩), fun f hdel => ?_⟩
      rw [List.drop_left] at hdel
      exact hes _ hdel f rfl

/-- A step loses no request exactly when it overwrites no parked bit. -/
theorem nothingLost_step (hw : w.Parked) (h : w.NothingLost) (input : Input) :
    (w.step input).NothingLost ↔ w.Covers input := by
  cases hasks : w.eng.asks input with
  | none =>
    refine iff_of_true ?_ fun type htype => by rw [hasks] at htype; cases htype
    intro m k hmem i hbit
    rcases mem_asked_step.mp hmem with hmem | ⟨hm, -⟩
    · show (w.eng.step input).Held k i
      rw [w.eng.held_step input (hw.le_length m k hmem), hasks]
      exact h m k hmem i hbit
    · rw [hasks] at hm
      cases hm
  | some type =>
    have hheld : ∀ k ≤ w.eng.log.length, ∀ i, (w.eng.step input).Held k i ↔
        HasBit type i ∨ ∃ f, .deleteAidingData f ∈ w.eng.log.drop k ∧ HasBit f i := by
      intro k hk i
      rw [w.eng.held_step input hk, hasks]
      rfl
    constructor
    · intro hlost type' htype
      obtain rfl : type = type' := Option.some.inj (hasks.symm.trans htype)
      rw [and_eq_left_iff]
      intro i hbit
      have hne : w.eng.aidingDataForDeletion ≠ 0 := by
        intro hzero
        rw [hzero] at hbit
        exact not_hasBit_zero i hbit
      obtain ⟨k, hmem, hno⟩ := hw.last hne
      have hstill := hlost _ k (mem_asked_step.mpr (.inl hmem)) i hbit
      rcases (hheld k (hw.le_length _ k hmem) i).mp hstill with hbit' | ⟨f, hdel, -⟩
      · exact hbit'
      · exact absurd hdel (hno f)
    · intro hcovers m k hmem i hbit
      have hsub := (and_eq_left_iff _ _).mp (hcovers type hasks)
      show (w.eng.step input).Held k i
      rcases mem_asked_step.mp hmem with hmem | ⟨hm, rfl⟩
      · rw [hheld k (hw.le_length m k hmem)]
        exact (h m k hmem i hbit).imp_left (hsub i)
      · obtain rfl : type = m := Option.some.inj (hasks.symm.trans hm)
        exact (hheld _ (Nat.le_refl _) i).mpr (.inl hbit)

/-- **No deletion is lost**, in the runs in which no request overwrites a bit that is parked, and
in no others. -/
theorem nothingLost_always_iff (callbacks : LocCallbacks) (conf : GpsConf) (event : UInt32)
    (inputs : List Input) :
    Always step NothingLost ⟨init callbacks conf event, []⟩ inputs ↔
      StepsMeet step Covers ⟨init callbacks conf event, []⟩ inputs :=
  always_iff_stepsMeet (fun _ input hw _ => hw.step input)
    (fun _ input hw h => nothingLost_step hw h input) inputs _
    ⟨nofun, fun hparked => absurd rfl hparked⟩ nofun

/-- Two requests come while the engine is on; then it is turned off. -/
def askedTwice : List Input :=
  [.send (.reportStatus gpsStatusEngineOn), .process ⟨true, 0, []⟩, .send (.delAidData 1),
    .process ⟨true, 0, []⟩, .send (.delAidData 2), .process ⟨true, 0, []⟩,
    .send (.reportStatus gpsStatusEngineOff), .process ⟨true, 0, []⟩]

/-- The first one has been processed, and its bit is neither parked nor has it been deleted. -/
theorem not_nothingLost_askedTwice :
    let w := exec step ⟨init ⟨true, true, true, true⟩ ⟨0, 0, 0⟩ 1, []⟩ askedTwice
    w.asked = [(1, 1), (2, 1)] ∧ w.eng.aidingDataForDeletion = 0 ∧
      w.eng.log.drop 1 = [.statusCb gpsStatusEngineOff, .deleteAidingData 2] ∧
      ¬ w.NothingLost := by
  have hasked : (exec step ⟨init ⟨true, true, true, true⟩ ⟨0, 0, 0⟩ 1, []⟩ askedTwice).asked =
    [(1, 1), (2, 1)] := by decide
  have hparked : (exec step ⟨init ⟨true, true, true, true⟩ ⟨0, 0, 0⟩ 1, []⟩
    askedTwice).eng.aidingDataForDeletion = 0 := by decide
  have hlog : (exec step ⟨init ⟨true, true, true, true⟩ ⟨0, 0, 0⟩ 1, []⟩
    askedTwice).eng.log.drop 1 = [.statusCb gpsStatusEngineOff, .deleteAidingData 2] := by decide
  refine ⟨hasked, hparked, hlog, fun h => ?_⟩
  have hheld := h 1 1 (by rw [hasked]; exact List.mem_cons_self) 0 (by decide)
  rw [Held, hparked, hlog] at hheld
  rcases hheld with hbit | ⟨f, hmem, hbit⟩
  · exact not_hasBit_zero 0 hbit
  · obtain rfl : f = 2 := by simpa using hmem
    exact absurd hbit (by decide)

end Asked

end Eng
end Nx507j
