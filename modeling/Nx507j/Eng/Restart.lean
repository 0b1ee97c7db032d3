import Mathlib.Data.List.Basic
import Nx507j.Eng.Mute
import Nx507j.Eng.Steps

/-!
# The modem's restart in the middle of a session

When the modem comes back up, a session that was on is started again: `loc_eng_handle_engine_up`
ends it in the adapter and sends a `LocEngStartFix`.  The end of a session makes the adapter's
position mode invalid, and it is with this mode that the session is started again.

## Main definitions

* `LocEngData.given` — the position mode that has been given last.
* `LocEngData.Restarting` — the modem's coming up is processed next, and finds a session.

## Main results

* `LocEngData.given_exec` — what the adapter keeps of the mode that has been given last.
* `LocEngData.resumes_iff` — when the session is started again with the mode that was given.
-/

namespace Nx507j
namespace Eng

open Run

/-- The position mode that a call gives to the modem. -/
def Event.given : Event → Option LocPosMode
  | .setPositionMode mode => some mode
  | _ => none

/-- The message sets the position mode or stops the session. -/
def Msg.setsOrStops : Msg → Bool
  | .positionMode _ | .stopFix => true
  | _ => false

namespace LocEngData

/-- The position mode that has been given last: `LocEngPositionMode` hands it on to the modem. -/
def given (s : LocEngData) : Option LocPosMode := (s.log.filterMap Event.given).getLast?

/-- What is left of a position mode once a session has ended. -/
def invalidated (mode : LocPosMode) : LocPosMode := { mode with mode := locPositionModeInvalid }

/-- The modem's coming up is processed next and finds a session, with `P` as the mode given last;
neither a position mode nor a stop is queued behind it. -/
structure Restarting (s : LocEngData) (queue : List Msg) (P : LocPosMode) : Prop where
  up : s.queue = .up :: queue
  kept : ∀ msg ∈ queue, msg.setsOrStops = false
  inSession : s.adapter.mNavigating = true
  given : s.given = some P

/-! ### What the adapter keeps of the mode -/

variable {s s' : LocEngData} {P : LocPosMode}

theorem Calls.given (h : Calls (fun e => e.given = none) s s') : s'.given = s.given := by
  obtain ⟨es, hlog, hes⟩ := h
  have hnil : es.filterMap Event.given = [] := List.filterMap_eq_nil_iff.mpr hes
  rw [LocEngData.given, LocEngData.given, hlog, List.filterMap_append, hnil, List.append_nil]

/-- Only a position mode that is set is given. -/
theorem given_proc (o : Outcome) {msg : Msg} (h : ∀ mode, msg ≠ .positionMode mode) :
    (msg.proc o s).given = s.given := by
  refine Calls.given ((calls_proc s o msg).mono fun e he => ?_)
  cases e with
  | setPositionMode mode =>
    cases msg with
    | positionMode mode => exact absurd rfl (h mode)
    | _ => cases he
  | _ => rfl

/-- The adapter has the mode, as it was given or invalidated. -/
def Fits (P : LocPosMode) (s : LocEngData) : Prop :=
  s.adapter.mFixCriteria = P ∨ s.adapter.mFixCriteria = invalidated P

theorem SameFix.fits (h : SameFix s s') (hfits : s.Fits P) : s'.Fits P := by
  rw [Fits]
  rcases h with hsame | ⟨inSession, hset⟩
  · rw [hsame]
    exact hfits
  · rw [hset]
    cases inSession with
    | true => exact hfits
    | false =>
      refine .inr ?_
      rcases hfits with hP | hP <;> rw [LocEngData.setInSession, hP] <;> rfl

/-- Once the mode is invalidated, it stays so until another one is set. -/
theorem SameFix.invalidated (h : SameFix s s') (hP : s.adapter.mFixCriteria = invalidated P) :
    s'.adapter.mFixCriteria = LocEngData.invalidated P := by
  rcases h with hsame | ⟨inSession, hset⟩
  · rw [hsame, hP]
  · rw [hset]
    cases inSession with
    | true => exact hP
    | false =>
      rw [LocEngData.setInSession, hP]
      rfl

theorem fits_step (h : ∀ P, s.given = some P → s.Fits P) (input : Input) :
    ∀ P, (s.step input).given = some P → (s.step input).Fits P := by
  intro P hgiven
  rcases s.step_cases input with ⟨o, msg, queue, -, -, -, hstep⟩ | ⟨-, queue, ni, mute, measurement,
    -, hstep⟩
  · rw [hstep] at hgiven ⊢
    by_cases hmode : ∃ mode, msg = .positionMode mode
    · obtain ⟨mode, rfl⟩ := hmode
      have hlast : (s.log ++ [Event.setPositionMode mode]).filterMap Event.given =
          s.log.filterMap Event.given ++ [mode] := List.filterMap_append
      have hmode' : some mode = some P := by
        refine Eq.trans ?_ hgiven
        show _ = ((s.log ++ [Event.setPositionMode mode]).filterMap Event.given).getLast?
        rw [hlast, List.getLast?_concat]
      exact .inl (Option.some.inj hmode')
    · rw [not_exists] at hmode
      rw [given_proc o hmode] at hgiven
      exact (adapter_proc o hmode).fits (h P hgiven)
  · rw [hstep] at hgiven ⊢
    exact h P hgiven

/-- **What the adapter keeps of the mode that has been given last**, in every run. -/
theorem given_exec (callbacks : LocCallbacks) (conf : GpsConf) (event : UInt32)
    (inputs : List Input) :
    ∀ P, (exec step (init callbacks conf event) inputs).given = some P →
      (exec step (init callbacks conf event) inputs).Fits P := by
  have hstep : ∀ (s : LocEngData) (input : Input),
      (∀ P, s.given = some P → s.Fits P) →
        ∀ P, (step s input).given = some P → (step s input).Fits P :=
    fun _ input h => fits_step h input
  exact exec_inv hstep inputs _ nofun

/-! ### From the modem's coming up to the start that it sends -/

/-- The step processes a message. -/
def Input.isProcess : Input → Bool
  | .process _ => true
  | _ => false

/-- The start is queued behind `before`, and until it comes the mode stays invalidated. -/
structure Awaits (s : LocEngData) (before : List Msg) (P : LocPosMode) : Prop where
  queue : before ++ [.startFix] <+: s.queue
  kept : ∀ msg ∈ before, msg.setsOrStops = false
  given : s.given = some P
  invalidated : s.adapter.mFixCriteria = invalidated P

/-- The modem's coming up sends the start. -/
theorem Restarting.awaits {queue : List Msg} (h : s.Restarting queue P) (hfits : s.Fits P)
    (o : Outcome) : (s.step (.process o)).Awaits queue P := by
  have hstep : s.step (.process o) =
      (({ s with queue := queue } : LocEngData).setInSession false).sendMsg .startFix := by
    rw [step, h.up]
    exact if_pos h.inSession
  rw [hstep]
  refine ⟨List.prefix_rfl, h.kept, h.given, ?_⟩
  show { s.adapter.mFixCriteria with mode := locPositionModeInvalid } = _
  rcases hfits with hP | hP <;> rw [hP] <;> rfl

/-- A message that is processed while the start is awaited leaves the mode as it is. -/
theorem Awaits.process {msg : Msg} {before : List Msg} (h : s.Awaits (msg :: before) P)
    (o : Outcome) : (s.step (.process o)).Awaits before P := by
  obtain ⟨rest, hqueue⟩ := h.queue
  have hstep : s.step (.process o) =
      msg.proc o { s with queue := before ++ [.startFix] ++ rest } := by
    rw [step, ← hqueue]
    rfl
  have hmode : ∀ mode, msg ≠ .positionMode mode := by
    rintro mode rfl
    cases h.kept _ List.mem_cons_self
  rw [hstep]
  refine ⟨?_, fun msg' hmem => h.kept msg' (List.mem_cons_of_mem _ hmem), ?_, ?_⟩
  · rcases queue_proc { s with queue := before ++ [.startFix] ++ rest } o msg with hsame | hsent
    · rw [hsame]
      exact List.prefix_append _ rest
    · rw [hsent, List.append_assoc]
      exact List.prefix_append _ _
  · rw [given_proc o hmode]
    exact h.given
  · exact (adapter_proc o hmode).invalidated h.invalidated

theorem Awaits.beside {before : List Msg} (h : s.Awaits before P) {input : Input}
    (hinput : input.isProcess = false) : (s.step input).Awaits before P := by
  rcases s.step_cases input with ⟨o, msg, queue, rfl, -⟩ | ⟨-, queue, ni, mute, measurement,
    hprefix, hstep⟩
  · cases hinput
  · rw [hstep]
    exact ⟨h.queue.trans hprefix, h.kept, h.given, h.invalidated⟩

/-- When as many messages have been processed as were queued before it, the start comes next. -/
theorem Awaits.exec : ∀ (inputs : List Input) {s : LocEngData} {before : List Msg},
    s.Awaits before P → inputs.countP Input.isProcess = before.length →
      (exec step s inputs).Awaits [] P := by
  intro inputs
  induction inputs with
  | nil =>
    intro s before h hcount
    obtain rfl := List.eq_nil_of_length_eq_zero hcount.symm
    exact h
  | cons input inputs ih =>
    intro s before h hcount
    rw [List.countP_cons] at hcount
    cases hinput : input.isProcess with
    | true =>
      rw [hinput, if_pos rfl] at hcount
      cases before with
      | nil => cases hcount
      | cons msg before =>
        cases input with
        | process o => exact ih (h.process o) (Nat.succ.inj hcount)
        | _ => cases hinput
    | false =>
      rw [hinput, if_neg Bool.false_ne_true, Nat.add_zero] at hcount
      exact ih (h.beside hinput) hcount

/-- A start that comes next calls for a fix with the mode that the adapter has, unless a session
is on. -/
theorem news_startFix {rest : List Msg} (hqueue : s.queue = .startFix :: rest) (o : Outcome) :
    s.news (.process o) =
      if s.adapter.mNavigating then [] else [.startFix s.adapter.mFixCriteria] := by
  have hstep : s.step (.process o) =
      ({ s with queue := rest } : LocEngData).startHandler o.startFix := by
    rw [step, hqueue]
    rfl
  rw [news, hstep, startHandler]
  dsimp only
  split
  · exact List.drop_length
  · split
    · exact List.drop_left
    · exact List.drop_left

/-- **What a restarted session is started with.**  The start that the modem's coming up sends
calls for a fix with the mode that was given last exactly when that mode is the invalid one, and
no session is on by then. -/
theorem resumes_iff (callbacks : LocCallbacks) (conf : GpsConf) (event : UInt32)
    (inputs : List Input) (queue : List Msg) (P : LocPosMode)
    (h : (exec step (init callbacks conf event) inputs).Restarting queue P) (o : Outcome)
    (inputs' : List Input) (hcount : inputs'.countP Input.isProcess = queue.length)
    (o' : Outcome) :
    let s := exec step (init callbacks conf event) (inputs ++ .process o :: inputs')
    s.queue.head? = some .startFix ∧
      (s.news (.process o') = [.startFix P] ↔
        P.mode = locPositionModeInvalid ∧ s.adapter.mNavigating = false) := by
  have hfits := given_exec callbacks conf event inputs P h.given
  have hawaits := Awaits.exec inputs' (h.awaits hfits o) hcount
  intro s
  have hs : s = exec step ((exec step (init callbacks conf event) inputs).step (.process o))
      inputs' := by
    rw [← exec_cons, ← exec_append]
  rw [← hs] at hawaits
  obtain ⟨rest, hqueue⟩ := hawaits.queue
  have hqueue' : s.queue = .startFix :: rest := hqueue.symm
  refine ⟨by rw [hqueue']; rfl, ?_⟩
  rw [news_startFix hqueue', hawaits.invalidated]
  cases s.adapter.mNavigating with
  | true => exact iff_of_false nofun nofun
  | false =>
    rw [if_neg Bool.false_ne_true, List.singleton_inj, Event.startFix.injEq]
    constructor
    · intro hP
      exact ⟨congrArg LocPosMode.mode hP.symm, rfl⟩
    · rintro ⟨hmode, -⟩
      rw [LocEngData.invalidated, ← hmode]

/-- A standalone position mode, with a fix every second. -/
def everySecond : LocPosMode := ⟨0, 0, 1000, 0, 0, "", ""⟩

/-- A session is started; then the modem comes up. -/
def upInSession : List Input :=
  [.send (.positionMode everySecond), .process ⟨true, 0, []⟩, .send .startFix,
    .process ⟨true, 0, []⟩, .send .up]

/-- The session is started again, and not with the mode that it was started with. -/
theorem not_resumed_upInSession :
    let s := exec step (init ⟨true, true, true, true⟩ ⟨0, 0, 0⟩ 1) upInSession
    s.log = [.setPositionMode everySecond, .startFix everySecond] ∧
      s.Restarting [] everySecond ∧
      (s.step (.process ⟨true, 0, []⟩)).news (.process ⟨true, 0, []⟩) =
        [.startFix ⟨-1, 0, 1000, 0, 0, "", ""⟩] ∧
      (s.step (.process ⟨true, 0, []⟩)).news (.process ⟨true, 0, []⟩) ≠ [.startFix everySecond] :=
  ⟨by decide, ⟨by decide, nofun, by decide, by decide⟩, by decide, by decide⟩

theorem resumes_iff_upInSession :
    let s := exec step (init ⟨true, true, true, true⟩ ⟨0, 0, 0⟩ 1)
      (upInSession ++ [.process ⟨true, 0, []⟩])
    s.queue.head? = some .startFix ∧
      (s.news (.process ⟨true, 0, []⟩) = [.startFix everySecond] ↔
        everySecond.mode = locPositionModeInvalid ∧ s.adapter.mNavigating = false) :=
  resumes_iff ⟨true, true, true, true⟩ ⟨0, 0, 0⟩ 1 upInSession [] everySecond
    ⟨by decide, nofun, by decide, by decide⟩ ⟨true, 0, []⟩ [] rfl ⟨true, 0, []⟩

end LocEngData

end Eng
end Nx507j
