import Mathlib.Data.List.Basic
import Nx507j.Lib.Run

/-!
# The configuration and the modem

`loc_eng_configuration_update`, on a framework thread, changes `gps_conf` and sends the engine a
message for each parameter that has changed; `loc_eng_reinit`, on the engine's thread, reads the
parameters and sends all of them again, when the engine is initialised and when the modem comes
back up.  Neither takes a lock: what `loc_eng_reinit` has read may be changed, and the change sent,
before it sends what it has read.

From `loc_eng.cpp`.  Each read and each write of a parameter is a step, and so is each message that
is sent; a copy of the whole `gps_conf` is a step for each parameter.  Of the parameters, those are
kept that the update compares or keeps; what the parser makes of the text is part of the input.

## Main definitions

* `Configuration`, `Configuration.step` — `gps_conf`, the two threads and the engine's queue.
* `Configuration.Agrees` — at rest, the modem has been told what is in `gps_conf`.
* `Configuration.KeepsLatest` — a step that sends nothing that is out of date.

## Main results

* `Configuration.agreesAtRest_exec` — in a run of such steps, the modem and `gps_conf` agree at
  rest.
-/

namespace Nx507j
namespace Eng

open Run

/-! ### Data -/

/-- Parameters of `gps_conf`. -/
inductive ConfParam
  | gpsLock
  | suplVer
  | lppProfile
  | aGlonassPosProtocolSelect
  | suplMode
  deriving DecidableEq, Repr

namespace ConfParam

def all : List ConfParam := [gpsLock, suplVer, lppProfile, aGlonassPosProtocolSelect, suplMode]

/-- The parameters that the update compares, in its order. -/
def compared : List ConfParam := [suplVer, lppProfile, aGlonassPosProtocolSelect, suplMode]

/-- The parameters that the update keeps, in its order. -/
def kept : List ConfParam := [suplVer, lppProfile, aGlonassPosProtocolSelect, gpsLock]

/-- The parameters that `loc_eng_reinit` sends, in its order. -/
def sent : List ConfParam := [suplVer, lppProfile, aGlonassPosProtocolSelect]

theorem mem_all (f : ConfParam) : f ∈ all := by cases f <;> decide

variable {f : ConfParam}

theorem mem_compared (h : f ∈ sent) : f ∈ compared := by
  have hsubset : sent ⊆ compared := by decide
  exact hsubset h

theorem mem_kept (h : f ∈ sent) : f ∈ kept := by
  have hsubset : sent ⊆ kept := by decide
  exact hsubset h

theorem ne_suplMode (h : f ∈ sent) : f ≠ suplMode := by
  rintro rfl
  revert h
  decide

end ConfParam

/-- The messages: `param` is the `LocEngSuplVer`, `LocEngLppConfig` or `LocEngAGlonassProtocol`
with a value, or the `LocEngSuplMode`, which tells the modem nothing of the value. -/
inductive ConfMsg
  | init
  | up
  | param (f : ConfParam) (value : UInt32)
  deriving DecidableEq, Repr

/-- The value that the message tells the modem of a parameter. -/
def ConfMsg.value (f : ConfParam) : ConfMsg → Option UInt32
  | .param g value => if g = f then some value else none
  | _ => none

/-- Where the framework's thread is in `loc_eng_configuration_update`: what is still to be copied to
`gps_conf_tmp`, what the parser is still to set, what is still to be compared, the parameter that
has changed before it is read and before its message is sent, what is still to be kept, and what is
still to be copied back. -/
inductive FrameworkThread
  | idle
  | load (todo : List ConfParam) (items : List (ConfParam × UInt32))
  | set (items : List (ConfParam × UInt32))
  | compare (todo : List ConfParam)
  | read (f : ConfParam) (todo : List ConfParam)
  | send (f : ConfParam) (value : UInt32) (todo : List ConfParam)
  | keep (todo : List ConfParam)
  | store (todo : List ConfParam)
  deriving DecidableEq, Repr

/-- Where the engine's thread is: between two messages, or in `loc_eng_reinit`, with what is still
to be sent. -/
inductive EngineThread
  | idle
  | read (todo : List ConfParam)
  | send (f : ConfParam) (value : UInt32) (todo : List ConfParam)
  deriving DecidableEq, Repr

/-- `gps_conf` with its temporary copy, the two threads, the engine's queue and what the modem has
been told last. -/
structure Configuration where
  gpsConf : ConfParam → UInt32
  gpsConfTmp : ConfParam → UInt32
  framework : FrameworkThread
  engine : EngineThread
  queue : List ConfMsg
  passed : ConfParam → Option UInt32

namespace Configuration

/-! ### Steps -/

/-- After `loc_eng_init`. -/
def init (gpsConf : ConfParam → UInt32) : Configuration where
  gpsConf := gpsConf
  gpsConfTmp := gpsConf
  framework := .idle
  engine := .idle
  queue := [.init]
  passed _ := none

def sendMsg (msg : ConfMsg) (s : Configuration) : Configuration :=
  { s with queue := s.queue ++ [msg] }

/-- The framework's thread goes on. -/
def frameworkStep (s : Configuration) : Configuration :=
  match s.framework with
  | .idle => s
  | .load [] items => { s with framework := .set items }
  | .load (f :: todo) items =>
    { s with
      gpsConfTmp := Function.update s.gpsConfTmp f (s.gpsConf f)
      framework := .load todo items }
  | .set [] => { s with framework := .compare ConfParam.compared }
  | .set ((f, value) :: items) =>
    { s with gpsConf := Function.update s.gpsConf f value, framework := .set items }
  | .compare [] => { s with framework := .keep ConfParam.kept }
  | .compare (f :: todo) =>
    { s with framework := if s.gpsConfTmp f ≠ s.gpsConf f then .read f todo else .compare todo }
  | .read f todo => { s with framework := .send f (s.gpsConf f) todo }
  | .send f value todo => { s.sendMsg (.param f value) with framework := .compare todo }
  | .keep [] => { s with framework := .store ConfParam.all }
  | .keep (f :: todo) =>
    { s with
      gpsConfTmp := Function.update s.gpsConfTmp f (s.gpsConf f)
      framework := .keep todo }
  | .store [] => { s with framework := .idle }
  | .store (f :: todo) =>
    { s with
      gpsConf := Function.update s.gpsConf f (s.gpsConfTmp f)
      framework := .store todo }

/-- The engine's thread takes a message: `loc_eng_reinit` is called, or the modem is told. -/
def proc (msg : ConfMsg) (s : Configuration) : Configuration :=
  match msg with
  | .init | .up => { s with engine := .read ConfParam.sent }
  -- `setCapabilities` is not given the value
  | .param .suplMode _ => s
  | .param f value => { s with passed := Function.update s.passed f (some value) }

/-- The engine's thread goes on. -/
def engineStep (s : Configuration) : Configuration :=
  match s.engine with
  | .idle =>
    match s.queue with
    | [] => s
    | msg :: queue => { s with queue := queue }.proc msg
  | .read [] => { s with engine := .idle }
  | .read (f :: todo) => { s with engine := .send f (s.gpsConf f) todo }
  | .send f value todo => { s.sendMsg (.param f value) with engine := .read todo }

/-- What can happen: the configuration is updated, the modem comes back up, or one of the threads
goes on. -/
inductive Input
  | update (items : List (ConfParam × UInt32))
  | up
  | framework
  | engine
  deriving DecidableEq, Repr

/-- One step. -/
def step (s : Configuration) : Input → Configuration
  | .update items =>
    if s.framework = .idle then { s with framework := .load ConfParam.all items } else s
  | .up => s.sendMsg .up
  | .framework => s.frameworkStep
  | .engine => s.engineStep

/-! ### Agreement at rest -/

/-- No call is in progress, and no message is queued. -/
def AtRest (s : Configuration) : Prop := s.framework = .idle ∧ s.engine = .idle ∧ s.queue = []

instance (s : Configuration) : Decidable s.AtRest := by unfold AtRest; infer_instance

/-- At rest, the modem has been told last what is in `gps_conf`. -/
def Agrees (s : Configuration) : Prop :=
  s.AtRest → ∀ f ∈ ConfParam.sent, s.passed f = some (s.gpsConf f)

/-- The value that the parser leaves in a parameter. -/
def setValue (f : ConfParam) (value : UInt32) (items : List (ConfParam × UInt32)) : UInt32 :=
  items.foldl (fun value item => if item.1 = f then item.2 else value) value

/-- The value that the parameter has when the update in progress has set everything. -/
def final (s : Configuration) (f : ConfParam) : UInt32 :=
  match s.framework with
  | .load _ items | .set items => setValue f (s.gpsConf f) items
  | _ => s.gpsConf f

/-- The update in progress is still going to send the parameter. -/
def WillSend (s : Configuration) (f : ConfParam) : Prop :=
  match s.framework with
  | .idle | .keep _ | .store _ => False
  | .load _ _ => s.gpsConf f ≠ s.final f
  | .set _ => s.gpsConfTmp f ≠ s.final f
  | .compare todo => f ∈ todo ∧ s.gpsConfTmp f ≠ s.gpsConf f
  | .read g todo | .send g _ todo => f = g ∨ f ∈ todo ∧ s.gpsConfTmp f ≠ s.gpsConf f

instance (s : Configuration) (f : ConfParam) : Decidable (s.WillSend f) := by
  unfold WillSend; split <;> infer_instance

/-- A step that sends nothing that is out of date: what `loc_eng_reinit` has read of a parameter is
what the parameter has in the end, or the update in progress is still going to send it. -/
def KeepsLatest (s : Configuration) (i : Input) : Prop :=
  match i, s.engine with
  | .engine, .send f value _ => value = s.final f ∨ s.WillSend f
  | _, _ => True

instance (s : Configuration) (i : Input) : Decidable (s.KeepsLatest i) := by
  unfold KeepsLatest; split <;> infer_instance

/-! ### What has been sent last -/

variable {s : Configuration} {f : ConfParam}

/-- The value that will have been passed to the modem last when the queue has been processed. -/
def latest (s : Configuration) (f : ConfParam) : Option UInt32 :=
  (s.queue.filterMap (ConfMsg.value f)).getLast?.or (s.passed f)

theorem latest_sendMsg (msg : ConfMsg) :
    (s.sendMsg msg).latest f = (msg.value f).or (s.latest f) := by
  rw [latest, latest, sendMsg, List.filterMap_append, List.getLast?_append, Option.or_assoc]
  congr 1
  cases hvalue : msg.value f <;> simp [hvalue]

theorem proc_param {g : ConfParam} (value : UInt32) (hg : g ≠ .suplMode) :
    s.proc (.param g value) = { s with passed := Function.update s.passed g (some value) } := by
  cases g with
  | suplMode => exact absurd rfl hg
  | _ => rfl

/-- The modem is told the values of the parameters that are sent. -/
theorem passed_proc_param (g : ConfParam) (value : UInt32) (hf : f ∈ ConfParam.sent) :
    (s.proc (.param g value)).passed f = if g = f then some value else s.passed f := by
  by_cases hmode : g = .suplMode
  · subst hmode
    rw [if_neg (Ne.symm (ConfParam.ne_suplMode hf))]
    rfl
  · rw [proc_param value hmode]
    show Function.update s.passed g (some value) f = _
    by_cases hg : g = f
    · rw [if_pos hg, hg, Function.update_self]
    · rw [if_neg hg, Function.update_of_ne (Ne.symm hg)]

/-- A message that is processed moves from the queue to what has been passed. -/
theorem latest_proc {msg : ConfMsg} {queue : List ConfMsg} (hqueue : s.queue = msg :: queue)
    (hf : f ∈ ConfParam.sent) : (proc msg { s with queue := queue }).latest f = s.latest f := by
  cases msg with
  | init => rw [latest, latest, hqueue]; rfl
  | up => rw [latest, latest, hqueue]; rfl
  | param g value =>
    have hq : (proc (.param g value) { s with queue := queue }).queue = queue := by
      cases g <;> rfl
    rw [latest, latest, hqueue, passed_proc_param g value hf, hq, List.filterMap_cons]
    by_cases hg : g = f
    · simp only [ConfMsg.value, if_pos hg, List.getLast?_cons]
      cases (queue.filterMap (ConfMsg.value f)).getLast? <;> rfl
    · simp only [ConfMsg.value, if_neg hg]

/-- `loc_eng_reinit` is still going to send the parameter. -/
def EngineWill (s : Configuration) (f : ConfParam) : Prop :=
  (match s.engine with
    | .idle => False
    | .read todo => f ∈ todo
    | .send g _ todo => f = g ∨ f ∈ todo) ∨ .init ∈ s.queue ∨ .up ∈ s.queue

/-! ### The update -/

/-- What the update has copied to `gps_conf_tmp`, and what it is about to send, is what is in
`gps_conf`. -/
def Copied (s : Configuration) : Prop :=
  match s.framework with
  | .load todo _ => ∀ f, f ∉ todo → s.gpsConfTmp f = s.gpsConf f
  | .send f value _ => value = s.gpsConf f
  | .keep todo => ∀ f ∈ ConfParam.kept, f ∉ todo → s.gpsConfTmp f = s.gpsConf f
  | .store _ => ∀ f ∈ ConfParam.kept, s.gpsConfTmp f = s.gpsConf f
  | _ => True

/-- Copying a parameter: what had been copied still is, and so is that one. -/
theorem update_copied {conf tmp : ConfParam → UInt32} {g : ConfParam} {todo : List ConfParam}
    {P : ConfParam → Prop} (h : ∀ f, P f → f ∉ g :: todo → tmp f = conf f) :
    ∀ f, P f → f ∉ todo → Function.update tmp g (conf g) f = conf f := by
  intro f hP hf
  by_cases hg : f = g
  · rw [hg, Function.update_self]
  · rw [Function.update_of_ne hg]
    exact h f hP (by simp [hg, hf])

theorem copied_frameworkStep (h : s.Copied) : s.frameworkStep.Copied := by
  rw [Copied] at h
  unfold frameworkStep
  cases hframework : s.framework with
  | idle => rw [Copied, hframework]; trivial
  | load todo items =>
    rw [hframework] at h
    cases todo with
    | nil => trivial
    | cons f todo =>
      intro g hg
      exact update_copied (P := fun _ => True) (fun f _ => h f) g trivial hg
  | set items => rcases items with _ | ⟨⟨f, value⟩, items⟩ <;> trivial
  | compare todo =>
    cases todo with
    | nil => exact fun f hf hnot => absurd hf hnot
    | cons f todo =>
      simp only [Copied]
      split_ifs <;> trivial
  | read f todo => exact rfl
  | send f value todo => trivial
  | keep todo =>
    rw [hframework] at h
    cases todo with
    | nil => exact fun f hf => h f hf List.not_mem_nil
    | cons f todo => exact update_copied h
  | store todo =>
    rw [hframework] at h
    cases todo with
    | nil => trivial
    | cons f todo =>
      intro g hg
      by_cases hgf : g = f
      · simp [hgf]
      · simp [hgf, h g hg]

/-- A step of the update leaves the values that the parameters have in the end. -/
theorem final_frameworkStep (h : s.Copied) (hf : f ∈ ConfParam.kept) :
    s.frameworkStep.final f = s.final f := by
  rw [Copied] at h
  unfold frameworkStep
  cases hframework : s.framework with
  | idle => rfl
  | load todo items => cases todo <;> simp [final, hframework]
  | set items =>
    rcases items with _ | ⟨⟨g, value⟩, items⟩
    · simp [final, hframework, setValue]
    · simp only [final, hframework, setValue, List.foldl_cons]
      by_cases hg : g = f
      · rw [if_pos hg, hg, Function.update_self]
      · rw [if_neg hg, Function.update_of_ne (Ne.symm hg)]
  | compare todo =>
    cases todo with
    | nil => simp [final, hframework]
    | cons g todo =>
      simp only [final, hframework]
      split_ifs <;> rfl
  | read g todo => simp [final, hframework]
  | send g value todo => simp [final, hframework, sendMsg]
  | keep todo => cases todo <;> simp [final, hframework]
  | store todo =>
    rw [hframework] at h
    cases todo with
    | nil => simp [final, hframework]
    | cons g todo =>
      simp only [final, hframework]
      by_cases hg : f = g
      · rw [← hg, Function.update_self, h f hf]
      · rw [Function.update_of_ne hg]

theorem latest_frameworkStep (h : ∀ value todo, s.framework ≠ .send f value todo) :
    s.frameworkStep.latest f = s.latest f := by
  unfold frameworkStep
  cases hframework : s.framework with
  | send g value todo =>
    have hg : g ≠ f := fun hg => h value todo (hg ▸ hframework)
    show (s.sendMsg (.param g value)).latest f = _
    rw [latest_sendMsg, ConfMsg.value, if_neg hg, Option.none_or]
  | load todo items => cases todo <;> rfl
  | set items => rcases items with _ | ⟨⟨g, value⟩, items⟩ <;> rfl
  | compare todo => cases todo <;> rfl
  | keep todo => cases todo <;> rfl
  | store todo => cases todo <;> rfl
  | idle | read => rfl

/-- What is left to do of an update that is going to send the parameter. -/
theorem willSend_frameworkStep (h : s.Copied) (hf : f ∈ ConfParam.sent) (hwill : s.WillSend f) :
    s.frameworkStep.WillSend f ∨ s.frameworkStep.latest f = some (s.frameworkStep.final f) := by
  have hfinal := final_frameworkStep h (ConfParam.mem_kept hf)
  rw [Copied] at h
  rw [WillSend] at hwill
  unfold frameworkStep at *
  cases hframework : s.framework with
  | idle => rw [hframework] at hwill; exact hwill.elim
  | keep todo => rw [hframework] at hwill; exact hwill.elim
  | store todo => rw [hframework] at hwill; exact hwill.elim
  | load todo items =>
    rw [hframework] at h hwill hfinal
    left
    cases todo with
    | nil =>
      show s.gpsConfTmp f ≠ _
      rw [hfinal, h f List.not_mem_nil]
      exact hwill
    | cons g todo =>
      show s.gpsConf f ≠ _
      rw [hfinal]
      exact hwill
  | set items =>
    rw [hframework] at hwill hfinal
    left
    rcases items with _ | ⟨⟨g, value⟩, items⟩
    · refine ⟨ConfParam.mem_compared hf, ?_⟩
      rw [← hfinal] at hwill
      exact hwill
    · show s.gpsConfTmp f ≠ _
      rw [hfinal]
      exact hwill
  | compare todo =>
    rw [hframework] at hwill
    left
    cases todo with
    | nil => cases hwill.1
    | cons g todo =>
      simp only
      split_ifs with hchanged
      · obtain rfl | hmem := List.mem_cons.mp hwill.1
        · exact .inl rfl
        · exact .inr ⟨hmem, hwill.2⟩
      · obtain rfl | hmem := List.mem_cons.mp hwill.1
        · exact absurd hwill.2 hchanged
        · exact ⟨hmem, hwill.2⟩
  | read g todo =>
    rw [hframework] at hwill
    exact .inl hwill
  | send g value todo =>
    rw [hframework] at h hwill
    obtain rfl | hwill := hwill
    · right
      show (s.sendMsg (.param f value)).latest f = some (s.gpsConf f)
      rw [latest_sendMsg, ConfMsg.value, if_pos rfl, h, Option.some_or]
    · exact .inl hwill

/-! ### Runs -/

/-- The modem is told the value that the parameter has in the end, or one of the threads is still
going to send it. -/
def Told (s : Configuration) (f : ConfParam) : Prop :=
  s.EngineWill f ∨ s.WillSend f ∨ s.latest f = some (s.final f)

theorem EngineWill.mono {s' : Configuration} (hengine : s'.engine = s.engine)
    (hqueue : ∀ msg ∈ s.queue, msg ∈ s'.queue) (h : s.EngineWill f) : s'.EngineWill f := by
  rw [EngineWill, hengine]
  exact h.imp_right fun h => h.imp (hqueue _) (hqueue _)

theorem engineWill_frameworkStep (h : s.EngineWill f) : s.frameworkStep.EngineWill f := by
  refine h.mono ?_ ?_
  · unfold frameworkStep
    split <;> rfl
  · intro msg hmsg
    unfold frameworkStep
    split <;> first | exact hmsg | exact List.mem_append_left _ hmsg

/-- **A step of the update.** -/
theorem told_frameworkStep (h : s.Copied) (hf : f ∈ ConfParam.sent) (htold : s.Told f) :
    s.frameworkStep.Told f := by
  obtain hengine | hwill | hlatest := htold
  · exact .inl (engineWill_frameworkStep hengine)
  · exact .inr (willSend_frameworkStep h hf hwill)
  · by_cases hsend : ∀ value todo, s.framework ≠ .send f value todo
    · have hfinal := final_frameworkStep h (ConfParam.mem_kept hf)
      exact .inr (.inr (by rw [latest_frameworkStep hsend, hfinal, hlatest]))
    · -- the message that is sent is that of the parameter
      push Not at hsend
      obtain ⟨value, todo, hsend⟩ := hsend
      have hwill : s.WillSend f := by rw [WillSend, hsend]; exact .inl rfl
      exact .inr (willSend_frameworkStep h hf hwill)

theorem engineStep_idle {msg : ConfMsg} {queue : List ConfMsg} (hengine : s.engine = .idle)
    (hqueue : s.queue = msg :: queue) : s.engineStep = proc msg { s with queue := queue } := by
  simp only [engineStep, hengine, hqueue]

/-- **A step of the engine's thread** that sends nothing that is out of date. -/
theorem told_engineStep (hf : f ∈ ConfParam.sent) (hkeeps : s.KeepsLatest .engine)
    (htold : s.Told f) : s.engineStep.Told f := by
  cases hengine : s.engine with
  | idle =>
    cases hqueue : s.queue with
    | nil =>
      have hsame : s.engineStep = s := by simp only [engineStep, hengine, hqueue]
      rw [hsame]
      exact htold
    | cons msg queue =>
      rw [engineStep_idle hengine hqueue]
      cases msg with
      | init => exact .inl (.inl hf)
      | up => exact .inl (.inl hf)
      | param g value =>
        have hlatest := latest_proc hqueue hf
        obtain ⟨passed, hproc⟩ : ∃ passed, proc (.param g value) { s with queue := queue } =
            { s with queue := queue, passed := passed } := by
          cases g <;> exact ⟨_, rfl⟩
        rw [hproc] at hlatest ⊢
        refine htold.imp (fun h => .inr ?_) (fun h => h.imp_right fun h => hlatest.trans h)
        simpa [EngineWill, hengine, hqueue] using h
  | read todo =>
    cases todo with
    | nil =>
      rw [engineStep, hengine]
      refine htold.imp_left fun h => .inr ?_
      simpa [EngineWill, hengine] using h
    | cons g todo =>
      rw [engineStep, hengine]
      refine htold.imp_left fun h => ?_
      rw [EngineWill, hengine] at h
      exact h.imp_left List.mem_cons.mp
  | send g value todo =>
    have hlate : value = s.final g ∨ s.WillSend g := by
      simpa only [KeepsLatest, hengine] using hkeeps
    rw [engineStep, hengine]
    by_cases hg : f = g
    · subst hg
      obtain hvalue | hwill := hlate
      · refine .inr (.inr ?_)
        show (s.sendMsg (.param f value)).latest f = some (s.final f)
        rw [latest_sendMsg, ConfMsg.value, if_pos rfl, hvalue, Option.some_or]
      · exact .inr (.inl hwill)
    · obtain h | hwill | hlatest := htold
      · left
        rw [EngineWill, hengine] at h
        refine h.imp (fun h => h.resolve_left hg) fun h => ?_
        exact h.imp (List.mem_append_left _) (List.mem_append_left _)
      · exact .inr (.inl hwill)
      · refine .inr (.inr ?_)
        show (s.sendMsg (.param g value)).latest f = some (s.final f)
        rw [latest_sendMsg, ConfMsg.value, if_neg (Ne.symm hg), Option.none_or, hlatest]

/-- An update begins: it is going to send what it changes. -/
theorem told_update {items : List (ConfParam × UInt32)} (hidle : s.framework = .idle)
    (htold : s.Told f) : Told { s with framework := .load ConfParam.all items } f := by
  obtain h | hwill | hlatest := htold
  · exact .inl h
  · rw [WillSend, hidle] at hwill
    exact hwill.elim
  · by_cases hsame : s.gpsConf f = setValue f (s.gpsConf f) items
    · rw [final, hidle] at hlatest
      exact .inr (.inr (hlatest.trans (congrArg some hsame)))
    · exact .inr (.inl hsame)

theorem copied_engineStep (h : s.Copied) : s.engineStep.Copied := by
  unfold engineStep
  cases s.engine with
  | idle =>
    cases s.queue with
    | nil => exact h
    | cons msg queue =>
      cases msg with
      | init | up => exact h
      | param g value => cases g <;> exact h
  | read todo => cases todo <;> exact h
  | send g value todo => exact h

/-- **The modem and `gps_conf` agree at rest**, in a run in which `loc_eng_reinit` sends nothing
that is out of date. -/
theorem agreesAtRest_exec (gpsConf : ConfParam → UInt32) (is : List Input)
    (h : StepsMeet step KeepsLatest (init gpsConf) is) : Always step Agrees (init gpsConf) is := by
  have hstep : ∀ s i, (Copied s ∧ ∀ f ∈ ConfParam.sent, s.Told f) → s.KeepsLatest i →
      Copied (s.step i) ∧ ∀ f ∈ ConfParam.sent, (s.step i).Told f := by
    rintro s i ⟨hcopied, htold⟩ hkeeps
    cases i with
    | update items =>
      simp only [step]
      split_ifs with hidle
      · exact ⟨fun f hf => absurd f.mem_all hf, fun f hf => told_update hidle (htold f hf)⟩
      · exact ⟨hcopied, htold⟩
    | up =>
      exact ⟨hcopied, fun f _ => .inl (.inr (.inr (by simp [step, sendMsg])))⟩
    | framework =>
      exact ⟨copied_frameworkStep hcopied, fun f hf => told_frameworkStep hcopied hf (htold f hf)⟩
    | engine =>
      exact ⟨copied_engineStep hcopied, fun f hf => told_engineStep hf hkeeps (htold f hf)⟩
  have hagrees : ∀ s, (Copied s ∧ ∀ f ∈ ConfParam.sent, s.Told f) → s.Agrees := by
    rintro s ⟨-, h⟩ ⟨hframework, hengine, hqueue⟩ f hf
    obtain hwill | hwill | hlatest := h f hf
    · simp [EngineWill, hengine, hqueue] at hwill
    · simp [WillSend, hframework] at hwill
    · simpa [latest, final, hframework, hqueue] using hlatest
  exact always_of_inv hstep hagrees is (init gpsConf)
    ⟨trivial, fun f _ => .inl (.inr (.inl List.mem_cons_self))⟩ h

/-- The values of `loc_default_parameters`. -/
def defaults : ConfParam → UInt32
  | .suplVer => 0x10000
  | .suplMode => 0x3
  | _ => 0

/-- An update after the engine has been initialised, and a restart of the modem. -/
theorem agreesAtRest_exec_restart :
    let is : List Input := List.replicate 11 .engine ++ [.update [(.suplVer, 0x20000)]] ++
      List.replicate 26 .framework ++ [.up] ++ List.replicate 12 .engine
    let s := exec step (init defaults) is
    Always step Agrees (init defaults) is ∧ s.AtRest ∧ s.passed .suplVer = some 0x20000 :=
  ⟨agreesAtRest_exec _ _ (by decide), by decide, by decide⟩

/-- The engine has read `SUPL_VER` when it is updated, and sends what it has read after the
message of the update. -/
theorem not_agrees_overtaken :
    let is : List Input := List.replicate 2 .engine ++ [.update [(.suplVer, 0x20000)]] ++
      List.replicate 26 .framework ++ List.replicate 10 .engine
    let s := exec step (init defaults) is
    s.AtRest ∧ s.passed .suplVer = some 0x10000 ∧ s.gpsConf .suplVer = 0x20000 := by
  decide

end Configuration
end Eng
end Nx507j
