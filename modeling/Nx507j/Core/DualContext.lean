import Mathlib.Data.List.Count
import Mathlib.Logic.Function.Basic
import Nx507j.Lib.Trace
import Nx507j.Utils.Target

/-!
# The two contexts

`LocDualContext.cpp` makes a context for the foreground and one for the background when they are
asked for, from any thread, and lets both share one `MsgTask`.  The first context that is there is
told the feature configuration, and is told it again when the modem comes up.  A mutex is held while
a context is made, but neither when the first message is sent to it nor when the modem comes up.

Each statement under the mutex is a step of the thread that holds it.  What is found when a library
is opened is part of the input.

## Main definitions

* `LocDualContext`, `LocDualContext.step` — the static members, the objects that have been made, and
  the threads.
* `createLocApi`, `getLBSProxy` — the constructor of a context.

## Main results

* `kept_exec` — the invariant of all runs.
* `contexts_exec` — there is one context of each kind, and it is there when it is used.
-/

namespace Nx507j

open Run Target Trace

/-! ### Contexts -/

/-- What `dlopen` and `dlsym` find: no library, one without the function, or what its function
returns. -/
inductive Library (α : Type)
  | missing
  | noGetter
  | getter (result : Option α)
  deriving DecidableEq, Repr

/-- What the function returns, if there is one. -/
def Library.get {α : Type} : Library α → Option α
  | .getter result => result
  | .missing | .noGetter => none

/-- `LBSProxyBase`, or a class of the library's, whose `getLocApi` may return something. -/
inductive LBSProxy
  | base
  | library (hasLocApi : Bool)
  deriving DecidableEq, Repr

/-- Where the `LocApiBase` of a context comes from. -/
inductive LocApiSource
  | base
  | lbsProxy
  | v02
  | rpc
  deriving DecidableEq, Repr

/-- The libraries and the target that a constructor finds. -/
structure Installed where
  target : UInt32
  lbs : Library LBSProxy
  v02 : Library Unit
  rpc : Library Unit
  deriving DecidableEq, Repr

/-- `ContextBase::getLBSProxy`. -/
def getLBSProxy (lib : Library LBSProxy) : LBSProxy := lib.get.getD .base

/-- `mLBSProxy->getLocApi`. -/
def LBSProxy.getLocApi : LBSProxy → Option LocApiSource
  | .library true => some .lbsProxy
  | .library false | .base => none

/-- `ContextBase::createLocApi`.  The RPC library is only tried where the other one is missing. -/
def createLocApi (installed : Installed) (mLBSProxy : LBSProxy) : LocApiSource :=
  let locApi :=
    if targetMpq ≠ installed.target then
      match mLBSProxy.getLocApi with
      | some locApi => some locApi
      | none =>
        match installed.v02 with
        | .missing => installed.rpc.get.map fun _ => .rpc
        | v02 => v02.get.map fun _ => .v02
    else none
  locApi.getD .base

/-- A `LocDualContext`. -/
structure Context where
  mMsgTask : ℕ
  mExcludedMask : BitVec 32
  mLBSProxy : LBSProxy
  mLocApi : LocApiSource
  deriving DecidableEq, Repr

/-- The constructor. -/
def Context.new (msgTask : ℕ) (exMask : BitVec 32) (installed : Installed) : Context :=
  let mLBSProxy := getLBSProxy installed.lbs
  ⟨msgTask, exMask, mLBSProxy, createLocApi installed mLBSProxy⟩

/-- `getLocFgContext` or `getLocBgContext`. -/
inductive Side
  | fg
  | bg
  deriving DecidableEq, Repr

/-- `mFgExclMask` and `mBgExclMask`; the second one has the bits of the reports that a background
client is not to get. -/
def Side.exclMask : Side → BitVec 32
  | .fg => 0
  | .bg => 1 <<< 0 ||| 1 <<< 1 ||| 1 <<< 2 ||| 1 <<< 3 ||| 1 <<< 7 ||| 1 <<< 8 ||| 1 <<< 14 |||
    1 <<< 24

/-! ### Threads -/

/-- A call, with the first message. -/
structure ContextCall where
  side : Side
  firstMsg : Option ℕ
  deriving DecidableEq, Repr

/-- Where a thread is: out of the functions, before the mutex, in the section that it protects, or
behind it. -/
inductive CallStage
  | out
  | waiting (call : ContextCall)
  | inside
  | behind (call : ContextCall)
  deriving DecidableEq, Repr

/-- Where the thread is that holds the mutex; the stages are named by what comes next. -/
inductive SectionStage
  | testContext (call : ContextCall)
  | makeContext (call : ContextCall) (msgTask : ℕ)
  | storeContext (call : ContextCall) (context : ℕ)
  | testInject (call : ContextCall)
  | inject (call : ContextCall)
  | unlock (call : ContextCall)
  deriving DecidableEq, Repr

/-- What happens outside: the feature configuration is passed on in a call or when the modem comes
up, and a call returns its context, to which it has sent its message. -/
inductive ContextEvent
  | inject (context : ℕ)
  | engineUp (context : ℕ)
  | returned (call : ContextCall) (context : Option ℕ)
  deriving DecidableEq, Repr

/-- It is the injection of a call. -/
def ContextEvent.isInject : ContextEvent → Bool
  | .inject _ => true
  | _ => false

/-- The static members, the objects that have been made (an address is a place in the list, or a
number for a `MsgTask`), the thread that holds the mutex, and all the threads. -/
structure LocDualContext where
  mMsgTask : Option ℕ
  mContext : Side → Option ℕ
  mInjectContext : Option ℕ
  msgTasks : ℕ
  contexts : List Context
  mutex : Option (ℕ × SectionStage)
  thread : ℕ → CallStage
  log : List ContextEvent

namespace LocDualContext

/-- Before the first call. -/
def init : LocDualContext := ⟨none, fun _ => none, none, 0, [], none, fun _ => .out, []⟩

/-- What can happen: a thread makes a call, takes the mutex, goes on in the section, or goes on
behind it, and `LocApiBase::handleEngineUpEvent` is called for the `LocApi` of a context. -/
inductive Input
  | call (t : ℕ) (call : ContextCall)
  | lock (t : ℕ)
  | go (installed : Installed)
  | behind (t : ℕ)
  | engineUp (context : ℕ)
  deriving DecidableEq, Repr

/-- Writes into the log. -/
def say (e : ContextEvent) (s : LocDualContext) : LocDualContext := { s with log := s.log ++ [e] }

/-- `getMsgTask`, with its result. -/
def getMsgTask (s : LocDualContext) : LocDualContext × ℕ :=
  match s.mMsgTask with
  | some task => (s, task)
  | none => ({ s with mMsgTask := some s.msgTasks, msgTasks := s.msgTasks + 1 }, s.msgTasks)

/-- `injectFeatureConfig`, with what is written into the log. -/
def injectFeatureConfig (curContext : Option ℕ) (event : ℕ → ContextEvent) (s : LocDualContext) :
    LocDualContext :=
  if curContext = s.mInjectContext then
    match s.mInjectContext with
    | some context => s.say (event context)
    | none => s
  else s

/-- The next statement in the section. -/
def goOn (s : LocDualContext) (t : ℕ) (installed : Installed) : SectionStage → LocDualContext
  | .testContext call =>
    match s.mContext call.side with
    | some _ => { s with mutex := some (t, .testInject call) }
    | none =>
      let (s, msgTask) := s.getMsgTask
      { s with mutex := some (t, .makeContext call msgTask) }
  | .makeContext call msgTask =>
    { s with
      contexts := s.contexts ++ [Context.new msgTask call.side.exclMask installed]
      mutex := some (t, .storeContext call s.contexts.length) }
  | .storeContext call context =>
    { s with
      mContext := Function.update s.mContext call.side (some context)
      mutex := some (t, .testInject call) }
  | .testInject call =>
    match s.mInjectContext with
    | some _ => { s with mutex := some (t, .unlock call) }
    | none =>
      { s with mInjectContext := s.mContext call.side, mutex := some (t, .inject call) }
  | .inject call =>
    { s.injectFeatureConfig s.mInjectContext .inject with mutex := some (t, .unlock call) }
  | .unlock call =>
    { s with mutex := none, thread := Function.update s.thread t (.behind call) }

/-- One step.  A thread takes the mutex only when no other one holds it. -/
def step (s : LocDualContext) : Input → LocDualContext
  | .call t call =>
    if s.thread t = .out then { s with thread := Function.update s.thread t (.waiting call) }
    else s
  | .lock t =>
    match s.thread t, s.mutex with
    | .waiting call, none =>
      { s with
        mutex := some (t, .testContext call)
        thread := Function.update s.thread t .inside }
    | _, _ => s
  | .go installed =>
    match s.mutex with
    | some (t, stage) => s.goOn t installed stage
    | none => s
  | .behind t =>
    match s.thread t with
    | .behind call =>
      { s.say (.returned call (s.mContext call.side)) with
        thread := Function.update s.thread t .out }
    | _ => s
  | .engineUp context =>
    if context < s.contexts.length then s.injectFeatureConfig (some context) .engineUp else s

/-! ### The invariant -/

/-- A context that is being stored. -/
def storing (side : Side) : Option (ℕ × SectionStage) → ℕ
  | some (_, .storeContext call _) => if call.side = side then 1 else 0
  | _ => 0

/-- An injection that is due. -/
def injecting : Option (ℕ × SectionStage) → ℕ
  | some (_, .inject _) => 1
  | _ => 0

/-- The object at an address is a context of the kind. -/
def IsContext (s : LocDualContext) (side : Side) (context : ℕ) : Prop :=
  ∃ c, s.contexts[context]? = some c ∧ c.mExcludedMask = side.exclMask

/-- What a thread knows in the section. -/
def StageOk (s : LocDualContext) : SectionStage → Prop
  | .testContext _ => True
  | .makeContext call msgTask =>
    s.mMsgTask = some msgTask ∧ s.mContext call.side = none
  | .storeContext call context => s.mContext call.side = none ∧ s.IsContext call.side context
  | .testInject call => s.mContext call.side ≠ none
  | .inject call => s.mContext call.side ≠ none ∧ s.mInjectContext ≠ none
  | .unlock call => s.mContext call.side ≠ none ∧ 0 < s.log.countP ContextEvent.isInject

/-- An event that tells the truth, after those that come before it. -/
def EventOk (s : LocDualContext) (before : List ContextEvent) : ContextEvent → Prop
  | .inject context | .engineUp context => s.mInjectContext = some context
  | .returned call context => context ≠ none ∧ s.mContext call.side = context ∧
    0 < before.countP ContextEvent.isInject

/-- The invariant. -/
structure Kept (s : LocDualContext) : Prop where
  task : s.mMsgTask = none ∧ s.msgTasks = 0 ∨ s.mMsgTask = some 0 ∧ s.msgTasks = 1
  shared : ∀ c ∈ s.contexts, s.mMsgTask = some c.mMsgTask
  context : ∀ side context, s.mContext side = some context → s.IsContext side context
  once : ∀ side, s.contexts.countP (·.mExcludedMask = side.exclMask) =
    (s.mContext side).elim 0 (fun _ => 1) + storing side s.mutex
  injected : s.log.countP ContextEvent.isInject + injecting s.mutex =
    s.mInjectContext.elim 0 fun _ => 1
  stage : ∀ t stage, s.mutex = some (t, stage) → s.StageOk stage
  behind : ∀ t call, s.thread t = .behind call →
    s.mContext call.side ≠ none ∧ 0 < s.log.countP ContextEvent.isInject
  events : ∀ before e after, s.log = before ++ e :: after → s.EventOk before e
  injectContext : ∀ context, s.mInjectContext = some context → ∃ side, s.IsContext side context

theorem kept_init : Kept init where
  task := .inl ⟨rfl, rfl⟩
  shared := by simp [init]
  context := by simp [init]
  once := by simp [init, storing]
  injected := rfl
  stage := by simp [init]
  behind := by simp [init]
  events := by simp [init]
  injectContext := by simp [init]

variable {s : LocDualContext}

/-- An event that tells the truth goes on to, while no member loses its value. -/
theorem EventOk.mono {s' : LocDualContext}
    (hcontext : ∀ side, s.mContext side ≠ none → s'.mContext side = s.mContext side)
    (hinject : s.mInjectContext ≠ none → s'.mInjectContext = s.mInjectContext)
    {before : List ContextEvent} {e : ContextEvent} (h : s.EventOk before e) :
    s'.EventOk before e := by
  cases e with
  | inject context | engineUp context =>
    have hsome : s.mInjectContext = some context := h
    exact (hinject (by rw [hsome]; exact Option.some_ne_none _)).trans hsome
  | returned call context =>
    obtain ⟨hne, heq, hcount⟩ := h
    exact ⟨hne, (hcontext _ (by rw [heq]; exact hne)).trans heq, hcount⟩

/-- What a thread writes into the mutex and its own stage. -/
theorem Kept.of_mutex (h : Kept s) {mutex : Option (ℕ × SectionStage)} (thread : ℕ → CallStage)
    (hstoring : ∀ side, storing side mutex = storing side s.mutex)
    (hinjecting : injecting mutex = injecting s.mutex)
    (hstage : ∀ t stage, mutex = some (t, stage) → s.StageOk stage)
    (hbehind : ∀ t call, thread t = .behind call →
      s.mContext call.side ≠ none ∧ 0 < s.log.countP ContextEvent.isInject) :
    Kept { s with mutex := mutex, thread := thread } where
  task := h.task
  shared := h.shared
  context := h.context
  once side := by rw [hstoring]; exact h.once side
  injected := by rw [hinjecting]; exact h.injected
  stage := hstage
  behind := hbehind
  events := h.events
  injectContext := h.injectContext

/-- The thread in the section goes on to another stage. -/
theorem Kept.enter (h : Kept s) {t : ℕ} {stage stage' : SectionStage}
    (hm : s.mutex = some (t, stage))
    (hstoring : ∀ side, storing side (some (t, stage')) = storing side (some (t, stage)))
    (hinjecting : injecting (some (t, stage')) = injecting (some (t, stage)))
    (hstage : s.StageOk stage') : Kept { s with mutex := some (t, stage') } :=
  h.of_mutex s.thread (fun side => (hstoring side).trans (by rw [hm]))
    (hinjecting.trans (by rw [hm]))
    (fun u stage hu => by
      obtain ⟨-, rfl⟩ := Prod.mk.inj (Option.some.inj hu)
      exact hstage)
    h.behind

theorem Kept.testContext (h : Kept s) {t : ℕ} {call : ContextCall} (installed : Installed)
    (hm : s.mutex = some (t, .testContext call)) :
    Kept (s.goOn t installed (.testContext call)) := by
  cases hcontext : s.mContext call.side with
  | some context =>
    have hgo : s.goOn t installed (.testContext call) =
        { s with mutex := some (t, .testInject call) } := by
      simp only [goOn, hcontext]
    rw [hgo]
    refine h.enter hm (fun side => rfl) rfl ?_
    rw [StageOk, hcontext]
    exact Option.some_ne_none _
  | none =>
    rcases h.task with ⟨hnone, htasks⟩ | ⟨hsome, htasks⟩
    · -- the first context makes the `MsgTask`
      have hgo : s.goOn t installed (.testContext call) =
          { s with
            mMsgTask := some 0
            msgTasks := 1
            mutex := some (t, .makeContext call 0) } := by
        simp only [goOn, hcontext, getMsgTask, hnone, htasks]
      rw [hgo]
      constructor
      · exact .inr ⟨rfl, rfl⟩
      · intro c hc
        have hc' := h.shared c hc
        rw [hnone] at hc'
        cases hc'
      · exact h.context
      · intro side
        have honce := h.once side
        rw [hm] at honce
        exact honce
      · have hinjected := h.injected
        rw [hm] at hinjected
        exact hinjected
      · intro u stage hu
        obtain ⟨-, rfl⟩ := Prod.mk.inj (Option.some.inj hu)
        exact ⟨rfl, hcontext⟩
      · exact h.behind
      · exact h.events
      · exact h.injectContext
    · have hgo : s.goOn t installed (.testContext call) =
          { s with mutex := some (t, .makeContext call 0) } := by
        simp only [goOn, hcontext, getMsgTask, hsome]
      rw [hgo]
      exact h.enter hm (fun side => rfl) rfl ⟨hsome, hcontext⟩

theorem Kept.makeContext (h : Kept s) {t : ℕ} {call : ContextCall} {msgTask : ℕ}
    (installed : Installed) (hm : s.mutex = some (t, .makeContext call msgTask)) :
    Kept (s.goOn t installed (.makeContext call msgTask)) := by
  obtain ⟨htask, hnone⟩ := h.stage t _ hm
  have hold : ∀ side context, s.IsContext side context →
      ∃ c, (s.contexts ++ [Context.new msgTask call.side.exclMask installed])[context]? = some c ∧
        c.mExcludedMask = side.exclMask := by
    rintro side context ⟨c, hc, hmask⟩
    exact ⟨c, by rw [List.getElem?_append_left (List.getElem?_eq_some_iff.mp hc).1, hc], hmask⟩
  constructor
  · exact h.task
  · intro c hc
    rcases List.mem_append.mp hc with hc | hc
    · exact h.shared c hc
    · rw [List.mem_singleton.mp hc]
      exact htask
  · exact fun side context hside => hold side context (h.context side context hside)
  · intro side
    have honce := h.once side
    rw [hm] at honce
    simp only [goOn, List.countP_append, List.countP_singleton, honce, storing, Context.new]
    have hmasks : call.side.exclMask = side.exclMask ↔ call.side = side := by
      constructor
      · intro heq
        revert heq
        cases call.side <;> cases side <;> decide
      · intro heq
        rw [heq]
    simp only [hmasks, decide_eq_true_eq]
    omega
  · have hinjected := h.injected
    rw [hm] at hinjected
    exact hinjected
  · intro u stage hu
    obtain ⟨-, rfl⟩ := Prod.mk.inj (Option.some.inj hu)
    exact ⟨hnone, _, List.getElem?_concat_length .., rfl⟩
  · exact h.behind
  · exact fun before e after heq =>
      EventOk.mono (fun _ _ => rfl) (fun _ => rfl) (h.events before e after heq)
  · exact fun context hinject => (h.injectContext context hinject).imp fun side =>
      hold side context

theorem Kept.storeContext (h : Kept s) {t : ℕ} {call : ContextCall} {context : ℕ}
    (installed : Installed) (hm : s.mutex = some (t, .storeContext call context)) :
    Kept (s.goOn t installed (.storeContext call context)) := by
  obtain ⟨hnone, hcontext⟩ := h.stage t _ hm
  have hkeep : ∀ side, s.mContext side ≠ none →
      Function.update s.mContext call.side (some context) side = s.mContext side := by
    intro side hside
    refine Function.update_of_ne ?_ _ _
    rintro rfl
    exact hside hnone
  constructor
  · exact h.task
  · exact h.shared
  · intro side context' hside
    simp only [goOn, Function.update_apply] at hside
    split at hside
    · next heq =>
      obtain rfl := Option.some.inj hside
      rw [heq]
      exact hcontext
    · exact h.context side context' hside
  · intro side
    have honce := h.once side
    rw [hm] at honce
    simp only [goOn, Function.update_apply, storing] at honce ⊢
    by_cases heq : call.side = side
    · subst heq
      simpa [hnone] using honce
    · simpa [heq, Ne.symm heq] using honce
  · have hinjected := h.injected
    rw [hm] at hinjected
    exact hinjected
  · intro u stage hu
    obtain ⟨-, rfl⟩ := Prod.mk.inj (Option.some.inj hu)
    rw [StageOk, goOn]
    dsimp only
    rw [Function.update_self]
    exact Option.some_ne_none _
  · intro u call' hu
    obtain ⟨hside, hcount⟩ := h.behind u call' hu
    refine ⟨?_, hcount⟩
    rw [goOn]
    dsimp only
    rwa [hkeep _ hside]
  · refine fun before e after heq => EventOk.mono ?_ ?_ (h.events before e after heq)
    · exact hkeep
    · exact fun _ => rfl
  · exact h.injectContext

theorem Kept.testInject (h : Kept s) {t : ℕ} {call : ContextCall} (installed : Installed)
    (hm : s.mutex = some (t, .testInject call)) :
    Kept (s.goOn t installed (.testInject call)) := by
  have hside : s.mContext call.side ≠ none := h.stage t _ hm
  have hinjected := h.injected
  rw [hm] at hinjected
  cases hinject : s.mInjectContext with
  | some context =>
    have hgo : s.goOn t installed (.testInject call) =
        { s with mutex := some (t, .unlock call) } := by
      simp only [goOn, hinject]
    rw [hinject] at hinjected
    rw [hgo]
    exact h.enter hm (fun side => rfl) rfl
      (And.intro hside (Nat.lt_of_lt_of_eq Nat.zero_lt_one hinjected.symm))
  | none =>
    obtain ⟨context, hcontext⟩ := Option.ne_none_iff_exists'.mp hside
    have hgo : s.goOn t installed (.testInject call) =
        { s with mInjectContext := some context, mutex := some (t, .inject call) } := by
      simp only [goOn, hinject, hcontext]
    rw [hinject] at hinjected
    rw [hgo]
    constructor
    · exact h.task
    · exact h.shared
    · exact h.context
    · intro side
      have honce := h.once side
      rw [hm] at honce
      exact honce
    · exact congrArg (· + 1) hinjected
    · intro u stage hu
      obtain ⟨-, rfl⟩ := Prod.mk.inj (Option.some.inj hu)
      exact And.intro hside (Option.some_ne_none _)
    · exact h.behind
    · refine fun before e after heq => EventOk.mono ?_ ?_ (h.events before e after heq)
      · exact fun _ _ => rfl
      · exact fun hne => absurd hinject hne
    · rintro context' hcontext'
      obtain rfl := Option.some.inj hcontext'
      exact ⟨call.side, h.context call.side context hcontext⟩

theorem Kept.inject (h : Kept s) {t : ℕ} {call : ContextCall} (installed : Installed)
    (hm : s.mutex = some (t, .inject call)) : Kept (s.goOn t installed (.inject call)) := by
  obtain ⟨hside, hne⟩ := h.stage t _ hm
  obtain ⟨context, hcontext⟩ := Option.ne_none_iff_exists'.mp hne
  have hinjected := h.injected
  rw [hm, hcontext] at hinjected
  have hgo : s.goOn t installed (.inject call) =
      { s with
        log := s.log ++ [ContextEvent.inject context], mutex := some (t, .unlock call) } := by
    simp only [goOn, injectFeatureConfig, hcontext, if_true, say]
  have hcount : (s.log ++ [ContextEvent.inject context]).countP ContextEvent.isInject =
      s.log.countP ContextEvent.isInject + 1 := by
    rw [List.countP_append]
    rfl
  rw [hgo]
  constructor
  · exact h.task
  · exact h.shared
  · exact h.context
  · intro side
    have honce := h.once side
    rw [hm] at honce
    exact honce
  · show (s.log ++ [ContextEvent.inject context]).countP ContextEvent.isInject + 0 = _
    rw [hcount, hcontext]
    exact hinjected
  · intro u stage hu
    obtain ⟨-, rfl⟩ := Prod.mk.inj (Option.some.inj hu)
    refine ⟨hside, ?_⟩
    show 0 < (s.log ++ [ContextEvent.inject context]).countP ContextEvent.isInject
    rw [hcount]
    exact Nat.succ_pos _
  · intro u call' hu
    obtain ⟨hside', hpos⟩ := h.behind u call' hu
    refine ⟨hside', ?_⟩
    show 0 < (s.log ++ [ContextEvent.inject context]).countP ContextEvent.isInject
    rw [hcount]
    exact Nat.succ_pos _
  · exact forall_split_concat h.events hcontext
  · exact h.injectContext

theorem Kept.goOn (h : Kept s) {t : ℕ} {stage : SectionStage} (installed : Installed)
    (hm : s.mutex = some (t, stage)) : Kept (s.goOn t installed stage) := by
  cases stage with
  | testContext call => exact h.testContext installed hm
  | makeContext call msgTask => exact h.makeContext installed hm
  | storeContext call context => exact h.storeContext installed hm
  | testInject call => exact h.testInject installed hm
  | inject call => exact h.inject installed hm
  | unlock call =>
    obtain ⟨hside, hcount⟩ := h.stage t _ hm
    refine h.of_mutex _ (fun side => by rw [hm]; rfl) (by rw [hm]; rfl) nofun ?_
    intro u call' hu
    simp only [Function.update_apply] at hu
    split at hu
    · obtain rfl := CallStage.behind.inj hu
      exact ⟨hside, hcount⟩
    · exact h.behind u call' hu

/-- An event that is not the injection of a call. -/
theorem Kept.say (h : Kept s) {e : ContextEvent} (thread : ℕ → CallStage)
    (he : e.isInject = false) (hok : s.EventOk s.log e)
    (hthread : ∀ t call, thread t = .behind call → s.thread t = .behind call) :
    Kept { s.say e with thread := thread } := by
  have hcount : (s.log ++ [e]).countP ContextEvent.isInject =
      s.log.countP ContextEvent.isInject := by
    rw [List.countP_append, List.countP_singleton, he]
    rfl
  constructor
  · exact h.task
  · exact h.shared
  · exact h.context
  · exact h.once
  · show (s.log ++ [e]).countP ContextEvent.isInject + _ = _
    rw [hcount]
    exact h.injected
  · intro u stage hu
    have hstage := h.stage u stage hu
    cases stage with
    | unlock call =>
      refine ⟨hstage.1, ?_⟩
      show 0 < (s.log ++ [e]).countP ContextEvent.isInject
      rw [hcount]
      exact hstage.2
    | _ => exact hstage
  · intro u call hu
    obtain ⟨hside, hpos⟩ := h.behind u call (hthread u call hu)
    refine ⟨hside, ?_⟩
    show 0 < (s.log ++ [e]).countP ContextEvent.isInject
    rw [hcount]
    exact hpos
  · exact forall_split_concat h.events hok
  · exact h.injectContext

/-- **Every step of every thread keeps the invariant.** -/
theorem Kept.step (h : Kept s) (i : Input) : Kept (s.step i) := by
  cases i with
  | call t call =>
    rw [LocDualContext.step]
    split
    · refine h.of_mutex _ (fun _ => rfl) rfl h.stage fun u call' hu => ?_
      simp only [Function.update_apply] at hu
      split at hu
      · cases hu
      · exact h.behind u call' hu
    · exact h
  | lock t =>
    rw [LocDualContext.step]
    split
    · next call hthread hm =>
      refine h.of_mutex _ (fun _ => by rw [hm]; rfl) (by rw [hm]; rfl) ?_ fun u call' hu => ?_
      · intro u stage hu
        obtain ⟨-, rfl⟩ := Prod.mk.inj (Option.some.inj hu)
        trivial
      · simp only [Function.update_apply] at hu
        split at hu
        · cases hu
        · exact h.behind u call' hu
    · exact h
  | go installed =>
    rw [LocDualContext.step]
    split
    · next hm => exact h.goOn installed hm
    · exact h
  | behind t =>
    rw [LocDualContext.step]
    split
    · next call hthread =>
      obtain ⟨hside, hcount⟩ := h.behind t call hthread
      refine h.say _ rfl ⟨hside, rfl, hcount⟩ fun u call' hu => ?_
      simp only [Function.update_apply] at hu
      split at hu
      · cases hu
      · exact hu
    · exact h
  | engineUp context =>
    rw [LocDualContext.step]
    split
    · unfold injectFeatureConfig
      split
      · next heq =>
        rw [← heq]
        exact h.say s.thread rfl heq.symm fun _ _ hu => hu
      · exact h
    · exact h

/-- A restart of the modem passes the feature configuration on to the context that it has been
passed on to, and to no other. -/
theorem log_engineUp (h : Kept s) (context : ℕ) :
    (s.step (.engineUp context)).log =
      if s.mInjectContext = some context then s.log ++ [.engineUp context] else s.log := by
  rw [LocDualContext.step]
  by_cases hinject : s.mInjectContext = some context
  · -- an object that is there
    obtain ⟨side, c, hc, -⟩ := h.injectContext context hinject
    rw [if_pos (List.getElem?_eq_some_iff.mp hc).1, if_pos hinject]
    simp only [injectFeatureConfig, hinject, if_true, LocDualContext.say]
  · rw [if_neg hinject]
    split
    · rw [injectFeatureConfig, if_neg (Ne.symm hinject)]
    · rfl

theorem kept_exec (inputs : List Input) : Kept (exec LocDualContext.step init inputs) :=
  exec_inv (fun _ i h => h.step i) inputs _ kept_init

/-- **One context of each kind.**  Whatever threads ask for contexts, and however their steps come
between each other, there is one `MsgTask` at most, one context of each kind at most, and all
contexts share the `MsgTask`.  One call at most passes the feature configuration on, and it does
so before any call returns; each restart of the modem passes it on anew to the same context, and to
no other.  Each call returns a context of its kind, the same for all calls. -/
theorem contexts_exec (inputs : List Input) :
    let s := exec LocDualContext.step init inputs
    s.msgTasks ≤ 1 ∧ (∀ c ∈ s.contexts, s.mMsgTask = some c.mMsgTask) ∧
    (∀ side : Side, s.contexts.countP (·.mExcludedMask = side.exclMask) ≤ 1) ∧
    s.log.countP ContextEvent.isInject ≤ 1 ∧
    (∀ context, .inject context ∈ s.log ∨ .engineUp context ∈ s.log →
      s.mInjectContext = some context) ∧
    (∀ context, (s.step (.engineUp context)).log =
      if s.mInjectContext = some context then s.log ++ [.engineUp context] else s.log) ∧
    ∀ before call context after, s.log = before ++ .returned call context :: after →
      (∃ a c, context = some a ∧ s.mContext call.side = some a ∧ s.contexts[a]? = some c ∧
        c.mExcludedMask = call.side.exclMask) ∧
      0 < before.countP ContextEvent.isInject := by
  intro s
  have h : Kept s := kept_exec inputs
  refine ⟨?_, h.shared, ?_, ?_, ?_, log_engineUp h, ?_⟩
  · rcases h.task with ⟨-, htasks⟩ | ⟨-, htasks⟩
    · omega
    · omega
  · intro side
    have honce := h.once side
    cases hside : s.mContext side with
    | none =>
      rw [hside] at honce
      have hstoring : storing side s.mutex ≤ 1 := by
        unfold storing
        split
        · split <;> omega
        · omega
      simp only [Option.elim] at honce
      omega
    | some context =>
      -- a context that is there is not stored again
      have hstoring : storing side s.mutex = 0 := by
        unfold storing
        split
        · next t call context' hm =>
          have hstage := h.stage t _ hm
          split
          · next heq =>
            have hnone := hstage.1
            rw [heq, hside] at hnone
            cases hnone
          · rfl
        · rfl
      rw [hside, hstoring] at honce
      simp only [Option.elim] at honce
      omega
  · have hinjected := h.injected
    cases hinject : s.mInjectContext <;> rw [hinject] at hinjected <;>
      simp only [Option.elim] at hinjected <;> omega
  · rintro context (hmem | hmem)
    · obtain ⟨before, after, heq⟩ := List.append_of_mem hmem
      exact h.events before _ after heq
    · obtain ⟨before, after, heq⟩ := List.append_of_mem hmem
      exact h.events before _ after heq
  · intro before call context after heq
    obtain ⟨hne, hside, hcount⟩ := h.events before _ after heq
    obtain ⟨a, rfl⟩ := Option.ne_none_iff_exists'.mp hne
    obtain ⟨c, hc, hmask⟩ := h.context _ a hside
    exact ⟨⟨a, c, rfl, hside, hc, hmask⟩, hcount⟩

end LocDualContext
end Nx507j
