import Nx507j.Eng.Session

/-!
# The ULP's proxy

The adapter hands fixes, modes and reports to a `UlpProxyBase`, at first one of its own, until the
ULP gives another to it: `LocSetUlpProxy`, on the engine's thread, deletes the proxy that it
replaces.  The framework's threads and the modem's read the adapter's pointer with `getUlpProxy()`
and call through it afterwards, without a lock; and `LocEngSuplMode` keeps it in the queue.

From `LocEngAdapter.cpp`, `UlpProxyBase.h` and `loc_eng.cpp`.  Reading the pointer and calling
through it are two steps, and `setUlpProxy` is a step for each of its looks at the old proxy, for
`delete` and for the assignment.  The proxies are kept when they are deleted, so that an address
names one of them for good.

## Main definitions

* `UlpProxyBase` — a proxy, and whether it has been deleted.
* `Ulp`, `Ulp.step` — the adapter's pointer with those who hold it.
* `Ulp.KeepsProxies` — a step that deletes a proxy only when nobody holds it.

## Main results

* `Ulp.fresh_exec` — in a run of such steps, no deleted proxy is accessed.
-/

namespace Nx507j
namespace Eng

open Run

/-! ### Data -/

/-- A proxy.  `overridden` says that it is of a class of the ULP's that overrides the methods;
`live`, that it has not been deleted. -/
structure UlpProxyBase where
  mPosMode : LocPosMode
  mFixSet : Bool
  overridden : Bool
  live : Bool
  deriving DecidableEq, Repr

/-- A call of a proxy's method; `setCapabilities` is called by a `LocEngSuplMode`. -/
inductive UlpCall
  | sendStartFix
  | sendStopFix
  | sendFixMode (params : LocPosMode)
  | setCapabilities
  | reportPosition (location : UlpLocation) (locationExt : Option Address)
      (status : LocSessStatus) (techMask : LocPosTechMask)
  | reportSv (svStatus : Address) (svExt : Option Address)
  | reportStatus (status : GpsStatusValue)
  deriving DecidableEq

/-- What an overridden method returns, and what it leaves in the members of the proxy. -/
structure UlpAnswer where
  handled : Bool
  mPosMode : LocPosMode
  mFixSet : Bool
  deriving DecidableEq, Repr

/-- A message of the engine's queue; `getZpp` has the position that the modem answers, and `plain`
are the messages whose processing does not go through a proxy. -/
inductive UlpMsg
  | setUlpProxy (ulp : Option Address)
  | suplMode (mUlp : Address)
  | getZpp (location : UlpLocation) (techMask : LocPosTechMask)
  | plain (msg : Msg)
  deriving DecidableEq

/-- Where the engine's thread is: between two messages, or in `setUlpProxy`, before the look at
`mPosMode`, before the look at `mFixSet`, before `delete`, or before the assignment. -/
inductive UlpEngine
  | idle
  | mode (ulp : Address)
  | fixSet (ulp : Address)
  | delete (ulp : Address)
  | assign (ulp : Address)
  deriving DecidableEq, Repr

/-- The proxies by their address, the adapter's pointer to one of them, the calls that have read
it, the engine's thread and its queue.  `stale` says that a deleted proxy has been accessed. -/
structure Ulp where
  proxies : List UlpProxyBase
  mUlp : Address
  calls : List (Address × UlpCall)
  engine : UlpEngine
  queue : List UlpMsg
  stale : Bool
  deriving DecidableEq

/-- The proxy that the engine's thread is going to give to the adapter. -/
def UlpEngine.ulp : UlpEngine → Option Address
  | .idle => none
  | .mode ulp | .fixSet ulp | .delete ulp | .assign ulp => some ulp

/-- The adapter's proxy has been deleted, and not yet replaced. -/
def UlpEngine.assigning : UlpEngine → Bool
  | .assign _ => true
  | _ => false

namespace UlpProxyBase

/-- The constructor. -/
def new (overridden : Bool) : UlpProxyBase where
  mPosMode := ⟨locPositionModeInvalid, 0, 1000, 50, 120000, "", ""⟩
  mFixSet := false
  overridden := overridden
  live := true

/-- A call of a method: whether it has been handled, and the proxy afterwards. -/
def call (call : UlpCall) (answer : UlpAnswer) (ulp : UlpProxyBase) : Bool × UlpProxyBase :=
  if ulp.overridden then
    (answer.handled, { ulp with mPosMode := answer.mPosMode, mFixSet := answer.mFixSet })
  else
    match call with
    | .sendStartFix => (false, { ulp with mFixSet := true })
    | .sendStopFix => (false, { ulp with mFixSet := false })
    | .sendFixMode params => (false, { ulp with mPosMode := params })
    | _ => (false, ulp)

@[simp] theorem call_live (call : UlpCall) (answer : UlpAnswer) (ulp : UlpProxyBase) :
    (ulp.call call answer).2.live = ulp.live := by
  unfold UlpProxyBase.call
  split_ifs
  · rfl
  · cases call <;> rfl

end UlpProxyBase

/-- The message that is sent when the proxy has not handled a call. -/
def UlpCall.otherwise : UlpCall → Option Msg
  | .sendStartFix => some .startFix
  | .sendStopFix => some .stopFix
  | .sendFixMode params => some (.positionMode params)
  | .setCapabilities => none
  | .reportPosition location locationExt status techMask =>
    some (.reportPosition location locationExt status techMask)
  | .reportSv svStatus svExt => some (.reportSv svStatus svExt)
  | .reportStatus status => some (.reportStatus status)

namespace Ulp

/-! ### Steps -/

/-- The adapter's constructor. -/
def init : Ulp := ⟨[.new false], 0, [], .idle, [], false⟩

/-- The address is that of a proxy that has not been deleted. -/
def isLive (s : Ulp) (p : Address) : Bool := s.proxies[p]?.any UlpProxyBase.live

/-- An access to a proxy. -/
def use (p : Address) (s : Ulp) : Ulp := { s with stale := s.stale || !s.isLive p }

/-- A call through a pointer. -/
def callUlp (p : Address) (call : UlpCall) (answer : UlpAnswer) (s : Ulp) : Ulp :=
  { s.use p with proxies := s.proxies.modify p fun ulp => (ulp.call call answer).2 }

/-- The proxy has handled the call. -/
def handles (p : Address) (call : UlpCall) (answer : UlpAnswer) (s : Ulp) : Bool :=
  s.proxies[p]?.any fun ulp => (ulp.call call answer).1

/-- A call that has read `getUlpProxy()` goes on; `loc_eng_configuration_update` leaves the call
to a `LocEngSuplMode`. -/
def goOn (c : Address × UlpCall) (answer : UlpAnswer) (s : Ulp) : Ulp :=
  if c.2 = .setCapabilities then { s with queue := s.queue ++ [.suplMode c.1] }
  else
    let s' := s.callUlp c.1 c.2 answer
    if s.handles c.1 c.2 answer then s'
    else { s' with queue := s'.queue ++ (c.2.otherwise.map UlpMsg.plain).toList }

/-- The engine's thread takes a message. -/
def proc (msg : UlpMsg) (answer : UlpAnswer) (s : Ulp) : Ulp :=
  match msg with
  | .setUlpProxy (some ulp) => if ulp = s.mUlp then s else { s with engine := .mode ulp }
  | .setUlpProxy none =>
    { s with proxies := s.proxies ++ [.new false], engine := .mode s.proxies.length }
  | .suplMode mUlp => s.callUlp mUlp .setCapabilities answer
  -- what `reportPosition` returns is not looked at
  | .getZpp location techMask =>
    s.callUlp s.mUlp (.reportPosition location none .success techMask) answer
  | .plain _ => s

/-- The engine's thread goes on. -/
def engineStep (answer : UlpAnswer) (s : Ulp) : Ulp :=
  match s.engine with
  | .idle =>
    match s.queue with
    | [] => s
    | msg :: queue => { s with queue := queue }.proc msg answer
  | .mode ulp =>
    let s' := { s.use s.mUlp with engine := .fixSet ulp }
    match s.proxies[s.mUlp]? with
    | some old =>
      if old.mPosMode.mode = locPositionModeInvalid then s'
      else s'.callUlp ulp (.sendFixMode old.mPosMode) answer
    | none => s'
  | .fixSet ulp =>
    let s' := { s.use s.mUlp with engine := .delete ulp }
    if s.proxies[s.mUlp]?.any UlpProxyBase.mFixSet then s'.callUlp ulp .sendStartFix answer else s'
  | .delete ulp =>
    { s.use s.mUlp with
      proxies := s.proxies.modify s.mUlp fun old => { old with live := false }
      engine := .assign ulp }
  | .assign ulp => { s with mUlp := ulp, engine := .idle }

/-- What can happen: the ULP makes a proxy, a message is sent, a thread reads `getUlpProxy()` or
goes on with what it has read, or the engine's thread goes on. -/
inductive Input
  | create (overridden : Bool)
  | setUlpProxy (ulp : Option Address)
  | getZpp (location : UlpLocation) (techMask : LocPosTechMask)
  | getUlpProxy (call : UlpCall)
  | call (i : ℕ) (answer : UlpAnswer)
  | engine (answer : UlpAnswer)
  deriving DecidableEq

/-- One step. -/
def step (s : Ulp) : Input → Ulp
  | .create overridden => { s with proxies := s.proxies ++ [.new overridden] }
  | .setUlpProxy ulp => { s with queue := s.queue ++ [.setUlpProxy ulp] }
  | .getZpp location techMask => { s with queue := s.queue ++ [.getZpp location techMask] }
  | .getUlpProxy call => { s with calls := s.calls ++ [(s.mUlp, call)] }
  | .call i answer =>
    match s.calls[i]? with
    | some c => { s with calls := s.calls.eraseIdx i }.goOn c answer
    | none => s
  | .engine answer => s.engineStep answer

/-! ### Who holds a proxy -/

variable {s : Ulp} {p q : Address} {msg : UlpMsg} {answer : UlpAnswer} {call : UlpCall}

/-- A call that has been read, or a queued message, holds the proxy. -/
def Holds (s : Ulp) (p : Address) : Prop := (∃ c ∈ s.calls, c.1 = p) ∨ .suplMode p ∈ s.queue

instance (s : Ulp) (p : Address) : Decidable (s.Holds p) := by unfold Holds; infer_instance

/-- A step that keeps the proxies that are held: one is deleted only when nobody holds it; while
it is replaced, nobody reads the adapter's pointer; and the one that replaces it is there. -/
def KeepsProxies (s : Ulp) (i : Input) : Prop :=
  match i with
  | .getUlpProxy _ => s.engine.assigning = false
  | .engine _ =>
    match s.engine, s.queue with
    | .idle, .setUlpProxy (some ulp) :: _ => s.isLive ulp = true
    | .delete _, _ => ¬s.Holds s.mUlp
    | _, _ => True
  | _ => True

instance (s : Ulp) (i : Input) : Decidable (s.KeepsProxies i) := by
  unfold KeepsProxies; split <;> [infer_instance; (split <;> infer_instance); infer_instance]

/-- The adapter's proxy, the one that is going to replace it and those that are held have not been
deleted. -/
structure Kept (s : Ulp) : Prop where
  not_stale : s.stale = false
  current : s.engine.assigning = false → s.isLive s.mUlp = true
  next : ∀ ulp, s.engine.ulp = some ulp → s.isLive ulp = true ∧ ulp ≠ s.mUlp
  held : ∀ p, s.Holds p → s.isLive p = true

theorem use_eq_self (h : s.isLive p = true) : s.use p = s := by
  have hstale : (s.stale || !s.isLive p) = s.stale := by simp [h]
  rw [use, hstale]

@[simp] theorem isLive_callUlp : (s.callUlp p call answer).isLive q = s.isLive q := by
  rw [isLive, isLive, callUlp, List.getElem?_modify]
  show Option.any _ (Option.map _ s.proxies[q]?) = _
  cases s.proxies[q]? with
  | none => rfl
  | some ulp =>
    simp only [Option.map_some, Option.any_some]
    split_ifs <;> simp

theorem lt_length (h : s.isLive p = true) : p < s.proxies.length := by
  rw [isLive, Option.any_eq_true] at h
  obtain ⟨x, hx, -⟩ := h
  exact (List.getElem?_eq_some_iff.mp hx).1

theorem isLive_append {ulp : UlpProxyBase} {s' : Ulp} (hs : s'.proxies = s.proxies ++ [ulp])
    (h : s.isLive p = true) : s'.isLive p = true := by
  rw [isLive, Option.any_eq_true] at h
  obtain ⟨x, hx, hlive⟩ := h
  rw [isLive, hs, List.getElem?_append_left (List.getElem?_eq_some_iff.mp hx).1, hx]
  exact hlive

theorem isLive_delete {s' : Ulp} (hne : p ≠ q)
    (hs : s'.proxies = s.proxies.modify q fun old => { old with live := false }) :
    s'.isLive p = s.isLive p := by
  rw [isLive, isLive, hs, List.getElem?_modify_ne _ _ (Ne.symm hne)]

namespace Kept

/-- A step that deletes no proxy, and after which only those are held that were there. -/
theorem mono {s' : Ulp} (h : Kept s) (hlive : ∀ p, s.isLive p = true → s'.isLive p = true)
    (hstale : s'.stale = s.stale) (hmUlp : s'.mUlp = s.mUlp) (hengine : s'.engine = s.engine)
    (hheld : ∀ p, s'.Holds p → s.isLive p = true) : Kept s' where
  not_stale := hstale.trans h.not_stale
  current hidle := by rw [hmUlp]; exact hlive _ (h.current (hengine ▸ hidle))
  next ulp hulp := by
    rw [hengine] at hulp
    rw [hmUlp]
    exact ⟨hlive _ (h.next ulp hulp).1, (h.next ulp hulp).2⟩
  held p hp := hlive p (hheld p hp)

/-- A call through a pointer to a proxy that is there. -/
theorem callUlp (h : Kept s) (hp : s.isLive p = true) : Kept (s.callUlp p call answer) := by
  refine h.mono (fun q hq => by simpa using hq) ?_ rfl rfl h.held
  rw [Ulp.callUlp, use_eq_self hp]

/-- A call that has been read goes on: it holds a proxy that is there. -/
theorem goOn {c : Address × UlpCall} (h : Kept s) (hc : s.isLive c.1 = true) :
    Kept (s.goOn c answer) := by
  have hcall : Kept (s.callUlp c.1 c.2 answer) := h.callUlp hc
  unfold Ulp.goOn
  split_ifs
  · refine h.mono (fun _ h => h) rfl rfl rfl ?_
    rintro p (hp | hp)
    · exact h.held p (.inl hp)
    · obtain hp | hp := List.mem_append.mp hp
      · exact h.held p (.inr hp)
      · cases List.mem_singleton.mp hp
        exact hc
  · exact hcall
  · refine hcall.mono (fun _ h => h) rfl rfl rfl ?_
    rintro p (hp | hp)
    · exact hcall.held p (.inl hp)
    · obtain hp | hp := List.mem_append.mp hp
      · exact hcall.held p (.inr hp)
      · simp at hp

/-- The engine's thread takes a message, and is told of no proxy that has been deleted. -/
theorem proc (h : Kept s) (hidle : s.engine = .idle)
    (hset : ∀ ulp, msg = .setUlpProxy (some ulp) → s.isLive ulp = true)
    (hmode : ∀ p, msg = .suplMode p → s.isLive p = true) : Kept (s.proc msg answer) := by
  have hcurrent : s.isLive s.mUlp = true := h.current (by rw [hidle]; rfl)
  cases msg with
  | setUlpProxy ulp =>
    cases ulp with
    | some ulp =>
      simp only [Ulp.proc]
      split_ifs with hulp
      · exact h
      · refine ⟨h.not_stale, fun _ => hcurrent, ?_, h.held⟩
        rintro _ ⟨⟩
        exact ⟨hset ulp rfl, hulp⟩
    | none =>
      have happend : ∀ p, s.isLive p = true →
          (s.proc (.setUlpProxy none) answer).isLive p = true := fun p hp => isLive_append rfl hp
      refine ⟨h.not_stale, fun _ => happend _ hcurrent, ?_, fun p hp => happend p (h.held p hp)⟩
      rintro _ ⟨⟩
      refine ⟨by simp [Ulp.proc, isLive, UlpProxyBase.new], ?_⟩
      exact (lt_length hcurrent).ne'
  | suplMode p => exact h.callUlp (hmode p rfl)
  | getZpp location techMask => exact h.callUlp hcurrent
  | plain msg => exact h

/-- The engine's thread goes on in `setUlpProxy`. -/
theorem goto (h : Kept s) {engine : UlpEngine} (hulp : engine.ulp = s.engine.ulp)
    (hold : s.engine.assigning = false) : Kept { s with engine := engine } where
  not_stale := h.not_stale
  current _ := h.current hold
  next ulp h' := h.next ulp (hulp ▸ h')
  held := h.held

/-- **The engine's thread goes on**, and deletes no proxy that is held. -/
theorem engineStep (h : Kept s) (hkeeps : s.KeepsProxies (.engine answer)) :
    Kept (s.engineStep answer) := by
  unfold Ulp.engineStep
  cases hengine : s.engine with
  | idle =>
    cases hqueue : s.queue with
    | nil => exact h
    | cons msg queue =>
      have htail : Kept { s with queue := queue } := by
        refine h.mono (fun _ hp => hp) rfl rfl rfl ?_
        rintro p (hp | hp)
        · exact h.held p (.inl hp)
        · exact h.held p (.inr (by rw [hqueue]; exact List.mem_cons_of_mem msg hp))
      have hproc : Kept (Ulp.proc msg answer { s with queue := queue }) := by
        refine htail.proc hengine ?_ ?_
        · rintro ulp rfl
          rw [KeepsProxies, hengine, hqueue] at hkeeps
          exact hkeeps
        · rintro p rfl
          exact h.held p (.inr (by rw [hqueue]; exact List.mem_cons_self))
      simpa only [hengine] using hproc
  | mode ulp =>
    have hold : s.engine.assigning = false := by rw [hengine]; rfl
    have hnext : Kept { s with engine := .fixSet ulp } := h.goto (by rw [hengine]; rfl) hold
    have hlive : s.isLive ulp = true := (h.next ulp (by rw [hengine]; rfl)).1
    simp only [use_eq_self (h.current hold)]
    split
    · split_ifs
      · exact hnext
      · exact hnext.callUlp hlive
    · exact hnext
  | fixSet ulp =>
    have hold : s.engine.assigning = false := by rw [hengine]; rfl
    have hnext : Kept { s with engine := .delete ulp } := h.goto (by rw [hengine]; rfl) hold
    have hlive : s.isLive ulp = true := (h.next ulp (by rw [hengine]; rfl)).1
    simp only [use_eq_self (h.current hold)]
    split_ifs
    · exact hnext.callUlp hlive
    · exact hnext
  | delete ulp =>
    have hfree : ¬s.Holds s.mUlp := by simpa [KeepsProxies, hengine] using hkeeps
    obtain ⟨hlive, hne⟩ := h.next ulp (by rw [hengine]; rfl)
    simp only [use_eq_self (h.current (by rw [hengine]; rfl))]
    refine ⟨h.not_stale, fun h => (by cases h), ?_, ?_⟩
    · rintro _ ⟨⟩
      exact ⟨(isLive_delete hne rfl).trans hlive, hne⟩
    · -- the deleted proxy is not among those that are held
      intro p hp
      have hne : p ≠ s.mUlp := fun heq => hfree (heq ▸ hp)
      exact (isLive_delete hne rfl).trans (h.held p hp)
  | assign ulp =>
    have hlive : s.isLive ulp = true := (h.next ulp (by rw [hengine]; rfl)).1
    exact ⟨h.not_stale, fun _ => hlive, (fun _ hnone => by cases hnone), h.held⟩

end Kept

/-- **A step** that keeps the proxies that are held. -/
theorem step_kept (i : Input) (h : Kept s) (hkeeps : s.KeepsProxies i) : Kept (s.step i) := by
  cases i with
  | create overridden =>
    exact h.mono (fun p hp => isLive_append rfl hp) rfl rfl rfl h.held
  | setUlpProxy ulp =>
    refine h.mono (fun _ hp => hp) rfl rfl rfl ?_
    rintro p (hp | hp)
    · exact h.held p (.inl hp)
    · exact h.held p (.inr (by simpa [step] using hp))
  | getZpp location techMask =>
    refine h.mono (fun _ hp => hp) rfl rfl rfl ?_
    rintro p (hp | hp)
    · exact h.held p (.inl hp)
    · exact h.held p (.inr (by simpa [step] using hp))
  | getUlpProxy call =>
    refine h.mono (fun _ hp => hp) rfl rfl rfl ?_
    rintro p (⟨c, hc, rfl⟩ | hp)
    · obtain hc | hc := List.mem_append.mp hc
      · exact h.held _ (.inl ⟨c, hc, rfl⟩)
      · rw [List.mem_singleton.mp hc]
        exact h.current hkeeps
    · exact h.held p (.inr hp)
  | call i answer =>
    simp only [step]
    cases hi : s.calls[i]? with
    | none => exact h
    | some c =>
      have hc : s.isLive c.1 = true := h.held c.1 (.inl ⟨c, List.mem_of_getElem? hi, rfl⟩)
      refine Kept.goOn (h.mono (fun _ hp => hp) rfl rfl rfl ?_) hc
      rintro p (⟨c, hc, rfl⟩ | hp)
      · exact h.held _ (.inl ⟨c, List.mem_of_mem_eraseIdx hc, rfl⟩)
      · exact h.held p (.inr hp)
  | engine answer => exact h.engineStep hkeeps

/-- **No use of a replaced proxy.**  In a run in which a proxy is deleted only when nobody holds
it, and nobody reads the adapter's pointer before it is replaced, no deleted proxy is accessed. -/
theorem fresh_exec (is : List Input) (h : StepsMeet step KeepsProxies init is) :
    Always step (fun s => s.stale = false) init is := by
  have hinit : Kept init := by
    refine ⟨rfl, fun _ => rfl, (fun ulp hulp => by cases hulp), ?_⟩
    rintro p (⟨c, hc, -⟩ | hp)
    · cases hc
    · cases hp
  exact always_of_inv (fun s i h hkeeps => step_kept i h hkeeps) (fun s h => h.not_stale) is init
    hinit h

/-- What a method of the ULP's proxy that handles a call leaves. -/
def handled : UlpAnswer := ⟨true, ⟨locPositionModeInvalid, 0, 1000, 50, 120000, "", ""⟩, true⟩

/-- The ULP's proxy replaces the adapter's after a fix has been started, and is told the
capabilities afterwards. -/
theorem fresh_exec_replaced :
    let is : List Input :=
      [.create true, .setUlpProxy (some 1), .getUlpProxy .sendStartFix, .call 0 handled] ++
        List.replicate 5 (.engine handled) ++ [.getUlpProxy .setCapabilities, .call 0 handled] ++
        List.replicate 2 (.engine handled)
    Always step (fun s => s.stale = false) init is ∧
      (exec step init is).mUlp = 1 ∧
      (exec step init is).proxies.map (fun ulp => (ulp.mFixSet, ulp.live)) =
        [(true, false), (true, true)] :=
  ⟨fresh_exec _ (by decide), by decide, by decide⟩

/-- A `LocEngSuplMode` that is sent while a `LocSetUlpProxy` is queued calls the proxy that has
been deleted, and so does a start that reads `getUlpProxy()` before and calls afterwards. -/
theorem not_fresh_queued :
    let replace : List Input := List.replicate 5 (.engine handled)
    (exec step init ([.create true, .setUlpProxy (some 1), .getUlpProxy .setCapabilities,
        .call 0 handled] ++ replace ++ [.engine handled])).stale = true ∧
      (exec step init ([.create true, .setUlpProxy (some 1), .getUlpProxy .sendStartFix] ++
        replace ++ [.call 0 handled])).stale = true := by
  decide

end Ulp
end Eng
end Nx507j
