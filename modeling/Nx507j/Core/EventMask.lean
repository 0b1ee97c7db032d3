import Mathlib.Logic.Function.Basic
import Nx507j.Core.LocApiBase

/-!
# The events that are asked for

Each adapter has a mask of the events that it wants (`LocAdapterBase.h`).  When an adapter comes or
goes or changes its mask, `LocApiBase.cpp` sends a `LocOpenMsg` with a mask to the message thread,
which opens the API with it; when the engine is up again a `LocSsrMsg` closes and opens it.  An
adapter comes, goes and changes its mask on any thread, while messages are waiting.

The message for a new adapter has the mask of this adapter alone, without the events that are left
out being taken away, and the API is not closed before: what is asked for is what the API has been
opened with since it was last closed.

## Main definitions

* `Registration`, `Registration.step` — adapters, their masks, the messages and the calls.
* `opened` — what the API has been opened with.
* `Within` — the events of a mask are those of another one.

## Main results

* `Covered.step` — what the adapters want is asked for when the messages are processed.
* `registration_exec` — no adapter goes without an event that it wants.
-/

namespace Nx507j

open Run

variable {α : Type*}

/-! ### Masks -/

/-- The events of a mask are among those of another one. -/
def Within (mask mask' : BitVec 32) : Prop :=
  ∀ event, mask.getLsbD event = true → mask'.getLsbD event = true

variable {mask mask' mask₁ mask₁' excludedMask : BitVec 32}

theorem within_or_left (mask mask' : BitVec 32) : Within mask (mask ||| mask') := by
  intro event hevent
  rw [BitVec.getLsbD_or, hevent, Bool.true_or]

theorem within_or_right (mask mask' : BitVec 32) : Within mask' (mask ||| mask') := by
  intro event hevent
  rw [BitVec.getLsbD_or, hevent, Bool.or_true]

theorem Within.or (h : Within mask mask') (h' : Within mask₁ mask₁') :
    Within (mask ||| mask₁) (mask' ||| mask₁') := by
  intro event hevent
  rw [BitVec.getLsbD_or, Bool.or_eq_true] at hevent ⊢
  exact hevent.imp (h event) (h' event)

/-- The events of a union. -/
theorem getLsbD_foldl_or (evtMask : α → BitVec 32) (event : ℕ) (xs : List α) :
    ∀ mask : BitVec 32, (xs.foldl (fun mask a => mask ||| evtMask a) mask).getLsbD event =
      (mask.getLsbD event || xs.any fun a => (evtMask a).getLsbD event) := by
  induction xs with
  | nil => intro mask; exact (Bool.or_false _).symm
  | cons a xs ih =>
    intro mask
    rw [List.foldl_cons, ih, BitVec.getLsbD_or, List.any_cons, Bool.or_assoc]

namespace LocApiBase

variable {api : LocApiBase α} {xs : List α} {evtMask : α → BitVec 32} {event : ℕ}

/-- What the adapters want, without what is left out. -/
theorem Holds.getLsbD_getEvtMask (h : api.Holds xs) :
    (api.getEvtMask evtMask).getLsbD event = true ↔
      (∃ a ∈ xs, (evtMask a).getLsbD event = true) ∧ api.mExcludedMask.getLsbD event = false := by
  have hzero : (0 : BitVec 32).getLsbD event = false := BitVec.getLsbD_zero
  rw [h.getEvtMask, BitVec.getLsbD_and, getLsbD_foldl_or, Bool.and_eq_true, BitVec.getLsbD_not,
    hzero, Bool.false_or, List.any_eq_true, Bool.and_eq_true, Bool.not_eq_true',
    decide_eq_true_iff]
  constructor
  · rintro ⟨hwants, -, hexcluded⟩
    exact ⟨hwants, hexcluded⟩
  · rintro ⟨⟨a, ha, hbit⟩, hexcluded⟩
    exact ⟨⟨a, ha, hbit⟩, BitVec.lt_of_getLsbD hbit, hexcluded⟩

/-- A change of the table leaves the same events out. -/
theorem mExcludedMask_addAdapter [DecidableEq α] (evtMask : α → BitVec 32) (adapter : α)
    (api : LocApiBase α) :
    (api.addAdapter evtMask adapter).2.mExcludedMask = api.mExcludedMask := by
  have hloop : ∀ n i, (api.addFrom evtMask adapter n i).2.mExcludedMask = api.mExcludedMask := by
    intro n
    induction n with
    | zero => intro i; rfl
    | succ n ih =>
      intro i
      rw [addFrom]
      split
      · rfl
      · split
        · rfl
        · exact ih (i + 1)
  exact hloop maxAdapters 0

theorem mExcludedMask_removeAdapter [DecidableEq α] (evtMask : α → BitVec 32) (adapter : α)
    (api : LocApiBase α) :
    (api.removeAdapter evtMask adapter).2.mExcludedMask = api.mExcludedMask := by
  have hloop : ∀ n i (api : LocApiBase α),
      (removeFrom evtMask adapter n i api).2.mExcludedMask = api.mExcludedMask := by
    intro n
    induction n with
    | zero => intro i api; rfl
    | succ n ih =>
      intro i api
      rw [removeFrom]
      split
      · rfl
      · split
        · exact ih _ _
        · exact ih _ _
  exact hloop maxAdapters 0 api

end LocApiBase

/-! ### Messages and calls -/

/-- A message to the message thread. -/
inductive ApiMsg
  | locOpenMsg (mask : BitVec 32)
  | locSsrMsg
  deriving DecidableEq, Repr

/-- A call of the API. -/
inductive ApiCall
  | open (mask : BitVec 32)
  | close
  deriving DecidableEq, Repr

/-- The adapters, the messages that wait and the calls that have been made, oldest first. -/
structure Registration (α : Type*) where
  api : LocApiBase α
  /-- The object is there. -/
  alive : α → Bool
  mEvtMask : α → BitVec 32
  queue : List ApiMsg
  log : List ApiCall

/-- What happens to adapters, and the message thread. -/
inductive RegistrationInput (α : Type*)
  /-- `LocAdapterBase::LocAdapterBase`. -/
  | construct (adapter : α) (mask : BitVec 32)
  /-- `LocAdapterBase::~LocAdapterBase`. -/
  | destruct (adapter : α)
  /-- `LocAdapterBase::updateEvtMask`. -/
  | updateEvtMask (adapter : α) (event : BitVec 32) (isEnabled : Bool)
  /-- `LocApiBase::handleEngineUpEvent`. -/
  | handleEngineUpEvent
  /-- The message thread takes a message. -/
  | msgTask

namespace Registration

def init (excludedMask : BitVec 32) : Registration α where
  api := LocApiBase.init excludedMask
  alive _ := false
  mEvtMask _ := 0
  queue := []
  log := []

/-- What a change of the table calls. -/
def perform (s : Registration α) : LocApiBase.Out → Registration α
  | .close => { s with log := s.log ++ [.close] }
  | .sendMsg mask => { s with queue := s.queue ++ [.locOpenMsg mask] }

/-- `LocApiBase::getEvtMask`. -/
def getEvtMask (s : Registration α) : BitVec 32 := s.api.getEvtMask s.mEvtMask

/-- `proc` of a message. -/
def proc (s : Registration α) : ApiMsg → Registration α
  | .locOpenMsg mask => { s with log := s.log ++ [.open mask] }
  | .locSsrMsg => { s with log := s.log ++ [.close, .open s.getEvtMask] }

/-- The table has been changed. -/
def changed (s : Registration α) (change : List LocApiBase.Out × LocApiBase α) : Registration α :=
  change.1.foldl perform { s with api := change.2 }

theorem changed_singleton (s : Registration α) (out : LocApiBase.Out) (api : LocApiBase α) :
    s.changed ([out], api) = ({ s with api := api }).perform out := rfl

def step [DecidableEq α] (s : Registration α) : RegistrationInput α → Registration α
  | .construct adapter mask =>
    if s.alive adapter then s
    else
      let s := { s with
        alive := Function.update s.alive adapter true
        mEvtMask := Function.update s.mEvtMask adapter mask }
      s.changed (s.api.addAdapter s.mEvtMask adapter)
  | .destruct adapter =>
    if s.alive adapter then
      let s := s.changed (s.api.removeAdapter s.mEvtMask adapter)
      { s with alive := Function.update s.alive adapter false }
    else s
  | .updateEvtMask adapter event isEnabled =>
    if s.alive adapter then
      let mask := s.mEvtMask adapter
      let mask := if isEnabled then mask ||| event else mask &&& ~~~event
      let s := { s with mEvtMask := Function.update s.mEvtMask adapter mask }
      s.perform (.sendMsg s.getEvtMask)
    else s
  | .handleEngineUpEvent => { s with queue := s.queue ++ [.locSsrMsg] }
  | .msgTask =>
    match s.queue with
    | [] => s
    | msg :: queue => { s with queue := queue }.proc msg

/-! ### What the API has been opened with -/

/-- What a call does to what is asked for. -/
def ask (mask : BitVec 32) : ApiCall → BitVec 32
  | .open mask' => mask ||| mask'
  | .close => 0

/-- What the API has been opened with since it was closed. -/
def opened (log : List ApiCall) : BitVec 32 := log.foldl ask 0

/-- What a message will do to it, when the adapters want `wanted`. -/
def will (wanted mask : BitVec 32) : ApiMsg → BitVec 32
  | .locOpenMsg mask' => mask ||| mask'
  | .locSsrMsg => wanted

/-- What the API will have been opened with when all messages are processed. -/
def pending (s : Registration α) : BitVec 32 :=
  s.queue.foldl (will s.getEvtMask) (opened s.log)

theorem opened_append (log calls : List ApiCall) :
    opened (log ++ calls) = calls.foldl ask (opened log) := List.foldl_append

/-- A message that is processed does what it would. -/
theorem pending_proc (s : Registration α) {msg : ApiMsg} {queue : List ApiMsg}
    (hqueue : s.queue = msg :: queue) :
    ({ s with queue := queue }.proc msg).pending = s.pending := by
  unfold pending
  rw [hqueue, List.foldl_cons]
  cases msg with
  | locOpenMsg mask =>
    show queue.foldl (will s.getEvtMask) (opened (s.log ++ [.open mask])) = _
    rw [opened_append]
    rfl
  | locSsrMsg =>
    have hask : ask (ask (opened s.log) .close) (.open s.getEvtMask) = s.getEvtMask :=
      BitVec.zero_or
    show queue.foldl (will s.getEvtMask) (opened (s.log ++ [.close, .open s.getEvtMask])) = _
    rw [opened_append, List.foldl_cons, List.foldl_cons, hask]
    rfl

/-- More that is wanted is more that will be asked for. -/
theorem within_foldl_will (queue : List ApiMsg) :
    ∀ {wanted wanted' mask mask' : BitVec 32}, Within wanted wanted' → Within mask mask' →
      Within (queue.foldl (will wanted) mask) (queue.foldl (will wanted') mask') := by
  induction queue with
  | nil => intro _ _ _ _ _ hmask; exact hmask
  | cons msg queue ih =>
    intro wanted wanted' mask mask' hwanted hmask
    cases msg with
    | locOpenMsg mask₁ => exact ih hwanted (hmask.or fun _ hevent => hevent)
    | locSsrMsg => exact ih hwanted hwanted

/-! ### The invariant -/

/-- The table is a list of adapters that are there, and what they want will have been asked for. -/
structure Covered (s : Registration α) : Prop where
  holds : ∃ xs, s.api.Holds xs ∧ ∀ a ∈ xs, s.alive a = true
  within : Within s.getEvtMask s.pending

variable {s : Registration α} {xs : List α}

/-- A message is sent that asks for what is wanted. -/
theorem within_pending_of_sent {queue : List ApiMsg} {msg : ApiMsg}
    (hqueue : s.queue = queue ++ [msg])
    (hmsg : msg = .locOpenMsg s.getEvtMask ∨ msg = .locSsrMsg) : Within s.getEvtMask s.pending := by
  unfold pending
  rw [hqueue, List.foldl_append, List.foldl_cons, List.foldl_nil]
  rcases hmsg with rfl | rfl
  · exact within_or_right _ _
  · exact fun _ hevent => hevent

/-- Nothing is wanted where there is no adapter. -/
theorem within_of_nil (h : s.api.Holds []) (mask : BitVec 32) : Within s.getEvtMask mask := by
  intro event hevent
  obtain ⟨⟨a, ha, -⟩, -⟩ := h.getLsbD_getEvtMask.mp hevent
  cases ha

/-- What is wanted does not depend on the masks of others. -/
theorem getEvtMask_congr {api : LocApiBase α} (h : api.Holds xs) {evtMask evtMask' : α → BitVec 32}
    (hmask : ∀ a ∈ xs, evtMask a = evtMask' a) :
    api.getEvtMask evtMask = api.getEvtMask evtMask' := by
  refine BitVec.eq_of_getLsbD_eq fun event _ => Bool.eq_iff_iff.mpr ?_
  rw [h.getLsbD_getEvtMask, h.getLsbD_getEvtMask]
  refine and_congr_left fun _ => exists_congr fun a => and_congr_right fun ha => ?_
  rw [hmask a ha]

theorem covered_init (excludedMask : BitVec 32) : Covered (init excludedMask : Registration α) where
  holds := ⟨[], LocApiBase.holds_init excludedMask, fun _ ha => (List.not_mem_nil ha).elim⟩
  within := within_of_nil (LocApiBase.holds_init excludedMask) _

/-- The message thread. -/
theorem Covered.proc (h : Covered s) {msg : ApiMsg} {queue : List ApiMsg}
    (hqueue : s.queue = msg :: queue) : Covered ({ s with queue := queue }.proc msg) where
  holds := by
    cases msg <;> exact h.holds
  within := by
    have hwanted : ({ s with queue := queue }.proc msg).getEvtMask = s.getEvtMask := by
      cases msg <;> rfl
    rw [pending_proc s hqueue, hwanted]
    exact h.within

/-! ### Events that are left out -/

/-- The events that are left out stay the same, and are opened for a new adapter only. -/
structure Excluding (excludedMask : BitVec 32) (made : BitVec 32 → Prop) (s : Registration α) :
    Prop where
  excluded : s.api.mExcludedMask = excludedMask
  queue : ∀ mask, .locOpenMsg mask ∈ s.queue → made mask ∨ mask &&& excludedMask = 0
  log : ∀ mask, .open mask ∈ s.log → made mask ∨ mask &&& excludedMask = 0

variable {made : BitVec 32 → Prop}

theorem getEvtMask_and_excluded (s : Registration α) :
    s.getEvtMask &&& s.api.mExcludedMask = 0 := by
  rw [getEvtMask, LocApiBase.getEvtMask, BitVec.and_assoc, BitVec.not_and_self]
  exact BitVec.and_zero

/-- The adapters and their masks are no part of it. -/
theorem Excluding.of_api (h : Excluding excludedMask made s) {api : LocApiBase α}
    (hapi : api.mExcludedMask = s.api.mExcludedMask) (alive : α → Bool) (evtMask : α → BitVec 32) :
    Excluding excludedMask made { s with api := api, alive := alive, mEvtMask := evtMask } :=
  ⟨hapi.trans h.excluded, h.queue, h.log⟩

theorem Excluding.perform (h : Excluding excludedMask made s) {out : LocApiBase.Out}
    (hout : ∀ mask, out = .sendMsg mask → made mask ∨ mask &&& excludedMask = 0) :
    Excluding excludedMask made (s.perform out) := by
  cases out with
  | close =>
    refine ⟨h.excluded, h.queue, fun mask hmem => ?_⟩
    rcases List.mem_append.mp hmem with hmem | hmem
    · exact h.log mask hmem
    · cases List.mem_singleton.mp hmem
  | sendMsg mask =>
    refine ⟨h.excluded, fun mask' hmem => ?_, h.log⟩
    rcases List.mem_append.mp hmem with hmem | hmem
    · exact h.queue mask' hmem
    · cases List.mem_singleton.mp hmem
      exact hout mask rfl

theorem Excluding.proc (h : Excluding excludedMask made s) {msg : ApiMsg} {queue : List ApiMsg}
    (hqueue : s.queue = msg :: queue) :
    Excluding excludedMask made ({ s with queue := queue }.proc msg) := by
  have hfirst := h.queue
  rw [hqueue] at hfirst
  have hrest : ∀ mask, .locOpenMsg mask ∈ queue → made mask ∨ mask &&& excludedMask = 0 :=
    fun mask hmem => hfirst mask (List.mem_cons_of_mem _ hmem)
  cases msg with
  | locOpenMsg mask =>
    refine ⟨h.excluded, hrest, fun mask' hmem => ?_⟩
    rcases List.mem_append.mp hmem with hmem | hmem
    · exact h.log mask' hmem
    · cases List.mem_singleton.mp hmem
      exact hfirst mask List.mem_cons_self
  | locSsrMsg =>
    refine ⟨h.excluded, hrest, fun mask' hmem => ?_⟩
    rcases List.mem_append.mp hmem with hmem | hmem
    · exact h.log mask' hmem
    · rcases List.mem_cons.mp hmem with hmem | hmem
      · cases hmem
      · cases List.mem_singleton.mp hmem
        rw [← h.excluded]
        exact .inr (getEvtMask_and_excluded s)

/-! ### Every step -/

variable [DecidableEq α]

/-- An adapter that is not there yet. -/
theorem Covered.construct (h : Covered s) {adapter : α} (mask : BitVec 32)
    (hnew : s.alive adapter = false) : Covered (s.step (.construct adapter mask)) := by
  obtain ⟨xs, hholds, halive⟩ := h.holds
  have hne : ∀ a ∈ xs, a ≠ adapter := by
    rintro a ha rfl
    rw [halive a ha] at hnew
    cases hnew
  have hmask : ∀ a ∈ xs, s.mEvtMask a = Function.update s.mEvtMask adapter mask a :=
    fun a ha => (Function.update_of_ne (hne a ha) _ _).symm
  have halive' : ∀ a ∈ xs, Function.update s.alive adapter true a = true := by
    intro a ha
    rw [Function.update_of_ne (hne a ha)]
    exact halive a ha
  have hself : Function.update s.mEvtMask adapter mask adapter = mask := Function.update_self ..
  -- the masks are those with the new one from here on
  generalize hevt : Function.update s.mEvtMask adapter mask = evtMask at hmask hself
  have hwanted : s.getEvtMask = s.api.getEvtMask evtMask := getEvtMask_congr hholds hmask
  have hstep : s.step (.construct adapter mask) =
      { s with alive := Function.update s.alive adapter true, mEvtMask := evtMask }.changed
        (s.api.addAdapter evtMask adapter) := by
    rw [step, hnew, hevt]
    rfl
  have hexcluded := LocApiBase.mExcludedMask_addAdapter evtMask adapter s.api
  have hwithin := h.within
  rw [pending, hwanted] at hwithin
  rw [hstep]
  rcases hholds.addAdapter evtMask adapter with ⟨-, hadd⟩ | ⟨-, -, api, hadd, hholds'⟩
  · -- there is no place for it
    rw [hadd]
    exact ⟨⟨xs, hholds, halive'⟩, hwithin⟩
  · rw [hadd] at hexcluded ⊢
    refine ⟨⟨_, hholds', ?_⟩, ?_⟩
    · intro a ha
      rcases List.mem_append.mp ha with ha | ha
      · exact halive' a ha
      · rw [List.mem_singleton.mp ha]
        exact Function.update_self ..
    show Within (api.getEvtMask evtMask)
      ((s.queue ++ [ApiMsg.locOpenMsg (evtMask adapter)]).foldl (will (api.getEvtMask evtMask))
        (opened s.log))
    rw [List.foldl_append]
    intro event hevent
    obtain ⟨⟨a, ha, hbit⟩, hnot⟩ := hholds'.getLsbD_getEvtMask.mp hevent
    rcases List.mem_append.mp ha with ha | ha
    · -- it was wanted before, and more is wanted now
      have hmore : Within (s.api.getEvtMask evtMask) (api.getEvtMask evtMask) := by
        intro event' hevent'
        obtain ⟨⟨b, hb, hbit'⟩, hnot'⟩ := hholds.getLsbD_getEvtMask.mp hevent'
        exact hholds'.getLsbD_getEvtMask.mpr
          ⟨⟨b, List.mem_append_left _ hb, hbit'⟩, hexcluded ▸ hnot'⟩
      have hold : (s.api.getEvtMask evtMask).getLsbD event = true :=
        hholds.getLsbD_getEvtMask.mpr ⟨⟨a, ha, hbit⟩, hexcluded ▸ hnot⟩
      exact within_or_left _ _ event
        (within_foldl_will s.queue hmore (fun _ hopened => hopened) event (hwithin event hold))
    · rw [List.mem_singleton.mp ha] at hbit
      exact within_or_right _ _ event hbit

theorem Covered.destruct (h : Covered s) {adapter : α} (hthere : s.alive adapter = true) :
    Covered (s.step (.destruct adapter)) := by
  obtain ⟨xs, hholds, halive⟩ := h.holds
  have hstep : s.step (.destruct adapter) =
      { s.changed (s.api.removeAdapter s.mEvtMask adapter) with
        alive := Function.update (s.changed (s.api.removeAdapter s.mEvtMask adapter)).alive adapter
          false } := by
    rw [step, hthere]
    rfl
  have hstay : ∀ xs' : List α, adapter ∉ xs' → (∀ a ∈ xs', a ∈ xs) → ∀ a ∈ xs',
      Function.update s.alive adapter false a = true := by
    intro xs' hnot hsub a ha
    have hne : a ≠ adapter := by
      rintro rfl
      exact hnot ha
    rw [Function.update_of_ne hne]
    exact halive a (hsub a ha)
  rw [hstep]
  rcases hholds.removeAdapter s.mEvtMask adapter with
    ⟨hnot, hremove⟩ | ⟨-, api, xs', hperm, hholds', hremove⟩
  · rw [hremove]
    exact ⟨⟨xs, hholds, hstay xs hnot fun _ ha => ha⟩, h.within⟩
  · have hnot : adapter ∉ xs' := (List.nodup_cons.mp (hperm.nodup_iff.mp hholds.nodup)).1
    have hsub : ∀ a ∈ xs', a ∈ xs := fun a ha => hperm.mem_iff.mpr (List.mem_cons_of_mem _ ha)
    rw [hremove]
    by_cases hnil : xs' = []
    · -- it was the last one
      subst hnil
      exact ⟨⟨[], hholds', hstay [] hnot hsub⟩, within_of_nil hholds' _⟩
    · rw [if_neg hnil]
      exact ⟨⟨xs', hholds', hstay xs' hnot hsub⟩, within_pending_of_sent rfl (.inl rfl)⟩

theorem Covered.step (h : Covered s) (i : RegistrationInput α) : Covered (s.step i) := by
  cases i with
  | construct adapter mask =>
    cases hthere : s.alive adapter with
    | false => exact h.construct mask hthere
    | true =>
      rw [Registration.step, if_pos hthere]
      exact h
  | destruct adapter =>
    cases hthere : s.alive adapter with
    | false =>
      rw [Registration.step, if_neg (by rw [hthere]; exact Bool.false_ne_true)]
      exact h
    | true => exact h.destruct hthere
  | updateEvtMask adapter event isEnabled =>
    rw [Registration.step]
    split
    · exact ⟨h.holds, within_pending_of_sent rfl (.inl rfl)⟩
    · exact h
  | handleEngineUpEvent => exact ⟨h.holds, within_pending_of_sent rfl (.inr rfl)⟩
  | msgTask =>
    cases hqueue : s.queue with
    | nil =>
      simp only [Registration.step, hqueue]
      exact h
    | cons msg queue =>
      simp only [Registration.step, hqueue]
      exact h.proc hqueue

theorem Excluding.step (h : Excluding excludedMask made s) (hcovered : Covered s)
    (i : RegistrationInput α) (hmade : ∀ adapter mask, i = .construct adapter mask → made mask) :
    Excluding excludedMask made (s.step i) := by
  obtain ⟨xs, hholds, -⟩ := hcovered.holds
  cases i with
  | construct adapter mask =>
    rw [Registration.step]
    split
    · exact h
    · have hself : Function.update s.mEvtMask adapter mask adapter = mask :=
        Function.update_self ..
      have hexcluded := LocApiBase.mExcludedMask_addAdapter
        (Function.update s.mEvtMask adapter mask) adapter s.api
      rcases hholds.addAdapter (Function.update s.mEvtMask adapter mask) adapter with
        ⟨-, hadd⟩ | ⟨-, -, api, hadd, -⟩
      · simp only [hadd]
        exact h.of_api rfl _ _
      · simp only [hadd] at hexcluded ⊢
        rw [changed_singleton]
        refine (h.of_api hexcluded (Function.update s.alive adapter true)
          (Function.update s.mEvtMask adapter mask)).perform fun mask' hsent => ?_
        cases hsent
        rw [hself]
        exact .inl (hmade adapter mask rfl)
  | destruct adapter =>
    rw [Registration.step]
    split
    · have hexcluded := LocApiBase.mExcludedMask_removeAdapter s.mEvtMask adapter s.api
      rcases hholds.removeAdapter s.mEvtMask adapter with
        ⟨-, hremove⟩ | ⟨-, api, xs', -, -, hremove⟩
      · simp only [hremove]
        exact h.of_api rfl _ _
      · simp only [hremove] at hexcluded ⊢
        have hchanged : Excluding excludedMask made (s.changed
            ([if xs' = [] then .close else .sendMsg (api.getEvtMask s.mEvtMask)], api)) := by
          rw [changed_singleton]
          refine (h.of_api hexcluded s.alive s.mEvtMask).perform fun mask hsent => ?_
          split at hsent
          · cases hsent
          · cases hsent
            have hnone := getEvtMask_and_excluded { s with api := api }
            exact .inr (by rw [← h.excluded, ← hexcluded]; exact hnone)
        exact hchanged.of_api rfl _ _
    · exact h
  | updateEvtMask adapter event isEnabled =>
    rw [Registration.step]
    split
    · refine (h.of_api rfl s.alive _).perform fun mask hsent => ?_
      cases hsent
      rw [← h.excluded]
      exact .inr (getEvtMask_and_excluded _)
    · exact h
  | handleEngineUpEvent =>
    refine ⟨h.excluded, fun mask hmem => ?_, h.log⟩
    rcases List.mem_append.mp hmem with hmem | hmem
    · exact h.queue mask hmem
    · cases List.mem_singleton.mp hmem
  | msgTask =>
    cases hqueue : s.queue with
    | nil =>
      simp only [Registration.step, hqueue]
      exact h
    | cons msg queue =>
      simp only [Registration.step, hqueue]
      exact h.proc hqueue

/-! ### Runs -/

/-- The messages that wait are processed. -/
theorem exec_msgTask :
    ∀ (queue : List ApiMsg) (s : Registration α), s.queue = queue →
      let s' := exec step s (List.replicate queue.length .msgTask)
      s'.queue = [] ∧ s'.api = s.api ∧ s'.mEvtMask = s.mEvtMask := by
  intro queue
  induction queue with
  | nil => intro s hqueue; exact ⟨hqueue, rfl, rfl⟩
  | cons msg queue ih =>
    intro s hqueue
    have hstep : s.step .msgTask = { s with queue := queue }.proc msg := by
      simp only [Registration.step, hqueue]
    have hproc : ({ s with queue := queue }.proc msg).queue = queue ∧
        ({ s with queue := queue }.proc msg).api = s.api ∧
        ({ s with queue := queue }.proc msg).mEvtMask = s.mEvtMask := by
      cases msg <;> exact ⟨rfl, rfl, rfl⟩
    obtain ⟨hnil, hapi, hmask⟩ := ih _ hproc.1
    show let s' := exec step (s.step .msgTask) (List.replicate queue.length .msgTask)
      s'.queue = [] ∧ s'.api = s.api ∧ s'.mEvtMask = s.mEvtMask
    rw [hstep]
    exact ⟨hnil, hapi.trans hproc.2.1, hmask.trans hproc.2.2⟩

/-- **The events that the adapters want are asked for.**  Whatever adapters come and go, whatever
they want in the meantime and however often the engine restarts, when the messages that wait are
processed each event that an adapter of the table wants, and that is not left out, is among those
that the API has been opened with since it was closed.  An event that is left out has been opened
only with the mask that an adapter was made with. -/
theorem registration_exec (excludedMask : BitVec 32) (inputs : List (RegistrationInput α)) :
    let s := exec step (init excludedMask) inputs
    let s' := exec step s (List.replicate s.queue.length .msgTask)
    s'.queue = [] ∧
      (∀ i adapter event, s.api.mLocAdapters i = some adapter →
        (s.mEvtMask adapter).getLsbD event = true → excludedMask.getLsbD event = false →
          (opened s'.log).getLsbD event = true) ∧
      ∀ mask, .open mask ∈ s'.log →
        (∃ adapter, .construct adapter mask ∈ inputs) ∨ mask &&& excludedMask = 0 := by
  intro s s'
  obtain ⟨hnil, hapi, hmask⟩ := exec_msgTask s.queue s rfl
  let made : BitVec 32 → Prop := fun mask => ∃ adapter : α, .construct adapter mask ∈ inputs
  let Inv : Registration α → Prop := fun s => Covered s ∧ Excluding excludedMask made s
  have hstep : ∀ (t : Registration α) i, (∀ adapter mask, i = .construct adapter mask → made mask) →
      Inv t → Inv (t.step i) := fun t i hmade h => ⟨h.1.step i, h.2.step h.1 i hmade⟩
  have hinit : Inv (init excludedMask) := by
    refine ⟨covered_init excludedMask, rfl, fun mask hmem => ?_, fun mask hmem => ?_⟩
    · exact (List.not_mem_nil hmem).elim
    · exact (List.not_mem_nil hmem).elim
  have hs : Inv s := by
    refine exec_inv_of_forall hstep inputs _ ?_ hinit
    rintro i hi adapter mask rfl
    exact ⟨adapter, hi⟩
  have hs' : Inv s' := by
    refine exec_inv_of_forall hstep _ s ?_ hs
    rintro i hi adapter mask rfl
    cases List.eq_of_mem_replicate hi
  refine ⟨hnil, fun i adapter event hi hbit hnot => ?_, hs'.2.log⟩
  obtain ⟨xs, hholds, -⟩ := hs.1.holds
  have hwithin := hs'.1.within
  have hpending : s'.pending = opened s'.log := by
    rw [pending, hnil]
    rfl
  have hwanted : s'.getEvtMask = s.getEvtMask := by
    rw [getEvtMask, getEvtMask, hapi, hmask]
  rw [hpending, hwanted] at hwithin
  refine hwithin event (hholds.getLsbD_getEvtMask.mpr ⟨⟨adapter, ?_, hbit⟩, ?_⟩)
  · exact (hholds.exists_iff adapter).mp ⟨i, hi⟩
  · rw [hs.2.excluded]
    exact hnot

end Registration
end Nx507j
