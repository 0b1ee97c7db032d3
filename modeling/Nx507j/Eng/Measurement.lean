import Nx507j.Core.EventMask
import Nx507j.Lib.Trace

/-!
# The measurement interface

`loc_eng_gps_measurement_init` sets the callback for measurements and
`loc_eng_gps_measurement_close` takes it away.  Both leave it to a `LocEngUpdateRegistrationMask` to
tell the API, which goes to the modem and not into the mask of the adapter.  The messages of the
engine are in one queue with those of `LocApiBase.cpp`.

When the modem has restarted, `LocSsrMsg` opens the API with the masks of the adapters, and nothing
tells it of the measurements.

## Main definitions

* `Measurement`, `Measurement.step` — the interface, the adapters and the queue.
* `asked` — the events that the API has been asked for.

## Main results

* `measurement_exec` — the modem is asked for measurements since the callback was set, until it
  restarts.
-/

namespace Nx507j

open Run Trace

variable {α : Type*}

/-! ### Data -/

/-- `LOC_API_ADAPTER_GNSS_MEASUREMENT`. -/
def locApiAdapterGnssMeasurement : ℕ := 24

/-- `LOC_API_ADAPTER_BIT_GNSS_MEASUREMENT`. -/
def locApiAdapterBitGnssMeasurement : BitVec 32 := 1#32 <<< locApiAdapterGnssMeasurement

/-- What `loc_eng_gps_measurement_init` returns. -/
inductive MeasurementInitResult
  | operationSuccess
  | errorAlreadyInit
  | errorGeneric
  deriving DecidableEq, Repr

/-- A message: of the API, or `LocEngUpdateRegistrationMask`. -/
inductive MeasurementMsg
  | api (msg : ApiMsg)
  | updateRegistrationMask (mask : BitVec 32) (isEnabled : Bool)
  deriving DecidableEq, Repr

/-- A call of the API. -/
inductive MeasurementCall
  | api (call : ApiCall)
  | updateRegistrationMask (mask : BitVec 32) (isEnabled : Bool)
  deriving DecidableEq, Repr

/-- What has been done: a call of the framework, or a modem that is up again.  The callbacks may not
be there, and their callback may not be. -/
inductive MeasurementDeed
  | gpsMeasurementInit (callbacks : Option (Option ℕ)) (ret : MeasurementInitResult)
  | gpsMeasurementClose
  | handleEngineUpEvent
  deriving DecidableEq, Repr

/-- The adapters, whose own queue and log are empty here, the engine's adapter and callback, the
queue, the calls and what has been done, oldest first. -/
structure Measurement (α : Type*) where
  registration : Registration α
  adapter : Bool
  gpsMeasurementCb : Option ℕ
  queue : List MeasurementMsg
  log : List MeasurementCall
  deeds : List MeasurementDeed

/-- What can happen: `loc_eng_init` has an adapter made, an adapter does something, the framework
calls, or the message thread takes a message. -/
inductive MeasurementInput (α : Type*)
  | locEngInit
  | registration (input : RegistrationInput α)
  | gpsMeasurementInit (callbacks : Option (Option ℕ))
  | gpsMeasurementClose
  | msgTask

namespace Measurement

def init (excludedMask : BitVec 32) : Measurement α where
  registration := Registration.init excludedMask
  adapter := false
  gpsMeasurementCb := none
  queue := []
  log := []
  deeds := []

/-! ### Steps -/

/-- What the adapters have come to is sent and called. -/
def settle (s : Measurement α) (registration : Registration α) : Measurement α :=
  { s with
    registration := { registration with queue := [], log := [] }
    queue := s.queue ++ registration.queue.map .api
    log := s.log ++ registration.log.map .api }

/-- `loc_eng_gps_measurement_init`. -/
def gpsMeasurementInit (callbacks : Option (Option ℕ)) (s : Measurement α) :
    MeasurementInitResult × Measurement α :=
  if s.gpsMeasurementCb.isSome then (.errorAlreadyInit, s)
  else
    match callbacks with
    | none => (.errorGeneric, s)
    | some measurementCallback =>
      if s.adapter then
        (.operationSuccess,
          { s with
            queue := s.queue ++ [.updateRegistrationMask locApiAdapterBitGnssMeasurement true]
            gpsMeasurementCb := measurementCallback })
      else (.errorGeneric, s)

/-- `loc_eng_gps_measurement_close`. -/
def gpsMeasurementClose (s : Measurement α) : Measurement α :=
  if s.adapter then
    { s with
      queue := s.queue ++ [.updateRegistrationMask locApiAdapterBitGnssMeasurement false]
      gpsMeasurementCb := none
      deeds := s.deeds ++ [.gpsMeasurementClose] }
  else s

/-- `proc` of a message. -/
def proc (s : Measurement α) : MeasurementMsg → Measurement α
  | .api msg => s.settle (s.registration.proc msg)
  | .updateRegistrationMask mask isEnabled =>
    { s with log := s.log ++ [.updateRegistrationMask mask isEnabled] }

def step [DecidableEq α] (s : Measurement α) : MeasurementInput α → Measurement α
  | .locEngInit => { s with adapter := true }
  | .registration input =>
    let s' := s.settle (s.registration.step input)
    match input with
    | .handleEngineUpEvent => { s' with deeds := s'.deeds ++ [.handleEngineUpEvent] }
    | _ => s'
  | .gpsMeasurementInit callbacks =>
    let (ret, s) := s.gpsMeasurementInit callbacks
    { s with deeds := s.deeds ++ [.gpsMeasurementInit callbacks ret] }
  | .gpsMeasurementClose => s.gpsMeasurementClose
  | .msgTask =>
    match s.queue with
    | [] => s
    | msg :: queue => { s with queue := queue }.proc msg

/-! ### What is asked for -/

/-- What a call does to what is asked for. -/
def ask (mask : BitVec 32) : MeasurementCall → BitVec 32
  | .api call => Registration.ask mask call
  | .updateRegistrationMask mask' true => mask ||| mask'
  | .updateRegistrationMask mask' false => mask &&& ~~~mask'

/-- The events that the API has been asked for. -/
def asked (log : List MeasurementCall) : BitVec 32 := log.foldl ask 0

/-- The measurements are asked for. -/
def measures (log : List MeasurementCall) : Bool :=
  (asked log).getLsbD locApiAdapterGnssMeasurement

end Measurement

/-- The callback that a deed leaves, if it changes it. -/
def MeasurementDeed.callback : MeasurementDeed → Option (Option ℕ)
  | .gpsMeasurementInit (some measurementCallback) .operationSuccess => some measurementCallback
  | .gpsMeasurementClose => some none
  | _ => none

/-- Whether the measurements are asked for after a deed, if it changes that. -/
def MeasurementDeed.wants : MeasurementDeed → Option Bool
  | .gpsMeasurementInit (some _) .operationSuccess => some true
  | .gpsMeasurementClose | .handleEngineUpEvent => some false
  | _ => none

/-- No adapter goes, and none wants measurements by its own mask. -/
def MeasurementInput.Plain : MeasurementInput α → Prop
  | .registration (.construct _ mask) => mask.getLsbD locApiAdapterGnssMeasurement = false
  | .registration (.updateEvtMask _ event isEnabled) =>
    isEnabled = true → event.getLsbD locApiAdapterGnssMeasurement = false
  | .registration (.destruct _) => False
  | _ => True

instance : DecidablePred (MeasurementInput.Plain (α := α))
  | .registration (.construct _ _) => inferInstanceAs (Decidable (_ = _))
  | .registration (.updateEvtMask _ _ _) => inferInstanceAs (Decidable (_ → _))
  | .registration (.destruct _) => inferInstanceAs (Decidable False)
  | .registration .handleEngineUpEvent => inferInstanceAs (Decidable True)
  | .registration .msgTask => inferInstanceAs (Decidable True)
  | .locEngInit => inferInstanceAs (Decidable True)
  | .gpsMeasurementInit _ => inferInstanceAs (Decidable True)
  | .gpsMeasurementClose => inferInstanceAs (Decidable True)
  | .msgTask => inferInstanceAs (Decidable True)

namespace Measurement

/-! ### The callback -/

theorem proc_callback (s : Measurement α) (msg : MeasurementMsg) :
    (s.proc msg).gpsMeasurementCb = s.gpsMeasurementCb ∧ (s.proc msg).deeds = s.deeds := by
  cases msg <;> exact ⟨rfl, rfl⟩

/-- The callback is the one of the last deed that changes it. -/
theorem callback_step [DecidableEq α] (s : Measurement α) (input : MeasurementInput α)
    (h : s.gpsMeasurementCb = (latest MeasurementDeed.callback s.deeds).getD none) :
    (s.step input).gpsMeasurementCb =
      (latest MeasurementDeed.callback (s.step input).deeds).getD none := by
  cases input with
  | locEngInit => exact h
  | registration input =>
    cases input with
    | handleEngineUpEvent =>
      show s.gpsMeasurementCb = (latest _ (s.deeds ++ [.handleEngineUpEvent])).getD none
      rw [latest_concat, h]
      rfl
    | construct adapter mask => exact h
    | destruct adapter => exact h
    | updateEvtMask adapter event isEnabled => exact h
    | msgTask => exact h
  | gpsMeasurementInit callbacks =>
    simp only [step, Measurement.gpsMeasurementInit]
    by_cases hset : s.gpsMeasurementCb.isSome = true
    · rw [if_pos hset, latest_concat]
      cases callbacks <;> exact h
    · rw [if_neg hset]
      cases callbacks with
      | none =>
        rw [latest_concat]
        exact h
      | some measurementCallback =>
        cases s.adapter with
        | true =>
          simp only [if_true]
          rw [latest_concat]
          rfl
        | false =>
          simp only [Bool.false_eq_true, if_false]
          rw [latest_concat]
          exact h
  | gpsMeasurementClose =>
    simp only [step, Measurement.gpsMeasurementClose]
    cases s.adapter with
    | true =>
      simp only [if_true]
      rw [latest_concat]
      rfl
    | false => exact h
  | msgTask =>
    cases hqueue : s.queue with
    | nil =>
      simp only [step, hqueue]
      exact h
    | cons msg queue =>
      simp only [step, hqueue]
      obtain ⟨hcb, hdeeds⟩ := proc_callback { s with queue := queue } msg
      rw [hcb, hdeeds]
      exact h

/-! ### What the messages will ask for -/

/-- What a message does to whether the measurements are asked for, when no mask wants them. -/
def will (measures : Bool) : MeasurementMsg → Bool
  | .api (.locOpenMsg mask) => measures || mask.getLsbD locApiAdapterGnssMeasurement
  | .api .locSsrMsg => false
  | .updateRegistrationMask mask isEnabled =>
    if mask.getLsbD locApiAdapterGnssMeasurement then isEnabled else measures

/-- Whether they will be asked for when the messages that wait are processed. -/
def pending (s : Measurement α) : Bool := s.queue.foldl will (measures s.log)

/-- The adapters are in the table, none wants measurements by its mask, and they will be asked for
as the deeds want it. -/
structure Agrees (s : Measurement α) : Prop where
  queue : s.registration.queue = []
  log : s.registration.log = []
  holds : ∃ xs, s.registration.api.Holds xs
  plain : ∀ adapter, (s.registration.mEvtMask adapter).getLsbD locApiAdapterGnssMeasurement = false
  pending : s.pending = (latest MeasurementDeed.wants s.deeds).getD false

theorem measures_append (log calls : List MeasurementCall) :
    measures (log ++ calls) =
      (calls.foldl ask (asked log)).getLsbD locApiAdapterGnssMeasurement := by
  rw [measures, asked, List.foldl_append]
  rfl

/-- A registration that is updated. -/
theorem measures_update (log : List MeasurementCall) (mask : BitVec 32) (isEnabled : Bool) :
    measures (log ++ [.updateRegistrationMask mask isEnabled]) =
      will (measures log) (.updateRegistrationMask mask isEnabled) := by
  have hbit : locApiAdapterGnssMeasurement < 32 := by decide
  rw [measures_append, List.foldl_cons, List.foldl_nil, will, measures]
  cases isEnabled with
  | true =>
    rw [ask, BitVec.getLsbD_or]
    cases mask.getLsbD locApiAdapterGnssMeasurement <;> simp
  | false =>
    rw [ask, BitVec.getLsbD_and, BitVec.getLsbD_not]
    cases mask.getLsbD locApiAdapterGnssMeasurement <;> simp [hbit]

theorem measures_open (log : List MeasurementCall) (mask : BitVec 32) :
    measures (log ++ [.api (.open mask)]) =
      (measures log || mask.getLsbD locApiAdapterGnssMeasurement) := by
  rw [measures_append, List.foldl_cons, List.foldl_nil, ask, Registration.ask, BitVec.getLsbD_or,
    measures]

/-- An API that is closed and opened is asked for what it is opened with. -/
theorem measures_reopen (log : List MeasurementCall) (mask : BitVec 32) :
    measures (log ++ [.api .close, .api (.open mask)]) =
      mask.getLsbD locApiAdapterGnssMeasurement := by
  rw [measures_append, List.foldl_cons, List.foldl_cons, List.foldl_nil, ask, Registration.ask,
    ask, Registration.ask]
  show (0#32 ||| mask).getLsbD _ = mask.getLsbD _
  rw [BitVec.zero_or]

variable {s : Measurement α}

/-- No adapter wants them. -/
theorem getEvtMask_plain {registration : Registration α}
    (hholds : ∃ xs, registration.api.Holds xs)
    (hplain : ∀ adapter,
      (registration.mEvtMask adapter).getLsbD locApiAdapterGnssMeasurement = false) :
    registration.getEvtMask.getLsbD locApiAdapterGnssMeasurement = false := by
  obtain ⟨xs, hxs⟩ := hholds
  refine Bool.eq_false_iff.mpr fun hbit => ?_
  obtain ⟨⟨adapter, -, hwants⟩, -⟩ := hxs.getLsbD_getEvtMask.mp hbit
  rw [hplain adapter] at hwants
  cases hwants

/-- The message thread processes the oldest message. -/
theorem Agrees.proc (h : s.Agrees) {msg : MeasurementMsg} {queue : List MeasurementMsg}
    (hqueue : s.queue = msg :: queue) : ({ s with queue := queue }.proc msg).Agrees := by
  have hpending := h.pending
  rw [Measurement.pending, hqueue, List.foldl_cons] at hpending
  cases msg with
  | updateRegistrationMask mask isEnabled =>
    refine ⟨h.queue, h.log, h.holds, h.plain, ?_⟩
    rw [← measures_update] at hpending
    exact hpending
  | api msg =>
    have hwait : ∀ registration : Registration α, registration.queue = [] →
        s.registration.api = registration.api → s.registration.mEvtMask = registration.mEvtMask →
        measures (s.log ++ registration.log.map MeasurementCall.api) =
          will (measures s.log) (.api msg) →
        ({ s with queue := queue }.settle registration).Agrees := by
      intro registration hnil hapi hmask hmeasures
      refine ⟨rfl, rfl, ?_, ?_, ?_⟩
      · exact hapi ▸ h.holds
      · intro adapter
        exact hmask ▸ h.plain adapter
      · show (queue ++ registration.queue.map MeasurementMsg.api).foldl will
          (measures (s.log ++ registration.log.map MeasurementCall.api)) = _
        rw [hnil, List.map_nil, List.append_nil, hmeasures]
        exact hpending
    cases msg with
    | locOpenMsg mask =>
      refine hwait (s.registration.proc (.locOpenMsg mask)) h.queue rfl rfl ?_
      rw [Registration.proc, h.log]
      exact measures_open s.log mask
    | locSsrMsg =>
      refine hwait (s.registration.proc .locSsrMsg) h.queue rfl rfl ?_
      rw [Registration.proc, h.log]
      exact (measures_reopen s.log _).trans (getEvtMask_plain h.holds h.plain)

/-- Masks that want no measurements make no difference. -/
theorem foldl_will_plain (masks : List (BitVec 32))
    (h : ∀ mask ∈ masks, mask.getLsbD locApiAdapterGnssMeasurement = false) :
    ∀ measures : Bool,
      (masks.map fun mask => MeasurementMsg.api (.locOpenMsg mask)).foldl will measures =
        measures := by
  induction masks with
  | nil => intro measures; rfl
  | cons mask masks ih =>
    intro measures
    rw [List.map_cons, List.foldl_cons, will, h mask List.mem_cons_self, Bool.or_false]
    exact ih (fun mask' hmem => h mask' (List.mem_cons_of_mem _ hmem)) measures

/-- The adapters have sent messages with masks that want no measurements. -/
theorem Agrees.settle (h : s.Agrees) {registration : Registration α} (masks : List (BitVec 32))
    (hqueue : registration.queue = masks.map .locOpenMsg) (hlog : registration.log = [])
    (hmasks : ∀ mask ∈ masks, mask.getLsbD locApiAdapterGnssMeasurement = false)
    (hholds : ∃ xs, registration.api.Holds xs)
    (hplain : ∀ adapter,
      (registration.mEvtMask adapter).getLsbD locApiAdapterGnssMeasurement = false) :
    (s.settle registration).Agrees := by
  refine ⟨rfl, rfl, hholds, hplain, ?_⟩
  show (s.queue ++ registration.queue.map MeasurementMsg.api).foldl will
    (measures (s.log ++ registration.log.map MeasurementCall.api)) = _
  rw [hqueue, hlog, List.map_nil, List.append_nil, List.map_map, List.foldl_append]
  exact (foldl_will_plain masks hmasks _).trans h.pending

variable [DecidableEq α]

theorem Agrees.construct (h : s.Agrees) (adapter : α) {mask : BitVec 32}
    (hmask : mask.getLsbD locApiAdapterGnssMeasurement = false) :
    (s.settle (s.registration.step (.construct adapter mask))).Agrees := by
  obtain ⟨xs, hxs⟩ := h.holds
  rw [Registration.step]
  by_cases halive : s.registration.alive adapter = true
  · rw [if_pos halive]
    exact h.settle [] h.queue h.log (List.forall_mem_nil _) h.holds h.plain
  · rw [if_neg halive]
    have hself : Function.update s.registration.mEvtMask adapter mask adapter = mask :=
      Function.update_self ..
    have hplain : ∀ a, (Function.update s.registration.mEvtMask adapter mask a).getLsbD
        locApiAdapterGnssMeasurement = false := by
      intro a
      by_cases hne : a = adapter
      · rw [hne, hself]
        exact hmask
      · rw [Function.update_of_ne hne]
        exact h.plain a
    rcases hxs.addAdapter (Function.update s.registration.mEvtMask adapter mask) adapter with
      ⟨-, hadd⟩ | ⟨-, -, api, hadd, hxs'⟩
    · -- there is no place for it
      simp only [hadd]
      exact h.settle [] h.queue h.log (List.forall_mem_nil _) ⟨xs, hxs⟩ hplain
    · simp only [hadd, hself, Registration.changed_singleton]
      refine h.settle [mask] ?_ h.log (List.forall_mem_singleton.mpr hmask) ⟨_, hxs'⟩ hplain
      show s.registration.queue ++ [.locOpenMsg mask] = _
      rw [h.queue]
      rfl

theorem Agrees.updateEvtMask (h : s.Agrees) (adapter : α) {event : BitVec 32} {isEnabled : Bool}
    (hevent : isEnabled = true → event.getLsbD locApiAdapterGnssMeasurement = false) :
    (s.settle (s.registration.step (.updateEvtMask adapter event isEnabled))).Agrees := by
  rw [Registration.step]
  by_cases halive : s.registration.alive adapter = true
  · rw [if_pos halive]
    dsimp only
    have hplain : ∀ a, (Function.update s.registration.mEvtMask adapter
        (if isEnabled then s.registration.mEvtMask adapter ||| event
          else s.registration.mEvtMask adapter &&& ~~~event) a).getLsbD
        locApiAdapterGnssMeasurement = false := by
      intro a
      by_cases hne : a = adapter
      · rw [hne, Function.update_self]
        cases isEnabled with
        | true => rw [if_pos rfl, BitVec.getLsbD_or, h.plain adapter, hevent rfl, Bool.or_false]
        | false =>
          rw [if_neg Bool.false_ne_true, BitVec.getLsbD_and, h.plain adapter, Bool.false_and]
      · rw [Function.update_of_ne hne]
        exact h.plain a
    generalize Function.update s.registration.mEvtMask adapter _ = evtMask at hplain ⊢
    refine h.settle [({ s.registration with mEvtMask := evtMask } : Registration α).getEvtMask]
      ?_ h.log (List.forall_mem_singleton.mpr ?_) h.holds hplain
    · show s.registration.queue ++ [_] = _
      rw [h.queue]
      rfl
    · exact getEvtMask_plain h.holds hplain
  · rw [if_neg halive]
    exact h.settle [] h.queue h.log (List.forall_mem_nil _) h.holds h.plain

omit [DecidableEq α] in
/-- The API is to be told, behind the messages that wait. -/
theorem Agrees.tell (h : s.Agrees) (isEnabled : Bool) (measurementCallback : Option ℕ)
    (deed : MeasurementDeed) (hdeed : deed.wants = some isEnabled) :
    ({ s with
      queue := s.queue ++ [.updateRegistrationMask locApiAdapterBitGnssMeasurement isEnabled]
      gpsMeasurementCb := measurementCallback
      deeds := s.deeds ++ [deed] } : Measurement α).Agrees := by
  refine ⟨h.queue, h.log, h.holds, h.plain, ?_⟩
  have hbit : locApiAdapterBitGnssMeasurement.getLsbD locApiAdapterGnssMeasurement = true := by
    decide
  show (s.queue ++ [MeasurementMsg.updateRegistrationMask locApiAdapterBitGnssMeasurement
    isEnabled]).foldl will (measures s.log) = _
  rw [List.foldl_append, List.foldl_cons, List.foldl_nil, will, if_pos hbit, latest_concat, hdeed]
  rfl

omit [DecidableEq α] in
theorem Agrees.refuse (h : s.Agrees) (deed : MeasurementDeed) (hdeed : deed.wants = none) :
    ({ s with deeds := s.deeds ++ [deed] } : Measurement α).Agrees := by
  refine ⟨h.queue, h.log, h.holds, h.plain, ?_⟩
  show s.pending = _
  rw [h.pending, latest_concat, hdeed]
  rfl

/-- **One step** keeps what will be asked for what the deeds want. -/
theorem Agrees.step (h : s.Agrees) {input : MeasurementInput α} (hplain : input.Plain) :
    (s.step input).Agrees := by
  cases input with
  | locEngInit => exact ⟨h.queue, h.log, h.holds, h.plain, h.pending⟩
  | registration input =>
    cases input with
    | construct adapter mask => exact h.construct adapter hplain
    | destruct adapter => exact hplain.elim
    | updateEvtMask adapter event isEnabled => exact h.updateEvtMask adapter hplain
    | handleEngineUpEvent =>
      refine ⟨rfl, rfl, h.holds, h.plain, ?_⟩
      show (s.queue ++ (s.registration.queue ++ [ApiMsg.locSsrMsg]).map MeasurementMsg.api).foldl will
        (measures (s.log ++ s.registration.log.map MeasurementCall.api)) = _
      rw [h.queue, h.log, List.map_nil, List.append_nil, List.foldl_append]
      show false = (latest _ (s.deeds ++ [.handleEngineUpEvent])).getD false
      rw [latest_concat]
      rfl
    | msgTask =>
      simp only [Measurement.step, Registration.step, h.queue]
      exact h.settle [] h.queue h.log (List.forall_mem_nil _) h.holds h.plain
  | gpsMeasurementInit callbacks =>
    simp only [Measurement.step, Measurement.gpsMeasurementInit]
    by_cases hset : s.gpsMeasurementCb.isSome = true
    · rw [if_pos hset]
      refine h.refuse _ ?_
      cases callbacks <;> rfl
    · rw [if_neg hset]
      cases callbacks with
      | none => exact h.refuse (.gpsMeasurementInit none .errorGeneric) rfl
      | some measurementCallback =>
        by_cases hadapter : s.adapter = true
        · simp only [if_pos hadapter]
          exact h.tell true measurementCallback
            (.gpsMeasurementInit (some measurementCallback) .operationSuccess) rfl
        · simp only [if_neg hadapter]
          exact h.refuse (.gpsMeasurementInit (some measurementCallback) .errorGeneric) rfl
  | gpsMeasurementClose =>
    simp only [Measurement.step, Measurement.gpsMeasurementClose]
    by_cases hadapter : s.adapter = true
    · rw [if_pos hadapter]
      exact h.tell false none .gpsMeasurementClose rfl
    · rw [if_neg hadapter]
      exact h
  | msgTask =>
    cases hqueue : s.queue with
    | nil =>
      simp only [Measurement.step, hqueue]
      exact h
    | cons msg queue =>
      simp only [Measurement.step, hqueue]
      exact h.proc hqueue

/-! ### Runs -/

/-- The messages that wait are processed. -/
theorem exec_msgTask :
    ∀ (queue : List MeasurementMsg) (s : Measurement α), s.queue = queue → s.Agrees →
      let s' := exec step s (List.replicate queue.length .msgTask)
      s'.queue = [] ∧ s'.deeds = s.deeds ∧ s'.Agrees := by
  intro queue
  induction queue with
  | nil => intro s hqueue h; exact ⟨hqueue, rfl, h⟩
  | cons msg queue ih =>
    intro s hqueue h
    have hstep : s.step .msgTask = { s with queue := queue }.proc msg := by
      simp only [Measurement.step, hqueue]
    have hproc : ({ s with queue := queue }.proc msg).queue = queue := by
      cases msg with
      | updateRegistrationMask mask isEnabled => rfl
      | api msg =>
        -- what the adapters send is sent by other steps
        have hnil : (s.registration.proc msg).queue = [] := by
          cases msg <;> exact h.queue
        show queue ++ (s.registration.proc msg).queue.map MeasurementMsg.api = queue
        rw [hnil, List.map_nil, List.append_nil]
    obtain ⟨hnil, hdeeds, h'⟩ := ih _ hproc (h.proc hqueue)
    show let s' := exec step (s.step .msgTask) (List.replicate queue.length .msgTask)
      s'.queue = [] ∧ s'.deeds = s.deeds ∧ s'.Agrees
    rw [hstep]
    exact ⟨hnil, hdeeds.trans (proc_callback _ msg).2, h'⟩

omit [DecidableEq α] in
theorem agrees_init (excludedMask : BitVec 32) : (init excludedMask : Measurement α).Agrees where
  queue := rfl
  log := rfl
  holds := ⟨[], LocApiBase.holds_init excludedMask⟩
  plain _ := BitVec.getLsbD_zero
  pending := by simp [Measurement.pending, init, measures, asked]

end Measurement

/-- Where no deed changes the callback, the modem may have come up again. -/
theorem latest_wants (deeds : List MeasurementDeed) (h : ∀ deed ∈ deeds, deed.callback = none) :
    latest MeasurementDeed.wants deeds =
      if .handleEngineUpEvent ∈ deeds then some false else none := by
  induction deeds using List.reverseRecOn with
  | nil => rfl
  | append_singleton deeds deed ih =>
    have hdeed := h deed (List.mem_append_right _ (List.mem_singleton_self _))
    rw [latest_concat, ih fun d hd => h d (List.mem_append_left _ hd)]
    cases deed with
    | handleEngineUpEvent => rw [if_pos (List.mem_append_right _ (List.mem_singleton_self _))]; rfl
    | gpsMeasurementClose => cases hdeed
    | gpsMeasurementInit callbacks ret =>
      have hmem : .handleEngineUpEvent ∈ deeds ++ [.gpsMeasurementInit callbacks ret] ↔
          .handleEngineUpEvent ∈ deeds := by simp
      have hwants : (MeasurementDeed.gpsMeasurementInit callbacks ret).wants = none := by
        cases callbacks with
        | none => rfl
        | some measurementCallback =>
          cases ret with
          | operationSuccess => cases hdeed
          | errorAlreadyInit => rfl
          | errorGeneric => rfl
      rw [hwants, Option.none_or]
      simp only [hmem]

namespace Measurement

variable [DecidableEq α]

/-- **The measurements are asked for until the modem restarts.**  In a run in which no adapter goes
or wants them by its own mask, when the messages that wait are processed: while no call has changed
the callback since `loc_eng_gps_measurement_init` succeeded, it is set, and the API is asked for
measurements just if the modem has not come up again since; and they are not asked for after a
`loc_eng_gps_measurement_close`. -/
theorem measurement_exec (excludedMask : BitVec 32) (inputs : List (MeasurementInput α))
    (hplain : ∀ input ∈ inputs, input.Plain) :
    let s := exec step (init excludedMask) inputs
    let s' := exec step s (List.replicate s.queue.length .msgTask)
    s'.queue = [] ∧
    (∀ before measurementCallback after,
      s.deeds = before ++ .gpsMeasurementInit (some measurementCallback) .operationSuccess :: after →
      (∀ deed ∈ after, deed.callback = none) →
        s.gpsMeasurementCb = measurementCallback ∧
          (measures s'.log = true ↔ .handleEngineUpEvent ∉ after)) ∧
    ∀ before after, s.deeds = before ++ .gpsMeasurementClose :: after →
      (∀ deed ∈ after, deed.callback = none) →
        s.gpsMeasurementCb = none ∧ measures s'.log = false := by
  intro s s'
  have hstep : ∀ (t : Measurement α) i, i.Plain → t.Agrees → (t.step i).Agrees :=
    fun _ _ hi h => h.step hi
  have hs : s.Agrees := exec_inv_of_forall hstep inputs _ hplain (agrees_init excludedMask)
  have hcb : s.gpsMeasurementCb = (latest MeasurementDeed.callback s.deeds).getD none :=
    exec_inv (fun t i h => callback_step t i h) inputs (init excludedMask) rfl
  obtain ⟨hnil, hdeeds, hs'⟩ := exec_msgTask s.queue s rfl hs
  -- nothing waits any more
  have hmeasures : measures s'.log = (latest MeasurementDeed.wants s.deeds).getD false := by
    have hpending := hs'.pending
    rw [pending, hnil, hdeeds] at hpending
    exact hpending
  have hlast : ∀ {deeds : List MeasurementDeed}, (∀ deed ∈ deeds, deed.callback = none) →
      latest MeasurementDeed.callback deeds = none := fun h => latest_eq_none_iff.mpr h
  refine ⟨hnil, fun before measurementCallback after heq hafter => ?_,
    fun before after heq hafter => ?_⟩
  · rw [hcb, hmeasures, heq, latest_middle, latest_middle, hlast hafter, latest_wants after hafter]
    refine ⟨rfl, ?_⟩
    by_cases hup : .handleEngineUpEvent ∈ after <;> simp [hup, MeasurementDeed.wants]
  · rw [hcb, hmeasures, heq, latest_middle, latest_middle, hlast hafter, latest_wants after hafter]
    refine ⟨rfl, ?_⟩
    by_cases hup : .handleEngineUpEvent ∈ after <;> simp [hup, MeasurementDeed.wants]

/-- The callback is set and the modem restarts. -/
theorem measurement_exec_restart :
    let inputs : List (MeasurementInput ℕ) :=
      [.registration (.construct 0 0x1F7), .locEngInit, .gpsMeasurementInit (some (some 7)),
        .msgTask, .registration .handleEngineUpEvent]
    let s := exec step (init 0) inputs
    let s' := exec step s (List.replicate s.queue.length .msgTask)
    s.gpsMeasurementCb = some 7 ∧ (measures s'.log = true ↔
      .handleEngineUpEvent ∉ [MeasurementDeed.handleEngineUpEvent]) := by
  refine (measurement_exec 0 _ ?_).2.1 [] (some 7) [.handleEngineUpEvent] rfl ?_
  · decide
  · decide

end Measurement
end Nx507j
