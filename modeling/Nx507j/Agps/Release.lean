import Nx507j.Agps.Leftover
import Nx507j.Agps.LocEng

/-!
# The release of a handle

`LocEngReleaseATL` asks the machines one after the other to release a handle, and stops at
the first that lists it.  A message that the data service has posted for the handle is not looked
for.

## Main definitions

* `Engine.Lists`, `Engine.Retries` — a machine lists the handle as active, or a retry has been
  posted for it.
* `Engine.Sound` — what holds of the machines while only the modem has subscribers.

## Main results

* `Engine.step_dsNif` — what a step makes of the data service.
* `Engine.releaseATL_spec` — which machines are asked to release a handle.
* `Engine.lists_ds_releaseATL` — when the data service lists it afterwards.
-/

namespace Nx507j
namespace Agps

open AgpsStateMachine Run

namespace Engine

/-! ### The engine without the daemons -/

/-- The modem asks for a resource for the handle. -/
def Input.requests (h : UInt32) : Input → Bool
  | .msg m _ => m.requests h
  | _ => false

/-- The machine lists the handle as active. -/
def Lists (h : UInt32) (e : Engine) (sm : Nif) : Prop :=
  ∃ m ∈ e.machine sm, DataService.ListsActive h m

/-- The number of data calls that have been started on behalf of a handle. -/
def starts (h : UInt32) (e : Engine) : ℕ :=
  match e.dsNif with
  | some d => startsFor h d.sm.log
  | none => 0

/-- The data service has posted a retry for the handle. -/
def Retries (h : UInt32) (e : Engine) : Prop := ∃ d ∈ e.dsNif, .requestSuplES h ∈ d.queue

/-- The message denies `ds_nif` its resource. -/
def Input.deniesDs : Input → Bool
  | .msg m _ => m.deniesDs
  | _ => false

/-- What holds of a machine of the framework while only the modem has subscribers. -/
structure ServesAtl (m : AgpsStateMachine) : Prop where
  attended : Attended m
  uniform : Uniform .atl m
  many : m.mEnforceSingleSubscriber = false

theorem servesAtl_new (type : AGpsExtType) : ServesAtl (new type false) where
  attended := attended_new type false
  uniform := uniform_new .atl type false
  many := rfl

theorem ServesAtl.call {m : AgpsStateMachine} (hm : ServesAtl m) {c : Call × Env}
    (hc : c.1.isOf .atl = true) : ServesAtl (m.call c) where
  attended := (call_step m c).attended hm.attended
  uniform := (call_step m c).uniform hm.uniform hc
  many := (call_step m c).mEnforceSingleSubscriber_eq.trans hm.many

/-- What holds of the engine's machines while only the modem has subscribers. -/
structure Sound (e : Engine) : Prop where
  serves : ∀ sm, ServesModem sm → ∀ m ∈ e.machine sm, ServesAtl m
  tidy : ∀ d ∈ e.dsNif, DataService.Tidy d
  fresh : e.dataClientInit = true → e.dsNif = none
  equipped : ∃ conf, Equipped conf e

theorem sound_init (conf : Conf) : Sound (init conf) where
  serves := by
    intro sm hsm m hm
    rcases hsm with rfl | rfl
    · simp only [init, machine, Option.mem_def] at hm
      split at hm
      · obtain rfl := Option.some.inj hm
        exact servesAtl_new _
      · cases hm
    · obtain rfl := Option.some.inj hm
      exact servesAtl_new _
  tidy := nofun
  fresh := fun _ => rfl
  equipped := ⟨conf, equipped_init conf⟩

/-- Calls on the machines leave a data service where there is one. -/
theorem Calls.keeps {P : Nif → Call → Prop} {e e' : Engine} (h : Calls P e e') :
    e'.dataClientInit = e.dataClientInit ∧ e'.dsNif.isSome = e.dsNif.isSome := by
  induction h with
  | refl => exact ⟨rfl, rfl⟩
  | say h call ih => exact ih
  | callOn h sm c hc ih =>
    refine ⟨?_, ?_⟩
    · rw [← ih.1]
      cases sm <;> rfl
    · rw [dsNif_callOn, ← ih.2]
      split
      · exact Option.isSome_map
      · rfl

/-- A step leaves a data service where there is one, and makes one only once. -/
theorem step_keeps (e : Engine) (i : Input) :
    (e.dsNif.isSome = true → (e.step i).dsNif.isSome = true) ∧
      ((e.step i).dataClientInit = true →
        e.dataClientInit = true ∧ (e.step i).dsNif.isSome = e.dsNif.isSome) := by
  have hsame : ∀ e' : Engine, e'.dataClientInit = e.dataClientInit →
      e'.dsNif.isSome = e.dsNif.isSome → (e.dsNif.isSome = true → e'.dsNif.isSome = true) ∧
        (e'.dataClientInit = true →
          e.dataClientInit = true ∧ e'.dsNif.isSome = e.dsNif.isSome) := by
    intro e' hi hs
    rw [hi, hs]
    exact ⟨fun h => h, fun h => ⟨h, rfl⟩⟩
  have hstep := step_cases e i
  generalize e.step i = e' at hstep ⊢
  cases hstep with
  | calls h =>
    obtain ⟨hi, hs⟩ := h.keeps
    exact hsame _ hi hs
  | up env hcb => exact hsame _ rfl rfl
  | dataClientInit ret env h =>
    refine ⟨fun h => ?_, fun h => by cases h⟩
    show Option.isSome (if ret = 0 then _ else _) = true
    split
    · rfl
    · exact h
  | timer => exact hsame _ rfl Option.isSome_map
  | deliver env => exact hsame _ rfl Option.isSome_map
  | deliverATL id agpsType env h =>
    obtain ⟨hi, hs⟩ := (requestATL_calls (P := fun _ _ => True) id agpsType
      { e with dsNif := e.dsNif.map (·.deliver env) } env fun _ _ => trivial).keeps
    exact hsame _ hi (hs.trans Option.isSome_map)

/-- A regular ATL that the data service asks for is none of its own concern. -/
theorem dsNif_requestATL_supl (e : Engine) (id : UInt32) (env : Env) :
    (e.requestATL id agpsTypeSupl env).dsNif = e.dsNif := by
  have hne : agpsTypeSupl ≠ agpsTypeWifi := by decide
  unfold requestATL getAgpsStateMachine
  simp only [if_neg hne, or_true, if_true]
  cases h : e.machine .agnss with
  | none => simp [say]
  | some m => simp [callOn]

/-- **What a step makes of the data service**: what its steps keep, and the constructor gives,
a step of the engine keeps. -/
theorem step_dsNif {Q : DataService → Prop} {e : Engine} {i : Input} (he : e.Sound)
    (hi : i.isATL = true)
    (hstep : ∀ d j, j.isOf .dataService = true →
      (∀ h, j.subscribes h = true → i.requests h = true) →
      (∀ env, j = .call (.onRsrcEvent .rsrcDenied) env → i.deniesDs = true) → Q d → Q (d.step j))
    (hnew : e.dataClientInit = true → Q .new) (hQ : ∀ d ∈ e.dsNif, Q d) :
    ∀ d ∈ (e.step i).dsNif, Q d := by
  have hdeliver : ∀ env, ∀ d' ∈ e.dsNif.map (·.deliver env), Q d' := by
    intro env d' hd'
    obtain ⟨d, hd, rfl⟩ := Option.map_eq_some_iff.mp hd'
    exact hstep d (.deliver env) rfl nofun nofun (hQ d hd)
  have hcases := step_cases e i
  generalize e.step i = e' at hcases ⊢
  cases hcases with
  | calls h =>
    refine h.dsNif ?_ hQ
    intro d c hc hd
    refine hstep d (.call c.1 c.2) (hc.isOf hi) ?_ ?_ hd
    · intro h hsub
      cases hc1 : c.1 with
      | subscribeRsrc x =>
        rw [hc1] at hsub
        have hID : x.ID = h := eq_of_beq hsub
        rw [← hID]
        exact hc.requests x hc1
      | _ =>
        rw [hc1] at hsub
        cases hsub
    · intro env' heq
      exact hc.denies rfl (DataService.Input.call.inj heq).1
  | up env hcb => cases hi
  | dataClientInit ret env h =>
    intro d hd
    change d ∈ (if ret = 0 then some DataService.new else e.dsNif) at hd
    split at hd
    · obtain rfl := Option.some.inj hd
      exact hnew h
    · exact hQ d hd
  | timer =>
    intro d' hd'
    obtain ⟨d, hd, rfl⟩ := Option.map_eq_some_iff.mp hd'
    exact hstep d .timer rfl nofun nofun (hQ d hd)
  | deliver env => exact hdeliver env
  | deliverATL id agpsType env heq =>
    -- what it posts for another machine is a regular ATL, which goes to `agnss_nif`
    obtain rfl := (he.tidy _ heq).supl id agpsType List.mem_cons_self
    rw [dsNif_requestATL_supl]
    exact hdeliver env

/-- A step that is none of the daemons' keeps the engine sound. -/
theorem Sound.step {e : Engine} (he : e.Sound) {i : Input} (hi : i.isATL = true) :
    (e.step i).Sound where
  serves := by
    intro sm hsm
    have hne : sm ≠ .ds := by
      rcases hsm with rfl | rfl <;> exact nofun
    refine step_machine hne (fun m c hc hm => hm.call (hc hi)) ?_ (he.serves sm hsm)
    rintro env rfl
    cases hi
  tidy := step_dsNif he hi (fun d j hj _ _ hd => (DataService.step_tidy hd hj).1)
    (fun _ => DataService.tidy_new) he.tidy
  fresh := by
    intro h
    obtain ⟨hinit, hsome⟩ := (step_keeps e i).2 h
    rw [he.fresh hinit] at hsome
    exact Option.isNone_iff_eq_none.mp (by simpa using hsome)
  equipped := he.equipped.imp fun _ h => h.step i

theorem sound_exec {is : List Input} {e : Engine} (he : e.Sound)
    (his : ∀ i ∈ is, i.isATL = true) : (exec Engine.step e is).Sound :=
  exec_inv_of_forall (fun _ _ hi he => he.step hi) is e his he

/-! ### The release -/

section Release

variable {e e' : Engine} {h : UInt32} {env : Env} {found : Bool}

theorem lists_congr {sm : Nif} (hm : e'.machine sm = e.machine sm) :
    e'.Lists h sm ↔ e.Lists h sm := by
  unfold Lists
  rw [hm]

theorem lists_ds : e.Lists h .ds ↔ ∃ d ∈ e.dsNif, DataService.ListsActive h d.sm := by
  constructor
  · rintro ⟨m, hm, hact⟩
    obtain ⟨d, hd, rfl⟩ := Option.map_eq_some_iff.mp hm
    exact ⟨d, hd, hact⟩
  · rintro ⟨d, hd, hact⟩
    exact ⟨d.sm, Option.map_eq_some_iff.mpr ⟨d, hd, rfl⟩, hact⟩

theorem machine_callOn_of_ne {sm sm' : Nif} (c : Call × Env) (hne : sm' ≠ sm) :
    (e.callOn sm c).machine sm' = e.machine sm' := by
  rw [machine_callOn, if_neg hne]

/-- A machine of the framework that is asked to release a handle. -/
theorem unsubscribe_plain {sm : Nif} (hsm : ServesModem sm)
    (he : ∀ m ∈ e.machine sm, ServesAtl m)
    (hu : e.unsubscribe sm (.atl h false) env = (found, e')) :
    (found = true ↔ e.Lists h sm) ∧ ¬ e'.Lists h sm ∧
      (∀ sm', sm' ≠ sm → e'.machine sm' = e.machine sm') ∧ e'.dsNif = e.dsNif := by
  unfold unsubscribe at hu
  cases hm : e.machine sm with
  | none =>
    rw [hm] at hu
    obtain ⟨rfl, rfl⟩ := Prod.mk.inj hu
    have hno : ¬ e.Lists h sm := by
      rintro ⟨m, hm', -⟩
      rw [hm] at hm'
      cases hm'
    exact ⟨iff_of_false nofun hno, hno, fun _ _ => rfl, rfl⟩
  | some m =>
    rw [hm] at hu
    obtain ⟨rfl, rfl⟩ := Prod.mk.inj hu
    have hm' := he m hm
    refine ⟨?_, ?_, fun sm' hne => machine_callOn_of_ne _ hne, ?_⟩
    · rw [DataService.found_iff hm'.uniform]
      constructor
      · intro hact
        exact ⟨m, hm, hact⟩
      · rintro ⟨m₁, hm₁, hact⟩
        rw [hm] at hm₁
        obtain rfl := Option.some.inj hm₁
        exact hact
    · rintro ⟨m₁, hm₁, hact⟩
      rw [machine_callOn, if_pos rfl, hm] at hm₁
      obtain rfl := Option.some.inj hm₁
      exact DataService.not_listsActive_release hm'.attended hm'.uniform h env hact
    · rw [dsNif_callOn, if_neg]
      rcases hsm with rfl | rfl <;> exact nofun

/-- The data service that is asked to release a handle. -/
theorem unsubscribe_ds (hu : e.unsubscribe .ds (.ds h false) env = (found, e')) :
    e'.dsNif = e.dsNif.map (·.step (.call (.unsubscribeRsrc (.ds h false)) env)) ∧
      ∀ sm', sm' ≠ .ds → e'.machine sm' = e.machine sm' := by
  unfold unsubscribe at hu
  cases hds : e.dsNif with
  | none =>
    have hm : e.machine .ds = none := by simp [machine, hds]
    rw [hm] at hu
    obtain ⟨-, rfl⟩ := Prod.mk.inj hu
    exact ⟨hds, fun _ _ => rfl⟩
  | some d =>
    have hm : e.machine .ds = some d.sm := by simp [machine, hds]
    rw [hm] at hu
    obtain ⟨-, rfl⟩ := Prod.mk.inj hu
    refine ⟨?_, fun sm' hne => machine_callOn_of_ne _ hne⟩
    rw [dsNif_callOn, if_pos rfl, hds]
    rfl

/-- **What a release does**: of the machines that list the handle, the first is asked to release
it; the data service is asked when neither of the others lists it. -/
theorem releaseATL_spec (he : e.Sound) (h : UInt32) (env : Env) :
    ¬ (e.releaseATL h env).Lists h .agnss ∧
      ((e.releaseATL h env).Lists h .internet ↔ e.Lists h .agnss ∧ e.Lists h .internet) ∧
      ((e.releaseATL h env).dsNif = e.dsNif ∧ (e.Lists h .agnss ∨ e.Lists h .internet) ∨
        (e.releaseATL h env).dsNif =
            e.dsNif.map (·.step (.call (.unsubscribeRsrc (.ds h false)) env)) ∧
          ¬ (e.Lists h .agnss ∨ e.Lists h .internet)) := by
  obtain ⟨found₁, e₁, hu₁⟩ : ∃ found e', e.unsubscribe .agnss (.atl h false) env = (found, e') :=
    ⟨_, _, rfl⟩
  obtain ⟨hfound₁, hno₁, hmach₁, hds₁⟩ :=
    unsubscribe_plain (Or.inl rfl) (he.serves .agnss (Or.inl rfl)) hu₁
  have hint₁ := hmach₁ .internet (by decide)
  -- the machines are asked in the order of the code, and the first that finds it ends it
  unfold releaseATL
  rw [hu₁]
  cases found₁ with
  | true =>
    -- the first machine has found the handle
    have hA := hfound₁.mp rfl
    refine ⟨hno₁, ?_, Or.inl ⟨hds₁, Or.inl hA⟩⟩
    rw [lists_congr hint₁, and_iff_right hA]
  | false =>
    have hA : ¬ e.Lists h .agnss := fun hA => Bool.false_ne_true (hfound₁.mpr hA)
    obtain ⟨found₂, e₂, hu₂⟩ :
        ∃ found e', e₁.unsubscribe .internet (.atl h false) env = (found, e') := ⟨_, _, rfl⟩
    have hserves₂ := he.serves .internet (Or.inr rfl)
    rw [← hint₁] at hserves₂
    obtain ⟨hfound₂, hno₂, hmach₂, hds₂⟩ := unsubscribe_plain (Or.inr rfl) hserves₂ hu₂
    have hno₂' : ¬ e₂.Lists h .agnss := by
      rw [lists_congr (hmach₂ .agnss (by decide))]
      exact hno₁
    simp only [hu₂]
    cases found₂ with
    | true =>
      have hI := hfound₂.mp rfl
      rw [lists_congr hint₁] at hI
      exact ⟨hno₂', iff_of_false hno₂ fun hAI => hA hAI.1,
        Or.inl ⟨hds₂.trans hds₁, Or.inr hI⟩⟩
    | false =>
      have hI : ¬ e.Lists h .internet := by
        rw [← lists_congr hint₁]
        exact fun hI => Bool.false_ne_true (hfound₂.mpr hI)
      obtain ⟨found₃, e₃, hu₃⟩ :
          ∃ found e', e₂.unsubscribe .ds (.ds h false) env = (found, e') := ⟨_, _, rfl⟩
      obtain ⟨hds₃, hmach₃⟩ := unsubscribe_ds hu₃
      rw [hds₂, hds₁] at hds₃
      have hno₃ : ¬ e₃.Lists h .agnss ∧ ¬ e₃.Lists h .internet := by
        rw [lists_congr (hmach₃ .agnss (by decide)), lists_congr (hmach₃ .internet (by decide))]
        exact ⟨hno₂', hno₂⟩
      simp only [hu₃]
      cases found₃ <;> exact ⟨hno₃.1, iff_of_false hno₃.2 fun hAI => hA hAI.1,
        Or.inr ⟨hds₃, fun h => h.elim hA hI⟩⟩

/-- The data service lists the handle afterwards if another machine has been asked in its place,
or if it is in Released. -/
theorem lists_ds_releaseATL (he : e.Sound) (h : UInt32) (env : Env) :
    (e.releaseATL h env).Lists h .ds ↔ ∃ d ∈ e.dsNif, DataService.ListsActive h d.sm ∧
      (e.Lists h .agnss ∨ e.Lists h .internet ∨ d.sm.mStatePtr = .released) := by
  obtain ⟨-, -, hds⟩ := releaseATL_spec he h env
  rw [lists_ds]
  rcases hds with ⟨hds, hsome⟩ | ⟨hds, hnone⟩
  · have hor : ∀ d : DataService, e.Lists h .agnss ∨ e.Lists h .internet ∨
        d.sm.mStatePtr = .released := fun d => hsome.elim Or.inl fun h => Or.inr (Or.inl h)
    simp only [hds, hor, and_true]
  · rw [not_or] at hnone
    simp only [hds, hnone.1, hnone.2, false_or]
    constructor
    · rintro ⟨d', hd', hact⟩
      obtain ⟨d, hd, rfl⟩ := Option.map_eq_some_iff.mp hd'
      exact ⟨d, hd, (DataService.listsActive_release (he.tidy d hd).orderly h env).mp hact⟩
    · rintro ⟨d, hd, hact⟩
      exact ⟨_, Option.map_eq_some_iff.mpr ⟨d, hd, rfl⟩,
        (DataService.listsActive_release (he.tidy d hd).orderly h env).mpr hact⟩

/-- What the data service has posted stays posted. -/
theorem mem_queue_releaseATL (he : e.Sound) (h : UInt32) (env : Env) {d : DataService}
    (hd : d ∈ e.dsNif) :
    ∃ d' ∈ (e.releaseATL h env).dsNif, ∀ p ∈ d.queue, p ∈ d'.queue := by
  obtain ⟨-, -, ⟨hds, -⟩ | ⟨hds, -⟩⟩ := releaseATL_spec he h env
  · exact ⟨d, hds ▸ hd, fun p hp => hp⟩
  · obtain ⟨ps, hps⟩ := d.exists_queue_step (.call (.unsubscribeRsrc (.ds h false)) env)
    refine ⟨_, hds ▸ Option.mem_map_of_mem _ hd, fun p hp => ?_⟩
    rw [hps]
    exact List.mem_append_left _ hp

end Release

end Engine

end Agps
end Nx507j
