import Nx507j.Agps.Release

/-!
# What comes back after a release

A handle that has been released comes back when a retry or a regular ATL that the data service
has posted for it is processed.  One that stays listed as released may be denied later, and then a
regular ATL is posted for it.

## Main definitions

* `Engine.Released` — no machine lists the handle as active, and no data call is started for
  it, until the modem requests it again.
* `Engine.Releasable` — one machine at most lists the handle, where a release reaches it, and
  nothing is left that would bring it back.
* `Engine.Quiet` — nothing of the handle is left.

## Main results

* `Engine.Quiet.step` — where nothing of a handle is left, nothing comes back.
* `Engine.exists_lists`, `Engine.exists_denied` — a posted ATL, and a handle that is denied, come
  back.
* `Engine.released_iff` — a release releases the handle exactly when it is releasable.
-/

namespace Nx507j
namespace Agps

open AgpsStateMachine Run

namespace Engine

/-! ### What is asked -/

/-- The input is the modem's or the framework's, and does not request the handle.  With `denials`
it may deny `ds_nif` its resource. -/
def Input.isLater (denials : Bool) (h : UInt32) (i : Input) : Bool :=
  i.isATL && !i.requests h && (denials || !i.deniesDs)

/-- The handle is released: until the modem requests it again neither `agnss_nif`, `internet_nif`
nor `ds_nif` lists it as active, and no data call is started on its behalf. -/
structure Released (denials : Bool) (h : UInt32) (e : Engine) : Prop where
  inactive : ∀ is : List Input, (∀ i ∈ is, i.isLater denials h = true) →
    ∀ sm, sm ≠ .wifi → ¬ (exec Engine.step e is).Lists h sm
  noStart : ∀ is : List Input, (∀ i ∈ is, i.isATL = true ∧ i.requests h = false) →
    (exec Engine.step e is).starts h = e.starts h

/-- The data service has posted a regular ATL for the handle. -/
def FallsBack (h : UInt32) (e : Engine) : Prop :=
  ∃ d ∈ e.dsNif, ∃ agpsType, .requestATL h agpsType ∈ d.queue

/-- A release will reach all there is of the handle: one machine at most lists it, the data
service not in Released, and neither a retry nor a regular ATL has been posted for it.  Where a
data service lists it, be it as released, that one will not be denied: it does not wait for the
resource together with another handle, nor is it to be denied it in another state. -/
structure Releasable (denials : Bool) (h : UInt32) (e : Engine) : Prop where
  atMostOne : ∀ sm sm', sm ≠ .wifi → sm' ≠ .wifi → e.Lists h sm → e.Lists h sm' → sm = sm'
  notReleased : ∀ d ∈ e.dsNif, DataService.ListsActive h d.sm → d.sm.mStatePtr ≠ .released
  noRetry : ¬ e.Retries h
  noFallback : ¬ e.FallsBack h
  notDenied : ∀ d ∈ e.dsNif, DataService.ListsDs h d.sm → denials = false ∧
    ∀ id, id ≠ h → DataService.ListsActive id d.sm → d.sm.mStatePtr ≠ .pending

/-! ### Where nothing is left -/

/-- Nothing of the handle is left. -/
structure Quiet (denials : Bool) (h : UInt32) (e : Engine) : Prop where
  plain : ∀ sm, ServesModem sm → ¬ e.Lists h sm
  spent : ∀ d ∈ e.dsNif, DataService.Spent denials h d

section Quiet

variable {denials : Bool} {h : UInt32} {e : Engine}

/-- A machine of the framework lists a handle only when it is requested, or when the data service
has posted a regular ATL for it. -/
theorem not_lists_step {i : Input} (hreq : i.requests h = false) (hf : ¬ e.FallsBack h) {sm : Nif}
    (hsm : sm ≠ .ds) (hi : i.isATL = true) (hno : ¬ e.Lists h sm) : ¬ (e.step i).Lists h sm := by
  -- calls that do not subscribe the handle
  have hcalls : ∀ {P : Nif → Call → Prop} {e₁ e' : Engine}, Calls P e₁ e' →
      (∀ c x, P sm c → c = .subscribeRsrc x → x.ID ≠ h) → ¬ e₁.Lists h sm → ¬ e'.Lists h sm := by
    rintro P e₁ e' hc hP hno ⟨m, hm, hact⟩
    refine hc.machine (Q := fun m => ¬ DataService.ListsActive h m) ?_ ?_ m hm hact
    · intro m c hPc hno hact
      exact hno (DataService.listsActive_of_step (call_step m c) (fun x => hP c.1 x hPc) hact)
    · exact fun m hm hact => hno ⟨m, hm, hact⟩
  -- a change of the data service alone
  have hds : ∀ {e' : Engine}, e'.agnssNif = e.agnssNif → e'.internetNif = e.internetNif →
      e'.wifiNif = e.wifiNif → ¬ e'.Lists h sm := by
    intro e' hA hI hW
    rw [lists_congr]
    · exact hno
    · cases sm <;> first | assumption | exact absurd rfl hsm
  have hstep := step_cases e i
  generalize e.step i = e' at hstep ⊢
  cases hstep with
  | @calls m env e' hc =>
    refine hcalls hc (fun c x hP hx hID => ?_) hno
    have hyes : m.requests x.ID = true := hP.requests x hx
    rw [hID] at hyes
    cases hyes.symm.trans hreq
  | up env hcb => cases hi
  | dataClientInit ret env hd => exact hds rfl rfl rfl
  | timer => exact hds rfl rfl rfl
  | deliver env => exact hds rfl rfl rfl
  | deliverATL id agpsType env hq =>
    have hne : id ≠ h := by
      rintro rfl
      exact hf ⟨_, hq, agpsType, List.mem_cons_self⟩
    refine hcalls (P := fun _ c => ∀ x, c = .subscribeRsrc x → x.ID = id)
      (requestATL_calls id agpsType _ env fun sm b x hx => ?_) ?_ (hds rfl rfl rfl)
    · cases hx
      rfl
    · intro c x hP hx
      rw [hP x hx]
      exact hne

theorem Quiet.noFallback (hq : e.Quiet denials h) : ¬ e.FallsBack h := by
  rintro ⟨d, hd, agpsType, hmem⟩
  exact (hq.spent d hd).noFallback agpsType hmem

/-- **Where nothing of a handle is left**, nothing comes back of it until it is requested. -/
theorem Quiet.step {i : Input} (hq : e.Quiet denials h) (he : e.Sound)
    (hi : i.isLater denials h = true) : (e.step i).Quiet denials h := by
  simp only [Input.isLater, Bool.and_eq_true, Bool.not_eq_true', Bool.or_eq_true] at hi
  obtain ⟨⟨hatl, hreq⟩, hden⟩ := hi
  refine ⟨fun sm hsm => ?_, ?_⟩
  · refine not_lists_step hreq hq.noFallback ?_ hatl (hq.plain sm hsm)
    rcases hsm with rfl | rfl <;> exact nofun
  · suffices h : ∀ d ∈ (e.step i).dsNif, DataService.Tidy d ∧ DataService.Spent denials h d from
      fun d hd => (h d hd).2
    refine step_dsNif he hatl ?_ (fun _ => ⟨DataService.tidy_new, DataService.spent_new denials h⟩)
      fun d hd => ⟨he.tidy d hd, hq.spent d hd⟩
    rintro d j hj hsub hdenies ⟨hd, hsp⟩
    refine ⟨(DataService.step_tidy hd hj).1, hsp.step hd hj ?_ fun env hj => ?_⟩
    · rw [← Bool.not_eq_true]
      exact fun hyes => Bool.false_ne_true (hreq.symm.trans (hsub h hyes))
    · exact hden.resolve_right fun hno => Bool.false_ne_true (hno.symm.trans (hdenies env hj))

theorem Quiet.not_lists (hq : e.Quiet denials h) {sm : Nif} (hsm : sm ≠ .wifi) :
    ¬ e.Lists h sm := by
  cases sm with
  | agnss => exact hq.plain .agnss (Or.inl rfl)
  | internet => exact hq.plain .internet (Or.inr rfl)
  | wifi => exact absurd rfl hsm
  | ds =>
    rw [lists_ds]
    rintro ⟨d, hd, hact⟩
    exact (hq.spent d hd).inactive hact

theorem quiet_exec {is : List Input} (hq : e.Quiet denials h) (he : e.Sound)
    (his : ∀ i ∈ is, i.isLater denials h = true) :
    (exec Engine.step e is).Quiet denials h := by
  have hstep : ∀ (e : Engine) (i : Input), i.isLater denials h = true →
      e.Sound ∧ e.Quiet denials h → (e.step i).Sound ∧ (e.step i).Quiet denials h := by
    rintro e i hi ⟨he, hq⟩
    refine ⟨he.step ?_, hq.step he hi⟩
    simp only [Input.isLater, Bool.and_eq_true] at hi
    exact hi.1.1
  exact (exec_inv_of_forall hstep is e his ⟨he, hq⟩).2

end Quiet

/-! ### What is left to start a data call -/

/-- A step that does not request a handle of which nothing is left brings nothing of it back,
and starts no data call for it. -/
theorem starts_step_of_free {e : Engine} {h : UInt32} {i : Input} (he : e.Sound)
    (hf : ∀ d ∈ e.dsNif, DataService.Free h d) (hi : i.isATL = true)
    (hreq : i.requests h = false) :
    (∀ d ∈ (e.step i).dsNif, DataService.Free h d) ∧ (e.step i).starts h = e.starts h := by
  -- what was free stays free, and a new data service is
  have hstep : ∀ d ∈ (e.step i).dsNif, DataService.Tidy d ∧ DataService.Free h d ∧
      startsFor h d.sm.log = e.starts h := by
    refine step_dsNif (Q := fun d => DataService.Tidy d ∧ DataService.Free h d ∧
      startsFor h d.sm.log = e.starts h) he hi ?_ ?_ ?_
    · rintro d j hj hsub - ⟨hd, hfd, hs⟩
      have hno : j.subscribes h = false := by
        rw [← Bool.not_eq_true]
        intro hyes
        rw [hsub h hyes] at hreq
        cases hreq
      obtain ⟨hfd', hs'⟩ := hfd.step hd hj hno
      exact ⟨(DataService.step_tidy hd hj).1, hfd', hs'.trans hs⟩
    · intro hinit
      refine ⟨DataService.tidy_new, DataService.free_new h, ?_⟩
      rw [starts, he.fresh hinit]
      rfl
    · intro d hd
      refine ⟨he.tidy d hd, hf d hd, ?_⟩
      rw [starts, Option.mem_def.mp hd]
  refine ⟨fun d hd => (hstep d hd).2.1, ?_⟩
  cases hds : (e.step i).dsNif with
  | some d =>
    rw [← (hstep d hds).2.2, starts, hds]
  | none =>
    have hnone : e.dsNif = none := by
      rw [← Option.not_isSome_iff_eq_none]
      intro hsome
      have := (step_keeps e i).1 hsome
      rw [hds] at this
      cases this
    rw [starts, starts, hds, hnone]

/-- Where nothing of a handle is left, no data call is started for it until it is requested. -/
theorem starts_exec_of_free {h : UInt32} {is : List Input} {e : Engine} (he : e.Sound)
    (hf : ∀ d ∈ e.dsNif, DataService.Free h d)
    (his : ∀ i ∈ is, i.isATL = true ∧ i.requests h = false) :
    (exec Engine.step e is).starts h = e.starts h := by
  induction is generalizing e with
  | nil => rfl
  | cons i is ih =>
    obtain ⟨hi, hreq⟩ := his i List.mem_cons_self
    obtain ⟨hf', hstarts⟩ := starts_step_of_free he hf hi hreq
    rw [exec_cons, ih (he.step hi) hf' fun j hj => his j (List.mem_cons_of_mem i hj), hstarts]

/-! ### What a posted message brings back -/

/-- Processing the oldest message of the data service. -/
theorem dsNif_deliver {e : Engine} (he : e.Sound) (env : Env) :
    (e.step (.deliver env)).dsNif = e.dsNif.map (·.deliver env) := by
  simp only [step]
  split
  · next id agpsType queue heq =>
    -- a regular ATL goes to another machine
    obtain rfl := (he.tidy _ heq).supl id agpsType List.mem_cons_self
    rw [dsNif_requestATL_supl]
  · rfl

/-- The step of the engine that drives its data service so. -/
def driven : DataService.Input → Input
  | .deliver env => .deliver env
  | .timer => .timer
  | .call _ env => .msg .suplEsClosed env

theorem exec_driven {is : List DataService.Input} {e : Engine} {d : DataService} (he : e.Sound)
    (hd : e.dsNif = some d) (his : ∀ i ∈ is, i = .deliver .ok ∨ i = DataService.closed) :
    (exec Engine.step e (is.map driven)).dsNif = some (exec DataService.step d is) := by
  induction is generalizing e d with
  | nil => exact hd
  | cons i is ih =>
    have hi := his i List.mem_cons_self
    have hatl : (driven i).isATL = true := by
      rcases hi with rfl | rfl <;> rfl
    have hstep : (e.step (driven i)).dsNif = some (d.step i) := by
      rcases hi with rfl | rfl
      · exact (dsNif_deliver he .ok).trans (by rw [hd]; rfl)
      · show (e.callOn .ds _).dsNif = some (d.step DataService.closed)
        rw [dsNif_callOn, if_pos rfl, hd]
        rfl
    rw [List.map_cons, exec_cons, exec_cons]
    exact ih (he.step hatl) hstep fun j hj => his j (List.mem_cons_of_mem i hj)

/-- A retry that is posted for a handle can still start a data call for it. -/
theorem exists_starts {e : Engine} (he : e.Sound) {h : UInt32} (hno : ¬ e.Lists h .ds)
    (hr : e.Retries h) :
    ∃ is : List Input, (∀ i ∈ is, i.isATL = true ∧ i.requests h = false) ∧
      (exec Engine.step e is).starts h ≠ e.starts h := by
  obtain ⟨d, hd, hmem⟩ := hr
  have hnod : ¬ DataService.ListsActive h d.sm := fun hact => hno (lists_ds.mpr ⟨d, hd, hact⟩)
  obtain ⟨before, after, hq, hbefore⟩ := List.eq_append_cons_of_mem hmem
  -- the messages before the first such retry are processed, then the retry
  obtain ⟨is, his, hlt⟩ := DataService.exists_start before (he.tidy d hd) hnod hq hbefore
  refine ⟨is.map driven, ?_, ?_⟩
  · intro i hi
    obtain ⟨j, hj, rfl⟩ := List.mem_map.mp hi
    rcases his j hj with rfl | rfl <;> exact ⟨rfl, rfl⟩
  · rw [starts, exec_driven he hd his, starts, Option.mem_def.mp hd]
    exact Nat.ne_of_gt hlt

/-- A machine of the framework lists a handle that it is asked for. -/
theorem listsActive_subscribe {m : AgpsStateMachine} (hm : ServesAtl m) (h : UInt32) (b : Bool)
    (env : Env) : DataService.ListsActive h (m.call (.subscribeRsrc (.atl h b), env)) := by
  have hstep := call_step m (.subscribeRsrc (.atl h b), env)
  have hm' := hm.call (c := (.subscribeRsrc (.atl h b), env)) rfl
  generalize m.call (.subscribeRsrc (.atl h b), env) = m' at hstep hm'
  obtain ⟨s, hs, heq⟩ := List.any_eq_true.mp (any_equals_addNew m.mSubscribers (.atl h b))
  have hmem : s ∈ m'.mSubscribers := by
    cases hstep with
    | refused x hsingle hne =>
      rw [hm.many] at hsingle
      cases hsingle
    | requested x hs' hfree => simpa using hs
    | joined x hs' hfree => exact hs
    | grantedAtOnce x hs' hfree => simpa using hs
  refine ⟨s, hmem, Subscriber.ID_eq_of_equals heq, ?_⟩
  have hatl := hm'.uniform.isOf s hmem
  cases s <;> first | rfl | cases hatl

/-- **A regular ATL that is posted for a handle** makes `agnss_nif` list it, when the messages
before it have been processed. -/
theorem exists_lists {h : UInt32} {agpsType : AGpsExtType} {before after : List Post} {e : Engine}
    {d : DataService} (he : e.Sound) (hd : e.dsNif = some d)
    (hq : d.queue = before ++ .requestATL h agpsType :: after) :
    ∃ n, (exec Engine.step e (List.replicate n (.deliver .ok))).Lists h .agnss := by
  induction before generalizing e d after with
  | nil =>
    refine ⟨1, ?_⟩
    obtain rfl := (he.tidy d hd).supl h agpsType (by rw [hq]; exact List.mem_cons_self)
    -- where there is a data service there is an `agnss_nif`
    obtain ⟨conf, hconf⟩ := he.equipped
    obtain ⟨m, hm⟩ : ∃ m, e.agnssNif = some m := by
      refine Option.isSome_iff_exists.mp (hconf.agnss.trans (hconf.ds ?_))
      rw [hd]
      rfl
    have hget : getAgpsStateMachine { e with dsNif := e.dsNif.map (·.deliver .ok) } agpsTypeSupl =
        some .agnss := by
      have hne : agpsTypeSupl ≠ agpsTypeWifi := by decide
      simp [getAgpsStateMachine, hne, machine, hm]
    obtain ⟨sm, timers, queue⟩ := d
    obtain rfl : queue = .requestATL h agpsTypeSupl :: after := hq
    have hstep : e.step (.deliver .ok) = callOn .agnss
        (.subscribeRsrc (.atl h (agpsTypeSupl == agpsTypeInvalid)), .ok)
        { e with dsNif := e.dsNif.map (·.deliver .ok) } := by
      simp only [step, hd, requestATL]
      rw [hd] at hget
      rw [hget]
    show (e.step (.deliver .ok)).Lists h .agnss
    rw [hstep]
    refine ⟨_, ?_, listsActive_subscribe (he.serves .agnss (Or.inl rfl) m hm) h
      (agpsTypeSupl == agpsTypeInvalid) .ok⟩
    rw [machine_callOn, if_pos rfl]
    exact Option.map_eq_some_iff.mpr ⟨m, hm, rfl⟩
  | cons p before ih =>
    -- the message before it is processed first
    obtain ⟨ps, hps⟩ := d.exists_queue_step (.deliver .ok)
    have hq' : (d.deliver .ok).queue = before ++ .requestATL h agpsType :: (after ++ ps) := by
      refine hps.trans ?_
      rw [DataService.rest, hq]
      simp
    have hd' : (e.step (.deliver .ok)).dsNif = some (d.deliver .ok) :=
      (dsNif_deliver he .ok).trans (by rw [hd]; rfl)
    obtain ⟨n, hn⟩ := ih (he.step (i := .deliver .ok) rfl) hd' hq'
    exact ⟨n + 1, hn⟩

/-! ### What a denial brings back -/

section Denied

variable {e : Engine} {d : DataService} {h id : UInt32}

/-- The data service keeps its released handle when another one is released, and lists the other
afterwards only if a machine of the framework does. -/
theorem kept_releaseATL (he : e.Sound) (hd : e.dsNif = some d) (hk : DataService.Kept h d)
    (hne : id ≠ h) :
    ∃ d', (e.releaseATL id .ok).dsNif = some d' ∧ DataService.Kept h d' ∧
      (∀ id', DataService.ListsActive id' d'.sm → DataService.ListsActive id' d.sm) ∧
      (DataService.ListsActive id d'.sm → e.Lists id .agnss ∨ e.Lists id .internet) := by
  obtain ⟨-, -, ⟨hds, hsome⟩ | ⟨hds, -⟩⟩ := releaseATL_spec he id .ok
  · exact ⟨d, hds.trans hd, hk, fun _ h => h, fun _ => hsome⟩
  · rw [hd] at hds
    refine ⟨_, hds, hk.unsubscribe rfl hne, fun id' hact => ?_, fun hact => ?_⟩
    · exact DataService.listsActive_of_step (call_step d.sm (.unsubscribeRsrc (.ds id false), .ok))
        nofun hact
    · -- the machine is not in Released
      have hrel := ((DataService.listsActive_release hk.orderly id .ok).mp hact).2
      rcases hk.state with hs | hs <;> cases hs.symm.trans hrel

/-- Three releases of a handle, one for each machine that may list it. -/
def releases (id : UInt32) : List Input := List.replicate 3 (.msg (.releaseATL id) .ok)

theorem kept_releases (he : e.Sound) (hd : e.dsNif = some d) (hk : DataService.Kept h d)
    (hne : id ≠ h) :
    ∃ d', (exec Engine.step e (releases id)).dsNif = some d' ∧ DataService.Kept h d' ∧
      (∀ id', DataService.ListsActive id' d'.sm → DataService.ListsActive id' d.sm) ∧
      ¬ DataService.ListsActive id d'.sm := by
  have hsound : ∀ {e : Engine}, e.Sound → (e.releaseATL id .ok).Sound := fun he =>
    he.step (i := .msg (.releaseATL id) .ok) rfl
  have he₁ := hsound he
  have he₂ := hsound he₁
  obtain ⟨d₁, hd₁, hk₁, hsub₁, -⟩ := kept_releaseATL he hd hk hne
  obtain ⟨d₂, hd₂, hk₂, hsub₂, -⟩ := kept_releaseATL he₁ hd₁ hk₁ hne
  obtain ⟨d₃, hd₃, hk₃, hsub₃, hlists⟩ := kept_releaseATL he₂ hd₂ hk₂ hne
  refine ⟨d₃, hd₃, hk₃, fun id' h => hsub₁ id' (hsub₂ id' (hsub₃ id' h)), fun hact => ?_⟩
  -- the first release leaves `agnss_nif`, the second `internet_nif`
  obtain ⟨hno₁, -, -⟩ := releaseATL_spec he id .ok
  obtain ⟨hno₂, hint₂, -⟩ := releaseATL_spec he₁ id .ok
  rcases hlists hact with hA | hI
  · exact hno₂ hA
  · exact hno₁ (hint₂.mp hI).1

/-- When every other handle has been released, the data service gives up its connection. -/
theorem exists_releasing (he : e.Sound) (hd : e.dsNif = some d) (hk : DataService.Kept h d) :
    ∃ is : List Input, (∀ i ∈ is, i.isLater true h = true) ∧ (exec Engine.step e is).Sound ∧
      ∃ d', (exec Engine.step e is).dsNif = some d' ∧ DataService.Kept h d' ∧
        d'.sm.mStatePtr = .releasing := by
  -- the handles are released one after the other
  have hall : ∀ (ids : List UInt32) {e : Engine} {d : DataService}, e.Sound → e.dsNif = some d →
      DataService.Kept h d → h ∉ ids → ∃ is : List Input, (∀ i ∈ is, i.isLater true h = true) ∧
        (exec Engine.step e is).Sound ∧ ∃ d', (exec Engine.step e is).dsNif = some d' ∧
          DataService.Kept h d' ∧
          (∀ id', DataService.ListsActive id' d'.sm → DataService.ListsActive id' d.sm) ∧
          ∀ id ∈ ids, ¬ DataService.ListsActive id d'.sm := by
    intro ids
    induction ids with
    | nil =>
      intro e d he hd hk _
      exact ⟨[], nofun, he, d, hd, hk, fun _ h => h, nofun⟩
    | cons id ids ih =>
      intro e d he hd hk hno
      rw [List.mem_cons, not_or] at hno
      have hlater : ∀ i ∈ releases id, i.isATL = true ∧ i.isLater true h = true := by
        intro i hi
        obtain rfl := List.eq_of_mem_replicate hi
        exact ⟨rfl, rfl⟩
      obtain ⟨d₁, hd₁, hk₁, hsub₁, hno₁⟩ := kept_releases he hd hk (Ne.symm hno.1)
      have he₁ := sound_exec he fun i hi => (hlater i hi).1
      obtain ⟨is, his, he', d', hd', hk', hsub', hnone⟩ := ih he₁ hd₁ hk₁ hno.2
      refine ⟨releases id ++ is, ?_, ?_⟩
      · intro i hi
        exact (List.mem_append.mp hi).elim (fun hi => (hlater i hi).2) (his i)
      · rw [exec_append]
        refine ⟨he', d', hd', hk', fun id' h => hsub₁ id' (hsub' id' h), ?_⟩
        rw [List.forall_mem_cons]
        exact ⟨fun hact => hno₁ (hsub' id hact), hnone⟩
  obtain ⟨is, his, he', d', hd', hk', hsub, hnone⟩ :=
    hall ((d.sm.mSubscribers.filter (·.isActive)).map (·.ID)) he hd hk (by
      intro hmem
      obtain ⟨s, hs, hID⟩ := List.mem_map.mp hmem
      obtain ⟨hs, hact⟩ := List.mem_filter.mp hs
      exact hk.inactive ⟨s, hs, hID, by simpa [Subscriber.isActive] using hact⟩)
  refine ⟨is, his, he', d', hd', hk', ?_⟩
  rcases hk'.state with hs | hs
  · -- somebody would be active
    obtain ⟨s, hs', hact⟩ := List.any_eq_true.mp (hk'.waited (Or.inr hs))
    have hlists : DataService.ListsActive s.ID d'.sm :=
      ⟨s, hs', rfl, by simpa [Subscriber.isActive] using hact⟩
    refine absurd hlists (hnone s.ID ?_)
    obtain ⟨t, ht, hID, ha⟩ := hsub s.ID hlists
    exact List.mem_map.mpr ⟨t, List.mem_filter.mpr ⟨ht, by simp [Subscriber.isActive, ha]⟩, hID⟩
  · exact hs

/-- **A released handle that can be denied** has a regular ATL posted for it. -/
theorem exists_denied {denials : Bool} (he : e.Sound) (hd : e.dsNif = some d)
    (hds : DataService.ListsDs h d.sm) (hno : ¬ DataService.ListsActive h d.sm)
    (hden : denials = true ∨ d.sm.mStatePtr = .pending) :
    ∃ is : List Input, (∀ i ∈ is, i.isLater denials h = true) ∧
      (exec Engine.step e is).Sound ∧ (exec Engine.step e is).FallsBack h := by
  have htidy := he.tidy d hd
  by_cases hp : d.sm.mStatePtr = .pending
  · -- the data call cannot be set up
    refine ⟨[.msg .suplEsClosed .ok], ?_, he.step (i := .msg .suplEsClosed .ok) rfl, ?_⟩
    · simp [Input.isLater, Input.isATL, Msg.isATL, Input.requests, Msg.requests, Input.deniesDs,
        Msg.deniesDs]
    · refine ⟨d.step (.call (.onRsrcEvent .rsrcReleased) .ok), ?_, agpsTypeSupl,
        DataService.exists_fallback htidy hds (Or.inl ⟨hp, rfl⟩)⟩
      show (e.callOn .ds _).dsNif = _
      rw [dsNif_callOn, if_pos rfl, hd]
      rfl
  · obtain rfl := hden.resolve_right hp
    have hk : DataService.Kept h d := by
      refine ⟨htidy, hds, hno, ?_⟩
      cases hs : d.sm.mStatePtr with
      | released =>
        obtain ⟨i, hi⟩ := hds
        have hact := htidy.orderly.released hs _ hi
        exact absurd ⟨_, hi, rfl, by simpa [Subscriber.isActive] using hact⟩ hno
      | pending => exact absurd hs hp
      | acquired => exact Or.inl rfl
      | releasing => exact Or.inr rfl
    obtain ⟨is, his, he', d', hd', hk', hs⟩ := exists_releasing he hd hk
    have hexec : exec Engine.step e (is ++ [.msg (.atlOpenFailed (some .ds)) .ok]) =
        (exec Engine.step e is).step (.msg (.atlOpenFailed (some .ds)) .ok) := by
      rw [exec_append]
      rfl
    refine ⟨is ++ [.msg (.atlOpenFailed (some .ds)) .ok], ?_, ?_, ?_⟩
    · intro i hi
      rcases List.mem_append.mp hi with hi | hi
      · exact his i hi
      · rw [List.mem_singleton.mp hi]
        rfl
    · rw [hexec]
      exact he'.step rfl
    · rw [hexec]
      refine ⟨d'.step (.call (.onRsrcEvent .rsrcDenied) .ok), ?_, agpsTypeSupl,
        DataService.exists_fallback hk'.toTidy hk'.listed (Or.inr ⟨hs, rfl, hk'.inactive⟩)⟩
      show (callOn .ds _ _).dsNif = _
      rw [dsNif_callOn, if_pos rfl, hd']
      rfl

end Denied

/-! ### When a release releases -/

/-- Where a regular ATL has been posted for a handle, it comes back. -/
theorem FallsBack.not_released {denials : Bool} {h : UInt32} {e : Engine} (hf : e.FallsBack h)
    (he : e.Sound) {is : List Input} {e₀ : Engine} (hexec : exec Engine.step e₀ is = e)
    (his : ∀ i ∈ is, i.isLater denials h = true) : ¬ e₀.Released denials h := by
  intro hrel
  obtain ⟨d, hd, agpsType, hmem⟩ := hf
  obtain ⟨before, after, hq⟩ := List.append_of_mem hmem
  obtain ⟨n, hn⟩ := exists_lists he hd hq
  refine hrel.inactive (is ++ List.replicate n (.deliver .ok)) ?_ .agnss (by decide) ?_
  · intro i hi
    rcases List.mem_append.mp hi with hi | hi
    · exact his i hi
    · rw [List.eq_of_mem_replicate hi]
      simp [Input.isLater, Input.isATL, Input.requests, Input.deniesDs]
  · rw [exec_append, hexec]
    exact hn

/-- A handle that a release has released was listed once, where a release reaches it, and nothing
brings it back. -/
theorem Releasable.of_released {denials : Bool} {e : Engine} {h : UInt32} {env : Env}
    (he : e.Sound) (hrel : (e.releaseATL h env).Released denials h) :
    e.Releasable denials h := by
  have he' : (e.releaseATL h env).Sound := he.step (i := .msg (.releaseATL h) env) rfl
  have hinactive : ∀ sm, sm ≠ .wifi → ¬ (e.releaseATL h env).Lists h sm :=
    hrel.inactive [] nofun
  obtain ⟨-, hinternet, hdsNif⟩ := releaseATL_spec he h env
  have hds := lists_ds_releaseATL he h env
  have hno := hinactive .ds (by decide)
  have hnoI : e.Lists h .agnss → ¬ e.Lists h .internet := by
    intro hA hI
    exact hinactive .internet (by decide) (hinternet.mpr ⟨hA, hI⟩)
  rw [hds] at hno
  have hnoD : e.Lists h .ds → ¬ e.Lists h .agnss ∧ ¬ e.Lists h .internet := by
    intro hD
    obtain ⟨d, hd, hact⟩ := lists_ds.mp hD
    exact ⟨fun hA => hno ⟨d, hd, hact, Or.inl hA⟩,
      fun hI => hno ⟨d, hd, hact, Or.inr (Or.inl hI)⟩⟩
  refine ⟨?_, ?_, ?_, ?_, ?_⟩
  · intro sm sm' hne hne' hl hl'
    cases sm <;> cases sm' <;>
      first
      | rfl
      | exact absurd rfl hne
      | exact absurd rfl hne'
      | exact absurd hl' (hnoI hl)
      | exact absurd hl (hnoI hl')
      | exact absurd hl (hnoD hl').1
      | exact absurd hl (hnoD hl').2
      | exact absurd hl' (hnoD hl).1
      | exact absurd hl' (hnoD hl).2
  · intro d hd hact hs
    exact hno ⟨d, hd, hact, Or.inr (Or.inr hs)⟩
  · -- a retry that is left would start a data call
    rintro ⟨d, hd, hmem⟩
    obtain ⟨d', hd', hkeep⟩ := mem_queue_releaseATL he h env hd
    obtain ⟨js, hjs, hne⟩ := exists_starts he' (hinactive .ds (by decide)) ⟨d', hd', hkeep _ hmem⟩
    exact hne (hrel.noStart js hjs)
  · rintro ⟨d, hd, agpsType, hmem⟩
    obtain ⟨d', hd', hkeep⟩ := mem_queue_releaseATL he h env hd
    have hstart : exec Engine.step (e.releaseATL h env) [] = e.releaseATL h env := rfl
    exact FallsBack.not_released ⟨d', hd', agpsType, hkeep _ hmem⟩ he' hstart nofun hrel
  · -- who is listed as released would be denied
    intro d hd hlisted
    have hd₀ := (he.tidy d hd).orderly
    have hback : ∀ d' ∈ (e.releaseATL h env).dsNif, DataService.ListsDs h d'.sm →
        ¬ (denials = true ∨ d'.sm.mStatePtr = .pending) := by
      intro d' hd' hlisted' hden
      have hno' : ¬ DataService.ListsActive h d'.sm := fun hact =>
        hinactive .ds (by decide) (lists_ds.mpr ⟨d', hd', hact⟩)
      obtain ⟨is, his, hsound, hf⟩ := exists_denied he' hd' hlisted' hno' hden
      exact hf.not_released hsound rfl his hrel
    rcases hdsNif with ⟨hsame, -⟩ | ⟨hstep, -⟩
    · have hnot := hback d (hsame ▸ hd) hlisted
      rw [not_or, Bool.not_eq_true] at hnot
      exact ⟨hnot.1, fun _ _ _ => hnot.2⟩
    · have hcall := call_step d.sm (.unsubscribeRsrc (.ds h false), env)
      have hnot := hback _ (hstep ▸ Option.mem_map_of_mem _ hd)
        (DataService.listsDs_release hd₀ hcall hlisted)
      rw [not_or, Bool.not_eq_true] at hnot
      refine ⟨hnot.1, fun id hne hact hp => hnot.2 ?_⟩
      exact DataService.pending_unsubscribe (x := .ds h false) hd₀ rfl hact hne hp hcall

/-- A release reaches the one machine that lists the handle, and leaves nothing of it. -/
theorem Releasable.quiet {denials : Bool} {e : Engine} {h : UInt32} {env : Env} (he : e.Sound)
    (hrel : e.Releasable denials h) : (e.releaseATL h env).Quiet denials h := by
  obtain ⟨hagnss, hinternet, hdsNif⟩ := releaseATL_spec he h env
  have hno : ¬ (e.releaseATL h env).Lists h .ds := by
    rw [lists_ds_releaseATL he]
    rintro ⟨d, hd, hact, hor⟩
    have hD : e.Lists h .ds := lists_ds.mpr ⟨d, hd, hact⟩
    rcases hor with hA | hI | hs
    · cases hrel.atMostOne .agnss .ds (by decide) (by decide) hA hD
    · cases hrel.atMostOne .internet .ds (by decide) (by decide) hI hD
    · exact hrel.notReleased d hd hact hs
  refine ⟨?_, fun d' hd' => ?_⟩
  · rintro sm (rfl | rfl)
    · exact hagnss
    · rw [hinternet]
      rintro ⟨hA, hI⟩
      cases hrel.atMostOne .agnss .internet (by decide) (by decide) hA hI
  · have hinactive : ¬ DataService.ListsActive h d'.sm := fun hact =>
      hno (lists_ds.mpr ⟨d', hd', hact⟩)
    have he' : (e.releaseATL h env).Sound := he.step (i := .msg (.releaseATL h) env) rfl
    -- in Pending another handle would be waiting
    have hother : d'.sm.mStatePtr = .pending →
        ∃ id, id ≠ h ∧ DataService.ListsActive id d'.sm := by
      intro hp
      obtain ⟨s, hs, hact⟩ := List.any_eq_true.mp ((he'.tidy d' hd').waited (Or.inl hp))
      have hlists : DataService.ListsActive s.ID d'.sm :=
        ⟨s, hs, rfl, by simpa [Subscriber.isActive] using hact⟩
      exact ⟨s.ID, fun hID => hinactive (hID ▸ hlists), hlists⟩
    rcases hdsNif with ⟨hsame, -⟩ | ⟨hstep, -⟩
    · have hd : d' ∈ e.dsNif := hsame ▸ hd'
      refine ⟨⟨hinactive, fun hmem => hrel.noRetry ⟨d', hd, hmem⟩⟩,
        fun t hmem => hrel.noFallback ⟨d', hd, t, hmem⟩, fun hlisted => ?_⟩
      obtain ⟨hfalse, hnot⟩ := hrel.notDenied d' hd hlisted
      refine ⟨hfalse, fun hp => ?_⟩
      obtain ⟨id, hne, hact⟩ := hother hp
      exact hnot id hne hact hp
    · rw [hstep] at hd'
      obtain ⟨d, hd, rfl⟩ := Option.map_eq_some_iff.mp hd'
      have hcall := call_step d.sm (.unsubscribeRsrc (.ds h false), env)
      obtain ⟨-, -, hretry, hfall⟩ := DataService.step_tidy
        (i := .call (.unsubscribeRsrc (.ds h false)) env) (he.tidy d hd) rfl
      refine ⟨⟨hinactive, fun hmem => ?_⟩, fun t hmem => ?_, fun hlisted => ?_⟩
      · rcases hretry h hmem with hmem | ⟨hc, -⟩
        · exact hrel.noRetry ⟨d, hd, hmem⟩
        · cases hc
      · rcases hfall h t hmem with hmem | hact | ⟨-, c, hc, event, hevent, -⟩
        · exact hrel.noFallback ⟨d, hd, t, hmem⟩
        · exact hinactive hact
        · -- a release denies nobody
          cases hc
          cases hevent
      · obtain ⟨hfalse, hnot⟩ :=
          hrel.notDenied d hd (DataService.listsDs_of_step hcall (by rintro _ ⟨⟩) hlisted)
        refine ⟨hfalse, fun hp => ?_⟩
        obtain ⟨id, hne, hact⟩ := hother hp
        exact hnot id hne (DataService.listsActive_of_step hcall (by rintro _ ⟨⟩) hact)
          (DataService.pending_of_unsubscribe hcall hp)

/-- Where nothing of a handle is left, it is released. -/
theorem Quiet.released {denials : Bool} {h : UInt32} {e : Engine} (he : e.Sound)
    (hq : e.Quiet denials h) : e.Released denials h where
  inactive := fun _ his _ hsm => (quiet_exec hq he his).not_lists hsm
  noStart := fun _ his => starts_exec_of_free he (fun d hd => (hq.spent d hd).toFree) his

/-- **When a release really releases.**  In every state that the modem's requests and
releases, the answers of the framework and the outcomes of the data calls can lead to, a
handle is released by `LocEngReleaseATL` exactly when it was releasable; and this whether `ds_nif`
may later be denied its resource or not. -/
theorem released_iff (conf : Conf) (is : List Input) (his : ∀ i ∈ is, i.isATL = true)
    (e : Engine) (he : e = exec Engine.step (init conf) is) (h : UInt32) (env : Env)
    (denials : Bool) :
    (e.step (.msg (.releaseATL h) env)).Released denials h ↔ e.Releasable denials h := by
  have hsound : e.Sound := by
    rw [he]
    exact sound_exec (sound_init conf) his
  have hsound' : (e.releaseATL h env).Sound := hsound.step (i := .msg (.releaseATL h) env) rfl
  show (e.releaseATL h env).Released denials h ↔ _
  exact ⟨Releasable.of_released hsound, fun hrel => (hrel.quiet hsound).released hsound'⟩

/-- The data services are busy when the modem asks for an emergency connection; it gives up
before the retry. -/
def releasedTooEarly : List Input :=
  [.msg (.dataClientInit 0) .ok,
    .msg (.requestSuplEs 1) ⟨locApiAdapterErrEngineBusy, true⟩]

/-- The handle stays listed, and the retry will start a data call for it. -/
theorem releasedTooEarly_kept :
    ¬ ((exec Engine.step (init fullConf) releasedTooEarly).step
      (.msg (.releaseATL 1) .ok)).Released false 1 := by
  have hstarts : ((exec Engine.step (init fullConf) releasedTooEarly).step
        (.msg (.releaseATL 1) .ok)).starts 1 = 1 ∧
      (exec Engine.step ((exec Engine.step (init fullConf) releasedTooEarly).step
        (.msg (.releaseATL 1) .ok)) [.timer, .deliver .ok]).starts 1 = 2 := by decide
  intro hrel
  have hsame := hrel.noStart [.timer, .deliver .ok] (by decide)
  rw [hstarts.1, hstarts.2] at hsame
  cases hsame

/-- A handle that a data call has been granted for is released. -/
theorem released_iff_granted :
    ((exec Engine.step (init fullConf) [.msg (.dataClientInit 0) .ok, .msg (.requestSuplEs 1) .ok,
      .msg .suplEsOpened .ok]).step (.msg (.releaseATL 1) .ok)).Released false 1 ↔
    (exec Engine.step (init fullConf) [.msg (.dataClientInit 0) .ok, .msg (.requestSuplEs 1) .ok,
      .msg .suplEsOpened .ok]).Releasable false 1 :=
  released_iff fullConf _ (by decide) _ rfl 1 .ok false

end Engine

end Agps
end Nx507j
