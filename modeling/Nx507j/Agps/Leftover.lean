import Nx507j.Agps.Retry

/-!
# What an unsubscription leaves behind

A `DSSubscriber` stays in the list of its machine when its handle is released, until the data
call is closed.  If the machine is denied the resource before that, the handle is told, and a
regular ATL is asked for in its place.

## Main definitions

* `Kept` — a machine that lists a released handle while it holds its connection or gives it up.

## Main results

* `listsActive_release` — the released handle is active only if the machine was in Released.
* `exists_fallback` — the denial of a released handle posts a regular ATL.
-/

namespace Nx507j
namespace Agps

open AgpsStateMachine Run

namespace DataService

/-! ### The release of a listed handle -/

/-- What is left of a handle that a `DSStateMachine` is asked to release: in Released it is
only told, everywhere else it is listed as released or not at all. -/
theorem listsActive_release {m : AgpsStateMachine} (hm : Orderly m) (h : UInt32) (env : Env) :
    ListsActive h (m.call (.unsubscribeRsrc (.ds h false), env)) ↔
      ListsActive h m ∧ m.mStatePtr = .released := by
  have hstep := call_step m (.unsubscribeRsrc (.ds h false), env)
  have hm' := hm.step hstep rfl
  generalize m.call (.unsubscribeRsrc (.ds h false), env) = m' at hstep hm'
  -- dropping the listed object leaves no active one
  have hdrop : ∀ s, m.mSubscribers.find? (·.equals (.ds h false)) = some s →
      m'.mSubscribers = dropped m.mSubscribers s → ¬ ListsActive h m' := by
    rintro s hf hl ⟨t, ht, htID, hact⟩
    have hs := List.mem_of_find?_eq_some hf
    have heq : s.equals (.ds h false) = true :=
      List.find?_some (p := fun s => Subscriber.equals s (.ds h false)) hf
    have hsID : s.ID = h := (hm.equals_iff hs rfl).mp heq
    cases hw : s.waitForCloseComplete with
    | false =>
      rw [hl, dropped, hw, if_neg Bool.false_ne_true] at ht
      obtain ⟨ht, hne⟩ := List.mem_filter.mp ht
      rw [(hm.equals_iff ht (hm.uniform.isOf s hs)).mpr (htID.trans hsID.symm)] at hne
      cases hne
    | true =>
      have hmem : s.setInactive ∈ m'.mSubscribers := by
        rw [hl, dropped, hw, if_pos rfl]
        exact Lists.mem_replace_self hs
      have heq : t = s.setInactive := by
        refine hm'.eq_of_ID ht hmem ?_
        rw [htID, Subscriber.ID_setInactive, hsID]
      rw [heq, Subscriber.isInactive_setInactive hw] at hact
      cases hact
  cases hstep with
  | unknown x hx =>
    refine iff_of_false ?_ ?_
    all_goals
      intro hact
      first | obtain ⟨t, ht, htID, -⟩ := hact | obtain ⟨⟨t, ht, htID, -⟩, -⟩ := hact
      rw [List.find?_eq_none] at hx
      exact hx t ht ((hm.equals_iff ht rfl).mpr htID)
  | toldOnly x s hx hs =>
    -- Released takes nobody out of its list
    unfold ListsActive
    rw [mSubscribers_tell, and_iff_left hs]
  | left x s hx hs hne hact => exact iff_of_false (hdrop s hx rfl) fun h => hs h.2
  | leftReleasing x s hx hs hnil =>
    refine iff_of_false (hdrop s hx rfl) fun h => ?_
    rw [hs] at h
    cases h.2
  | lastLeft x s hx hs hact =>
    refine iff_of_false (hdrop s hx (by simp)) fun h => ?_
    rw [h.2] at hs
    rcases hs with hs | hs <;> cases hs

/-- A machine of the framework that is asked to release a handle does not list it any more. -/
theorem not_listsActive_release {m : AgpsStateMachine} (hm : Attended m) (hu : Uniform .atl m)
    (h : UInt32) (env : Env) :
    ¬ ListsActive h (m.call (.unsubscribeRsrc (.atl h false), env)) := by
  have hstep := call_step m (.unsubscribeRsrc (.atl h false), env)
  generalize m.call (.unsubscribeRsrc (.atl h false), env) = m' at hstep
  have hID : ∀ {s x : Subscriber}, s ∈ m.mSubscribers → s.ID = x.ID → s.equals x = true := by
    intro s x hs hID
    have hatl := hu.isOf s hs
    cases s <;> first | exact beq_iff_eq.mpr hID | cases hatl
  have hdrop : ∀ s, m.mSubscribers.find? (·.equals (.atl h false)) = some s →
      m'.mSubscribers = dropped m.mSubscribers s → ¬ ListsActive h m' := by
    rintro s hf hl ⟨t, ht, htID, -⟩
    have hs := List.mem_of_find?_eq_some hf
    have heq : s.equals (.atl h false) = true :=
      List.find?_some (p := fun s => Subscriber.equals s (.atl h false)) hf
    have hsID : s.ID = h := Subscriber.ID_eq_of_equals heq
    have hw : s.waitForCloseComplete = false := by
      have hatl := hu.isOf s hs
      cases s <;> first | rfl | cases hatl
    rw [hl, dropped, hw, if_neg Bool.false_ne_true] at ht
    obtain ⟨ht, hne⟩ := List.mem_filter.mp ht
    rw [hID ht (htID.trans hsID.symm)] at hne
    cases hne
  cases hstep with
  | unknown x hx =>
    rintro ⟨t, ht, htID, -⟩
    rw [List.find?_eq_none] at hx
    exact hx t ht (hID ht htID)
  | toldOnly x s hx hs =>
    -- a machine of the framework lists nobody in Released
    rw [hm.released hs] at hx
    cases hx
  | left x s hx hs hne hact => exact hdrop s hx rfl
  | leftReleasing x s hx hs hnil => exact hdrop s hx rfl
  | lastLeft x s hx hs hact => exact hdrop s hx (by simp)

/-- The machine of the framework finds the handle exactly when it lists it. -/
theorem found_iff {m : AgpsStateMachine} (hu : Uniform .atl m) (h : UInt32) (env : Env) :
    (unsubscribeRsrc env (.atl h false) m).1 = true ↔ ListsActive h m := by
  rw [unsubscribeRsrc_found, List.isSome_find?, List.any_eq_true]
  constructor
  · rintro ⟨s, hs, heq⟩
    have hatl := hu.isOf s hs
    refine ⟨s, hs, Subscriber.ID_eq_of_equals heq, ?_⟩
    cases s <;> first | rfl | cases hatl
  · rintro ⟨s, hs, hID, -⟩
    have hatl := hu.isOf s hs
    refine ⟨s, hs, ?_⟩
    cases s <;> first | exact beq_iff_eq.mpr hID | cases hatl

section Unsubscribed

variable {env : Env} {m m' : AgpsStateMachine} {h id : UInt32}

/-- No unsubscription leads to Pending. -/
theorem pending_of_unsubscribe {x : Subscriber} (hstep : Step env m (.unsubscribeRsrc x) m')
    (hp : m'.mStatePtr = .pending) : m.mStatePtr = .pending := by
  cases hstep with
  | unknown x hx => exact hp
  | toldOnly x s hx hs => simpa using hp
  | left x s hx hs hne hact => exact hp
  | leftReleasing x s hx hs hnil => cases hp
  | lastLeft x s hx hs hact =>
    dsimp only at hp
    split at hp <;> cases hp

/-- A `DSSubscriber` stays listed when its handle is released. -/
theorem listsDs_release (hm : Orderly m) (hstep : Step env m (.unsubscribeRsrc (.ds h false)) m')
    (hds : ListsDs h m) : ListsDs h m' := by
  obtain ⟨i, hi⟩ := hds
  -- the object that is found is the one of the handle, and waits for the close
  have hdrop : ∀ s, m.mSubscribers.find? (·.equals (.ds h false)) = some s →
      .ds h true ∈ dropped m.mSubscribers s := by
    intro s hf
    have hs := List.mem_of_find?_eq_some hf
    have heq : s.equals (.ds h false) = true :=
      List.find?_some (p := fun s => Subscriber.equals s (.ds h false)) hf
    have hsID : s.ID = h := (hm.equals_iff hs rfl).mp heq
    obtain rfl : s = .ds h i := hm.eq_of_ID hs hi hsID
    exact Lists.mem_replace_self hs
  cases hstep with
  | unknown x hx => exact ⟨i, hi⟩
  | toldOnly x s hx hs => exact ⟨i, by simpa using hi⟩
  | left x s hx hs hne hact => exact ⟨true, hdrop s hx⟩
  | leftReleasing x s hx hs hnil =>
    have hmem := hdrop s hx
    rw [hnil] at hmem
    cases hmem
  | lastLeft x s hx hs hact => exact ⟨true, by simpa using hdrop s hx⟩

/-- An unsubscription leaves the others listed as they are. -/
theorem mem_of_unsubscribe (hm : Orderly m) {x s : Subscriber} (hx : x.isOf .dataService = true)
    (hs : s ∈ m.mSubscribers) (hne : s.ID ≠ x.ID)
    (hstep : Step env m (.unsubscribeRsrc x) m') : s ∈ m'.mSubscribers := by
  have hdrop : ∀ t, m.mSubscribers.find? (·.equals x) = some t → s ∈ dropped m.mSubscribers t := by
    intro t hf
    have ht := List.mem_of_find?_eq_some hf
    have heq : t.equals x = true := List.find?_some (p := fun t => Subscriber.equals t x) hf
    have htID : t.ID = x.ID := (hm.equals_iff ht hx).mp heq
    have hst : s.ID ≠ t.ID := fun h => hne (h.trans htID)
    unfold dropped
    split
    · exact Lists.mem_replace_of_ne (fun h => hst (congrArg Subscriber.ID h)) hs
    · refine List.mem_filter.mpr ⟨hs, ?_⟩
      rw [Bool.not_eq_true', ← Bool.not_eq_true, hm.equals_iff hs (hm.uniform.isOf t ht)]
      exact hst
  cases hstep with
  | unknown x hf => exact hs
  | toldOnly x t hf hrel => simpa using hs
  | left x t hf hrel hne hact => exact hdrop t hf
  | leftReleasing x t hf hrel hnil => exact hdrop t hf
  | lastLeft x t hf hrel hact => simpa using hdrop t hf

/-- Pending stays as long as another handle is active. -/
theorem pending_unsubscribe (hm : Orderly m) {x : Subscriber} (hx : x.isOf .dataService = true)
    (hact : ListsActive id m) (hne : id ≠ x.ID) (hp : m.mStatePtr = .pending)
    (hstep : Step env m (.unsubscribeRsrc x) m') : m'.mStatePtr = .pending := by
  obtain ⟨s, hs, rfl, ha⟩ := hact
  have hmem := mem_of_unsubscribe hm hx hs hne hstep
  cases hstep with
  | unknown x hf => exact hp
  | toldOnly x t hf hrel => simpa using hp
  | left x t hf hrel hne hact => exact hp
  | leftReleasing x t hf hrel hnil =>
    rw [hp] at hrel
    cases hrel
  | lastLeft x t hf hrel hany =>
    have hno := List.any_eq_false.mp hany s (by simpa using hmem)
    simp [Subscriber.isActive, ha] at hno

end Unsubscribed

/-! ### A handle that is denied -/

/-- An event that ends Pending is a denial for everyone who is listed, and a denial in Releasing
is one for those who are released. -/
theorem notified_of_denied {env : Env} {m m' : AgpsStateMachine} {event : AgpsRsrcStatus}
    {s : Subscriber} (hm : Orderly m) (hstep : Step env m (.onRsrcEvent event) m')
    (hs : s ∈ m.mSubscribers)
    (hdenied : m.mStatePtr = .pending ∧ event = .rsrcReleased ∨
      m.mStatePtr = .releasing ∧ event = .rsrcDenied ∧ s.isActive = false) :
    ∃ es, m'.log = m.log ++ es ∧
      .notified s .rsrcDenied (m.notifyCall .rsrcDenied s) ∈ es := by
  have hentry : ∀ {l : List Subscriber}, s ∈ l →
      .notified s .rsrcDenied (m.notifyCall .rsrcDenied s) ∈
        m.eventEntries event .rsrcDenied l := fun hl =>
    List.mem_cons_of_mem _ (List.mem_map_of_mem hl)
  have hinactive : s.isActive = false → s ∈ m.mSubscribers.filter (!·.isActive) := fun ha =>
    List.mem_filter.mpr ⟨hs, by simp [ha]⟩
  cases hstep with
  | ignored event hp ha hr =>
    rcases hdenied with ⟨hpend, he⟩ | ⟨hrel, he, -⟩
    · have hds := hm.isDS
      rw [(hp hpend).2.2 he] at hds
      cases hds
    · exact absurd he (hr hrel).2
  | granted hs' => rcases hdenied with ⟨-, he⟩ | ⟨-, he, -⟩ <;> cases he
  | denied event hs' he => exact ⟨_, log_event_clear _ _ _, hentry hs⟩
  | revoked hs' => rcases hdenied with ⟨h, -⟩ | ⟨h, -⟩ <;> (rw [hs'] at h; cases h)
  | closed event hs' he hact =>
    rcases hdenied with ⟨h, -⟩ | ⟨-, rfl, ha⟩
    · rw [hs'] at h
      cases h
    · exact ⟨_, log_event_prune _ _ _, hentry (hinactive ha)⟩
  | reopened event hs' he hact =>
    rcases hdenied with ⟨h, -⟩ | ⟨-, rfl, ha⟩
    · rw [hs'] at h
      cases h
    · obtain ⟨members, hds⟩ := exists_ds_prune_say hm.isDS (.rsrcEvent .rsrcDenied) .rsrcDenied
      have hlog := (sendRsrcRequest_start hds env).2
      rw [log_event_prune, List.append_assoc] at hlog
      exact ⟨_, hlog, List.mem_append_left _ (hentry (hinactive ha))⟩

/-- A `DSSubscriber` that is denied has a regular ATL posted. -/
theorem exists_fallback {d : DataService} (hd : Tidy d) {h : UInt32} {event : AgpsRsrcStatus}
    {env : Env} (hds : ListsDs h d.sm)
    (hdenied : d.sm.mStatePtr = .pending ∧ event = .rsrcReleased ∨
      d.sm.mStatePtr = .releasing ∧ event = .rsrcDenied ∧ ¬ ListsActive h d.sm) :
    .requestATL h agpsTypeSupl ∈ (d.step (.call (.onRsrcEvent event) env)).queue := by
  obtain ⟨i, hi⟩ := hds
  obtain ⟨es, hlog, hmem⟩ := notified_of_denied hd.orderly
    (call_step d.sm (.onRsrcEvent event, env)) hi (hdenied.imp_right fun ⟨hs, he, hno⟩ => by
      refine ⟨hs, he, ?_⟩
      rw [← Bool.not_eq_true]
      exact fun ha => hno ⟨_, hi, rfl, by simpa [Subscriber.isActive] using ha⟩)
  rw [step_of_call (c := (.onRsrcEvent event, env)) rfl hlog]
  exact List.mem_append_right _ (List.mem_filterMap.mpr ⟨_, hmem, rfl⟩)

/-- The machine holds its connection, or gives it up, and lists a handle as released. -/
structure Kept (h : UInt32) (d : DataService) : Prop extends Tidy d where
  listed : ListsDs h d.sm
  inactive : ¬ ListsActive h d.sm
  state : d.sm.mStatePtr = .acquired ∨ d.sm.mStatePtr = .releasing

/-- It does so when other handles are released. -/
theorem Kept.unsubscribe {h : UInt32} {d : DataService} (hd : Kept h d) {x : Subscriber}
    {env : Env} (hx : x.isOf .dataService = true) (hne : x.ID ≠ h) :
    Kept h (d.step (.call (.unsubscribeRsrc x) env)) := by
  have hstep := call_step d.sm (.unsubscribeRsrc x, env)
  have htidy := (step_tidy (i := .call (.unsubscribeRsrc x) env) hd.toTidy hx).1
  obtain ⟨i, hi⟩ := hd.listed
  have hmem := mem_of_unsubscribe hd.orderly hx hi (Ne.symm hne) hstep
  refine ⟨htidy, ⟨i, hmem⟩, fun hact => hd.inactive (listsActive_of_step hstep nofun hact), ?_⟩
  have hs := hd.state
  show (d.sm.call (.unsubscribeRsrc x, env)).mStatePtr = .acquired ∨
    (d.sm.call (.unsubscribeRsrc x, env)).mStatePtr = .releasing
  generalize d.sm.call (.unsubscribeRsrc x, env) = m' at hstep hmem ⊢
  cases hstep with
  | unknown x hf => exact hs
  | toldOnly x t hf hrel => simpa using hs
  | left x t hf hrel hne hact => exact hs
  | leftReleasing x t hf hrel hnil =>
    rw [mSubscribers_leave, hnil] at hmem
    cases hmem
  | lastLeft x t hf hrel hany =>
    refine Or.inr (if_neg fun hnil => ?_)
    simp [hnil] at hmem

end DataService

end Agps
end Nx507j
