import Nx507j.Agps.Steps
import Nx507j.Lib.Lists
import Nx507j.Lib.Run

/-!
# The state of a machine and its list

What holds between the state of a plain machine and the list of its subscribers,
over every run of public calls from the constructor.

## Main definitions

* `Kind`, `Call.isOf` — runs whose subscribers are of one kind.
* `Attended`, `Consistent` — the state and the list of a plain machine agree.
* `Uniform` — the listed subscribers are of one kind and differ in identity.

## Main results

* `Step.attended`, `Step.consistent`, `Step.uniform` — every call keeps them.
* `state_and_list` — what a run leaves, in the terms of the code.
-/

namespace Nx507j
namespace Agps

open AgpsStateMachine Nx507j.Lists Run

/-! ### One kind of subscribers -/

/-- The kinds of subscribers a machine has: those of one class, in a plain machine;
`DSSubscriber`s and `ATLSubscriber`s, in a `DSStateMachine`. -/
inductive Kind
  | atl
  | bit
  | wifi
  | dataService
  deriving DecidableEq, Repr

/-- The object is of the kind. -/
def Subscriber.isOf : Kind → Subscriber → Bool
  | .atl, s => s.isAtl
  | .bit, s => s.isBit
  | .wifi, s => s.isWifi
  | .dataService, s => s.isDs || s.isAtl

/-- The subscriber of the call, if it has one, is of the kind. -/
def Call.isOf (k : Kind) : Call → Bool
  | .subscribeRsrc s => s.isOf k
  | .unsubscribeRsrc s => s.isOf k
  | _ => true

@[simp] theorem Subscriber.isOf_clone (k : Kind) (s : Subscriber) :
    s.clone.isOf k = s.isOf k := by
  cases k <;> cases s <;> rfl

@[simp] theorem Subscriber.isOf_setInactive (k : Kind) (s : Subscriber) :
    s.setInactive.isOf k = s.isOf k := by
  cases k <;> cases s <;> rfl

theorem Subscriber.isBit_of_isOf {k : Kind} {s : Subscriber} (h : s.isOf k = true) :
    s.isBit = (k == .bit) := by
  cases k <;> cases s <;> simp_all [isOf, isBit, isAtl, isWifi, isDs]

/-- Within a kind, `equals` compares identities. -/
theorem Subscriber.equals_iff_of_isOf {k : Kind} {s t : Subscriber} (hs : s.isOf k = true)
    (ht : t.isOf k = true) : s.equals t = true ↔ s.ident = t.ident :=
  equals_iff_ident ((isBit_of_isOf hs).trans (isBit_of_isOf ht).symm)

/-! ### The list -/

theorem mem_of_mem_dropped {l : List Subscriber} {s t : Subscriber} (h : t ∈ dropped l s) :
    t ∈ l ∨ s ∈ l ∧ t = s.setInactive := by
  unfold dropped at h
  split at h
  · exact mem_or_eq_of_mem_replace h
  · exact Or.inl (List.mem_filter.mp h).1

/-- Nobody who waits for the close leaves the list. -/
theorem length_dropped_le (l : List Subscriber) (s : Subscriber) :
    (dropped l s).length ≤ l.length := by
  unfold dropped
  split
  · exact Nat.le_of_eq List.length_replace
  · exact List.length_filter_le _ _

/-- The identities that dropping `s` leaves. -/
theorem map_ident_dropped_sublist (l : List Subscriber) (s : Subscriber) :
    ((dropped l s).map Subscriber.ident).Sublist (l.map Subscriber.ident) := by
  unfold dropped
  split
  · rw [map_replace_of_eq Subscriber.ident s.ident_setInactive]
  · exact List.filter_sublist.map _

/-- **What a call makes of the list**: it takes subscribers out, lists the one of a
subscription, or drops the listed one of an unsubscription. -/
theorem Step.mSubscribers_cases {env : Env} {m m' : AgpsStateMachine} {c : Call}
    (h : Step env m c m') :
    m'.mSubscribers.Sublist m.mSubscribers ∨
      (∃ x, c = .subscribeRsrc x ∧ m'.mSubscribers = addNew m.mSubscribers x) ∨
      ∃ x s, c = .unsubscribeRsrc x ∧ m.mSubscribers.find? (·.equals x) = some s ∧
        m'.mSubscribers = dropped m.mSubscribers s := by
  cases h with
  | requested x hs hfree => exact Or.inr (Or.inl ⟨x, rfl, by simp⟩)
  | joined x hs hfree => exact Or.inr (Or.inl ⟨x, rfl, by simp⟩)
  | grantedAtOnce x hs hfree => exact Or.inr (Or.inl ⟨x, rfl, by simp⟩)
  | left x s hx hs hne hact => exact Or.inr (Or.inr ⟨x, s, rfl, hx, by simp⟩)
  | leftReleasing x s hx hs hnil => exact Or.inr (Or.inr ⟨x, s, rfl, hx, by simp⟩)
  | lastLeft x s hx hs hact => exact Or.inr (Or.inr ⟨x, s, rfl, hx, by simp⟩)
  | refused x hsingle hne => exact Or.inl (by simp)
  | unknown x hx => exact Or.inl (List.Sublist.refl _)
  | toldOnly x s hx hs => exact Or.inl (by simp)
  | ignored event hp ha hr => exact Or.inl (by simp)
  | granted hs => exact Or.inl (by simp)
  | denied event hs he => exact Or.inl (by simp)
  | revoked hs => exact Or.inl (by simp)
  | closed event hs he hact => exact Or.inl (by simp)
  | reopened event hs he hact => exact Or.inl (by simp)
  | setAPN apn => exact Or.inl (List.Sublist.refl _)
  | setBearer bearer => exact Or.inl (List.Sublist.refl _)

/-! ### The state and the list -/

/-- A plain machine that holds the resource, or waits for it, has an active subscriber,
and one in Released has none. -/
structure Attended (m : AgpsStateMachine) : Prop where
  base : m.ds = none
  released : m.mStatePtr = .released → m.mSubscribers = []
  active : m.mStatePtr = .pending ∨ m.mStatePtr = .acquired →
    m.mSubscribers.any (·.isActive) = true

/-- The state and the list of a plain machine agree. -/
structure Consistent (m : AgpsStateMachine) : Prop extends Attended m where
  listed : m.mSubscribers = [] → m.mStatePtr = .released
  single : m.mEnforceSingleSubscriber = true → m.mSubscribers.length ≤ 1

theorem Consistent.released_iff_nil {m : AgpsStateMachine} (h : Consistent m) :
    m.mStatePtr = .released ↔ m.mSubscribers = [] := ⟨h.released, h.listed⟩

theorem attended_new (type : AGpsExtType) (single : Bool) : Attended (new type single) where
  base := rfl
  released := fun _ => rfl
  active := by
    rintro (h | h) <;> cases h

theorem consistent_new (type : AGpsExtType) (single : Bool) : Consistent (new type single) where
  toAttended := attended_new type single
  listed := fun _ => rfl
  single := fun _ => Nat.zero_le _

/-- No call turns a plain machine into a `DSStateMachine` or back. -/
theorem Step.isSome_ds {env : Env} {m m' : AgpsStateMachine} {c : Call} (h : Step env m c m') :
    m'.ds.isSome = m.ds.isSome := by
  cases h <;> simp

/-- No call changes whether a machine takes a single subscriber. -/
theorem Step.mEnforceSingleSubscriber_eq {env : Env} {m m' : AgpsStateMachine} {c : Call}
    (h : Step env m c m') : m'.mEnforceSingleSubscriber = m.mEnforceSingleSubscriber := by
  cases h <;> simp

/-- Adding a subscriber leaves an active one, if there was one or it is new. -/
theorem any_isActive_addNew {l : List Subscriber} (x : Subscriber)
    (h : l.any (·.isActive) = true ∨ l.any (·.equals x) = false) :
    (addNew l x).any (·.isActive) = true := by
  rcases h with h | h
  · obtain ⟨s, hs, ha⟩ := List.any_eq_true.mp h
    exact List.any_eq_true.mpr ⟨s, mem_addNew_of_mem x hs, ha⟩
  · rw [addNew_of_not_any h]
    simp

/-- **A call leaves nobody waiting unattended.**  Only the way from Released to an empty
list is needed for this, not the way back. -/
theorem Step.attended {env : Env} {m m' : AgpsStateMachine} {c : Call} (h : Step env m c m')
    (hm : Attended m) : Attended m' := by
  have hbase : m'.ds = none := by
    have := h.isSome_ds
    rw [hm.base] at this
    simpa using this
  cases h with
  | refused x hsingle hne => exact ⟨hbase, by simpa using hm.released, by simpa using hm.active⟩
  | requested x hs hfree =>
    -- the servicer of a plain machine takes every request
    have hempty : m.mSubscribers = [] := hm.released hs
    have hok : ((m.join x).sendRsrcRequest env .gpsRequestAgpsDataConn).1 = 0 := by
      rw [sendRsrcRequest_of_base (m := m.join x) hm.base]
    refine ⟨hbase, by simp [hok], ?_⟩
    intro _
    simp [hempty, addNew]
  | joined x hs hfree =>
    refine ⟨hbase, ?_, ?_⟩
    · rcases hs with hs | hs <;> simp [hs]
    · intro h
      exact any_isActive_addNew x (Or.inl (hm.active h))
  | grantedAtOnce x hs hfree =>
    refine ⟨hbase, by simp [hs], ?_⟩
    intro _
    simpa using any_isActive_addNew x (Or.inl (hm.active (Or.inr hs)))
  | unknown x hx => exact hm
  | toldOnly x s hx hs =>
    exact ⟨hbase, by simpa using hm.released, by simpa using hm.active⟩
  | left x s hx hs hne hact =>
    -- Pending and Acquired are kept only with an active subscriber
    refine ⟨hbase, by simp [hs], ?_⟩
    intro h
    refine hact ?_
    rcases h with h | h <;> (intro h'; rw [mStatePtr_leave, h'] at h; cases h)
  | leftReleasing x s hx hs hnil =>
    refine ⟨hbase, by simp [hnil], ?_⟩
    rintro (h | h) <;> cases h
  | lastLeft x s hx hs hact =>
    -- whether the list is empty now decides between Released and Releasing
    by_cases hnil : dropped m.mSubscribers s = []
    · exact ⟨hbase, by simp [hnil], by simp [hnil]⟩
    · exact ⟨hbase, by simp [hnil], by simp [hnil]⟩
  | ignored event hp ha hr => exact ⟨hbase, hm.released, hm.active⟩
  | granted hs => exact ⟨hbase, by simp, fun _ => by simpa using hm.active (Or.inl hs)⟩
  | denied event hs he => exact ⟨hbase, by simp, by simp⟩
  | revoked hs => exact ⟨hbase, by simp, by simp⟩
  | closed event hs he hact =>
    exact ⟨hbase, by simpa using hact, by simp⟩
  | reopened event hs he hact => exact ⟨hbase, by simp, fun _ => by simpa using hact⟩
  | setAPN apn => exact ⟨hbase, hm.released, hm.active⟩
  | setBearer bearer => exact ⟨hbase, hm.released, hm.active⟩

/-- A machine in Pending or Acquired has somebody listed. -/
theorem Attended.ne_nil {m : AgpsStateMachine} (h : Attended m)
    (hs : m.mStatePtr = .pending ∨ m.mStatePtr = .acquired) : m.mSubscribers ≠ [] := by
  intro hnil
  have hact := h.active hs
  rw [hnil] at hact
  cases hact

/-- **A call keeps the state and the list in agreement.** -/
theorem Step.consistent {env : Env} {m m' : AgpsStateMachine} {c : Call} (h : Step env m c m')
    (hm : Consistent m) : Consistent m' := by
  have hatt := h.attended hm.toAttended
  -- a list that only one subscriber may join was empty before
  have hjoin : ∀ x, (m.mEnforceSingleSubscriber = true → m.mSubscribers = []) →
      m.mEnforceSingleSubscriber = true → (addNew m.mSubscribers x).length ≤ 1 := by
    intro x hfree hsingle
    rw [hfree hsingle]
    exact Nat.le_refl 1
  have hdrop : ∀ s, m.mEnforceSingleSubscriber = true →
      (dropped m.mSubscribers s).length ≤ 1 := fun s hsingle =>
    Nat.le_trans (length_dropped_le _ _) (hm.single hsingle)
  cases h with
  | refused x hsingle hne => exact ⟨hatt, by simpa using hm.listed, by simpa using hm.single⟩
  | requested x hs hfree => exact ⟨hatt, by simp [addNew_ne_nil], by simpa using hjoin x hfree⟩
  | joined x hs hfree => exact ⟨hatt, by simp [addNew_ne_nil], by simpa using hjoin x hfree⟩
  | grantedAtOnce x hs hfree =>
    exact ⟨hatt, by simp [addNew_ne_nil], by simpa using hjoin x hfree⟩
  | unknown x hx => exact hm
  | toldOnly x s hx hs => exact ⟨hatt, by simpa using hm.listed, by simpa using hm.single⟩
  | left x s hx hs hne hact => exact ⟨hatt, by simp [hne], by simpa using hdrop s⟩
  | leftReleasing x s hx hs hnil => exact ⟨hatt, by simp, by simpa using hdrop s⟩
  | lastLeft x s hx hs hact =>
    by_cases hnil : dropped m.mSubscribers s = []
    · exact ⟨hatt, by simp [hnil], by simpa using hdrop s⟩
    · exact ⟨hatt, by simp [hnil], by simpa using hdrop s⟩
  | ignored event hp ha hr => exact ⟨hatt, hm.listed, hm.single⟩
  | granted hs =>
    have hne := hm.ne_nil (Or.inl hs)
    exact ⟨hatt, by simp [hne], by simpa using hm.single⟩
  | denied event hs he => exact ⟨hatt, by simp, by simp⟩
  | revoked hs => exact ⟨hatt, by simp, by simp⟩
  | closed event hs he hact =>
    -- only inactive subscribers were left, and all of them are deleted
    have hnil : m.mSubscribers.filter (·.isActive) = [] := by
      rw [List.filter_eq_nil_iff]
      simpa using hact
    exact ⟨hatt, by simp, by simp [hnil]⟩
  | reopened event hs he hact =>
    refine ⟨hatt, by simpa using hact, fun hsingle => ?_⟩
    simp only [mEnforceSingleSubscriber_sendRsrcRequest, mEnforceSingleSubscriber_prune,
      mEnforceSingleSubscriber_say] at hsingle
    simpa using Nat.le_trans (List.length_filter_le _ _) (hm.single hsingle)
  | setAPN apn => exact ⟨hatt, hm.listed, hm.single⟩
  | setBearer bearer => exact ⟨hatt, hm.listed, hm.single⟩

/-! ### Identities -/

/-- The listed subscribers are of one kind and differ in identity. -/
structure Uniform (k : Kind) (m : AgpsStateMachine) : Prop where
  isOf : ∀ s ∈ m.mSubscribers, s.isOf k = true
  nodup : (m.mSubscribers.map Subscriber.ident).Nodup

theorem Uniform.addNew {k : Kind} {m m' : AgpsStateMachine} {x : Subscriber} (h : Uniform k m)
    (hx : x.isOf k = true) (hm' : m'.mSubscribers = addNew m.mSubscribers x) : Uniform k m' := by
  constructor
  · intro s hs
    rw [hm'] at hs
    rcases mem_addNew hs with hs | rfl
    · exact h.isOf s hs
    · simpa using hx
  · rw [hm']
    cases ha : m.mSubscribers.any (·.equals x) with
    | true =>
      rw [addNew_of_any ha]
      exact h.nodup
    | false =>
      rw [addNew_of_not_any ha, List.map_cons, List.nodup_cons]
      refine ⟨?_, h.nodup⟩
      intro hmem
      obtain ⟨s, hs, hid⟩ := List.mem_map.mp hmem
      have heq : s.equals x = true :=
        (Subscriber.equals_iff_of_isOf (h.isOf s hs) hx).mpr (by simpa using hid)
      rw [List.any_eq_true.mpr ⟨s, hs, heq⟩] at ha
      cases ha

theorem Uniform.dropped {k : Kind} {m m' : AgpsStateMachine} {s : Subscriber} (h : Uniform k m)
    (hm' : m'.mSubscribers = dropped m.mSubscribers s) : Uniform k m' := by
  constructor
  · intro t ht
    rw [hm'] at ht
    rcases mem_of_mem_dropped ht with ht | ⟨hs, rfl⟩
    · exact h.isOf t ht
    · simpa using h.isOf s hs
  · rw [hm']
    exact h.nodup.sublist (map_ident_dropped_sublist _ _)

theorem Uniform.sublist {k : Kind} {m m' : AgpsStateMachine} (h : Uniform k m)
    (hm' : m'.mSubscribers.Sublist m.mSubscribers) : Uniform k m' :=
  ⟨fun s hs => h.isOf s (hm'.subset hs), h.nodup.sublist (hm'.map _)⟩

/-- **A call keeps the listed subscribers of one kind apart.** -/
theorem Step.uniform {k : Kind} {env : Env} {m m' : AgpsStateMachine} {c : Call}
    (h : Step env m c m') (hm : Uniform k m) (hc : c.isOf k = true) : Uniform k m' := by
  rcases h.mSubscribers_cases with hsub | ⟨x, rfl, hadd⟩ | ⟨x, s, -, -, hdrop⟩
  · exact hm.sublist hsub
  · exact hm.addNew hc hadd
  · exact hm.dropped hdrop

theorem uniform_new (k : Kind) (type : AGpsExtType) (single : Bool) :
    Uniform k (new type single) :=
  ⟨by simp [new], by simp [new]⟩

/-- Within a kind no two of the listed subscribers are equal. -/
theorem Uniform.pairwise {k : Kind} {m : AgpsStateMachine} (h : Uniform k m) :
    m.mSubscribers.Pairwise fun s t => s.equals t = false ∧ t.equals s = false := by
  have hp := List.pairwise_map.mp h.nodup
  refine List.Pairwise.imp_of_mem ?_ hp
  intro s t hs ht hne
  have hst := Subscriber.equals_iff_of_isOf (h.isOf s hs) (h.isOf t ht)
  have hts := Subscriber.equals_iff_of_isOf (h.isOf t ht) (h.isOf s hs)
  constructor
  · rw [← Bool.not_eq_true, hst]
    exact hne
  · rw [← Bool.not_eq_true, hts]
    exact fun h => hne h.symm

/-! ### Runs -/

/-- Every run of calls keeps the state and the list in agreement. -/
theorem consistent_exec (type : AGpsExtType) (single : Bool) (cs : List (Call × Env)) :
    Consistent (exec AgpsStateMachine.call (new type single) cs) :=
  exec_inv (fun m c hm => (call_step m c).consistent hm) cs _ (consistent_new type single)

/-- A run whose subscribers are of one kind keeps the listed ones apart. -/
theorem uniform_exec {k : Kind} {cs : List (Call × Env)} {m : AgpsStateMachine}
    (hm : Uniform k m) (hcs : ∀ c ∈ cs, c.1.isOf k = true) :
    Uniform k (exec AgpsStateMachine.call m cs) :=
  exec_inv_of_forall (fun m c hc hm => (call_step m c).uniform hm hc) cs m hcs hm

/-- **The state and the list agree after every run**: a plain machine is in Released
exactly when its list is empty, in Pending and Acquired an active subscriber is listed,
no two listed subscribers are equal, and one that takes a single subscriber lists at
most one. -/
theorem state_and_list (k : Kind) (type : AGpsExtType) (single : Bool) (cs : List (Call × Env))
    (hcs : ∀ c ∈ cs, c.1.isOf k = true) (m : AgpsStateMachine)
    (hm : m = exec AgpsStateMachine.call (new type single) cs) :
    (m.mStatePtr = .released ↔ m.mSubscribers = []) ∧
      (m.mStatePtr = .pending ∨ m.mStatePtr = .acquired →
        ∃ s ∈ m.mSubscribers, s.isInactive = false) ∧
      m.mSubscribers.Pairwise (fun s t => s.equals t = false ∧ t.equals s = false) ∧
      (single = true → m.mSubscribers.length ≤ 1) := by
  subst hm
  have hc := consistent_exec type single cs
  have hstep : ∀ (m : AgpsStateMachine) (c : Call × Env), m.mEnforceSingleSubscriber = single →
      (m.call c).mEnforceSingleSubscriber = single := fun m c h =>
    (call_step m c).mEnforceSingleSubscriber_eq.trans h
  have hsingle := exec_inv hstep cs (new type single) rfl
  refine ⟨hc.released_iff_nil, ?_, (uniform_exec (uniform_new k type single) hcs).pairwise, ?_⟩
  · intro h
    simpa [Subscriber.isActive] using hc.active h
  · intro h
    exact hc.single (hsingle.trans h)

/-- Two modem connections: both are granted the resource, one leaves. -/
def twoConnections : List (Call × Env) :=
  [(.subscribeRsrc (.atl 1 false), .ok), (.subscribeRsrc (.atl 2 false), .ok),
    (.onRsrcEvent .rsrcGranted, .ok), (.unsubscribeRsrc (.atl 1 false), .ok)]

theorem state_and_list_twoConnections :
    ∃ s ∈ (exec AgpsStateMachine.call (new agpsTypeSupl false) twoConnections).mSubscribers,
      s.isInactive = false :=
  (state_and_list .atl agpsTypeSupl false twoConnections (by decide) _ rfl).2.1 (by decide)

end Agps
end Nx507j
