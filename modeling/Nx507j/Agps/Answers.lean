import Nx507j.Agps.Invariant

/-!
# What a client is answered

Each client of a plain machine, a modem connection or the BIT daemon, against the
answers it was sent: a client that has subscribed is waiting, or was granted the
resource, or was turned away and is no longer listed; a client that has
unsubscribed hears of neither a grant nor a denial.

## Main definitions

* `answers i es` — the statuses that the entries `es` told the client `i`.
* `Listed i l` — an object that stands for `i` is in the list.
* `Waits`, `Holds`, `TurnedAway` — how a request can stand.
* `Gone` — what there is to say of a client that has left.

## Main results

* `stands_call`, `gone_call` — one call for another client.
* `answered_or_gone` — every run, from the last subscription or unsubscription on.
-/

namespace Nx507j
namespace Agps

open AgpsStateMachine Nx507j.Lists Run

/-- What `Subscriber.ident` gives: who a client is. -/
abbrev Ident := UInt32 × List UInt8

/-! ### Answers in the log -/

/-- The status an entry tells the client `i`. -/
def answerTo (i : Ident) : Entry → Option AgpsRsrcStatus
  | .notified who status _ => if who.ident = i then some status else none
  | _ => none

/-- The statuses that entries tell the client `i`, oldest first. -/
def answers (i : Ident) (es : List Entry) : List AgpsRsrcStatus := es.filterMap (answerTo i)

theorem answers_append (i : Ident) (es fs : List Entry) :
    answers i (es ++ fs) = answers i es ++ answers i fs := List.filterMap_append

@[simp] theorem answers_nil (i : Ident) : answers i [] = [] := rfl

theorem answers_eventEntries (i : Ident) (m : AgpsStateMachine) (event st : AgpsRsrcStatus)
    (l : List Subscriber) : answers i (m.eventEntries event st l) =
      answers i (l.map fun s => .notified s st (m.notifyCall st s)) := rfl

@[simp] theorem answers_requestEntries (i : Ident) (m : AgpsStateMachine)
    (action : AGpsStatusValue) : answers i (m.requestEntries action) = [] := by
  unfold requestEntries
  simp only
  split <;> rfl

/-- A client that no entry is about is told nothing. -/
theorem answers_notified_of_forall {i : Ident} {l : List Subscriber} (st : AgpsRsrcStatus)
    (f : Subscriber → Option AdapterCall) (h : ∀ s ∈ l, s.ident ≠ i) :
    answers i (l.map fun s => .notified s st (f s)) = [] := by
  rw [answers, List.filterMap_map, List.filterMap_eq_nil_iff]
  intro s hs
  simp [answerTo, h s hs]

/-- Only one status is told in a round of notifications. -/
theorem eq_of_mem_answers_notified {i : Ident} {l : List Subscriber} {st st' : AgpsRsrcStatus}
    {f : Subscriber → Option AdapterCall}
    (h : st' ∈ answers i (l.map fun s => .notified s st (f s))) : st' = st := by
  rw [answers, List.filterMap_map, List.mem_filterMap] at h
  obtain ⟨s, -, hs⟩ := h
  simp only [Function.comp, answerTo, Option.ite_none_right_eq_some, Option.some.injEq] at hs
  exact hs.2.symm

/-- A client that a round of notifications is about is told the status. -/
theorem mem_answers_notified {i : Ident} {l : List Subscriber} (st : AgpsRsrcStatus)
    (f : Subscriber → Option AdapterCall) (h : ∃ s ∈ l, s.ident = i) :
    st ∈ answers i (l.map fun s => .notified s st (f s)) := by
  obtain ⟨s, hs, hi⟩ := h
  rw [answers, List.filterMap_map, List.mem_filterMap]
  exact ⟨s, hs, by simp [answerTo, hi]⟩

theorem getLast?_answers_notified {i : Ident} {l : List Subscriber} (st : AgpsRsrcStatus)
    (f : Subscriber → Option AdapterCall) (h : ∃ s ∈ l, s.ident = i) :
    (answers i (l.map fun s => .notified s st (f s))).getLast? = some st := by
  have hmem := mem_answers_notified st f h
  cases hl : (answers i (l.map fun s => .notified s st (f s))).getLast? with
  | none =>
    rw [List.getLast?_eq_none_iff.mp hl] at hmem
    cases hmem
  | some st' => rw [eq_of_mem_answers_notified (List.mem_of_getLast? hl)]

/-! ### Who is listed -/

/-- An object that stands for the client `i` is in the list. -/
def Listed (i : Ident) (l : List Subscriber) : Prop := ∃ s ∈ l, s.ident = i

instance (i : Ident) (l : List Subscriber) : Decidable (Listed i l) :=
  inferInstanceAs (Decidable (∃ s ∈ l, s.ident = i))

theorem not_listed_nil (i : Ident) : ¬ Listed i [] := by
  rintro ⟨s, hs, -⟩
  cases hs

/-- Adding a client lists it and nobody else. -/
theorem listed_addNew {k : Kind} {l : List Subscriber} {x : Subscriber} {i : Ident}
    (hl : ∀ s ∈ l, s.isOf k = true) (hx : x.isOf k = true) :
    Listed i (addNew l x) ↔ Listed i l ∨ x.ident = i := by
  constructor
  · rintro ⟨s, hs, hi⟩
    rcases mem_addNew hs with hs | rfl
    · exact Or.inl ⟨s, hs, hi⟩
    · exact Or.inr (by simpa using hi)
  · rintro (⟨s, hs, hi⟩ | rfl)
    · exact ⟨s, mem_addNew_of_mem x hs, hi⟩
    · obtain ⟨s, hs, heq⟩ := List.any_eq_true.mp (any_equals_addNew l x)
      have hsk : s.isOf k = true := by
        rcases mem_addNew hs with hs | rfl
        · exact hl s hs
        · simpa using hx
      exact ⟨s, hs, (Subscriber.equals_iff_of_isOf hsk hx).mp heq⟩

/-- Dropping a client that does not wait for a close unlists it and nobody else. -/
theorem listed_dropped {k : Kind} {l : List Subscriber} {s : Subscriber} {i : Ident}
    (hl : ∀ t ∈ l, t.isOf k = true) (hs : s.isOf k = true)
    (hwait : s.waitForCloseComplete = false) :
    Listed i (dropped l s) ↔ Listed i l ∧ s.ident ≠ i := by
  have hmem : ∀ t, t ∈ dropped l s ↔ t ∈ l ∧ t.ident ≠ s.ident := by
    intro t
    rw [dropped, hwait, if_neg Bool.false_ne_true, List.mem_filter]
    refine and_congr_right fun ht => ?_
    rw [Bool.not_eq_true', ← Bool.not_eq_true, Subscriber.equals_iff_of_isOf (hl t ht) hs]
  constructor
  · rintro ⟨t, ht, rfl⟩
    obtain ⟨ht, hne⟩ := (hmem t).mp ht
    exact ⟨⟨t, ht, rfl⟩, hne.symm⟩
  · rintro ⟨⟨t, ht, rfl⟩, hne⟩
    exact ⟨t, (hmem t).mpr ⟨ht, hne.symm⟩, rfl⟩

/-! ### The machine -/

/-- A plain machine that takes any number of clients, all ATL or all BIT: no client
ever keeps it waiting for a close. -/
structure Serves (k : Kind) (m : AgpsStateMachine) : Prop where
  consistent : Consistent m
  uniform : Uniform k m
  many : m.mEnforceSingleSubscriber = false
  kind : k = .atl ∨ k = .bit
  settled : m.mStatePtr ≠ .releasing

section Serves

variable {k : Kind} {m m' : AgpsStateMachine} {env : Env} {c : Call}

theorem waitForCloseComplete_of_isOf {s : Subscriber} (hk : k = .atl ∨ k = .bit) (hs : s.isOf k = true) :
    s.waitForCloseComplete = false := by
  rcases hk with rfl | rfl <;> cases s <;>
    simp_all [Subscriber.isOf, Subscriber.isAtl, Subscriber.isBit, Subscriber.waitForCloseComplete]

/-- No client is ever inactive. -/
theorem isActive_of_isOf {s : Subscriber} (hk : k = .atl ∨ k = .bit) (hs : s.isOf k = true) :
    s.isActive = true := by
  have hw := waitForCloseComplete_of_isOf hk hs
  rw [Subscriber.isActive, Subscriber.isInactive_of_not_wait hw]
  rfl

theorem Serves.isActive (h : Serves k m) {s : Subscriber} (hs : s ∈ m.mSubscribers) :
    s.isActive = true := isActive_of_isOf h.kind (h.uniform.isOf s hs)

theorem Serves.filter_isActive (h : Serves k m) :
    m.mSubscribers.filter (·.isActive) = m.mSubscribers :=
  List.filter_eq_self.mpr fun _ hs => h.isActive hs

/-- Whoever a client leaves behind is active. -/
theorem Serves.dropped_eq_nil (h : Serves k m) {s : Subscriber}
    (hact : (dropped m.mSubscribers s).any (·.isActive) = false) :
    dropped m.mSubscribers s = [] := by
  rw [List.eq_nil_iff_forall_not_mem]
  intro t ht
  have hta : t.isActive = true := by
    rcases mem_of_mem_dropped ht with ht | ⟨hs, rfl⟩
    · exact h.isActive ht
    · exact isActive_of_isOf h.kind (by simpa using h.uniform.isOf s hs)
  rw [List.any_eq_true.mpr ⟨t, ht, hta⟩] at hact
  cases hact

theorem Serves.step (h : Serves k m) (hs : Step env m c m') (hc : c.isOf k = true) :
    Serves k m' where
  consistent := hs.consistent h.consistent
  uniform := hs.uniform h.uniform hc
  many := hs.mEnforceSingleSubscriber_eq.trans h.many
  kind := h.kind
  settled := by
    have hset := h.settled
    cases hs with
    | lastLeft x s hx hs hact => simp [h.dropped_eq_nil hact]
    | requested x hs hfree => simp only; split <;> exact nofun
    | joined x hs hfree => exact hset
    | refused x hsingle hne => simpa using hset
    | grantedAtOnce x hs hfree => simpa using hset
    | unknown x hx => exact hset
    | toldOnly x s hx hs => simpa using hset
    | left x s hx hs hne hact => exact hset
    | leftReleasing x s hx hs hnil => exact nofun
    | ignored event hp ha hr => exact hset
    | granted hs => exact nofun
    | denied event hs he => exact nofun
    | revoked hs => exact nofun
    | closed event hs he hact => exact nofun
    | reopened event hs he hact => exact nofun
    | setAPN apn => exact hset
    | setBearer bearer => exact hset

theorem Serves.call (h : Serves k m) (c : Call × Env) (hc : c.1.isOf k = true) :
    Serves k (m.call c) := h.step (call_step m c) hc

theorem serves_new (hk : k = .atl ∨ k = .bit) (type : AGpsExtType) :
    Serves k (AgpsStateMachine.new type false) :=
  ⟨consistent_new type false, uniform_new k type false, rfl, hk, nofun⟩

theorem Serves.exec {cs : List (Call × Env)} {m : AgpsStateMachine} (h : Serves k m)
    (hcs : ∀ c ∈ cs, c.1.isOf k = true) : Serves k (exec AgpsStateMachine.call m cs) :=
  exec_inv_of_forall (fun _ c hc hm => hm.call c hc) cs m hcs h

/-- The object that an unsubscription finds is the client that asked. -/
theorem Serves.found (h : Serves k m) {x s : Subscriber} (hx : x.isOf k = true)
    (hf : m.mSubscribers.find? (·.equals x) = some s) :
    s ∈ m.mSubscribers ∧ s.ident = x.ident := by
  have hmem := List.mem_of_find?_eq_some hf
  have heq : s.equals x = true := List.find?_some (p := fun s => Subscriber.equals s x) hf
  exact ⟨hmem, (Subscriber.equals_iff_of_isOf (h.uniform.isOf s hmem) hx).mp heq⟩

theorem Serves.not_listed (h : Serves k m) {x : Subscriber} (hx : x.isOf k = true)
    (hf : m.mSubscribers.find? (·.equals x) = none) : ¬ Listed x.ident m.mSubscribers := by
  rintro ⟨s, hs, hi⟩
  refine List.find?_eq_none.mp hf s hs ?_
  exact (Subscriber.equals_iff_of_isOf (h.uniform.isOf s hs) hx).mpr hi

/-- What dropping `s` tells: nobody but `s`, and that it is unsubscribed. -/
theorem Serves.answers_dropEntries (h : Serves k m) {s : Subscriber} (hs : s.isOf k = true)
    {i : Ident} {st : AgpsRsrcStatus} (hst : st ∈ answers i (m.dropEntries s)) :
    s.ident = i ∧ st = .rsrcUnsubscribe := by
  have hdrop : m.dropEntries s = (m.mSubscribers.filter (·.equals s)).map fun t =>
      .notified t .rsrcUnsubscribe (m.notifyCall .rsrcUnsubscribe t) := by
    have hw := waitForCloseComplete_of_isOf h.kind hs
    cases s with
    | bit ID a => rfl
    | atl ID c => rfl
    | wifi sender ssid password i => cases hw
    | ds ID i => cases hw
  rw [hdrop] at hst
  refine ⟨?_, eq_of_mem_answers_notified hst⟩
  by_contra hne
  rw [answers_notified_of_forall] at hst
  · cases hst
  · intro t ht hti
    obtain ⟨ht, heq⟩ := List.mem_filter.mp ht
    have hid := (Subscriber.equals_iff_of_isOf (h.uniform.isOf t ht) hs).mp heq
    exact hne (hid.symm.trans hti)

theorem Serves.answers_dropEntries_of_ne (h : Serves k m) {s : Subscriber} (hs : s.isOf k = true)
    {i : Ident} (hne : s.ident ≠ i) : answers i (m.dropEntries s) = [] :=
  List.eq_nil_iff_forall_not_mem.mpr fun _ hst => hne (h.answers_dropEntries hs hst).1

end Serves

/-! ### A client that has subscribed -/

/-- The client `i` waits for its answer. -/
def Waits (i : Ident) (m : AgpsStateMachine) (out : List AgpsRsrcStatus) : Prop :=
  m.mStatePtr = .pending ∧ Listed i m.mSubscribers ∧ out = []

/-- The client `i` was granted the resource, and has it. -/
def Holds (i : Ident) (m : AgpsStateMachine) (out : List AgpsRsrcStatus) : Prop :=
  m.mStatePtr = .acquired ∧ Listed i m.mSubscribers ∧ out.getLast? = some .rsrcGranted

/-- The client `i` was turned away, or lost the resource, and is no longer listed. -/
def TurnedAway (i : Ident) (m : AgpsStateMachine) (out : List AgpsRsrcStatus) : Prop :=
  ¬ Listed i m.mSubscribers ∧ (.rsrcDenied ∈ out ∨ .rsrcReleased ∈ out)

/-- How the request of the client `i` stands, `out` being what it has been told since. -/
def Stands (i : Ident) (m : AgpsStateMachine) (out : List AgpsRsrcStatus) : Prop :=
  Waits i m out ∨ Holds i m out ∨ TurnedAway i m out

/-- A request stands in one way only. -/
theorem Stands.exclusive (i : Ident) (m : AgpsStateMachine) (out : List AgpsRsrcStatus) :
    ¬ (Waits i m out ∧ Holds i m out) ∧ ¬ (Waits i m out ∧ TurnedAway i m out) ∧
      ¬ (Holds i m out ∧ TurnedAway i m out) := by
  refine ⟨?_, ?_, ?_⟩
  · rintro ⟨⟨hs, -, -⟩, ⟨hs', -, -⟩⟩
    rw [hs] at hs'
    cases hs'
  · rintro ⟨⟨-, hl, -⟩, ⟨hl', -⟩⟩
    exact hl' hl
  · rintro ⟨⟨-, hl, -⟩, ⟨hl', -⟩⟩
    exact hl' hl

/-- The client a call is made for, if it is made for one. -/
def Call.client : Call → Option Ident
  | .subscribeRsrc s => some s.ident
  | .unsubscribeRsrc s => some s.ident
  | _ => none

/-- The client a call subscribes, if it subscribes one. -/
def Call.joins : Call → Option Ident
  | .subscribeRsrc s => some s.ident
  | _ => none

section Steps

variable {k : Kind} {i : Ident} {m m' : AgpsStateMachine} {env : Env} {c : Call}
  {out : List AgpsRsrcStatus}

/-- A request that stands while neither the state nor who is listed changes. -/
theorem Stands.congr (h : Stands i m out) (hs : m'.mStatePtr = m.mStatePtr)
    (hl : Listed i m'.mSubscribers ↔ Listed i m.mSubscribers) : Stands i m' out := by
  unfold Stands Waits Holds TurnedAway at *
  rw [hs, hl]
  exact h

/-- A client that is not listed was turned away. -/
theorem Stands.turnedAway (h : Stands i m out) (hl : ¬ Listed i m.mSubscribers) :
    TurnedAway i m out := by
  rcases h with ⟨-, h, -⟩ | ⟨-, h, -⟩ | h
  · exact absurd h hl
  · exact absurd h hl
  · exact h

/-- A client that was turned away stays so until it subscribes again. -/
theorem TurnedAway.append (h : TurnedAway i m out) (hl : ¬ Listed i m'.mSubscribers)
    (fs : List AgpsRsrcStatus) : Stands i m' (out ++ fs) := by
  refine Or.inr (Or.inr ⟨hl, ?_⟩)
  rcases h.2 with h | h
  · exact Or.inl (List.mem_append_left _ h)
  · exact Or.inr (List.mem_append_left _ h)

/-- A client that is turned away, if it is still listed, by `st`. -/
theorem Stands.turnAway (h : Stands i m out) (hno : ¬ Listed i m'.mSubscribers)
    {st : AgpsRsrcStatus} (hst : st = .rsrcDenied ∨ st = .rsrcReleased)
    {fs : List AgpsRsrcStatus} (hfs : Listed i m.mSubscribers → st ∈ fs) :
    Stands i m' (out ++ fs) := by
  by_cases hl : Listed i m.mSubscribers
  · refine Or.inr (Or.inr ⟨hno, ?_⟩)
    have hmem : st ∈ out ++ fs := List.mem_append_right _ (hfs hl)
    rcases hst with rfl | rfl
    · exact Or.inl hmem
    · exact Or.inr hmem
  · exact (h.turnedAway hl).append hno _

/-- What is said to somebody else is no answer. -/
theorem answers_of_ident_ne {x : Subscriber} (hx : x.ident ≠ i) (st : AgpsRsrcStatus)
    (call : Option AdapterCall) : answers i [.notified x st call] = [] := by
  simp [answers, answerTo, hx]

theorem stands_subscribe_of_ne {x : Subscriber} (hm : Serves k m)
    (h : Step env m (.subscribeRsrc x) m') (hc : x.isOf k = true) (hx : x.ident ≠ i)
    (hst : Stands i m out) :
    ∃ es, m'.log = m.log ++ es ∧ Stands i m' (out ++ answers i es) := by
  cases h with
  | refused x hsingle hne => simp [hm.many] at hsingle
  | requested x hs hfree =>
    -- Released lists nobody, so the client was turned away before
    have hempty : m.mSubscribers = [] := hm.consistent.released_iff_nil.mp hs
    have hreq :=
      sendRsrcRequest_of_base (m := m.join x) hm.consistent.base env .gpsRequestAgpsDataConn
    have hno : ¬ Listed i m.mSubscribers := by
      rw [hempty]
      exact not_listed_nil i
    refine ⟨_, by rw [hreq]; rfl, (hst.turnedAway hno).append ?_ _⟩
    simp only [mSubscribers_sendRsrcRequest, mSubscribers_join,
      listed_addNew hm.uniform.isOf hc]
    exact not_or.mpr ⟨hno, hx⟩
  | joined x hs hfree =>
    refine ⟨[], by simp, ?_⟩
    rw [answers_nil, List.append_nil]
    refine hst.congr rfl ?_
    rw [mSubscribers_join, listed_addNew hm.uniform.isOf hc]
    exact or_iff_left hx
  | grantedAtOnce x hs hfree =>
    -- the grant goes to the newcomer alone
    refine ⟨_, m.log_tell _ x, ?_⟩
    rw [answers_of_ident_ne hx, List.append_nil]
    refine hst.congr (by simp) ?_
    rw [mSubscribers_join, mSubscribers_tell, listed_addNew hm.uniform.isOf hc]
    exact or_iff_left hx

theorem stands_unsubscribe_of_ne {x : Subscriber} (hm : Serves k m)
    (h : Step env m (.unsubscribeRsrc x) m') (hc : x.isOf k = true) (hi : x.ident ≠ i)
    (hst : Stands i m out) :
    ∃ es, m'.log = m.log ++ es ∧ Stands i m' (out ++ answers i es) := by
  cases h with
  | unknown x hx => exact ⟨[], by simp, by simpa using hst⟩
  | toldOnly x s hx hs =>
    -- Released lists nobody who could be told
    rw [hm.consistent.released_iff_nil.mp hs] at hx
    cases hx
  | left x s hx hs hn hact =>
    -- the object found is another client's, and only that client is told
    obtain ⟨hsl, hid⟩ := hm.found hc hx
    have hsk := hm.uniform.isOf s hsl
    have hsi : s.ident ≠ i := hid ▸ hi
    refine ⟨_, m.log_leave s, ?_⟩
    rw [hm.answers_dropEntries_of_ne hsk hsi, List.append_nil]
    refine hst.congr rfl ?_
    rw [mSubscribers_leave,
      listed_dropped hm.uniform.isOf hsk (waitForCloseComplete_of_isOf hm.kind hsk)]
    exact and_iff_left hsi
  | leftReleasing x s hx hs hnil => exact absurd hs hm.settled
  | lastLeft x s hx hs hact =>
    -- nobody stays listed, so the client was turned away before
    obtain ⟨hsl, hid⟩ := hm.found hc hx
    have hsk := hm.uniform.isOf s hsl
    have hsi : s.ident ≠ i := hid ▸ hi
    have hreq :=
      sendRsrcRequest_of_base (m := m.leave s) hm.consistent.base env .gpsReleaseAgpsDataConn
    have hno' : ¬ Listed i (dropped m.mSubscribers s) := by
      rw [hm.dropped_eq_nil hact]
      exact not_listed_nil i
    have hno : ¬ Listed i m.mSubscribers := by
      rw [listed_dropped hm.uniform.isOf hsk (waitForCloseComplete_of_isOf hm.kind hsk)] at hno'
      exact fun h => hno' ⟨h, hsi⟩
    refine ⟨m.dropEntries s ++ (m.leave s).requestEntries .gpsReleaseAgpsDataConn, ?_,
      (hst.turnedAway hno).append ?_ _⟩
    · rw [hreq]
      simp
    · simpa using hno'

theorem stands_event {event : AgpsRsrcStatus} (hm : Serves k m)
    (h : Step env m (.onRsrcEvent event) m') (hst : Stands i m out) :
    ∃ es, m'.log = m.log ++ es ∧ Stands i m' (out ++ answers i es) := by
  cases h with
  | ignored event hp ha hr =>
    -- nobody is told
    refine ⟨_, rfl, ?_⟩
    show Stands i _ (out ++ [])
    rw [List.append_nil]
    exact hst.congr rfl Iff.rfl
  | granted hs =>
    -- all who are listed are active, so each of them is told
    rw [hm.filter_isActive]
    refine ⟨_, m.log_event_tellAll _ _ _, ?_⟩
    rw [answers_eventEntries]
    by_cases hl : Listed i m.mSubscribers
    · refine Or.inr (Or.inl ⟨rfl, by simpa using hl, ?_⟩)
      rw [List.getLast?_append, getLast?_answers_notified _ _ hl]
      rfl
    · exact (hst.turnedAway hl).append (by simpa using hl) _
  | denied event hs he =>
    -- a plain machine is turned away in Pending by a denial alone
    have hd : event = .rsrcDenied := by
      rcases he with he | ⟨-, he⟩
      · exact he
      · simp [hm.consistent.base] at he
    subst hd
    refine ⟨_, m.log_event_clear _ _, ?_⟩
    rw [answers_eventEntries]
    exact hst.turnAway (not_listed_nil i) (.inl rfl) (mem_answers_notified _ _)
  | revoked hs =>
    refine ⟨_, m.log_event_clear _ _, ?_⟩
    rw [answers_eventEntries]
    exact hst.turnAway (not_listed_nil i) (.inr rfl) (mem_answers_notified _ _)
  | closed event hs he hact => exact absurd hs hm.settled
  | reopened event hs he hact => exact absurd hs hm.settled

/-- **A call for another client** leaves a request standing. -/
theorem stands_call (hm : Serves k m) (h : Step env m c m') (hc : c.isOf k = true)
    (hi : c.client ≠ some i) (hst : Stands i m out) :
    ∃ es, m'.log = m.log ++ es ∧ Stands i m' (out ++ answers i es) := by
  have hsame : m'.log = m.log → m'.mStatePtr = m.mStatePtr → m'.mSubscribers = m.mSubscribers →
      ∃ es, m'.log = m.log ++ es ∧ Stands i m' (out ++ answers i es) := by
    intro hlog hs hl
    refine ⟨[], by simp [hlog], ?_⟩
    rw [answers_nil, List.append_nil]
    exact hst.congr hs (by rw [hl])
  cases c with
  | subscribeRsrc x => exact stands_subscribe_of_ne hm h hc (by simpa [Call.client] using hi) hst
  | unsubscribeRsrc x =>
    exact stands_unsubscribe_of_ne hm h hc (by simpa [Call.client] using hi) hst
  | onRsrcEvent event => exact stands_event hm h hst
  | setAPN apn =>
    cases h
    exact hsame rfl rfl rfl
  | setBearer bearer =>
    cases h
    exact hsame rfl rfl rfl

/-- **A subscription** puts the request of its client in one of the three ways. -/
theorem stands_subscribe {x : Subscriber} (hm : Serves k m)
    (h : Step env m (.subscribeRsrc x) m') (hx : x.isOf k = true) :
    ∃ es, m'.log = m.log ++ es ∧ Stands x.ident m' (answers x.ident es) := by
  have hbase := hm.consistent.base
  have hl : Listed x.ident (addNew m.mSubscribers x) :=
    (listed_addNew hm.uniform.isOf hx).mpr (Or.inr rfl)
  cases h with
  | refused x hsingle hne => simp [hm.many] at hsingle
  | requested x hs hfree =>
    have hreq := sendRsrcRequest_of_base (m := m.join x) hbase env .gpsRequestAgpsDataConn
    refine ⟨_, by rw [hreq]; rfl, Or.inl ⟨by simp [hreq], by simpa using hl, ?_⟩⟩
    exact answers_requestEntries _ _ _
  | joined x hs hfree =>
    refine ⟨[], by simp, Or.inl ⟨?_, hl, rfl⟩⟩
    rcases hs with hs | hs
    · exact hs
    · exact absurd hs hm.settled
  | grantedAtOnce x hs hfree =>
    refine ⟨_, m.log_tell _ x, Or.inr (Or.inl ⟨by simpa using hs, by simpa using hl, ?_⟩)⟩
    simp [answers, answerTo]

/-! ### A client that has left -/

/-- The client `i` is not listed, and `out` tells it neither of a grant nor of a denial. -/
structure Gone (i : Ident) (m : AgpsStateMachine) (out : List AgpsRsrcStatus) : Prop where
  not_listed : ¬ Listed i m.mSubscribers
  not_granted : .rsrcGranted ∉ out
  not_denied : .rsrcDenied ∉ out

/-- What is told to others does not bring the client back. -/
theorem Gone.append (h : Gone i m out) {fs : List AgpsRsrcStatus}
    (hl : ¬ Listed i m'.mSubscribers)
    (hfs : ∀ st ∈ fs, st = .rsrcUnsubscribe) : Gone i m' (out ++ fs) where
  not_listed := hl
  not_granted := by
    rw [List.mem_append]
    rintro (h' | h')
    · exact h.not_granted h'
    · cases hfs _ h'
  not_denied := by
    rw [List.mem_append]
    rintro (h' | h')
    · exact h.not_denied h'
    · cases hfs _ h'

/-- **A call that does not subscribe it** leaves a client gone. -/
theorem gone_call (hm : Serves k m) (h : Step env m c m') (hc : c.isOf k = true)
    (hi : c.joins ≠ some i) (hg : Gone i m out) :
    ∃ es, m'.log = m.log ++ es ∧ Gone i m' (out ++ answers i es) := by
  have hbase := hm.consistent.base
  have hno := hg.not_listed
  have hquiet : ∀ {m' : AgpsStateMachine} {fs : List AgpsRsrcStatus}, fs = [] →
      ¬ Listed i m'.mSubscribers → Gone i m' (out ++ fs) := by
    rintro m' fs rfl hl
    exact hg.append hl (by simp)
  have htold : ∀ event st : AgpsRsrcStatus,
      answers i (m.eventEntries event st m.mSubscribers) = [] := fun _ st =>
    answers_notified_of_forall st _ fun s hs hsi => hno ⟨s, hs, hsi⟩
  cases h with
  | refused x hsingle hne => simp [hm.many] at hsingle
  | requested x hs hfree =>
    -- whoever subscribes is another client
    have hx : x.ident ≠ i := by simpa [Call.joins] using hi
    have hreq := sendRsrcRequest_of_base (m := m.join x) hbase env .gpsRequestAgpsDataConn
    refine ⟨_, by rw [hreq]; rfl, hquiet (answers_requestEntries _ _ _) ?_⟩
    simp only [mSubscribers_sendRsrcRequest, mSubscribers_join,
      listed_addNew hm.uniform.isOf hc]
    exact not_or.mpr ⟨hno, hx⟩
  | joined x hs hfree =>
    have hx : x.ident ≠ i := by simpa [Call.joins] using hi
    refine ⟨[], by simp, hquiet rfl ?_⟩
    rw [mSubscribers_join, listed_addNew hm.uniform.isOf hc]
    exact not_or.mpr ⟨hno, hx⟩
  | grantedAtOnce x hs hfree =>
    have hx : x.ident ≠ i := by simpa [Call.joins] using hi
    refine ⟨_, m.log_tell _ x, hquiet (by simp [answers, answerTo, hx]) ?_⟩
    rw [mSubscribers_join, mSubscribers_tell, listed_addNew hm.uniform.isOf hc]
    exact not_or.mpr ⟨hno, hx⟩
  | unknown x hx => exact ⟨[], by simp, hquiet rfl hno⟩
  | toldOnly x s hx hs =>
    rw [hm.consistent.released_iff_nil.mp hs] at hx
    cases hx
  | left x s hx hs hn hact =>
    have hsk := hm.uniform.isOf s (hm.found hc hx).1
    have hl := listed_dropped (i := i) hm.uniform.isOf hsk (waitForCloseComplete_of_isOf hm.kind hsk)
    refine ⟨_, m.log_leave s, hg.append (fun h => hno (hl.mp h).1) ?_⟩
    exact fun st hst => (hm.answers_dropEntries hsk hst).2
  | leftReleasing x s hx hs hnil => exact absurd hs hm.settled
  | lastLeft x s hx hs hact =>
    -- the client may unsubscribe again, but is only told that
    have hsk := hm.uniform.isOf s (hm.found hc hx).1
    have hreq := sendRsrcRequest_of_base (m := m.leave s) hbase env .gpsReleaseAgpsDataConn
    refine ⟨m.dropEntries s ++ (m.leave s).requestEntries .gpsReleaseAgpsDataConn, ?_,
      hg.append ?_ ?_⟩
    · rw [hreq]
      simp
    · simpa [hm.dropped_eq_nil hact] using not_listed_nil i
    · intro st hst
      rw [answers_append, answers_requestEntries, List.append_nil] at hst
      exact (hm.answers_dropEntries hsk hst).2
  | ignored event hp ha hr => exact ⟨_, rfl, hquiet rfl hno⟩
  | granted hs =>
    rw [hm.filter_isActive]
    exact ⟨_, m.log_event_tellAll _ _ _, hquiet (htold _ _) (by simpa using hno)⟩
  | denied event hs he => exact ⟨_, m.log_event_clear _ _, hquiet (htold _ _) (not_listed_nil i)⟩
  | revoked hs => exact ⟨_, m.log_event_clear _ _, hquiet (htold _ _) (not_listed_nil i)⟩
  | closed event hs he hact => exact absurd hs hm.settled
  | reopened event hs he hact => exact absurd hs hm.settled
  | setAPN apn => exact ⟨[], by simp, hquiet rfl hno⟩
  | setBearer bearer => exact ⟨[], by simp, hquiet rfl hno⟩

/-- **An unsubscription** leaves its client gone. -/
theorem gone_unsubscribe {x : Subscriber} (hm : Serves k m)
    (h : Step env m (.unsubscribeRsrc x) m') (hx : x.isOf k = true) :
    ∃ es, m'.log = m.log ++ es ∧ Gone x.ident m' (answers x.ident es) := by
  have hbase := hm.consistent.base
  have hquiet : ∀ {fs : List AgpsRsrcStatus} (_ : ∀ st ∈ fs, st = .rsrcUnsubscribe),
      .rsrcGranted ∉ fs ∧ .rsrcDenied ∉ fs := by
    intro fs hfs
    constructor <;> (intro h; cases hfs _ h)
  have hleft : ∀ {s : Subscriber}, m.mSubscribers.find? (·.equals x) = some s →
      ¬ Listed x.ident (dropped m.mSubscribers s) ∧
        ∀ st ∈ answers x.ident (m.dropEntries s), st = .rsrcUnsubscribe := by
    intro s hf
    obtain ⟨hsl, hid⟩ := hm.found hx hf
    have hsk := hm.uniform.isOf s hsl
    have hl := listed_dropped (i := x.ident) hm.uniform.isOf hsk
      (waitForCloseComplete_of_isOf hm.kind hsk)
    exact ⟨fun h => (hl.mp h).2 hid, fun st hst => (hm.answers_dropEntries hsk hst).2⟩
  cases h with
  | unknown x hf => exact ⟨[], by simp, hm.not_listed hx hf, by simp, by simp⟩
  | toldOnly x s hf hs =>
    -- Released lists nobody who could be found
    rw [hm.consistent.released_iff_nil.mp hs] at hf
    cases hf
  | left x s hf hs hn hact =>
    obtain ⟨hl, hst⟩ := hleft hf
    exact ⟨_, m.log_leave s, hl, (hquiet hst).1, (hquiet hst).2⟩
  | leftReleasing x s hf hs hnil => exact absurd hs hm.settled
  | lastLeft x s hf hs hact =>
    obtain ⟨hl, hst⟩ := hleft hf
    have hreq := sendRsrcRequest_of_base (m := m.leave s) hbase env .gpsReleaseAgpsDataConn
    refine ⟨m.dropEntries s ++ (m.leave s).requestEntries .gpsReleaseAgpsDataConn, ?_, ?_, ?_, ?_⟩
    · rw [hreq]
      simp
    · simpa using hl
    · rw [answers_append, answers_requestEntries, List.append_nil]
      exact (hquiet hst).1
    · rw [answers_append, answers_requestEntries, List.append_nil]
      exact (hquiet hst).2

end Steps

/-! ### Runs -/

section Runs

variable {k : Kind} {i : Ident}

/-- What each call keeps of a machine and of the answers to a client, a run of calls keeps. -/
theorem answered_exec {P : AgpsStateMachine → List AgpsRsrcStatus → Prop} {C : Call → Prop}
    (hcall : ∀ {m : AgpsStateMachine} {out : List AgpsRsrcStatus} (c : Call × Env), Serves k m →
      c.1.isOf k = true → C c.1 → P m out →
        ∃ es, (m.call c).log = m.log ++ es ∧ P (m.call c) (out ++ answers i es))
    {post : List (Call × Env)} {m : AgpsStateMachine} {out : List AgpsRsrcStatus}
    (hm : Serves k m) (hP : P m out) (hpost : ∀ c ∈ post, c.1.isOf k = true ∧ C c.1) :
    ∃ es, (exec AgpsStateMachine.call m post).log = m.log ++ es ∧
      P (exec AgpsStateMachine.call m post) (out ++ answers i es) := by
  induction post generalizing m out with
  | nil => exact ⟨[], by simp, by simpa using hP⟩
  | cons c post ih =>
    obtain ⟨hk, hC⟩ := hpost c List.mem_cons_self
    obtain ⟨es, hlog, hP'⟩ := hcall c hm hk hC hP
    obtain ⟨fs, hlog', hP''⟩ :=
      ih (hm.call c hk) hP' fun c' hc' => hpost c' (List.mem_cons_of_mem c hc')
    refine ⟨es ++ fs, ?_, ?_⟩
    · rw [exec_cons, hlog', hlog, List.append_assoc]
    · rwa [exec_cons, answers_append, ← List.append_assoc]

/-- Calls for other clients leave a request standing. -/
theorem stands_exec {post : List (Call × Env)} {m : AgpsStateMachine}
    {out : List AgpsRsrcStatus} (hm : Serves k m) (hst : Stands i m out)
    (hpost : ∀ c ∈ post, c.1.isOf k = true ∧ c.1.client ≠ some i) :
    ∃ es, (exec AgpsStateMachine.call m post).log = m.log ++ es ∧
      Stands i (exec AgpsStateMachine.call m post) (out ++ answers i es) :=
  answered_exec (C := fun c => c.client ≠ some i)
    (fun c hm hk hi hst => stands_call hm (call_step _ c) hk hi hst) hm hst hpost

/-- Calls that do not subscribe it leave a client gone. -/
theorem gone_exec {post : List (Call × Env)} {m : AgpsStateMachine}
    {out : List AgpsRsrcStatus} (hm : Serves k m) (hg : Gone i m out)
    (hpost : ∀ c ∈ post, c.1.isOf k = true ∧ c.1.joins ≠ some i) :
    ∃ es, (exec AgpsStateMachine.call m post).log = m.log ++ es ∧
      Gone i (exec AgpsStateMachine.call m post) (out ++ answers i es) :=
  answered_exec (C := fun c => c.joins ≠ some i)
    (fun c hm hk hi hg => gone_call hm (call_step _ c) hk hi hg) hm hg hpost

end Runs

/-- **No request is lost and none is stale.**  After any run and then a subscription of
`x` that no call for the same client follows, its request stands in exactly one of the
three ways; after any run and then an unsubscription of `x` that no subscription of the
same client follows, it is gone.  What the client was told since is what the log has
from that call on. -/
theorem answered_or_gone (k : Kind) (hk : k = .atl ∨ k = .bit) (type : AGpsExtType)
    (pre : List (Call × Env)) (hpre : ∀ c ∈ pre, c.1.isOf k = true) (x : Subscriber)
    (hx : x.isOf k = true) (env : Env) (before : AgpsStateMachine)
    (hbefore : before = exec AgpsStateMachine.call (new type false) pre)
    (post : List (Call × Env)) (hpost : ∀ c ∈ post, c.1.isOf k = true) :
    ((∀ c ∈ post, c.1.client ≠ some x.ident) →
      let m := exec AgpsStateMachine.call before ((.subscribeRsrc x, env) :: post)
      let out := answers x.ident (m.log.drop before.log.length)
      (Waits x.ident m out ∨ Holds x.ident m out ∨ TurnedAway x.ident m out) ∧
        ¬ (Waits x.ident m out ∧ Holds x.ident m out) ∧
        ¬ (Waits x.ident m out ∧ TurnedAway x.ident m out) ∧
        ¬ (Holds x.ident m out ∧ TurnedAway x.ident m out)) ∧
    ((∀ c ∈ post, c.1.joins ≠ some x.ident) →
      let m := exec AgpsStateMachine.call before ((.unsubscribeRsrc x, env) :: post)
      let out := answers x.ident (m.log.drop before.log.length)
      ¬ Listed x.ident m.mSubscribers ∧ .rsrcGranted ∉ out ∧ .rsrcDenied ∉ out) := by
  have hm : Serves k before := by
    rw [hbefore]
    exact (serves_new hk type).exec hpre
  constructor
  · intro hother
    refine ⟨?_, Stands.exclusive _ _ _⟩
    obtain ⟨es, hlog, hst⟩ := stands_subscribe hm (call_step before (.subscribeRsrc x, env)) hx
    obtain ⟨fs, hlog', hst'⟩ := stands_exec (hm.call (.subscribeRsrc x, env) hx) hst
      fun c hc => ⟨hpost c hc, hother c hc⟩
    rw [exec_cons, hlog', hlog, List.append_assoc, List.drop_left, answers_append]
    exact hst'
  · intro hother
    obtain ⟨es, hlog, hg⟩ := gone_unsubscribe hm (call_step before (.unsubscribeRsrc x, env)) hx
    obtain ⟨fs, hlog', hg'⟩ := gone_exec (hm.call (.unsubscribeRsrc x, env) hx) hg
      fun c hc => ⟨hpost c hc, hother c hc⟩
    simp only [exec_cons]
    rw [hlog', hlog, List.append_assoc, List.drop_left, answers_append]
    exact ⟨hg'.not_listed, hg'.not_granted, hg'.not_denied⟩

/-- The second of two connections subscribes while the resource is in hand, and stays
when the first one leaves. -/
theorem answered_or_gone_second :
    let before := exec AgpsStateMachine.call (new agpsTypeSupl false)
      [(.subscribeRsrc (.atl 1 false), .ok), (.onRsrcEvent .rsrcGranted, .ok)]
    let m := exec AgpsStateMachine.call before
      [(.subscribeRsrc (.atl 2 false), .ok), (.unsubscribeRsrc (.atl 1 false), .ok)]
    let out := answers (2, []) (m.log.drop before.log.length)
    Waits (2, []) m out ∨ Holds (2, []) m out ∨ TurnedAway (2, []) m out :=
  ((answered_or_gone .atl (Or.inl rfl) agpsTypeSupl _ (by decide) (.atl 2 false) rfl .ok _ rfl
    [(.unsubscribeRsrc (.atl 1 false), .ok)] (by decide)).1 (by decide)).1

end Agps
end Nx507j
