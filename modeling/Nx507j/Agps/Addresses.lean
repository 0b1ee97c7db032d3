import Mathlib.Data.List.Nodup
import Nx507j.Agps.Invariant

/-!
# The addresses of BIT subscribers

A `BITSubscriber` keeps sixteen bytes of an IPv6 address, and compares them with `strncmp`, which
ends at the first zero byte.  Two addresses that agree up to a zero byte are one to the machine:
the second is not listed, and its request to leave takes the first out.

## Main definitions

* `SameAddress` — two pairs of addresses are the same, all bytes counted.
* `Confusable` — two different pairs that `strncmp` does not tell apart.
* `Spares` — a step neither takes a subscriber out nor tells it anything.

## Main results

* `equals_bitOf_iff` — `equals` takes the same and the confusable pairs for one.
* `addresses_apart_iff` — pairs are kept apart exactly if none are confusable.
-/

namespace Nx507j
namespace Agps

open AgpsStateMachine

/-! ### Addresses -/

/-- The IPv4 value and the sixteen IPv6 bytes that a `BITSubscriber` is built from. -/
abbrev AddrPair := UInt32 × Vector UInt8 16

/-- The subscriber of the addresses. -/
def bitOf (p : AddrPair) : Subscriber := .bit p.1 p.2

/-- The IPv4 values are equal, and without one all IPv6 bytes are. -/
def SameAddress (p q : AddrPair) : Prop := p.1 = q.1 ∧ (p.1 = inaddrNone → p.2 = q.2)

/-- Two buffers agree up to a zero byte, and in it. -/
def AgreeToNul (as bs : List UInt8) : Prop :=
  ∃ k, as[k]? = some 0 ∧ bs[k]? = some 0 ∧ as.take k = bs.take k

/-- Two pairs without an IPv4 value, whose IPv6 bytes differ only behind a common zero byte. -/
def Confusable (p q : AddrPair) : Prop :=
  p.1 = inaddrNone ∧ q.1 = inaddrNone ∧ p.2 ≠ q.2 ∧ AgreeToNul p.2.toList q.2.toList

theorem agreeToNul_cons_zero (as bs : List UInt8) : AgreeToNul (0 :: as) (0 :: bs) :=
  ⟨0, rfl, rfl, rfl⟩

theorem agreeToNul_cons {a : UInt8} {as bs : List UInt8} (ha : a ≠ 0) :
    AgreeToNul (a :: as) (a :: bs) ↔ AgreeToNul as bs := by
  constructor
  · rintro ⟨k, has, hbs, htake⟩
    cases k with
    | zero => exact absurd (Option.some.inj has) ha
    | succ k => exact ⟨k, has, hbs, (List.cons.inj htake).2⟩
  · rintro ⟨k, has, hbs, htake⟩
    exact ⟨k + 1, has, hbs, congrArg (a :: ·) htake⟩

theorem AgreeToNul.head {a b : UInt8} {as bs : List UInt8} (h : AgreeToNul (a :: as) (b :: bs)) :
    a = b := by
  obtain ⟨k, has, hbs, htake⟩ := h
  cases k with
  | zero => exact (Option.some.inj has).trans (Option.some.inj hbs).symm
  | succ k => exact (List.cons.inj htake).1

/-- `strncmp` finds no difference in buffers that are equal, or agree to a zero byte. -/
theorem strncmpEq_iff_agree : ∀ {as bs : List UInt8}, as.length = bs.length →
    (Subscriber.strncmpEq as bs = true ↔ as = bs ∨ AgreeToNul as bs) := by
  intro as
  induction as with
  | nil =>
    intro bs h
    have hnil : bs = [] := List.length_eq_zero_iff.mp h.symm
    simp [hnil, Subscriber.strncmpEq]
  | cons a as ih =>
    intro bs h
    cases bs with
    | nil => simp at h
    | cons b bs =>
      by_cases hab : a = b
      · subst hab
        by_cases ha : a = 0
        · subst ha
          simp [Subscriber.strncmpEq, agreeToNul_cons_zero]
        · have hlength : as.length = bs.length := by simpa using h
          have hrest := ih hlength
          simp [Subscriber.strncmpEq, ha, hrest, agreeToNul_cons ha]
      · have hnot : ¬ AgreeToNul (a :: as) (b :: bs) := fun h => hab h.head
        simp [Subscriber.strncmpEq, hab, hnot]

/-- **`equals` takes the same and the confusable pairs for one.** -/
theorem equals_bitOf_iff (p q : AddrPair) :
    (bitOf p).equals (bitOf q) = true ↔ SameAddress p q ∨ Confusable p q := by
  have hlength : p.2.toList.length = q.2.toList.length := by simp
  have hbytes : Subscriber.strncmpEq p.2.toList q.2.toList = true ↔
      p.2 = q.2 ∨ AgreeToNul p.2.toList q.2.toList := by
    rw [strncmpEq_iff_agree hlength, Vector.toList_inj]
  unfold bitOf Subscriber.equals SameAddress Confusable
  by_cases hid : p.1 = q.1
  · by_cases hnone : p.1 = inaddrNone
    · have hnone' : q.1 = inaddrNone := hid ▸ hnone
      simp only [hid, hnone', hbytes, beq_self_eq_true, bne_self_eq_false, Bool.true_and,
        Bool.false_or, true_and, forall_const]
      tauto
    · have hnone' : q.1 ≠ inaddrNone := hid ▸ hnone
      simp [hid, hnone']
  · have hnot : ¬ (p.1 = inaddrNone ∧ q.1 = inaddrNone) := fun h => hid (h.1.trans h.2.symm)
    simp [hid]
    tauto

theorem not_sameAddress_of_confusable {p q : AddrPair} (h : Confusable p q) :
    ¬ SameAddress p q :=
  fun hsame => h.2.2.1 (hsame.2 h.1)

theorem ident_bitOf_eq_iff (p q : AddrPair) :
    (bitOf p).ident = (bitOf q).ident ↔ SameAddress p q ∨ Confusable p q := by
  rw [← equals_bitOf_iff]
  exact (Subscriber.equals_iff_ident (s := bitOf p) (t := bitOf q) rfl).symm

/-! ### A list of addresses -/

/-- The subscriber of an IPv6 address without an IPv4 one. -/
def bit6 (addr : Vector UInt8 16) : Subscriber := bitOf (inaddrNone, addr)

/-- `addSubscriber` for each address. -/
def addAll (addrs : List (Vector UInt8 16)) (m : AgpsStateMachine) : AgpsStateMachine :=
  addrs.foldl (fun m addr => m.addSubscriber (bit6 addr)) m

/-- All listed objects are BIT subscribers, no two of them with one identity. -/
structure KeptApart (l : List Subscriber) : Prop where
  bits : ∀ s ∈ l, s.isBit = true
  nodup : (l.map Subscriber.ident).Nodup

theorem KeptApart.nil : KeptApart [] := ⟨by simp, List.nodup_nil⟩

variable {l : List Subscriber} {m m' : AgpsStateMachine} {s x : Subscriber}

theorem KeptApart.equals_iff (h : KeptApart l) (hs : s ∈ l) (hx : x.isBit = true) :
    s.equals x = true ↔ s.ident = x.ident :=
  Subscriber.equals_iff_ident ((h.bits s hs).trans hx.symm)

theorem KeptApart.addNew (h : KeptApart l) (hx : x.isBit = true) : KeptApart (addNew l x) := by
  cases hany : l.any (·.equals x) with
  | true => rwa [addNew_of_any hany]
  | false =>
    rw [addNew_of_not_any hany]
    refine ⟨List.forall_mem_cons.mpr ⟨by simpa using hx, h.bits⟩, ?_⟩
    rw [List.map_cons, Subscriber.ident_clone]
    refine List.nodup_cons.mpr ⟨fun hmem => ?_, h.nodup⟩
    obtain ⟨s, hs, hident⟩ := List.mem_map.mp hmem
    exact List.any_eq_false.mp hany s hs ((h.equals_iff hs hx).mpr hident)

theorem KeptApart.addSubscriber (h : KeptApart m.mSubscribers) (hx : x.isBit = true) :
    KeptApart (m.addSubscriber x).mSubscribers := by
  rw [addSubscriber_eq]
  exact h.addNew hx

theorem KeptApart.addAll : ∀ {addrs : List (Vector UInt8 16)} {m : AgpsStateMachine},
    KeptApart m.mSubscribers → KeptApart (addAll addrs m).mSubscribers := by
  intro addrs
  induction addrs with
  | nil => exact fun h => h
  | cons addr addrs ih => exact fun h => ih (h.addSubscriber rfl)

/-- Addresses with identities of their own are all listed, the last one first. -/
theorem mSubscribers_addAll : ∀ {addrs : List (Vector UInt8 16)} {m : AgpsStateMachine},
    KeptApart m.mSubscribers →
    (addrs.map fun addr => (bit6 addr).ident).Nodup →
    (∀ addr ∈ addrs, ∀ s ∈ m.mSubscribers, s.ident ≠ (bit6 addr).ident) →
    (addAll addrs m).mSubscribers = (addrs.map bit6).reverse ++ m.mSubscribers := by
  intro addrs
  induction addrs with
  | nil => exact fun _ _ _ => rfl
  | cons addr addrs ih =>
    intro m hapart hnodup hnew
    obtain ⟨hhead, hrest⟩ := List.nodup_cons.mp hnodup
    have hnone : m.mSubscribers.any (·.equals (bit6 addr)) = false := by
      refine List.any_eq_false.mpr fun s hs heq => ?_
      exact hnew addr List.mem_cons_self s hs ((hapart.equals_iff hs rfl).mp heq)
    have hadd : (m.addSubscriber (bit6 addr)).mSubscribers = bit6 addr :: m.mSubscribers := by
      rw [addSubscriber_eq]
      exact addNew_of_not_any hnone
    have hnext : ∀ addr' ∈ addrs, ∀ s ∈ (m.addSubscriber (bit6 addr)).mSubscribers,
        s.ident ≠ (bit6 addr').ident := by
      intro addr' haddr' s hs
      rw [hadd] at hs
      rcases List.mem_cons.mp hs with rfl | hs
      · exact fun h => hhead (List.mem_map.mpr ⟨addr', haddr', h.symm⟩)
      · exact hnew addr' (List.mem_cons_of_mem _ haddr') s hs
    have hlist := ih (hapart.addSubscriber (x := bit6 addr) rfl) hrest hnext
    rw [hadd] at hlist
    rw [List.map_cons, List.reverse_cons, List.append_assoc]
    exact hlist

/-! ### A pair that leaves -/

/-- The step neither takes the subscriber out nor tells it anything. -/
def Spares (m m' : AgpsStateMachine) (s : Subscriber) : Prop :=
  s ∈ m'.mSubscribers ∧ ∀ status call, .notified s status call ∉ m'.log.drop m.log.length

theorem spares_iff {es : List Entry} (hlog : m'.log = m.log ++ es) :
    Spares m m' s ↔ s ∈ m'.mSubscribers ∧ ∀ status call, .notified s status call ∉ es := by
  rw [Spares, hlog, List.drop_left]

theorem KeptApart.mem_dropped (h : KeptApart l) (hx : x ∈ l) :
    s ∈ dropped l x ↔ s ∈ l ∧ s.ident ≠ x.ident := by
  have hbit := h.bits x hx
  have hwait : x.waitForCloseComplete = false := by
    cases x <;> simp_all [Subscriber.isBit, Subscriber.waitForCloseComplete]
  rw [dropped, hwait, if_neg (by simp), List.mem_filter]
  refine and_congr_right fun hs => ?_
  rw [Bool.not_eq_true', ← Bool.not_eq_true, h.equals_iff hs hbit]

/-- Dropping a BIT subscriber tells those with its identity. -/
theorem KeptApart.ident_of_dropEntries (h : KeptApart m.mSubscribers) (hx : x ∈ m.mSubscribers)
    {status : AgpsRsrcStatus} {call : Option AdapterCall}
    (hmem : .notified s status call ∈ m.dropEntries x) : s.ident = x.ident := by
  have hbit := h.bits x hx
  have hdrop : m.dropEntries x = (m.mSubscribers.filter (·.equals x)).map fun t =>
      .notified t .rsrcUnsubscribe (m.notifyCall .rsrcUnsubscribe t) := by
    cases x with
    | bit ID addr => rfl
    | atl ID compatible => cases hbit
    | wifi sender ssid password i => cases hbit
    | ds ID i => cases hbit
  rw [hdrop] at hmem
  obtain ⟨t, ht, hentry⟩ := List.mem_map.mp hmem
  obtain ⟨ht, heq⟩ := List.mem_filter.mp ht
  obtain rfl : t = s := by injection hentry
  exact (h.equals_iff ht hbit).mp heq

/-- A request tells no subscriber anything, but through calls of the adapter. -/
theorem log_sendRsrcRequest (env : Env) (action : AGpsStatusValue) (m : AgpsStateMachine) :
    ∃ es, (m.sendRsrcRequest env action).2.log = m.log ++ es ∧
      ∀ s status call, .notified s status call ∉ es := by
  cases h : m.ds with
  | none =>
    refine ⟨m.requestEntries action, by rw [sendRsrcRequest_of_base h], ?_⟩
    intro s status call hmem
    unfold requestEntries at hmem
    dsimp only at hmem
    split at hmem <;> simp at hmem
  | some members =>
    rw [sendRsrcRequest, h]
    simp only [sendRsrcRequestDS]
    split
    · split
      · exact ⟨_, by simp [informStatus, informCall, resetRetries, say]; rfl, by simp⟩
      · exact ⟨_, by simp [say]; rfl, by simp⟩
    · split
      · exact ⟨_, by simp [informStatus, informCall, resetRetries, say, h]; rfl, by simp⟩
      · exact ⟨_, by simp [say, h]; rfl, by simp⟩

/-- A machine that has dropped `x`, whatever it asks for then, spares the others and no one else. -/
theorem KeptApart.spares_leave_iff (h : KeptApart m.mSubscribers) (hx : x ∈ m.mSubscribers)
    {es : List Entry} (hlist : m'.mSubscribers = dropped m.mSubscribers x)
    (hlog : m'.log = m.log ++ m.dropEntries x ++ es)
    (hes : ∀ s status call, .notified s status call ∉ es) (hs : s ∈ m.mSubscribers) :
    Spares m m' s ↔ s.ident ≠ x.ident := by
  rw [spares_iff (hlog.trans (List.append_assoc ..)), hlist, h.mem_dropped hx]
  refine ⟨fun hspares => hspares.1.2, fun hne => ⟨⟨hs, hne⟩, fun status call hmem => ?_⟩⟩
  rcases List.mem_append.mp hmem with hmem | hmem
  · exact hne (h.ident_of_dropEntries hx hmem)
  · exact hes s status call hmem

/-- **Who is spared when a BIT subscriber leaves**: in every state, those listed with another
identity. -/
theorem KeptApart.spares_unsubscribe_iff (h : KeptApart m.mSubscribers) (env : Env)
    (hx : x.isBit = true) (hs : s ∈ m.mSubscribers) :
    Spares m (unsubscribeRsrc env x m).2 s ↔ s.ident ≠ x.ident := by
  have hfound : ∀ t, m.mSubscribers.find? (·.equals x) = some t →
      t ∈ m.mSubscribers ∧ t.ident = x.ident := by
    intro t ht
    have hmem := List.mem_of_find?_eq_some ht
    have heq : t.equals x = true := List.find?_some (p := fun s => Subscriber.equals s x) ht
    exact ⟨hmem, (h.equals_iff hmem hx).mp heq⟩
  have hstep := unsubscribeRsrc_step env x m
  generalize (unsubscribeRsrc env x m).2 = m' at hstep ⊢
  cases hstep with
  | unknown _ hnone =>
    rw [spares_iff (List.append_nil _).symm]
    refine ⟨fun _ hident => ?_, fun _ => ⟨hs, fun _ _ => List.not_mem_nil⟩⟩
    exact List.find?_eq_none.mp hnone s hs ((h.equals_iff hs hx).mpr hident)
  | toldOnly _ t ht hreleased =>
    obtain ⟨hmem, hident⟩ := hfound t ht
    rw [spares_iff (log_tell ..), mSubscribers_tell, ← hident]
    constructor
    · intro hspares hst
      -- two listed objects with one identity are one object
      have hsame : s = t := List.inj_on_of_nodup_map h.nodup hs hmem hst
      exact hspares.2 _ _ (List.mem_singleton.mpr (by rw [hsame]))
    · refine fun hne => ⟨hs, fun status call hentry => hne ?_⟩
      injection List.mem_singleton.mp hentry with hst
      rw [hst]
  | left _ t ht hne hact =>
    obtain ⟨hmem, hident⟩ := hfound t ht
    rw [← hident]
    exact h.spares_leave_iff hmem rfl (List.append_nil _).symm (fun _ _ _ => List.not_mem_nil) hs
  | leftReleasing _ t ht hreleasing hnil =>
    obtain ⟨hmem, hident⟩ := hfound t ht
    rw [← hident]
    exact h.spares_leave_iff hmem rfl (List.append_nil _).symm (fun _ _ _ => List.not_mem_nil) hs
  | lastLeft _ t ht hstate hact =>
    obtain ⟨hmem, hident⟩ := hfound t ht
    obtain ⟨es, hlog, hes⟩ := log_sendRsrcRequest env .gpsReleaseAgpsDataConn (m.leave t)
    rw [← hident]
    exact h.spares_leave_iff hmem (mSubscribers_sendRsrcRequest ..) hlog hes hs

/-! ### Pairs that are kept apart -/

/-- The list has one entry for each address, and no others. -/
def OneEntryEach (addrs : List (Vector UInt8 16)) (m : AgpsStateMachine) : Prop :=
  m.mSubscribers.Perm (addrs.map bit6)

/-- When the pair leaves, the entries of the other addresses are spared. -/
def SparesOthers (addrs : List (Vector UInt8 16)) (p : AddrPair) (env : Env)
    (m : AgpsStateMachine) : Prop :=
  ∀ addr ∈ addrs, (inaddrNone, addr) ≠ p →
    Spares m (unsubscribeRsrc env (bitOf p) m).2 (bit6 addr)

variable {addrs : List (Vector UInt8 16)} {p : AddrPair} {env : Env}

theorem sameAddress_none_iff {addr : Vector UInt8 16} :
    SameAddress (inaddrNone, addr) p ↔ (inaddrNone, addr) = p := by
  rw [SameAddress, Prod.ext_iff]
  exact and_congr_right fun _ => forall_prop_of_true rfl

theorem ident_bit6_ne_iff {addr : Vector UInt8 16} :
    (bit6 addr).ident ≠ (bitOf p).ident ↔
      (inaddrNone, addr) ≠ p ∧ ¬ Confusable (inaddrNone, addr) p := by
  rw [bit6, Ne, ident_bitOf_eq_iff, sameAddress_none_iff, not_or]

/-- Different addresses have identities of their own if none are confusable. -/
theorem nodup_ident_iff (hnodup : addrs.Nodup) :
    (addrs.map fun addr => (bit6 addr).ident).Nodup ↔
      addrs.Pairwise fun a b => ¬ Confusable (inaddrNone, a) (inaddrNone, b) := by
  have hne : ∀ a b, (bit6 a).ident ≠ (bit6 b).ident ↔
      a ≠ b ∧ ¬ Confusable (inaddrNone, a) (inaddrNone, b) := by
    intro a b
    have hpair : (inaddrNone, a) ≠ (inaddrNone, b) ↔ a ≠ b := by simp
    rw [← hpair]
    exact ident_bit6_ne_iff
  rw [List.Nodup, List.pairwise_map]
  simp only [hne, List.pairwise_and_iff]
  exact and_iff_right hnodup

theorem keptApart_addAll (hm : m.mSubscribers = []) : KeptApart (addAll addrs m).mSubscribers :=
  KeptApart.addAll (hm ▸ KeptApart.nil)

theorem oneEntryEach_iff (hm : m.mSubscribers = []) (hnodup : addrs.Nodup) :
    OneEntryEach addrs (addAll addrs m) ↔
      addrs.Pairwise fun a b => ¬ Confusable (inaddrNone, a) (inaddrNone, b) := by
  rw [← nodup_ident_iff hnodup]
  constructor
  · intro hperm
    have hidents := (hperm.map Subscriber.ident).nodup_iff.mp (keptApart_addAll hm).nodup
    rwa [List.map_map] at hidents
  · intro hidents
    have hlist := mSubscribers_addAll (m := m) (hm ▸ KeptApart.nil) hidents (by simp [hm])
    rw [OneEntryEach, hlist, hm, List.append_nil]
    exact List.reverse_perm _

theorem sparesOthers_iff (hm : m.mSubscribers = []) (h : OneEntryEach addrs (addAll addrs m)) :
    SparesOthers addrs p env (addAll addrs m) ↔
      ∀ addr ∈ addrs, ¬ Confusable (inaddrNone, addr) p := by
  refine forall₂_congr fun addr haddr => ?_
  have hmem : bit6 addr ∈ (addAll addrs m).mSubscribers :=
    h.mem_iff.mpr (List.mem_map_of_mem haddr)
  rw [(keptApart_addAll hm).spares_unsubscribe_iff env (x := bitOf p) rfl hmem, ident_bit6_ne_iff]
  constructor
  · intro hspares hconf
    exact (hspares fun heq => hconf.2.2.1 (congrArg Prod.snd heq)).2 hconf
  · exact fun hconf hne => ⟨hne, hconf⟩

/-- **Pairs are kept apart exactly if none of them are confusable**: two pairs that are compared;
and different addresses without an IPv4 one, which are added to a machine that is empty, together
with a pair that leaves it then. -/
theorem addresses_apart_iff (p q : AddrPair) (m : AgpsStateMachine)
    (addrs : List (Vector UInt8 16)) (env : Env) (hm : m.mSubscribers = []) (hnodup : addrs.Nodup) :
    (((bitOf p).equals (bitOf q) = true ↔ SameAddress p q) ↔ ¬ Confusable p q) ∧
    (OneEntryEach addrs (addAll addrs m) ∧ SparesOthers addrs p env (addAll addrs m) ↔
      (addrs.Pairwise fun a b => ¬ Confusable (inaddrNone, a) (inaddrNone, b)) ∧
        ∀ addr ∈ addrs, ¬ Confusable (inaddrNone, addr) p) := by
  constructor
  · have hequals := equals_bitOf_iff p q
    have hnot := not_sameAddress_of_confusable (p := p) (q := q)
    tauto
  · rw [← oneEntryEach_iff hm hnodup]
    exact and_congr_right fun h => sparesOthers_iff hm h

/-- An address of the prefix for documentation. -/
def docAddr (subnet last : UInt8) : Vector UInt8 16 :=
  #v[0x20, 0x01, 0x0d, 0xb8, subnet, 0, 0, 0, 0, 0, 0, 0, 0, 0, 0, last]

theorem addresses_apart_iff_docAddr :
    (AgpsStateMachine.new agpsTypeSupl false).mSubscribers = [] ∧
      [docAddr 1 1, docAddr 2 1].Nodup ∧
      let m := addAll [docAddr 1 1, docAddr 2 1] (.new agpsTypeSupl false)
      (OneEntryEach [docAddr 1 1, docAddr 2 1] m ∧
          SparesOthers [docAddr 1 1, docAddr 2 1] (inaddrNone, docAddr 1 1) .ok m ↔
        ([docAddr 1 1, docAddr 2 1].Pairwise fun a b =>
            ¬ Confusable (inaddrNone, a) (inaddrNone, b)) ∧
          ∀ addr ∈ [docAddr 1 1, docAddr 2 1],
            ¬ Confusable (inaddrNone, addr) (inaddrNone, docAddr 1 1)) :=
  ⟨rfl, by decide, (addresses_apart_iff (inaddrNone, docAddr 1 1) (inaddrNone, docAddr 2 1)
    (.new agpsTypeSupl false) _ .ok rfl (by decide)).2⟩

/-- Two addresses of one prefix: the second is not listed, and takes the first out when it
leaves. -/
theorem docAddr_confused :
    let acquired := { AgpsStateMachine.new agpsTypeSupl false with mStatePtr := .acquired }
    let m := addAll [docAddr 0 1, docAddr 0 2] acquired
    docAddr 0 1 ≠ docAddr 0 2 ∧ (bit6 (docAddr 0 1)).equals (bit6 (docAddr 0 2)) = true ∧
      m.mSubscribers = [bit6 (docAddr 0 1)] ∧
      (unsubscribeRsrc .ok (bit6 (docAddr 0 2)) m).2.mSubscribers = [] := by
  decide +kernel

end Agps
end Nx507j
