import Nx507j.Utils.LocHeap

/-!
# Timer delegates

A `LocTimerDelegate` is what one `LocTimer::start` puts into a timer container, ranked
by the time it is due: the earlier, the higher.  The rank is an `int`, the difference
of the two `tv_sec`, so delegates due in the same second rank the same.

## Main definitions

* `Timespec`, with its order — a normalised `struct timespec`.
* `LocTimerDelegate`, `outRanks` — delegates and their ranking.
* `popIfOutRanks`, `expire` — the pops of a `MsgTimerExpire`.

## Main results

* `outRanks_iff` — the `int` difference does not overflow: what outranks is due in an
  earlier second.
* `outRanks_strictWeakOrder` — the ranking is a strict weak order.
* `expire_spec` — what a `MsgTimerExpire` pops, and what it leaves.
-/

namespace Nx507j
namespace Timer

open LocHeap

/-! ### Time -/

/-- `struct timespec`, normalised.  `tv_sec` is a `time_t`, which has 32 bits here. -/
structure Timespec where
  tvSec : ℕ
  tvNsec : ℕ
  tvSec_lt : tvSec < 2 ^ 31
  tvNsec_lt : tvNsec < 1000000000
  deriving DecidableEq, Repr

namespace Timespec

/-- The lexicographic order. -/
instance : LE Timespec :=
  ⟨fun a b => a.tvSec < b.tvSec ∨ a.tvSec = b.tvSec ∧ a.tvNsec ≤ b.tvNsec⟩

theorem le_iff {a b : Timespec} :
    a ≤ b ↔ a.tvSec < b.tvSec ∨ a.tvSec = b.tvSec ∧ a.tvNsec ≤ b.tvNsec := Iff.rfl

instance (a b : Timespec) : Decidable (a ≤ b) :=
  inferInstanceAs (Decidable (a.tvSec < b.tvSec ∨ a.tvSec = b.tvSec ∧ a.tvNsec ≤ b.tvNsec))

instance : Preorder Timespec where
  le_refl a := .inr ⟨rfl, Nat.le_refl _⟩
  le_trans a b c hab hbc := by
    rw [le_iff] at *
    omega

/-- The time `ms` milliseconds later, as `LocTimer::start` computes it; there is none when
`tv_sec` overflows. -/
def after? (t : Timespec) (ms : UInt32) : Option Timespec :=
  let sec := t.tvSec + ms.toNat / 1000
  let nsec := t.tvNsec + ms.toNat % 1000 * 1000000
  -- both summands are less than a second, so the carry of the source is all there is
  let sec := if nsec ≥ 1000000000 then sec + nsec / 1000000000 else sec
  if h : sec < 2 ^ 31 then
    some ⟨sec, nsec % 1000000000, h, Nat.mod_lt _ (by decide)⟩
  else
    none

theorem le_of_after? {t future : Timespec} {ms : UInt32} (h : t.after? ms = some future) :
    t ≤ future := by
  have hnsec := t.tvNsec_lt
  simp only [after?] at h
  split_ifs at h with hcarry
  · obtain rfl := Option.some.inj h
    rw [le_iff]
    dsimp only
    omega
  · obtain rfl := Option.some.inj h
    rw [le_iff]
    dsimp only
    omega

end Timespec

/-! ### Delegates -/

/-- A `LocTimerDelegate`: its address, and what its constructor was given.  Two delegates are
the same object when they are equal. -/
structure LocTimerDelegate where
  address : ℕ
  client : ℕ
  mFutureTime : Timespec
  wakeOnExpire : Bool
  deriving DecidableEq, Repr

/-- `LocTimerDelegate::ranks`, of a delegate due at `time` and one due at `other`: larger time
ranks lower. -/
def ranks (time other : Timespec) : Int32 := Int32.ofNat other.tvSec - Int32.ofNat time.tvSec

/-- `LocRankable::outRanks`. -/
def outRanks (d e : LocTimerDelegate) : Bool := decide (ranks d.mFutureTime e.mFutureTime > 0)

/-- Two times differ by less than `int` can hold. -/
theorem ranks_pos_iff (time other : Timespec) : ranks time other > 0 ↔ time.tvSec < other.tvSec := by
  have h := time.tvSec_lt
  have h' := other.tvSec_lt
  have htime : (Int32.ofNat time.tvSec).toInt = time.tvSec := Int32.toInt_ofNat_of_lt h
  have hother : (Int32.ofNat other.tvSec).toInt = other.tvSec := Int32.toInt_ofNat_of_lt h'
  have hrank : (ranks time other).toInt = other.tvSec - time.tvSec := by
    rw [ranks, Int32.toInt_sub, htime, hother]
    apply Int.bmod_eq_of_le <;> omega
  rw [gt_iff_lt, Int32.lt_iff_toInt_lt, hrank, Int32.toInt_zero]
  omega

/-- **The ranking is by seconds.** -/
theorem outRanks_iff {d e : LocTimerDelegate} :
    outRanks d e = true ↔ d.mFutureTime.tvSec < e.mFutureTime.tvSec := by
  rw [outRanks, decide_eq_true_eq, ranks_pos_iff]

theorem outRanks_eq_false {d e : LocTimerDelegate} :
    outRanks d e = false ↔ e.mFutureTime.tvSec ≤ d.mFutureTime.tvSec := by
  rw [Bool.eq_false_iff, Ne, outRanks_iff, not_lt]

instance outRanks_strictWeakOrder :
    IsStrictWeakOrder LocTimerDelegate (fun d e => outRanks d e = true) where
  irrefl d := by simp only [outRanks_iff, lt_irrefl, not_false_eq_true]
  trans d e f hde hef := by
    rw [outRanks_iff] at *
    omega
  incomp_trans d e f hde hef := by
    simp only [outRanks_iff] at *
    omega

/-! ### The container -/

/-- The heap that a `LocTimerContainer` is. -/
abbrev Container := LocHeap LocTimerDelegate

/-- The rank test of `popIfOutRanks`, of a delegate against the time of now. -/
def Outranked (now : Timespec) (top : LocTimerDelegate) : Prop := ranks now top.mFutureTime > 0

instance (now : Timespec) (top : LocTimerDelegate) : Decidable (Outranked now top) :=
  inferInstanceAs (Decidable (ranks now top.mFutureTime > 0))

/-- `LocTimerContainer::popIfOutRanks`. -/
def popIfOutRanks (c : Container) (now : Timespec) : Container × Option LocTimerDelegate :=
  match c.peek with
  | none => (c, none)
  | some top => if Outranked now top then (c, none) else c.pop outRanks

/-- The pops of the loop in `MsgTimerExpire::proc`, at most `fuel` of them. -/
def popLoop (now : Timespec) : ℕ → Container → Container
  | 0, c => c
  | fuel + 1, c =>
    match popIfOutRanks c now with
    | (c, none) => c
    | (c, some _) => popLoop now fuel c

/-- The heap that `MsgTimerExpire::proc` leaves at the time of now: the first pop is
unconditional.  No loop makes more pops than there are delegates. -/
def expire (c : Container) (now : Timespec) : Container :=
  match c.pop outRanks with
  | (c, none) => c
  | (c, some _) => popLoop now c.getTreeSize.toNat c

/-- A pop of `popIfOutRanks` is one of a top that is not outranked. -/
theorem popIfOutRanks_cases (c : Container) (now : Timespec) :
    (popIfOutRanks c now = (c, none) ∧ ∀ top, c.peek = some top → Outranked now top) ∨
      ∃ top, c.peek = some top ∧ ¬ Outranked now top ∧
        popIfOutRanks c now = ((c.pop outRanks).1, some top) := by
  rcases hpeek : c.peek with _ | top
  · refine .inl ⟨?_, nofun⟩
    simp only [popIfOutRanks, hpeek]
  · by_cases hnow : Outranked now top
    · refine .inl ⟨?_, ?_⟩
      · simp only [popIfOutRanks, hpeek, if_pos hnow]
      · intro top' htop'
        obtain rfl := Option.some.inj htop'
        exact hnow
    · refine .inr ⟨top, rfl, hnow, ?_⟩
      have hpop : (c.pop outRanks).2 = some top := ((pop_spec outRanks c).1).trans hpeek
      simp only [popIfOutRanks, hpeek, if_neg hnow]
      exact Prod.ext rfl hpop

/-- The loop pops delegates off a valid heap until the top is due in the future. -/
theorem popLoop_spec {now : Timespec} {fuel : ℕ} {c : Container} (hc : c.Valid outRanks)
    (hfuel : c.elems.card ≤ fuel) :
    (popLoop now fuel c).Valid outRanks ∧ (popLoop now fuel c).elems ≤ c.elems ∧
      ∀ top, (popLoop now fuel c).peek = some top → Outranked now top := by
  induction fuel generalizing c with
  | zero =>
    have hempty : c.elems = 0 := Multiset.card_eq_zero.mp (Nat.le_zero.mp hfuel)
    refine ⟨hc, le_refl _, ?_⟩
    intro top htop
    have hmem : top ∈ c.elems := mem_of_peek htop
    rw [hempty] at hmem
    cases hmem
  | succ fuel ih =>
    rcases popIfOutRanks_cases c now with ⟨hnone, hall⟩ | ⟨top, hpeek, -, hpop⟩
    · simp only [popLoop, hnone]
      exact ⟨hc, le_refl _, hall⟩
    · have helems : c.elems = top ::ₘ (c.pop outRanks).1.elems := (pop_spec outRanks c).2 top hpeek
      have hcard : (c.pop outRanks).1.elems.card ≤ fuel := by
        rw [helems, Multiset.card_cons] at hfuel
        omega
      obtain ⟨hvalid, hle, hleft⟩ := ih hc.pop hcard
      simp only [popLoop, hpop]
      refine ⟨hvalid, hle.trans ?_, hleft⟩
      rw [helems]
      exact Multiset.le_cons_self _ _

/-- **What a `MsgTimerExpire` does**: it pops the top whatever it is, then what is due, and
leaves a valid heap whose top is due in the future. -/
theorem expire_spec {c : Container} (hc : c.Valid outRanks) (now : Timespec) :
    (expire c now).Valid outRanks ∧ (expire c now).elems ≤ c.elems ∧
      ∀ top, (expire c now).peek = some top → Outranked now top := by
  rcases hpeek : c.peek with _ | first
  · simp only [expire, pop_of_empty hpeek]
    refine ⟨hc, le_refl _, ?_⟩
    intro top htop
    rw [hpeek] at htop
    cases htop
  · have hpop : c.pop outRanks = ((c.pop outRanks).1, some first) :=
      Prod.ext rfl (((pop_spec outRanks c).1).trans hpeek)
    have helems : c.elems = first ::ₘ (c.pop outRanks).1.elems := (pop_spec outRanks c).2 first hpeek
    have hfuel : (c.pop outRanks).1.elems.card ≤ (c.pop outRanks).1.getTreeSize.toNat := by
      have hsize : (c.pop outRanks).1.getTreeSize = (c.pop outRanks).1.elems.card :=
        LocHeapNode.Valid.getSize_eq hc.pop
      omega
    obtain ⟨hvalid, hle, hleft⟩ := @popLoop_spec now _ _ hc.pop hfuel
    rw [expire, hpop]
    refine ⟨hvalid, hle.trans ?_, hleft⟩
    rw [helems]
    exact Multiset.le_cons_self _ _

end Timer
end Nx507j
