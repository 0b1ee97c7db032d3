import Nx507j.Timer.Delegate

/-!
# The soonest timer is on top

A `LocTimerContainer` arms the kernel timer for `getSoonestTimer`, the top of its heap.
The ranking puts a delegate due in the earliest second there.  Of several that are due in
that second it may be any: the one due first is on top only as long as delegates that
share a second share the nanosecond.

## Main definitions

* `TimerMsg`, `proc` — the messages a container processes, in any order, on any times.
* `Soonest` — `getSoonestTimer` returns a delegate that no other is due before.
* `SharesNsec` — a push of a delegate that is due with those of its second.

## Main results

* `sec_le_exec` — whatever is processed, the top is due in the earliest second.
* `soonest_exec` — the top is due first, if every push keeps to the nanosecond.
-/

namespace Nx507j
namespace Timer

open Run LocHeap

/-- A message of the timer thread. -/
inductive TimerMsg where
  | push (timer : LocTimerDelegate)
  | remove (timer : LocTimerDelegate)
  | expire (now : Timespec)
  deriving DecidableEq, Repr

/-- What the messages' `proc` does to the heap. -/
def proc (c : Container) : TimerMsg → Container
  | .push timer => c.push outRanks timer
  | .remove timer => (c.remove outRanks timer).1
  | .expire now => expire c now

/-- `getSoonestTimer` returns a delegate that is due, to the nanosecond, before or with
every delegate in the heap. -/
def Soonest (c : Container) : Prop :=
  ∀ top, c.peek = some top → ∀ d ∈ c.elems, top.mFutureTime ≤ d.mFutureTime

/-- A delegate pushed is due at the same time as those in the heap that are due in the same
second. -/
def SharesNsec (c : Container) : TimerMsg → Prop
  | .push timer =>
    ∀ d ∈ c.elems, d.mFutureTime.tvSec = timer.mFutureTime.tvSec →
      d.mFutureTime.tvNsec = timer.mFutureTime.tvNsec
  | _ => True

instance (c : Container) (m : TimerMsg) : Decidable (SharesNsec c m) :=
  match m with
  | .push _ => inferInstanceAs (Decidable (∀ d ∈ c.elems, _ → _))
  | .remove _ => inferInstanceAs (Decidable True)
  | .expire _ => inferInstanceAs (Decidable True)

/-- A message keeps the heap valid, and puts nothing in but what it pushes. -/
theorem proc_spec {c : Container} (hc : c.Valid outRanks) (m : TimerMsg) :
    (proc c m).Valid outRanks ∧ ∀ d ∈ (proc c m).elems, d ∈ c.elems ∨ m = .push d := by
  cases m with
  | push timer =>
    refine ⟨hc.push timer, ?_⟩
    intro d hd
    rw [proc, elems_push] at hd
    rcases Multiset.mem_cons.mp hd with rfl | hd
    · exact .inr rfl
    · exact .inl hd
  | remove timer =>
    refine ⟨hc.remove timer, ?_⟩
    intro d hd
    rcases remove_spec outRanks c timer with ⟨-, helems⟩ | hnone
    · rw [helems]
      exact .inl (Multiset.mem_cons_of_mem hd)
    · rw [proc, hnone] at hd
      exact .inl hd
  | expire now =>
    obtain ⟨hvalid, hle, -⟩ := expire_spec hc now
    exact ⟨hvalid, fun d hd => .inl (Multiset.mem_of_le hle hd)⟩

/-- Whatever is processed, nothing in the heap is due in an earlier second than the top. -/
theorem sec_le_exec (msgs : List TimerMsg) {top : LocTimerDelegate}
    (htop : (exec proc LocHeap.empty msgs).peek = some top) :
    ∀ d ∈ (exec proc LocHeap.empty msgs).elems, top.mFutureTime.tvSec ≤ d.mFutureTime.tvSec := by
  have hvalid : (exec proc LocHeap.empty msgs).Valid outRanks :=
    exec_inv (fun c m (hc : c.Valid outRanks) => (proc_spec hc m).1) msgs _ valid_empty
  intro d hd
  exact outRanks_eq_false.mp (hvalid.top htop d hd)

/-- The heap is valid, and delegates that are due in one second are due together. -/
structure SharedNsec (c : Container) : Prop where
  valid : c.Valid outRanks
  nsec : ∀ d ∈ c.elems, ∀ e ∈ c.elems, d.mFutureTime.tvSec = e.mFutureTime.tvSec →
    d.mFutureTime.tvNsec = e.mFutureTime.tvNsec

theorem sharedNsec_empty : SharedNsec LocHeap.empty where
  valid := valid_empty
  nsec := by
    intro d hd
    cases hd

theorem SharedNsec.proc {c : Container} (h : SharedNsec c) (m : TimerMsg)
    (hm : SharesNsec c m) : SharedNsec (proc c m) where
  valid := (proc_spec h.valid m).1
  nsec := by
    intro d hd e he hsec
    have hfrom := (proc_spec h.valid m).2
    rcases hfrom d hd with hd' | rfl
    · rcases hfrom e he with he' | rfl
      · exact h.nsec d hd' e he' hsec
      · exact hm d hd' hsec
    · rcases hfrom e he with he' | heq
      · exact (hm e he' hsec.symm).symm
      · cases heq
        rfl

/-- In such a heap the earliest second is the earliest time. -/
theorem SharedNsec.soonest {c : Container} (h : SharedNsec c) : Soonest c := by
  intro top htop d hd
  have hsec : top.mFutureTime.tvSec ≤ d.mFutureTime.tvSec :=
    outRanks_eq_false.mp (h.valid.top htop d hd)
  rcases Nat.lt_or_eq_of_le hsec with hlt | heq
  · exact .inl hlt
  · exact .inr ⟨heq, le_of_eq (h.nsec top (mem_of_peek htop) d hd heq)⟩

/-- **The soonest timer is on top**, in every run that pushes no delegate into a second in
which another one is due at another nanosecond. -/
theorem soonest_exec (msgs : List TimerMsg)
    (hmsgs : StepsMeet proc SharesNsec LocHeap.empty msgs) :
    Soonest (exec proc LocHeap.empty msgs) := by
  have h : SharedNsec (exec proc LocHeap.empty msgs) :=
    exec_inv_of_stepsMeet (fun c m hc hm => hc.proc m hm) msgs _ sharedNsec_empty hmsgs
  exact h.soonest

/-- Delegates due in three seconds, and two of them together. -/
theorem soonest_exec_threeSeconds :
    Soonest (exec proc LocHeap.empty
      [.push ⟨0, 0, ⟨12, 5, by decide, by decide⟩, false⟩,
        .push ⟨1, 1, ⟨10, 7, by decide, by decide⟩, false⟩,
        .push ⟨2, 2, ⟨10, 7, by decide, by decide⟩, false⟩,
        .push ⟨3, 3, ⟨11, 0, by decide, by decide⟩, false⟩,
        .expire ⟨10, 9, by decide, by decide⟩,
        .remove ⟨3, 3, ⟨11, 0, by decide, by decide⟩, false⟩]) :=
  soonest_exec _ (by decide)

/-- A timer is started for 10.9 s, and another one for 10.1 s: the first stays on top, and the
kernel timer is armed 800 ms late for the second. -/
theorem sameSecond_not_soonest :
    ¬ Soonest (exec proc LocHeap.empty
      [.push ⟨0, 0, ⟨10, 900000000, by decide, by decide⟩, false⟩,
        .push ⟨1, 1, ⟨10, 100000000, by decide, by decide⟩, false⟩]) := by
  intro h
  have hle := h ⟨0, 0, ⟨10, 900000000, by decide, by decide⟩, false⟩ (by decide)
    ⟨1, 1, ⟨10, 100000000, by decide, by decide⟩, false⟩ (by decide)
  exact absurd hle (by decide)

end Timer
end Nx507j
