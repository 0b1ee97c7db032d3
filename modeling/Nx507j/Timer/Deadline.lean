import Nx507j.Timer.Service

/-!
# The deadline of a timer

`loc_timer_start` takes a delay of 64 bits, and gives it to `LocTimer::start`, which takes 32.  What
`LocTimer::start` makes of its argument is exact, so that the deadline is right for the delays that
have 32 bits, and too early for all others.

## Main definitions

* `Timespec.nanoseconds` — a time as one number.
* `locTimerStart` — the C interface.
* `ArmedFor` — a timer is armed for a time.

## Main results

* `nanoseconds_after?` — the split of a delay and the carry are exact.
* `armedFor_iff` — the deadline is right exactly for delays of 32 bits.
-/

namespace Nx507j
namespace Timer

/-! ### Times as numbers -/

def Timespec.nanoseconds (t : Timespec) : ℕ := t.tvSec * 1000000000 + t.tvNsec

/-- A number of nanoseconds whose seconds a `tv_sec` can hold. -/
def FitsTvSec (nanoseconds : ℕ) : Prop := nanoseconds / 1000000000 < 2 ^ 31

variable {t future : Timespec} {ms : UInt32}

/-- **The split into seconds and nanoseconds and the carry are exact.** -/
theorem nanoseconds_after? (h : t.after? ms = some future) :
    future.nanoseconds = t.nanoseconds + ms.toNat * 1000000 := by
  have hnsec := t.tvNsec_lt
  simp only [Timespec.after?] at h
  unfold Timespec.nanoseconds
  split_ifs at h with hcarry
  · obtain rfl := Option.some.inj h
    dsimp only
    omega
  · obtain rfl := Option.some.inj h
    dsimp only
    omega

/-- There is a time later by a delay if its seconds fit. -/
theorem exists_after? (h : FitsTvSec (t.nanoseconds + ms.toNat * 1000000)) :
    ∃ future, t.after? ms = some future := by
  have hnsec := t.tvNsec_lt
  unfold FitsTvSec Timespec.nanoseconds at h
  rw [Timespec.after?]
  split_ifs with hcarry hfits hfits
  · exact ⟨_, rfl⟩
  · omega
  · exact ⟨_, rfl⟩
  · omega

/-! ### The C interface -/

namespace Service

/-- `loc_timer_start`, with the handle that it returns; `wrapper` is the address of the new
`LocTimerWrapper`. -/
def locTimerStart (s : Service) (wrapper : ℕ) (msec : UInt64) (cbFunc wakeOnExpire : Bool) :
    Service × Option ℕ :=
  if cbFunc then
    let s := { s with
      mTimer := Function.update s.mTimer wrapper none
      gone := Function.update s.gone wrapper false }
    -- the parameter of `start` has 32 bits
    (s.start wrapper msec.toUInt32 wakeOnExpire, some wrapper)
  else (s, none)

/-- The timer of the wrapper is armed for the time. -/
def ArmedFor (s : Service) (wrapper nanoseconds : ℕ) : Prop :=
  ∃ timer, s.mTimer wrapper = some timer ∧ timer.mFutureTime.tvNsec < 1000000000 ∧
    timer.mFutureTime.nanoseconds = nanoseconds

/-- A timer that is not running is armed for the time that `LocTimer::start` computes. -/
theorem mTimer_start {s : Service} {client : ℕ} (hfree : s.mTimer client = none)
    (h : s.clock.after? ms = some future) (wakeOnExpire : Bool) :
    (s.start client ms wakeOnExpire).mTimer client =
      some ⟨s.nextAddress, client, future, wakeOnExpire⟩ := by
  unfold start
  rw [hfree, h]
  exact Function.update_self ..

/-- The new timer is not running. -/
theorem mTimer_locTimerStart {s : Service} {msec : UInt64}
    (h : s.clock.after? msec.toUInt32 = some future) (wrapper : ℕ) (wakeOnExpire : Bool) :
    (s.locTimerStart wrapper msec true wakeOnExpire).1.mTimer wrapper =
      some ⟨s.nextAddress, wrapper, future, wakeOnExpire⟩ := by
  let fresh : Service := { s with
    mTimer := Function.update s.mTimer wrapper none
    gone := Function.update s.gone wrapper false }
  have hfree : fresh.mTimer wrapper = none := Function.update_self ..
  exact mTimer_start hfree h wakeOnExpire

/-- **The deadline is right exactly for delays of 32 bits.** -/
theorem armedFor_iff (s : Service) (wrapper : ℕ) (msec : UInt64) (wakeOnExpire : Bool)
    (h : FitsTvSec (s.clock.nanoseconds + msec.toNat * 1000000)) :
    (s.locTimerStart wrapper msec true wakeOnExpire).1.ArmedFor wrapper
        (s.clock.nanoseconds + msec.toNat * 1000000) ↔ msec.toNat < 2 ^ 32 := by
  have hlow : msec.toUInt32.toNat = msec.toNat % 2 ^ 32 := UInt64.toNat_toUInt32 msec
  have hle : msec.toNat % 2 ^ 32 ≤ msec.toNat := Nat.mod_le ..
  have hmod : msec.toNat % 2 ^ 32 = msec.toNat ↔ msec.toNat < 2 ^ 32 :=
    ⟨fun heq => heq ▸ Nat.mod_lt _ (by decide), Nat.mod_eq_of_lt⟩
  obtain ⟨future, hfuture⟩ : ∃ future, s.clock.after? msec.toUInt32 = some future := by
    refine exists_after? (Nat.lt_of_le_of_lt (Nat.div_le_div_right ?_) h)
    rw [hlow]
    omega
  have hexact := nanoseconds_after? hfuture
  rw [hlow] at hexact
  rw [← hmod]
  unfold ArmedFor
  rw [mTimer_locTimerStart hfuture]
  constructor
  · rintro ⟨timer, htimer, -, hdeadline⟩
    obtain rfl := Option.some.inj htimer
    have hsame := hexact.symm.trans hdeadline
    omega
  · intro hsame
    refine ⟨_, rfl, future.tvNsec_lt, ?_⟩
    rw [hexact, hsame]

theorem armedFor_iff_halfHour :
    FitsTvSec (init.clock.nanoseconds + (1800000 : UInt64).toNat * 1000000) ∧
      ((init.locTimerStart 7 1800000 true true).1.ArmedFor 7
        (init.clock.nanoseconds + (1800000 : UInt64).toNat * 1000000) ↔
          (1800000 : UInt64).toNat < 2 ^ 32) :=
  have hfits : FitsTvSec (init.clock.nanoseconds + (1800000 : UInt64).toNat * 1000000) := by
    unfold FitsTvSec
    decide
  ⟨hfits, armedFor_iff init 7 1800000 true hfits⟩

/-- A delay of 2 ^ 32 milliseconds, which is some fifty days, is over at once. -/
theorem fiftyDays_atOnce :
    FitsTvSec (init.clock.nanoseconds + (4294967296 : UInt64).toNat * 1000000) ∧
      ((init.locTimerStart 7 4294967296 true true).1.mTimer 7).map (·.mFutureTime) =
        some init.clock ∧
      ¬ (init.locTimerStart 7 4294967296 true true).1.ArmedFor 7
        (init.clock.nanoseconds + (4294967296 : UInt64).toNat * 1000000) := by
  have hzero : (4294967296 : UInt64).toUInt32 = 0 := by decide
  have hafter : init.clock.after? 0 = some init.clock := by simp [Timespec.after?, init]
  have htimer : (init.locTimerStart 7 4294967296 true true).1.mTimer 7 =
      some ⟨0, 7, init.clock, true⟩ := mTimer_locTimerStart (by rw [hzero, hafter]) 7 true
  have hlater : init.clock.nanoseconds ≠
      init.clock.nanoseconds + (4294967296 : UInt64).toNat * 1000000 := by decide
  refine ⟨by unfold FitsTvSec; decide, by rw [htimer]; rfl, ?_⟩
  rintro ⟨timer, hsome, -, hdeadline⟩
  obtain rfl := Option.some.inj (htimer.symm.trans hsome)
  exact hlater hdeadline

end Service

end Timer
end Nx507j
