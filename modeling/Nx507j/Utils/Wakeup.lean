import Nx507j.Lib.Lists
import Nx507j.Utils.MsgQ

/-!
# Wake-ups of the message queue

A send signals one receive that waits, and by the time that receive has the mutex back another
one may have taken the message.  Nevertheless no message is left behind: a receive sleeps on
only as long as each message has a receive of its own that is about to run.

## Main definitions

* `MsgQ.size` — the number of the messages in a queue.
* `MsgQ.Users.Awake` — what is kept of the receives that wait.

## Main results

* `MsgQ.Users.awake_exec` — no wake-up is lost, in any run.
-/

namespace Nx507j

open Links Run

variable {α : Type*}

namespace MsgQ

/-- The number of the messages in the queue. -/
def size (q : MsgQ α) : ℕ := q.msgList.elements.keys.length

variable {q : MsgQ α} {xs : List (α × Bool)}

theorem Holds.size_eq (h : q.Holds xs) : q.size = xs.length := by
  obtain ⟨nodes, h⟩ := h
  have hperm : q.msgList.elements.keys.Perm nodes :=
    (List.perm_ext_iff_of_nodup q.msgList.elements.nodupKeys h.linked.nodup).mpr fun a =>
      AList.mem_keys.trans (h.live a)
  rw [size, hperm.length_eq, h.length_eq, List.length_reverse]

namespace Users

/-! ### Signals -/

/-- A receive waits and has not been signalled. -/
def Sleeps (ws : List Waiter) : Prop := ∃ w ∈ ws, w.signalled = false

variable {s : Users α} {ws : List Waiter}

theorem Sleeps.of_eraseIdx {k : ℕ} (h : Sleeps (ws.eraseIdx k)) : Sleeps ws := by
  obtain ⟨w, hw, hsleeps⟩ := h
  exact ⟨w, List.mem_of_mem_eraseIdx hw, hsleeps⟩

theorem not_sleeps_iff : ¬Sleeps ws ↔ ∀ w ∈ ws, w.signalled = true := by
  simp [Sleeps]

/-- What a signal does: it wakes a receive that sleeps, or there is none. -/
theorem signal_cases (pick : ℕ) (ws : List Waiter) :
    (∃ k w, ws[k]? = some w ∧ w.signalled = false ∧
      signal pick ws = ws.set k { w with signalled := true }) ∨
    ¬Sleeps ws ∧ signal pick ws = ws := by
  have hmodify : ∀ k w, ws[k]? = some w → (ws.modify k fun w => { w with signalled := true }) =
      ws.set k { w with signalled := true } := by
    intro k w hw
    simp [List.modify_eq_set_getElem?, hw]
  by_cases hpick : (ws[pick]?.any fun w => !w.signalled) = true
  · have hsignal : signal pick ws = ws.modify pick fun w => { w with signalled := true } := by
      rw [signal, if_pos hpick]
    obtain ⟨w, hw, hsleeps⟩ := Option.any_eq_true _ _ |>.mp hpick
    exact .inl ⟨pick, w, hw, by simpa using hsleeps, hsignal.trans (hmodify pick w hw)⟩
  · have hsignal : signal pick ws =
        ws.modify (ws.findIdx fun w => !w.signalled) fun w => { w with signalled := true } := by
      rw [signal, if_neg hpick]
    by_cases hfind : (ws.findIdx fun w => !w.signalled) < ws.length
    · have hw := List.getElem?_eq_getElem hfind
      have hsleeps := List.findIdx_getElem (w := hfind)
      exact .inl ⟨_, _, hw, by simpa using hsleeps, hsignal.trans (hmodify _ _ hw)⟩
    · refine .inr ⟨?_, hsignal.trans (List.modify_eq_self (by omega))⟩
      rintro ⟨w, hw, hsleeps⟩
      exact hfind (List.findIdx_lt_length_of_exists ⟨w, hw, by simpa using hsleeps⟩)

/-- A signal leaves one receive less asleep. -/
theorem countP_signal (h : Sleeps ws) (pick : ℕ) :
    (signal pick ws).countP Waiter.signalled = ws.countP Waiter.signalled + 1 := by
  rcases signal_cases pick ws with ⟨k, w, hw, hsleeps, heq⟩ | ⟨hnot, -⟩
  · have hcount := Lists.countP_set_add (p := Waiter.signalled) hw { w with signalled := true }
    rw [heq]
    simpa [hsleeps] using hcount
  · exact absurd h hnot

theorem Sleeps.of_signal {pick : ℕ} (h : Sleeps (signal pick ws)) : Sleeps ws := by
  rcases signal_cases pick ws with ⟨k, w, hw, hsleeps, -⟩ | ⟨-, heq⟩
  · exact ⟨w, List.mem_of_getElem? hw, hsleeps⟩
  · exact heq ▸ h

theorem not_sleeps_broadcast (ws : List Waiter) : ¬Sleeps (broadcast ws) := by
  rw [not_sleeps_iff]
  intro w hw
  obtain ⟨w', -, rfl⟩ := List.mem_map.mp hw
  rfl

/-- A receive that is about to run and leaves takes one signal with it. -/
theorem countP_le_eraseIdx (ws : List Waiter) (k : ℕ) :
    ws.countP Waiter.signalled ≤ (ws.eraseIdx k).countP Waiter.signalled + 1 := by
  by_cases hk : k < ws.length
  · have hperm := (List.getElem_cons_eraseIdx_perm hk).countP_eq Waiter.signalled
    rw [List.countP_cons] at hperm
    split at hperm <;> omega
  · rw [List.eraseIdx_of_length_le (by omega)]
    exact Nat.le_succ _

/-! ### What is kept -/

/-- As long as a receive sleeps, each message has a receive that has been signalled; and none
sleeps once the queue has been unblocked. -/
structure Awake (q : MsgQ α) (ws : List Waiter) : Prop where
  size_le : Sleeps ws → q.size ≤ ws.countP Waiter.signalled
  unblocked : q.unblocked = true → ¬Sleeps ws

theorem awake_init : Awake (init : Users α).q (init : Users α).waiters := by
  refine ⟨?_, ?_⟩ <;> simp [init, Sleeps]

/-- What a receive comes to leaves no message behind, also when a signal has gone with it. -/
theorem awake_settle (s : Users α)
    (hsize : Sleeps s.waiters → s.q.size ≤ s.waiters.countP Waiter.signalled + 1)
    (hunb : s.q.unblocked = true → ¬Sleeps s.waiters) (n : ℕ) {r : RcvResult α × MsgQ α}
    (hr : s.q.size = 0 ∧ s.q.unblocked = false ∧ r = (.wait, s.q) ∨
      ∃ rv obj q', r = (.ret rv obj, q') ∧ q'.unblocked = s.q.unblocked ∧
        (s.q.unblocked = true ∨ q'.size ≤ s.q.size - 1)) :
    Awake (s.settle n r).q (s.settle n r).waiters := by
  rcases hr with ⟨hzero, hu, rfl⟩ | ⟨rv, obj, q', rfl, hq', hle⟩
  · refine ⟨fun _ => ?_, fun hunb => ?_⟩
    · show s.q.size ≤ _
      omega
    · exact absurd (hu.symm.trans hunb) Bool.false_ne_true
  · refine ⟨fun hsleeps => ?_, fun h => hunb (hq'.symm.trans h)⟩
    rcases hle with hu | hle
    · exact absurd hsleeps (hunb hu)
    · have hbefore := hsize hsleeps
      show q'.size ≤ s.waiters.countP Waiter.signalled
      omega

theorem Awake.snd (ha : Awake s.q s.waiters) (h : s.q.Holds xs) (malloc : Option ℕ)
    (msgObj : Option α) (dealloc : Bool) (pick : ℕ) :
    let s' := s.step (.snd malloc msgObj dealloc pick)
    Awake s'.q s'.waiters := by
  rcases h.snd malloc msgObj dealloc with
    ⟨a, q', rfl, -, hu, hsnd, hu', h'⟩ | ⟨rv, signals, -, -, hsnd⟩
  · simp only [step, hsnd, if_true]
    refine ⟨fun hsleeps => ?_, fun hunb => absurd (hu'.symm.trans hunb) Bool.false_ne_true⟩
    have hbefore := ha.size_le hsleeps.of_signal
    have hsize : q'.size = s.q.size + 1 := by simp [h.size_eq, h'.size_eq]
    rw [countP_signal hsleeps.of_signal, hsize]
    omega
  · simp only [step, hsnd]
    cases signals with
    | false => exact ha
    | true =>
      refine ⟨fun hsleeps => ?_, fun hunb hsleeps => ha.unblocked hunb hsleeps.of_signal⟩
      have hbefore := ha.size_le hsleeps.of_signal
      rw [if_pos rfl, countP_signal hsleeps.of_signal]
      omega

theorem Awake.rcv (ha : Awake s.q s.waiters) (h : s.q.Holds xs) :
    Awake (s.step .rcv).q (s.step .rcv).waiters := by
  rw [Users.step]
  refine awake_settle { s with started := s.started + 1 }
    (fun hsleeps => Nat.le_succ_of_le (ha.size_le hsleeps)) ha.unblocked _ ?_
  rcases h.rcv with ⟨rfl, hu, hrcv⟩ | ⟨hu, hrcv⟩ | ⟨x, xs', q', rfl, hu, hrcv, hu', h'⟩
  · exact .inl ⟨h.size_eq, hu, hrcv⟩
  · exact .inr ⟨_, _, _, hrcv, rfl, .inl hu⟩
  · have hsize : q'.size ≤ s.q.size - 1 := by simp [h.size_eq, h'.size_eq]
    exact .inr ⟨_, _, _, hrcv, hu'.trans hu.symm, .inr hsize⟩

theorem Awake.wake (ha : Awake s.q s.waiters) (h : s.q.Holds xs) (pick : ℕ) :
    Awake (s.step (.wake pick)).q (s.step (.wake pick)).waiters := by
  cases hw : s.waiters[pick]? with
  | none =>
    simp only [Users.step, hw]
    exact ha
  | some w =>
    simp only [Users.step, hw]
    refine awake_settle { s with waiters := s.waiters.eraseIdx pick } (fun hsleeps => ?_)
      (fun hunb hsleeps => ha.unblocked hunb hsleeps.of_eraseIdx) _ ?_
    · have hbefore := ha.size_le hsleeps.of_eraseIdx
      exact hbefore.trans (countP_le_eraseIdx s.waiters pick)
    · rcases h.rcvLoop with
        ⟨rfl, hu, hloop⟩ | ⟨-, hu, hloop⟩ | ⟨x, xs', q', rfl, hloop, hu', h'⟩
      · exact .inl ⟨h.size_eq, hu, hloop⟩
      · exact .inr ⟨_, _, _, hloop, rfl, .inl hu⟩
      · have hsize : q'.size ≤ s.q.size - 1 := by simp [h.size_eq, h'.size_eq]
        exact .inr ⟨_, _, _, hloop, hu', .inr hsize⟩

theorem Awake.unblock (ha : Awake s.q s.waiters) :
    Awake (s.step .unblock).q (s.step .unblock).waiters := by
  by_cases hu : s.q.unblocked = true
  · simp only [Users.step, msgQUnblock, if_pos hu]
    exact ha
  · simp only [Users.step, msgQUnblock, if_neg hu, if_true]
    have hnot := not_sleeps_broadcast s.waiters
    exact ⟨fun hsleeps => absurd hsleeps hnot, fun _ => hnot⟩

/-- **One step loses no wake-up**. -/
theorem Awake.step (ha : Awake s.q s.waiters) (h : s.q.Holds xs) (i : Input α) :
    Awake (s.step i).q (s.step i).waiters := by
  cases i with
  | snd malloc msgObj dealloc pick => exact ha.snd h malloc msgObj dealloc pick
  | rcv => exact ha.rcv h
  | wake pick => exact ha.wake h pick
  | unblock => exact ha.unblock

/-- **No wake-up is lost**: in every run, as long as a receive waits that has not been
signalled, there are no more messages than receives that have been signalled and do not have
the mutex back; and once the queue has been unblocked every receive that waits has been
signalled. -/
theorem awake_exec (inputs : List (Input α)) :
    let s := exec step init inputs
    ((∃ w ∈ s.waiters, w.signalled = false) →
      s.q.size ≤ s.waiters.countP Waiter.signalled) ∧
    (s.q.unblocked = true → ∀ w ∈ s.waiters, w.signalled = true) := by
  have hstep : ∀ (s : Users α) i, (∃ xs, s.HandsOn xs) ∧ Awake s.q s.waiters →
      (∃ xs, (s.step i).HandsOn xs) ∧ Awake (s.step i).q (s.step i).waiters := by
    rintro s i ⟨⟨xs, h⟩, ha⟩
    exact ⟨h.step i, ha.step h.holds i⟩
  have ha := (exec_inv hstep inputs init ⟨⟨[], handsOn_init⟩, awake_init⟩).2
  exact ⟨ha.size_le, fun hunb => not_sleeps_iff.mp (ha.unblocked hunb)⟩

end Users
end MsgQ
end Nx507j
