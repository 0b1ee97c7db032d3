import Nx507j.Agps.StateMachine

/-!
# Simulating a machine

The code of the states is written once, over `MachineOps`.  Two machines whose
operations match, under a relation between the machines and one between the
pointers, therefore match under every public call.  What dropping a subscriber
does is left open: there the relation may change.

## Main definitions

* `OpsSim R RP` — the operations of two machines match under `R` and `RP`.

## Main results

* `OpsSim.subscribeRsrc`, `OpsSim.onRsrcEventBase`, `OpsSim.unsubscribe` — so do the calls.
-/

namespace Nx507j
namespace Agps

variable {M M' P P' : Type} [MachineOps M P] [MachineOps M' P']

open MachineOps

/-- The operations of two machines match: related machines answer alike and stay
related.  `RP m p p'` says that `p` points, in `m`, to what `p'` points to. -/
structure OpsSim (R : M → M' → Prop) (RP : M → P → P' → Prop) : Prop where
  mStatePtr : ∀ {m m'}, R m m' → mStatePtr m = mStatePtr m'
  setStatePtr : ∀ {m m'} (s : AgpsState), R m m' → R (setStatePtr s m) (setStatePtr s m')
  mEnforceSingleSubscriber : ∀ {m m'}, R m m' →
    mEnforceSingleSubscriber m = mEnforceSingleSubscriber m'
  hasSubscribers : ∀ {m m'}, R m m' → hasSubscribers m = hasSubscribers m'
  hasActiveSubscribers : ∀ {m m'}, R m m' →
    (hasActiveSubscribers m).1 = (hasActiveSubscribers m').1 ∧
      R (hasActiveSubscribers m).2 (hasActiveSubscribers m').2
  addSubscriber : ∀ {m m' p p'}, R m m' → RP m p p' → R (addSubscriber p m) (addSubscriber p' m')
  notifyGroup : ∀ {m m'} (g : GroupID) (st : AgpsRsrcStatus) (del : Bool), R m m' →
    R (notifySubscribers (.broadcast g st del) m) (notifySubscribers (.broadcast g st del) m')
  notifySelf : ∀ {m m' p p'} (st : AgpsRsrcStatus) (del : Bool), R m m' → RP m p p' →
    R (notifyRsrcStatus p (.unicast p st del) m) (notifyRsrcStatus p' (.unicast p' st del) m') ∧
      RP (notifyRsrcStatus p (.unicast p st del) m) p p'
  notifyRefused : ∀ {m m' p p'} (g : GroupID) (st : AgpsRsrcStatus) (del : Bool), R m m' →
    RP m p p' → R (notifyRsrcStatus p (.broadcast g st del) m)
      (notifyRsrcStatus p' (.broadcast g st del) m')
  sendRsrcRequest : ∀ {m m'} (env : Env) (action : AGpsStatusValue), R m m' →
    (sendRsrcRequest env action m).1 = (sendRsrcRequest env action m').1 ∧
      R (sendRsrcRequest env action m).2 (sendRsrcRequest env action m').2

namespace OpsSim

variable {R : M → M' → Prop} {RP : M → P → P' → Prop} {m : M} {m' : M'} {p : P} {p' : P'}

/-- Two transitions that match, in state and machine. -/
private theorem of_transition (h : OpsSim R RP) {t : AgpsState × M} {t' : AgpsState × M'}
    (ht : t.1 = t'.1 ∧ R t.2 t'.2) :
    R (MachineOps.setStatePtr t.1 t.2) (MachineOps.setStatePtr t'.1 t'.2) := by
  rw [ht.1]
  exact h.setStatePtr _ ht.2

/-- A subscription matches. -/
theorem subscribeRsrc (h : OpsSim R RP) (env : Env) (hR : R m m') (hp : RP m p p') :
    R (subscribeRsrc env p m) (subscribeRsrc env p' m') := by
  unfold Agps.subscribeRsrc
  rw [h.mEnforceSingleSubscriber hR, h.hasSubscribers hR]
  split
  · exact h.notifyRefused _ _ _ hR hp
  · refine h.of_transition ?_
    rw [h.mStatePtr hR]
    cases MachineOps.mStatePtr m' with
    | released =>
      obtain ⟨hret, hR'⟩ := h.sendRsrcRequest env .gpsRequestAgpsDataConn (h.addSubscriber hR hp)
      simp only [AgpsState.onReleased, hret]
      split
      · exact ⟨rfl, hR'⟩
      · exact ⟨rfl, hR'⟩
    | pending => exact ⟨rfl, h.addSubscriber hR hp⟩
    | acquired =>
      obtain ⟨hR', hp'⟩ := h.notifySelf .rsrcGranted false hR hp
      exact ⟨rfl, h.addSubscriber hR' hp'⟩
    | releasing => exact ⟨rfl, h.addSubscriber hR hp⟩

/-- The end of Releasing matches. -/
theorem closeReleasing (h : OpsSim R RP) (env : Env) (event : AgpsRsrcStatus) (hR : R m m') :
    (closeReleasing env event m).1 = (closeReleasing env event m').1 ∧
      R (closeReleasing env event m).2 (closeReleasing env event m').2 := by
  obtain ⟨hact, hR'⟩ := h.hasActiveSubscribers (h.notifyGroup .broadcastInactive event true hR)
  simp only [Agps.closeReleasing, hact]
  split
  · exact ⟨rfl, (h.sendRsrcRequest env .gpsRequestAgpsDataConn hR').2⟩
  · exact ⟨rfl, hR'⟩

/-- A resource event matches. -/
theorem dispatch_event (h : OpsSim R RP) (env : Env) (event : AgpsRsrcStatus) (hR : R m m') :
    R (dispatch env event none m) (dispatch env event none m') := by
  refine h.of_transition ?_
  rw [h.mStatePtr hR]
  cases MachineOps.mStatePtr m' with
  | released => cases event <;> exact ⟨rfl, hR⟩
  | pending =>
    cases event with
    | rsrcGranted => exact ⟨rfl, h.notifyGroup _ _ _ hR⟩
    | rsrcDenied => exact ⟨rfl, h.notifyGroup _ _ _ hR⟩
    | rsrcReleased => exact ⟨rfl, hR⟩
    | rsrcSubscribe => exact ⟨rfl, hR⟩
    | rsrcUnsubscribe => exact ⟨rfl, hR⟩
    | rsrcStatusMax => exact ⟨rfl, hR⟩
  | acquired =>
    cases event with
    | rsrcReleased => exact ⟨rfl, h.notifyGroup _ _ _ hR⟩
    | rsrcGranted => exact ⟨rfl, hR⟩
    | rsrcDenied => exact ⟨rfl, hR⟩
    | rsrcSubscribe => exact ⟨rfl, hR⟩
    | rsrcUnsubscribe => exact ⟨rfl, hR⟩
    | rsrcStatusMax => exact ⟨rfl, hR⟩
  | releasing =>
    cases event with
    | rsrcReleased => exact h.closeReleasing env _ hR
    | rsrcDenied => exact h.closeReleasing env _ hR
    | rsrcGranted => exact ⟨rfl, hR⟩
    | rsrcSubscribe => exact ⟨rfl, hR⟩
    | rsrcUnsubscribe => exact ⟨rfl, hR⟩
    | rsrcStatusMax => exact ⟨rfl, hR⟩

/-- The event of a plain machine matches. -/
theorem onRsrcEventBase (h : OpsSim R RP) (env : Env) (event : AgpsRsrcStatus) (hR : R m m') :
    R (onRsrcEventBase env event m) (onRsrcEventBase env event m') := by
  cases event <;> first | exact hR | exact h.dispatch_event env _ hR

/-- How Pending and Acquired go on matches. -/
theorem releaseIfInactive (h : OpsSim R RP) (this : AgpsState) (env : Env) (hR : R m m') :
    (releaseIfInactive this env m).1 = (releaseIfInactive this env m').1 ∧
      R (releaseIfInactive this env m).2 (releaseIfInactive this env m').2 := by
  obtain ⟨hact, hR'⟩ := h.hasActiveSubscribers hR
  simp only [Agps.releaseIfInactive, h.hasSubscribers hR, hact]
  split
  · exact ⟨rfl, (h.sendRsrcRequest env .gpsReleaseAgpsDataConn hR).2⟩
  · split
    · exact ⟨rfl, (h.sendRsrcRequest env .gpsReleaseAgpsDataConn hR').2⟩
    · exact ⟨rfl, hR'⟩

/-- An unsubscription in Released matches. -/
theorem unsubscribe_released (h : OpsSim R RP) (env : Env) (hR : R m m') (hp : RP m p p')
    (hs : MachineOps.mStatePtr m' = .released) :
    R (dispatch env .rsrcUnsubscribe (some p) m) (dispatch env .rsrcUnsubscribe (some p') m') := by
  refine h.of_transition ?_
  rw [h.mStatePtr hR, hs]
  exact ⟨rfl, (h.notifySelf .rsrcUnsubscribe false hR hp).1⟩

/-- An unsubscription in the other states matches, if dropping the subscriber does. -/
theorem unsubscribe (h : OpsSim R RP) (env : Env)
    (hs : MachineOps.mStatePtr m = MachineOps.mStatePtr m')
    (hne : MachineOps.mStatePtr m' ≠ .released)
    (hdrop : R (dropSubscriber p m) (dropSubscriber p' m')) :
    R (dispatch env .rsrcUnsubscribe (some p) m) (dispatch env .rsrcUnsubscribe (some p') m') := by
  refine h.of_transition ?_
  rw [hs]
  cases hs' : MachineOps.mStatePtr m' with
  | released => exact absurd hs' hne
  | pending => exact h.releaseIfInactive .pending env hdrop
  | acquired => exact h.releaseIfInactive .acquired env hdrop
  | releasing =>
    simp only [AgpsState.onReleasing, h.hasSubscribers hdrop]
    split
    · exact ⟨rfl, hdrop⟩
    · exact ⟨rfl, hdrop⟩

end OpsSim

end Agps
end Nx507j
