import Nx507j.Agps.Store

/-!
# Broadcasts to the subscribers

A removing broadcast is a loop: a removing search stops at the first subscriber that has been told,
and the loop searches again from the head, until a search finds nothing.  The search tells a
subscriber while it asks about it.  Here the loop is taken turn by turn, so that its end is proved
and not assumed.

## Main definitions

* `StoreMachine.notifyTurns` — `notifySubscribers`, for at most so many turns.
* `StoreMachine.audience` — the subscribers that a broadcast is for.

## Main results

* `StoreMachine.notifyTurns_eq` — the loop ends.
* `StoreMachine.broadcast_once` — every subscriber the broadcast is for is told once, and deleted
  once if at all.
-/

namespace Nx507j
namespace Agps
namespace StoreMachine

/-- `notifySubscribers` with the loop as it is written; `none` if the loop has not ended after `k`
turns. -/
def notifyTurns (n : Notification Ptr) (k : ℕ) (m : StoreMachine) : Option StoreMachine :=
  if n.postNotifyDelete then
    (searchTurns (notifySubscriber n) delete k m.mSubscribers m).map fun r =>
      { r.2 with mSubscribers := r.1 }
  else
    some (linkedListSearch (notifySubscriber n) false m.mSubscribers m).2.2

/-- **The loop ends**, whoever is listed and whatever the notification is. -/
theorem notifyTurns_eq (n : Notification Ptr) {k : ℕ} {m : StoreMachine}
    (hk : m.mSubscribers.length < k) : m.notifyTurns n k = some (m.notifySubscribers n) := by
  unfold notifyTurns notifySubscribers
  split
  · rw [searchTurns_eq_some _ _ k m.mSubscribers m hk]
    rfl
  · rfl

/-- A status that is passed on reaches those the notification is for. -/
theorem hears_of_notifiable {n : Notification Subscriber} (h : n.rsrcStatus.notifiable = true)
    (s : Subscriber) : s.hears n = s.forMe n := by
  rw [Subscriber.hears, h, Bool.and_true]

/-- The listed subscribers that a broadcast is for. -/
def audience (m : StoreMachine) (n : Notification Ptr) : List ℕ :=
  m.mSubscribers.filter fun a => (m.bytes a).forMe (m.resolve n)

theorem broadcast_delete {m : StoreMachine} (hm : m.WF) {n : Notification Ptr}
    (hrcver : n.rcver = none) (hst : n.rsrcStatus.notifiable = true)
    (hdel : n.postNotifyDelete = true) :
    m.notifySubscribers n =
      { m.toldAndDeleted n.rsrcStatus (m.audience n) with
        mSubscribers := m.mSubscribers.filter fun a => !(m.bytes a).forMe (m.resolve n) } := by
  have hhears : ∀ s : Subscriber, s.hears (m.resolve n) = s.forMe (m.resolve n) :=
    hears_of_notifiable hst
  rw [notifySubscribers_delete hdel hrcver hm]
  simp only [hhears]
  rfl

theorem broadcast_keep {m : StoreMachine} (hm : m.WF) {n : Notification Ptr}
    (hrcver : n.rcver = none) (hst : n.rsrcStatus.notifiable = true)
    (hdel : n.postNotifyDelete = false) :
    m.notifySubscribers n =
      { m with log := m.log ++ (m.audience n).map (m.toldEntry n.rsrcStatus) } := by
  have hhears : ∀ s : Subscriber, s.hears (m.resolve n) = s.forMe (m.resolve n) :=
    hears_of_notifiable hst
  rw [notifySubscribers_keep hdel hrcver hm]
  simp only [hhears]
  rfl

/-- **A broadcast reaches everyone once.**  The loop ends.  Each listed subscriber that the
broadcast is for is told once, in the order of the list.  If the broadcast removes, just these are
deleted, each of them once, and the others stay in their order; if not, the list stays as it is. -/
theorem broadcast_once {m : StoreMachine} (hm : m.WF) (groupID : GroupID) (st : AgpsRsrcStatus)
    (postNotifyDelete : Bool) (hst : st.notifiable = true) :
    let n : Notification Ptr := ⟨none, groupID, st, postNotifyDelete⟩
    let told := m.audience n
    ∃ m' : StoreMachine, (∀ k, m.mSubscribers.length < k → m.notifyTurns n k = some m') ∧
      told.Nodup ∧ m'.log = m.log ++ told.map (m.toldEntry st) ∧
      m'.objects = m.objects ∧ m'.fault = m.fault ∧
      (postNotifyDelete = true →
        m'.mSubscribers = m.mSubscribers.filter (fun a => !(m.bytes a).forMe (m.resolve n)) ∧
        ∀ a, m'.deleted.count a = m.deleted.count a + if a ∈ told then 1 else 0) ∧
      (postNotifyDelete = false → m'.mSubscribers = m.mSubscribers ∧ m'.deleted = m.deleted) := by
  intro n told
  have hnodup : told.Nodup := hm.nodup.filter _
  refine ⟨m.notifySubscribers n, fun k hk => notifyTurns_eq n hk, hnodup, ?_⟩
  cases hdel : postNotifyDelete with
  | true =>
    rw [broadcast_delete hm (n := n) rfl hst hdel]
    refine ⟨rfl, rfl, rfl, fun _ => ⟨rfl, fun a => ?_⟩, fun h => (nomatch h)⟩
    show (told.reverse ++ m.deleted).count a = _
    rw [List.count_append, List.count_reverse, hnodup.count, Nat.add_comm]
  | false =>
    rw [broadcast_keep hm (n := n) rfl hst hdel]
    exact ⟨rfl, rfl, rfl, fun h => (nomatch h), fun _ => ⟨rfl, rfl⟩⟩

/-- An inactive subscriber among active ones. -/
theorem broadcast_once_closed :
    let m : StoreMachine :=
      { new agpsTypeSupl false with
        mSubscribers := [2, 1, 0]
        objects := [.atl 1 false, .wifi .msapm none none true, .bit 0x7f000001 (.replicate 16 0)] }
    ∃ m', m.notifyTurns ⟨none, .broadcastInactive, .rsrcReleased, true⟩ 4 = some m' ∧
      m'.mSubscribers = [2, 0] ∧ m'.deleted.count 1 = 1 := by
  intro m
  have hm : m.WF := ⟨by decide, by decide, by decide⟩
  obtain ⟨m', hturns, -, -, -, -, hdelete, -⟩ :=
    broadcast_once hm .broadcastInactive .rsrcReleased true rfl
  obtain ⟨hlist, hcount⟩ := hdelete rfl
  exact ⟨m', hturns 4 (by decide), hlist, hcount 1⟩

end StoreMachine
end Agps
end Nx507j
