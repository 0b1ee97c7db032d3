import Mathlib.Algebra.Order.Group.Int
import Nx507j.Ni.Consent

/-!
# Timeouts

A request that has not been answered in time is answered `GPS_NI_RESPONSE_NORESP` by the thread
that was created for it.  What there is to know of the last request of a session, and the code
does not keep, is kept beside the run: when it was accepted, how much time its answer has, and
which thread was created for it.

## Main definitions

* `Ticket`, `Watched` — the last request of a session, and a module with those of its sessions.
* `Watched.Timely` — a step that creates an answer `GPS_NI_RESPONSE_NORESP` creates it for a
  request that was given this answer, or by the request's thread when its time is over.
* `Watched.OnlyOwn` — a step that lets no request have another one's answer, time or thread.

## Main results

* `Watched.timely_exec` — every step of a run of such steps is timely.
-/

namespace Nx507j
namespace Ni

open Run

/-! ### What is known of a request -/

/-- The seconds that the answer to a request may take. -/
def seconds (notif : GpsNiNotification) : ℤ :=
  5 + (if notif.timeout ≠ 0 then notif.timeout.toInt else locNiNoResponseTime.toInt)

/-- The last request that a session has taken: its payload, the id it was notified with, when it
was accepted (in microseconds), the seconds that its answer may take, the thread that was created
for it, and whether it has been answered `GPS_NI_RESPONSE_NORESP`. -/
structure Ticket where
  payload : Option Payload
  id : Int32
  acceptedAt : ℤ
  seconds : ℤ
  thread : Option ℕ
  noresp : Bool
  deriving DecidableEq, Repr

/-- When the time of its answer is over. -/
def Ticket.due (t : Ticket) : ℤ := t.acceptedAt + t.seconds * 1000000

/-- What is known of a session's last request after an input. -/
def Ticket.watch (m : NiModule) (slot : Slot) (o : Option Ticket) :
    NiModule.Input → Option Ticket
  | .requestHandler notif passThrough threadCreated =>
    if m.niNotifyCb = true ∧ m.accepts notif = some slot then
      some
        { payload := passThrough
          id := m.reqIDCounter + 1
          acceptedAt := m.clock
          seconds := Ni.seconds notif
          thread := if threadCreated then some m.threads.length else none
          noresp := false }
    else o
  | .respond notifId userResponse =>
    o.map fun t =>
      if notifId = t.id ∧ userResponse = gpsNiResponseNoresp then { t with noresp := true } else t
  | _ => o

theorem Ticket.watch_of_accepts {m : NiModule} {slot : Slot} {notif : GpsNiNotification}
    (hcb : m.niNotifyCb = true) (hacc : m.accepts notif = some slot) (o : Option Ticket)
    (passThrough : Option Payload) (created : Bool) :
    Ticket.watch m slot o (.requestHandler notif passThrough created) =
      some
        { payload := passThrough
          id := m.reqIDCounter + 1
          acceptedAt := m.clock
          seconds := Ni.seconds notif
          thread := if created then some m.threads.length else none
          noresp := false } := if_pos ⟨hcb, hacc⟩

theorem Ticket.watch_of_not {m : NiModule} {slot : Slot} {notif : GpsNiNotification}
    (hnot : ¬ (m.niNotifyCb = true ∧ m.accepts notif = some slot)) (o : Option Ticket)
    (passThrough : Option Payload) (created : Bool) :
    Ticket.watch m slot o (.requestHandler notif passThrough created) = o := if_neg hnot

/-- The thread whose step an input is. -/
def NiModule.Input.thread : NiModule.Input → Option ℕ
  | .start i => some i
  | .wake i _ => some i
  | .advance i => some i
  | _ => none

/-- The module, and what is known of the last request of each session. -/
structure Watched where
  m : NiModule
  tickets : Slot → Option Ticket

namespace Watched

/-- The zeroed module, which has taken no request. -/
def zero : Watched := ⟨NiModule.zero, fun _ => none⟩

/-- One step. -/
def step (s : Watched) (i : NiModule.Input) : Watched :=
  ⟨s.m.step i, fun slot => Ticket.watch s.m slot (s.tickets slot) i⟩

/-- What a step writes into the log. -/
def news (s : Watched) (i : NiModule.Input) : List Event := (s.m.step i).log.drop s.m.log.length

/-- An answer `GPS_NI_RESPONSE_NORESP` that the step creates is for the last request of its
session, which has been given this answer, or the step is one of the thread that was created for
the request, and the time of its answer is over. -/
def Timely (s : Watched) (i : NiModule.Input) : Prop :=
  ∀ slot payload, .create slot ⟨gpsNiResponseNoresp, payload⟩ ∈ s.news i →
    ∃ t, s.tickets slot = some t ∧ t.payload = some payload ∧
      (t.noresp = true ∨ (t.thread.isSome = true ∧ i.thread = t.thread ∧ t.due ≤ s.m.clock))

/-- A step that takes no request whose time does not fit an `int` or into a session that still
holds `GPS_NI_RESPONSE_NORESP`, that does not give this answer under an id other than that of the
selected session's request, that times out no thread but that of the request, and that does not
clear the time of a request whose thread has not started. -/
def OnlyOwn (s : Watched) : NiModule.Input → Prop
  | .requestHandler notif passThrough _ =>
    s.m.niNotifyCb = true → passThrough.isSome = true → ∀ slot, s.m.accepts notif = some slot →
      (5 + (if notif.timeout ≠ 0 then notif.timeout else locNiNoResponseTime)).toInt =
          seconds notif ∧
        ¬ ((s.m.get slot).respRecvd = true ∧ (s.m.get slot).resp = gpsNiResponseNoresp)
  | .respond notifId userResponse =>
    s.m.niNotifyCb = true → userResponse = gpsNiResponseNoresp →
      ∀ slot, s.m.selects notifId = some slot → ∀ t, s.tickets slot = some t →
        t.id = notifId ∨ t.noresp = true
  | .wake i true =>
    ∀ slot expireTime, s.m.threads[i]? = some ⟨slot, .waiting expireTime⟩ →
      expireTime ≤ s.m.clock → (s.m.get slot).rawRequest.isSome = true →
        ∀ t, s.tickets slot = some t → t.thread = some i ∨ t.noresp = true
  | .advance i =>
    ∀ slot msg, s.m.threads[i]? = some ⟨slot, .unlocked msg⟩ →
      (s.m.get slot).rawRequest.isSome = true →
        ∀ t j, s.tickets slot = some t → t.thread = some j →
          s.m.threads[j]? = some ⟨slot, .start⟩ → (s.m.get slot).respTimeLeft.toInt ≤ 0
  | _ => True

/-! ### What a session has to do with its request -/

/-- A thread of the request has not counted less time than its answer may take. -/
def OnTime (s : NiSession) (t : Ticket) : Phase → Prop
  | .start => t.seconds ≤ s.respTimeLeft.toInt
  | .waiting expireTime => t.due ≤ expireTime
  | _ => True

/-- The session holds a request only if it is the last one, with the answer
`GPS_NI_RESPONSE_NORESP` only if that was given to it, and the request's thread is on time. -/
def Tracked (s : NiSession) (threads : List NiThread) (slot : Slot) (o : Option Ticket) : Prop :=
  ∀ payload, s.rawRequest = some payload → ∃ t, o = some t ∧ t.payload = some payload ∧
    (s.respRecvd = true → s.resp = gpsNiResponseNoresp → t.noresp = true) ∧
    ∀ j, t.thread = some j → ∃ phase, threads[j]? = some ⟨slot, phase⟩ ∧ OnTime s t phase

theorem tracked_of_none {s : NiSession} (h : s.rawRequest = none) (threads : List NiThread)
    (slot : Slot) (o : Option Ticket) : Tracked s threads slot o := by
  intro payload hraw
  rw [h] at hraw
  cases hraw

/-- The threads that were there are still there, and as they were. -/
theorem Tracked.of_threads {s : NiSession} {threads threads' : List NiThread} {slot : Slot}
    {o : Option Ticket} (h : Tracked s threads slot o)
    (hthreads : ∀ (j : ℕ) phase, threads[j]? = some ⟨slot, phase⟩ → threads'[j]? = some ⟨slot, phase⟩) :
    Tracked s threads' slot o := by
  intro payload hraw
  obtain ⟨t, ho, hp, hresp, hthread⟩ := h payload hraw
  refine ⟨t, ho, hp, hresp, fun j hj => ?_⟩
  obtain ⟨phase, hphase, hontime⟩ := hthread j hj
  exact ⟨phase, hthreads j phase hphase, hontime⟩

/-- A thread of another session goes on. -/
theorem Tracked.set_of_ne {s : NiSession} {threads : List NiThread} {slot slot' : Slot}
    {o : Option Ticket} (h : Tracked s threads slot o) {i : ℕ} {p : Phase}
    (hi : threads[i]? = some ⟨slot', p⟩) (hne : slot ≠ slot') (q : Phase) :
    Tracked s (threads.set i ⟨slot', q⟩) slot o := by
  refine h.of_threads fun j phase hj => ?_
  have hij : i ≠ j := by
    rintro rfl
    obtain ⟨rfl, -⟩ := NiThread.mk.inj (Option.some.inj (hj.symm.trans hi))
    exact hne rfl
  rw [List.getElem?_set_ne hij]
  exact hj

/-- A thread of the session goes on, and is on time if it is that of the request. -/
theorem Tracked.set {s s' : NiSession} {threads : List NiThread} {slot : Slot}
    {o : Option Ticket} (h : Tracked s threads slot o) {i : ℕ} {p q : Phase}
    (hi : threads[i]? = some ⟨slot, p⟩) (hraw : s'.rawRequest = s.rawRequest)
    (hrecvd : s'.respRecvd = s.respRecvd) (hresp : s'.resp = s.resp)
    (htime : ∀ t phase, OnTime s t phase → OnTime s' t phase)
    (hq : ∀ t, o = some t → OnTime s t p → OnTime s' t q) :
    Tracked s' (threads.set i ⟨slot, q⟩) slot o := by
  intro payload hraw'
  obtain ⟨t, ho, hp, hnoresp, hthread⟩ := h payload (hraw.symm.trans hraw')
  refine ⟨t, ho, hp, ?_, fun j hj => ?_⟩
  · rw [hrecvd, hresp]
    exact hnoresp
  · obtain ⟨phase, hphase, hontime⟩ := hthread j hj
    by_cases hij : i = j
    · subst hij
      obtain ⟨-, rfl⟩ := NiThread.mk.inj (Option.some.inj (hi.symm.trans hphase))
      refine ⟨q, ?_, hq t ho hontime⟩
      rw [List.getElem?_set_self (List.getElem?_eq_some_iff.mp hi).1]
    · refine ⟨phase, ?_, htime t phase hontime⟩
      rw [List.getElem?_set_ne hij]
      exact hphase

/-- Every session keeps track of its request, and no request is of the future. -/
structure Tracking (s : Watched) : Prop where
  clock : ∀ slot t, s.tickets slot = some t → t.acceptedAt ≤ s.m.clock
  tracked : ∀ slot, Tracked (s.m.get slot) s.m.threads slot (s.tickets slot)

theorem tracking_zero : Tracking zero where
  clock := by
    intro slot t ht
    cases ht
  tracked := by
    intro slot
    cases slot <;> exact tracked_of_none rfl _ _ _

/-- What is known of a request was known before, or it has just been accepted. -/
theorem Tracking.clock_step {s : Watched} (h : Tracking s) (i : NiModule.Input) :
    ∀ slot t, (s.step i).tickets slot = some t → t.acceptedAt ≤ (s.step i).m.clock := by
  intro slot t ht
  have hnow : t.acceptedAt ≤ s.m.clock := by
    cases i with
    | requestHandler notif passThrough created =>
      simp only [step, Ticket.watch] at ht
      split at ht
      · obtain rfl := Option.some.inj ht
        exact le_rfl
      · exact h.clock slot t ht
    | respond notifId userResponse =>
      obtain ⟨t', ht', rfl⟩ := Option.map_eq_some_iff.mp ht
      have hle := h.clock slot t' ht'
      split
      · exact hle
      · exact hle
    | init => exact h.clock slot t ht
    | resetOnEngineRestart => exact h.clock slot t ht
    | start i => exact h.clock slot t ht
    | wake i timedOut => exact h.clock slot t ht
    | advance i => exact h.clock slot t ht
    | process => exact h.clock slot t ht
    | tick microseconds => exact h.clock slot t ht
  by_cases htick : ∃ microseconds, i = .tick microseconds
  · obtain ⟨microseconds, rfl⟩ := htick
    exact hnow.trans (Int.le_add_of_nonneg_right (Int.natCast_nonneg _))
  · have hclock : (s.step i).m.clock = s.m.clock :=
      NiModule.clock_step _ _ fun microseconds hi => htick ⟨microseconds, hi⟩
    rw [hclock]
    exact hnow

/-! ### The steps -/

section Steps

variable {s : Watched}

theorem Tracking.init (h : Tracking s) (slot : Slot) :
    Tracked (s.m.init.get slot) s.m.init.threads slot (s.tickets slot) := by
  unfold NiModule.init
  split
  · exact h.tracked slot
  · cases slot <;> exact tracked_of_none rfl _ _ _

theorem Tracking.requestHandler (h : Tracking s) {notif : GpsNiNotification}
    {passThrough : Option Payload} {created : Bool}
    (hown : s.OnlyOwn (.requestHandler notif passThrough created)) (slot : Slot) :
    Tracked ((s.step (.requestHandler notif passThrough created)).m.get slot)
      (s.step (.requestHandler notif passThrough created)).m.threads slot
      ((s.step (.requestHandler notif passThrough created)).tickets slot) := by
  simp only [step, NiModule.step]
  rcases s.m.requestHandler_cases notif passThrough created with
    ⟨slot', hcb, hacc, heq⟩ | ⟨hno, hrefused⟩
  · rw [heq, NiModule.get_accept, NiModule.get_save, NiModule.threads_accept]
    by_cases hslot : slot = slot'
    · subst hslot
      rw [if_pos rfl, Ticket.watch_of_accepts hcb hacc]
      intro payload hraw
      obtain rfl : passThrough = some payload := hraw
      obtain ⟨hfits, hstale⟩ := hown hcb rfl slot hacc
      refine ⟨_, rfl, rfl, fun hrecvd hresp => absurd ⟨hrecvd, hresp⟩ hstale, fun j hj => ?_⟩
      cases created with
      | false => cases hj
      | true =>
        obtain rfl := Option.some.inj hj
        exact ⟨.start, by simp, hfits.ge⟩
    · have hother : s.m.accepts notif ≠ some slot := fun hacc' =>
        hslot (Option.some.inj (hacc'.symm.trans hacc))
      rw [if_neg hslot, Ticket.watch_of_not fun hacc' => hother hacc'.2]
      refine (h.tracked slot).of_threads fun j phase hj => ?_
      split
      · rw [List.getElem?_append_left (List.getElem?_eq_some_iff.mp hj).1]
        exact hj
      · exact hj
  · rw [Ticket.watch_of_not fun hacc => hno slot hacc.1 hacc.2]
    rcases hrefused with ⟨heq, -⟩ | ⟨-, payload, -, heq⟩
    · rw [heq]
      exact h.tracked slot
    · rw [heq, NiModule.get_say]
      exact h.tracked slot

/-- A session is given an answer, and its request with it. -/
theorem Tracked.answer {s s' : NiSession} {threads : List NiThread} {slot : Slot}
    {o : Option Ticket} (h : Tracked s threads slot o) (hraw : s'.rawRequest = s.rawRequest)
    (htime : s'.respTimeLeft = s.respTimeLeft)
    (hresp : s'.resp = gpsNiResponseNoresp → ∀ t, o = some t → t.noresp = true) :
    Tracked s' threads slot o := by
  intro payload hraw'
  obtain ⟨t, ho, hp, -, hthread⟩ := h payload (hraw.symm.trans hraw')
  refine ⟨t, ho, hp, fun _ hr => hresp hr t ho, fun j hj => ?_⟩
  obtain ⟨phase, hphase, hontime⟩ := hthread j hj
  refine ⟨phase, hphase, ?_⟩
  cases phase with
  | start => exact hontime.trans (by rw [htime])
  | waiting expireTime => exact hontime
  | unlocked msg => trivial
  | timeLeftCleared msg => trivial
  | reqIDCleared msg => trivial
  | done => trivial

theorem Tracked.respond {s : NiSession} {threads : List NiThread} {slot : Slot}
    {o : Option Ticket} (h : Tracked s threads slot o) (m : NiModule) (notifId : Int32)
    (userResponse : GpsUserResponseType) :
    Tracked s threads slot (Ticket.watch m slot o (.respond notifId userResponse)) := by
  intro payload hraw
  obtain ⟨t, rfl, hp, hresp, hthread⟩ := h payload hraw
  refine ⟨_, rfl, ?_⟩
  dsimp only
  split
  · exact ⟨hp, fun _ _ => rfl, hthread⟩
  · exact ⟨hp, hresp, hthread⟩

theorem Tracking.respond (h : Tracking s) {notifId : Int32} {userResponse : GpsUserResponseType}
    (hown : s.OnlyOwn (.respond notifId userResponse)) (slot : Slot) :
    Tracked ((s.step (.respond notifId userResponse)).m.get slot)
      (s.step (.respond notifId userResponse)).m.threads slot
      ((s.step (.respond notifId userResponse)).tickets slot) := by
  have htracked := (h.tracked slot).respond s.m notifId userResponse
  simp only [step, NiModule.step, NiModule.threads_respond]
  rcases NiModule.get_respond s.m slot notifId userResponse with heq | ⟨hcb, hsel, heq⟩ | heq
  · rw [heq]
    exact htracked
  · rw [heq]
    refine htracked.answer rfl rfl fun hresp t ht => ?_
    obtain ⟨t', ht', rfl⟩ := Option.map_eq_some_iff.mp ht
    split
    · rfl
    · next hno =>
      rcases hown hcb hresp slot hsel t' ht' with hid | hnoresp
      · exact absurd ⟨hid.symm, hresp⟩ hno
      · exact hnoresp
  · rw [heq]
    have hno : gpsNiResponseIgnore ≠ gpsNiResponseNoresp := by decide
    exact htracked.answer rfl rfl fun hresp => absurd hresp hno

theorem Tracking.resetSession {m : NiModule} {tickets : Slot → Option Ticket}
    (h : ∀ slot, Tracked (m.get slot) m.threads slot (tickets slot)) (slot' slot : Slot) :
    Tracked ((m.resetSession slot').get slot) (m.resetSession slot').threads slot
      (tickets slot) := by
  rw [NiModule.get_resetSession, NiModule.threads_resetSession]
  split
  · exact tracked_of_none rfl _ _ _
  · exact h slot

/-- A thread's exit takes the request with it. -/
theorem Tracking.leave {m : NiModule} {tickets : Slot → Option Ticket}
    (h : ∀ slot, Tracked (m.get slot) m.threads slot (tickets slot)) {i : ℕ} {slot' : Slot}
    {p : Phase} (hi : m.threads[i]? = some ⟨slot', p⟩) (slot : Slot) :
    Tracked ((m.leave i slot').get slot) (m.leave i slot').threads slot (tickets slot) := by
  rw [NiModule.get_leave, NiModule.threads_leave]
  split
  · exact tracked_of_none rfl _ _ _
  · next hne => exact (h slot).set_of_ne hi hne _

/-- A thread goes on with the same sessions, and is on time if it is that of the request. -/
theorem Tracking.goOn {m : NiModule} {tickets : Slot → Option Ticket}
    (h : ∀ slot, Tracked (m.get slot) m.threads slot (tickets slot)) {i : ℕ} {slot' : Slot}
    {p q : Phase} (hi : m.threads[i]? = some ⟨slot', p⟩)
    (hq : ∀ t, tickets slot' = some t → OnTime (m.get slot') t p → OnTime (m.get slot') t q)
    (slot : Slot) :
    Tracked ((m.goOn i slot' q).get slot) (m.goOn i slot' q).threads slot (tickets slot) := by
  rw [NiModule.get_goOn]
  by_cases hslot : slot = slot'
  · subst hslot
    exact (h slot).set hi rfl rfl rfl (fun _ _ hontime => hontime) hq
  · exact (h slot).set_of_ne hi hslot q

theorem Tracking.start (h : Tracking s) (i : ℕ) (slot : Slot) :
    Tracked ((s.m.start i).get slot) (s.m.start i).threads slot (s.tickets slot) := by
  rcases s.m.start_cases i with heq | ⟨slot', hi, ⟨-, heq⟩ | heq⟩
  · rw [heq]
    exact h.tracked slot
  · rw [heq]
    exact Tracking.leave h.tracked hi slot
  · rw [heq]
    refine Tracking.goOn h.tracked hi (fun t ht hontime => ?_) slot
    -- the time is counted from now on, and the request was accepted before
    have hle := h.clock slot' t ht
    have htime : t.seconds ≤ (s.m.get slot').respTimeLeft.toInt := hontime
    simp only [OnTime, Ticket.due]
    omega

theorem Tracking.wake (h : Tracking s) (i : ℕ) (timedOut : Bool) (slot : Slot) :
    Tracked ((s.m.wake i timedOut).get slot) (s.m.wake i timedOut).threads slot
      (s.tickets slot) := by
  rcases s.m.wake_cases i timedOut with heq | ⟨slot', _, hi, ⟨-, -, heq⟩ | ⟨-, -, heq⟩⟩
  · rw [heq]
    exact h.tracked slot
  · rw [heq, NiModule.get_leave, NiModule.threads_leave, NiModule.threads_set]
    split
    · exact tracked_of_none rfl _ _ _
    · next hne =>
      rw [NiModule.get_set, if_neg hne]
      exact (h.tracked slot).set_of_ne hi hne _
  · rw [heq]
    exact Tracking.leave h.tracked hi slot

theorem Tracking.advance (h : Tracking s) {i : ℕ} (hown : s.OnlyOwn (.advance i)) (slot : Slot) :
    Tracked ((s.m.advance i).get slot) (s.m.advance i).threads slot (s.tickets slot) := by
  unfold NiModule.advance
  split
  · next slot' msg hi =>
    rw [NiModule.get_goOn, NiModule.get_set]
    by_cases hslot : slot = slot'
    · subst hslot
      rw [if_pos rfl]
      show Tracked _ ((s.m.set _ _).threads.set i _) slot _
      rw [NiModule.threads_set]
      intro payload hraw
      obtain ⟨t, ho, hp, hresp, hthread⟩ := h.tracked slot payload hraw
      refine ⟨t, ho, hp, hresp, fun j hj => ?_⟩
      obtain ⟨phase, hphase, hontime⟩ := hthread j hj
      by_cases hij : i = j
      · subst hij
        exact ⟨_, List.getElem?_set_self (List.getElem?_eq_some_iff.mp hi).1, trivial⟩
      · refine ⟨phase, (List.getElem?_set_ne hij).trans hphase, ?_⟩
        cases phase with
        | start =>
          -- the time is cleared only when it was over
          have hsome : (s.m.get slot).rawRequest.isSome = true := Option.isSome_iff_exists.mpr ⟨_, hraw⟩
          have hover := hown slot msg hi hsome t j ho hj hphase
          exact (hontime : t.seconds ≤ _).trans hover
        | waiting expireTime => exact hontime
        | unlocked msg => trivial
        | timeLeftCleared msg => trivial
        | reqIDCleared msg => trivial
        | done => trivial
    · rw [if_neg hslot]
      show Tracked _ ((s.m.set _ _).threads.set i _) slot _
      rw [NiModule.threads_set]
      exact (h.tracked slot).set_of_ne hi hslot _
  · next slot' msg hi =>
    rw [NiModule.get_goOn, NiModule.get_set]
    show Tracked _ ((s.m.set _ _).threads.set i _) slot _
    rw [NiModule.threads_set]
    by_cases hslot : slot = slot'
    · subst hslot
      rw [if_pos rfl]
      refine (h.tracked slot).set hi rfl rfl rfl (fun t phase hontime => ?_) fun _ _ _ => trivial
      cases phase <;> exact hontime
    · rw [if_neg hslot]
      exact (h.tracked slot).set_of_ne hi hslot _
  · next slot' msg hi =>
    have hgoOn := Tracking.goOn h.tracked hi (q := .done) (fun _ _ _ => trivial) slot
    split
    · cases slot <;> exact hgoOn
    · exact hgoOn
  · exact h.tracked slot

/-- **A step that lets no request have what is another's keeps track.** -/
theorem Tracking.step (h : Tracking s) (i : NiModule.Input) (hown : s.OnlyOwn i) :
    Tracking (s.step i) := by
  refine ⟨h.clock_step i, fun slot => ?_⟩
  cases i with
  | init => exact h.init slot
  | requestHandler notif passThrough created => exact h.requestHandler hown slot
  | respond notifId userResponse => exact h.respond hown slot
  | resetOnEngineRestart =>
    simp only [Watched.step, NiModule.step, NiModule.resetOnEngineRestart, Ticket.watch]
    split
    · exact h.tracked slot
    · exact Tracking.resetSession (Tracking.resetSession h.tracked .es) .supl slot
  | start i => exact h.start i slot
  | wake i timedOut => exact h.wake i timedOut slot
  | advance i => exact h.advance hown slot
  | process =>
    simp only [Watched.step, NiModule.step, NiModule.process, Ticket.watch]
    split
    · exact h.tracked slot
    · cases slot
      · exact h.tracked .supl
      · exact h.tracked .es
  | tick microseconds =>
    cases slot
    · exact h.tracked .supl
    · exact h.tracked .es

/-! ### What the steps create -/

theorem news_of_log {i : NiModule.Input} {es : List Event}
    (hlog : (s.m.step i).log = s.m.log ++ es) : s.news i = es := by
  rw [news, hlog, List.drop_left]

/-- A step that creates nothing is timely. -/
theorem timely_of_news {i : NiModule.Input} {es : List Event}
    (hlog : (s.m.step i).log = s.m.log ++ es) (hes : ∀ slot msg, .create slot msg ∉ es) :
    s.Timely i := by
  intro slot payload hmem
  rw [news_of_log hlog] at hmem
  exact absurd hmem (hes slot _)

/-- A thread that leaves creates at most an answer for the request that it finds. -/
theorem timely_of_leave {i : NiModule.Input} {m : NiModule} {k : ℕ} {slot : Slot}
    (hstep : s.m.step i = m.leave k slot) (hlog : m.log = s.m.log)
    (h : ∀ payload, (m.get slot).rawRequest = some payload →
      (m.get slot).resp = gpsNiResponseNoresp → ∃ t, s.tickets slot = some t ∧
        t.payload = some payload ∧ (t.noresp = true ∨
          (t.thread.isSome = true ∧ i.thread = t.thread ∧ t.due ≤ s.m.clock))) :
    s.Timely i := by
  intro slot' payload hmem
  rw [news_of_log (by rw [hstep, NiModule.log_leave, hlog])] at hmem
  obtain ⟨payload', hraw, heq⟩ := List.mem_map.mp hmem
  rw [Option.mem_toList] at hraw
  split at heq
  · obtain ⟨rfl, hmsg⟩ := Event.create.inj heq
    obtain ⟨hresp, rfl⟩ := InformNiResponse.mk.inj hmsg
    exact h payload' hraw hresp
  · cases heq

/-- A thread that starts or wakes up with an answer has one that its request was given. -/
theorem Tracking.timely_answered (h : Tracking s) {i : NiModule.Input} {k : ℕ} {slot : Slot}
    (hrecvd : (s.m.get slot).respRecvd = true) (hstep : s.m.step i = s.m.leave k slot) :
    s.Timely i := by
  refine timely_of_leave hstep rfl fun payload hraw hresp => ?_
  obtain ⟨t, ho, hp, hnoresp, -⟩ := h.tracked slot payload hraw
  exact ⟨t, ho, hp, .inl (hnoresp hrecvd hresp)⟩

theorem Tracking.timely_wake (h : Tracking s) {k : ℕ} {timedOut : Bool}
    (hown : s.OnlyOwn (.wake k timedOut)) : s.Timely (.wake k timedOut) := by
  rcases NiModule.wake_cases s.m k timedOut with
    hsame | ⟨slot, expireTime, hi, ⟨rfl, hexpired, hleave⟩ | ⟨-, hrecvd, hleave⟩⟩
  · exact timely_of_news ((congrArg NiModule.log hsame).trans (List.append_nil _).symm) nofun
  · refine timely_of_leave hleave (NiModule.log_set _ _ _) fun payload hraw _ => ?_
    rw [NiModule.get_set_self] at hraw
    obtain ⟨t, ho, hp, -, hthread⟩ := h.tracked slot payload hraw
    refine ⟨t, ho, hp, ?_⟩
    have hsome : (s.m.get slot).rawRequest.isSome = true := Option.isSome_iff_exists.mpr ⟨_, hraw⟩
    rcases hown slot expireTime hi hexpired hsome t ho with hk | hnoresp
    · -- the thread of the request has waited for its time
      obtain ⟨phase, hphase, hontime⟩ := hthread k hk
      obtain ⟨-, rfl⟩ := NiThread.mk.inj (Option.some.inj (hi.symm.trans hphase))
      exact .inr ⟨by rw [hk]; rfl, hk.symm, le_trans hontime hexpired⟩
    · exact .inl hnoresp
  · exact h.timely_answered hrecvd hleave

/-- **A step that lets no request have what is another's is timely.** -/
theorem Tracking.timely (h : Tracking s) (i : NiModule.Input) (hown : s.OnlyOwn i) :
    s.Timely i := by
  have hsame : (s.m.step i).log = s.m.log → s.Timely i := fun hlog =>
    timely_of_news (hlog.trans (List.append_nil _).symm) nofun
  cases i with
  | init =>
    refine hsame ?_
    simp only [NiModule.step, NiModule.init]
    split <;> rfl
  | requestHandler notif passThrough created =>
    obtain ⟨es, hlog, hes⟩ := NiModule.log_requestHandler s.m notif passThrough created
    exact timely_of_news hlog hes
  | respond notifId userResponse =>
    exact timely_of_news (NiModule.log_respond s.m notifId userResponse) (by simp)
  | resetOnEngineRestart =>
    obtain ⟨es, hlog, hes⟩ := NiModule.log_resetOnEngineRestart s.m
    exact timely_of_news hlog hes
  | start k =>
    rcases NiModule.start_cases s.m k with heq | ⟨slot, -, ⟨hrecvd, heq⟩ | heq⟩
    · exact hsame (congrArg NiModule.log heq)
    · exact h.timely_answered hrecvd heq
    · exact hsame ((congrArg NiModule.log heq).trans (NiModule.log_goOn _ _ _ _))
  | wake k timedOut => exact h.timely_wake hown
  | advance k =>
    obtain ⟨es, hlog, hes⟩ := NiModule.log_advance s.m k
    exact timely_of_news hlog hes
  | process =>
    obtain ⟨es, hlog, hes⟩ := NiModule.log_process s.m
    exact timely_of_news hlog hes
  | tick microseconds => exact hsame rfl

end Steps

/-! ### Runs -/

/-- **No answer is premature**, in a run that lets no request have another one's answer, time or
thread: every answer `GPS_NI_RESPONSE_NORESP` that a step creates was given to its request, or is
created by the request's thread when its time is over. -/
theorem timely_exec (is : List NiModule.Input) (his : StepsMeet step OnlyOwn zero is) :
    StepsMeet step Timely zero is := by
  have hstep : ∀ (s : Watched) i, Tracking s → s.OnlyOwn i → Tracking (s.step i) :=
    fun s i h hown => h.step i hown
  have htimely : ∀ (s : Watched) i, Tracking s → s.OnlyOwn i → s.Timely i :=
    fun s i h hown => h.timely i hown
  exact stepsMeet_of_inv hstep htimely is zero tracking_zero his

/-- A request is not answered, and its thread answers for it. -/
def timedOut : List NiModule.Input :=
  [.init, .requestHandler ⟨1, 0, 0⟩ (some 1) true, .start 0, .tick 25000000, .wake 0 true]

theorem timely_exec_timedOut :
    .create .supl ⟨gpsNiResponseNoresp, 1⟩ ∈ (exec step zero timedOut).m.log ∧
      StepsMeet step Timely zero timedOut := by
  refine ⟨by decide, timely_exec timedOut ⟨trivial, ?_, trivial, trivial, ?_, trivial⟩⟩
  · intro _ _ slot _
    refine ⟨by decide, ?_⟩
    cases slot <;> decide
  · intro slot expireTime hi _ _ t ht
    cases hi
    cases ht
    exact .inl rfl

/-- A request has timed out; the next one is reset before its thread wakes up, and the thread then
finds a third one. -/
def staleNoresp : List NiModule.Input :=
  [.init, .requestHandler ⟨1, 0, 0⟩ (some 1) true, .start 0, .tick 25000000, .wake 0 true,
    .advance 0, .advance 0, .advance 0, .requestHandler ⟨1, 0, 0⟩ (some 2) true, .start 1,
    .resetOnEngineRestart, .requestHandler ⟨1, 0, 0⟩ (some 3) true]

/-- The third request is answered `GPS_NI_RESPONSE_NORESP` as soon as it is accepted, by a thread
that was created for another one. -/
theorem not_timely_staleNoresp :
    let s := exec step zero staleNoresp
    s.tickets .supl = some ⟨some 3, 3, 25000000, 25, some 2, false⟩ ∧ s.m.clock = 25000000 ∧
      .create .supl ⟨gpsNiResponseNoresp, 3⟩ ∈ s.news (.wake 1 false) ∧
      ¬ s.Timely (.wake 1 false) := by
  refine ⟨by decide, by decide, by decide, fun h => ?_⟩
  obtain ⟨t, ht, -, hwhy⟩ := h .supl 3 (by decide)
  obtain rfl : t = ⟨some 3, 3, 25000000, 25, some 2, false⟩ :=
    Option.some.inj (ht.symm.trans (by decide))
  revert hwhy
  decide

end Watched
end Ni
end Nx507j
