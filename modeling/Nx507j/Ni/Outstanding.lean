import Mathlib.Data.List.Basic
import Nx507j.Ni.Consent

/-!
# Outstanding requests

A session that holds a request is busy, and takes no other one.  It is served as long as a
thread is left that will come to its exit, and it can be answered as long as it has the id that
the request was notified with.

## Main definitions

* `NiModule.Served` — every session that holds a request has a thread that has not come to its
  exit.
* `NiModule.Answerable` — every session that holds a request is selected by the id that the
  request was notified with.

## Main results

* `NiModule.served_always_iff` — the runs throughout which no session is left without a thread.
* `NiModule.answerable_always_iff` — the runs throughout which every request can be answered.
-/

namespace Nx507j
namespace Ni

open Run

/-! ### Threads -/

/-- The thread has not come to its exit. -/
def Phase.beforeExit : Phase → Bool
  | .start | .waiting _ => true
  | _ => false

namespace NiModule

/-! ### Sessions that are served -/

/-- There is a thread of the session that has not come to its exit. -/
def HasThread (m : NiModule) (slot : Slot) : Prop :=
  ∃ th ∈ m.threads, th.slot = slot ∧ th.phase.beforeExit = true

instance (m : NiModule) (slot : Slot) : Decidable (m.HasThread slot) :=
  inferInstanceAs (Decidable (∃ th ∈ m.threads, th.slot = slot ∧ th.phase.beforeExit = true))

/-- Every session that holds a request has a thread that has not come to its exit. -/
def Served (m : NiModule) : Prop := ∀ slot, (m.get slot).rawRequest.isSome → m.HasThread slot

/-- A request that a session takes gets a thread, if the session has none left. -/
def ThreadCreated (m : NiModule) : Input → Prop
  | .requestHandler notif passThrough threadCreated =>
    m.niNotifyCb = true → passThrough.isSome = true → ∀ slot, m.accepts notif = some slot →
      threadCreated = true ∨ m.HasThread slot
  | _ => True

theorem served_zero : Served zero := by
  intro slot hraw
  cases slot <;> cases hraw

theorem HasThread.congr {m m' : NiModule} {slot : Slot} (h : m.HasThread slot)
    (hthreads : m'.threads = m.threads) : m'.HasThread slot := by
  obtain ⟨th, hth, hslot, hphase⟩ := h
  exact ⟨th, hthreads ▸ hth, hslot, hphase⟩

/-- A thread that goes on is still there, unless it comes to its exit. -/
theorem HasThread.set {m m' : NiModule} {slot slot' : Slot} {i : ℕ} {p q : Phase}
    (h : m.HasThread slot) (hi : m.threads[i]? = some ⟨slot', p⟩)
    (hthreads : m'.threads = m.threads.set i ⟨slot', q⟩)
    (hkeep : slot ≠ slot' ∨ p.beforeExit = false ∨ q.beforeExit = true) : m'.HasThread slot := by
  obtain ⟨th, hth, rfl, hphase⟩ := h
  obtain ⟨k, hk⟩ := List.mem_iff_getElem?.mp hth
  by_cases hki : i = k
  · subst hki
    obtain rfl : th = ⟨slot', p⟩ := Option.some.inj (hk.symm.trans hi)
    have hq : q.beforeExit = true := by
      rcases hkeep with hne | hp | hq
      · exact absurd rfl hne
      · exact absurd hphase (by rw [hp]; exact Bool.false_ne_true)
      · exact hq
    have hlt := (List.getElem?_eq_some_iff.mp hi).1
    exact ⟨⟨slot', q⟩, by rw [hthreads]; exact List.mem_set hlt _, rfl, hq⟩
  · refine ⟨th, ?_, rfl, hphase⟩
    rw [hthreads]
    exact List.mem_of_getElem? ((List.getElem?_set_ne hki).trans hk)

/-- Sessions that hold no other requests, with the same threads, are served. -/
theorem Served.congr {m m' : NiModule} (h : Served m)
    (hget : ∀ slot, (m'.get slot).rawRequest = (m.get slot).rawRequest ∨
      (m'.get slot).rawRequest = none)
    (hthreads : m'.threads = m.threads) : Served m' := by
  intro slot hraw
  rcases hget slot with heq | hnone
  · rw [heq] at hraw
    exact (h slot hraw).congr hthreads
  · rw [hnone] at hraw
    cases hraw

theorem Served.answer {m : NiModule} (h : Served m) (slot : Slot) (resp : GpsUserResponseType) :
    Served (m.answer slot resp) :=
  h.congr (fun slot' => .inl (rawRequest_answer m slot slot' resp)) (threads_answer m slot resp)

theorem Served.respond {m : NiModule} (h : Served m) (notifId : Int32)
    (userResponse : GpsUserResponseType) : Served (m.respond notifId userResponse) := by
  have hsaid : Served (m.say (.respond notifId userResponse)) :=
    h.congr (fun slot => .inl (by rw [get_say])) rfl
  rcases m.respond_cases notifId userResponse with heq | ⟨slot, m', -, -, rfl | ⟨-, rfl⟩, heq⟩
  · rw [heq]
    exact hsaid
  · rw [heq]
    exact hsaid.answer slot userResponse
  · rw [heq]
    exact (hsaid.answer _ _).answer slot userResponse

theorem Served.resetSession {m : NiModule} (h : Served m) (slot : Slot) :
    Served (m.resetSession slot) := by
  refine h.congr (fun slot' => ?_) (threads_resetSession m slot)
  rw [get_resetSession]
  split
  · exact .inr rfl
  · exact .inl rfl

/-- A thread's exit takes the request with it. -/
theorem Served.leave {m : NiModule} (h : Served m) {slot : Slot} {i : ℕ} {p : Phase}
    (hi : m.threads[i]? = some ⟨slot, p⟩) : Served (m.leave i slot) := by
  intro slot' hraw
  rw [get_leave] at hraw
  split at hraw
  · cases hraw
  · next hne => exact (h slot' hraw).set hi (threads_leave m slot i) (.inl hne)

/-- A thread that goes on, and has come to its exit or does not come to it. -/
theorem Served.goOn {m : NiModule} (h : Served m) {slot : Slot} {i : ℕ} {p q : Phase}
    (hi : m.threads[i]? = some ⟨slot, p⟩) (hkeep : p.beforeExit = false ∨ q.beforeExit = true) :
    Served (m.goOn i slot q) := by
  intro slot' hraw
  rw [get_goOn] at hraw
  exact (h slot' hraw).set hi rfl (.inr hkeep)

theorem Served.start {m : NiModule} (h : Served m) (i : ℕ) : Served (m.start i) := by
  rcases m.start_cases i with heq | ⟨slot, hi, ⟨-, heq⟩ | heq⟩
  · rw [heq]
    exact h
  · rw [heq]
    exact h.leave hi
  · rw [heq]
    exact h.goOn hi (.inr rfl)

/-- What is stored in a session beside its request. -/
theorem Served.set {m : NiModule} (h : Served m) {slot : Slot} {s : NiSession}
    (hs : s.rawRequest = (m.get slot).rawRequest) : Served (m.set slot s) := by
  refine h.congr (fun slot' => .inl ?_) (threads_set _ _ _)
  rw [get_set]
  split
  · next heq => rw [heq, hs]
  · rfl

theorem Served.wake {m : NiModule} (h : Served m) (i : ℕ) (timedOut : Bool) :
    Served (m.wake i timedOut) := by
  rcases m.wake_cases i timedOut with heq | ⟨slot, _, hi, ⟨-, -, heq⟩ | ⟨-, -, heq⟩⟩
  · rw [heq]
    exact h
  · rw [heq]
    have hset : Served (m.set slot { m.get slot with resp := gpsNiResponseNoresp }) := h.set rfl
    exact hset.leave (by rw [threads_set]; exact hi)
  · rw [heq]
    exact h.leave hi

theorem Served.advance {m : NiModule} (h : Served m) (i : ℕ) : Served (m.advance i) := by
  unfold NiModule.advance
  split
  · next slot msg hi =>
    have hcleared : Served (m.set slot { m.get slot with respTimeLeft := 0 }) := h.set rfl
    exact hcleared.goOn (by rw [threads_set]; exact hi) (.inl rfl)
  · next slot msg hi =>
    have hcleared : Served (m.set slot { m.get slot with reqID := 0 }) := h.set rfl
    exact hcleared.goOn (by rw [threads_set]; exact hi) (.inl rfl)
  · split
    · next slot msg msg' hi =>
      have hqueue : Served ({ m with queue := m.queue ++ [msg'] }.say (.sendMsg msg')) :=
        h.congr (fun slot' => .inl (by cases slot' <;> rfl)) rfl
      exact hqueue.goOn hi (.inl rfl)
    · next slot msg hi => exact h.goOn hi (.inl rfl)
  · exact h

/-- **A request that a session takes is served exactly when it gets a thread, or one is left.** -/
theorem Served.requestHandler_iff {m : NiModule} (h : Served m) (notif : GpsNiNotification)
    (passThrough : Option Payload) (threadCreated : Bool) :
    Served (m.requestHandler notif passThrough threadCreated) ↔
      m.ThreadCreated (.requestHandler notif passThrough threadCreated) := by
  rcases m.requestHandler_cases notif passThrough threadCreated with
    ⟨slot, hcb, hacc, heq⟩ | ⟨hno, hrefused⟩
  · rw [heq]
    constructor
    · intro hserved _ hpass slot' hslot
      obtain rfl : slot = slot' := Option.some.inj (hacc.symm.trans hslot)
      refine or_iff_not_imp_left.mpr fun hno => ?_
      have hthread := hserved slot (by rw [get_accept, get_save, if_pos rfl]; exact hpass)
      rw [Bool.not_eq_true] at hno
      exact hthread.congr (by rw [threads_accept, hno]; rfl)
    · intro hcreated slot' hraw
      rw [get_accept, get_save] at hraw
      -- the threads that were there are still there
      have hold : m.HasThread slot' →
          (m.accept slot notif passThrough threadCreated).HasThread slot' := by
        rintro ⟨th, hth, hrest⟩
        refine ⟨th, ?_, hrest⟩
        rw [threads_accept]
        cases threadCreated with
        | true => exact List.mem_append_left _ hth
        | false => exact hth
      split at hraw
      · next hslot =>
        subst hslot
        rcases hcreated hcb hraw slot' hacc with rfl | hthread
        · exact ⟨⟨slot', .start⟩, by rw [threads_accept]; simp, rfl, rfl⟩
        · exact hold hthread
      · exact hold (h slot' hraw)
  · refine iff_of_true ?_ fun hcb _ slot hacc => absurd hacc (hno slot hcb)
    rcases hrefused with ⟨heq, -⟩ | ⟨-, payload, -, heq⟩
    · rw [heq]
      exact h
    · rw [heq]
      exact h.congr (fun slot => .inl (by rw [get_say])) rfl

/-- **A step keeps the sessions served exactly when a request that it takes gets a thread, or one
is left.** -/
theorem Served.step_iff {m : NiModule} (h : Served m) (i : Input) :
    Served (m.step i) ↔ m.ThreadCreated i := by
  cases i with
  | init =>
    refine iff_of_true ?_ trivial
    simp only [NiModule.step, NiModule.init]
    split
    · exact h
    · exact h.congr (fun slot => .inr (by cases slot <;> rfl)) rfl
  | requestHandler notif passThrough threadCreated =>
    exact h.requestHandler_iff notif passThrough threadCreated
  | respond notifId userResponse => exact iff_of_true (h.respond notifId userResponse) trivial
  | resetOnEngineRestart =>
    refine iff_of_true ?_ trivial
    simp only [NiModule.step, NiModule.resetOnEngineRestart]
    split
    · exact h
    · exact (h.resetSession .es).resetSession .supl
  | start i => exact iff_of_true (h.start i) trivial
  | wake i timedOut => exact iff_of_true (h.wake i timedOut) trivial
  | advance i => exact iff_of_true (h.advance i) trivial
  | process =>
    refine iff_of_true ?_ trivial
    simp only [NiModule.step, NiModule.process]
    split
    · exact h
    · exact h.congr (fun slot => .inl (by cases slot <;> rfl)) rfl
  | tick microseconds =>
    exact iff_of_true (h.congr (fun slot => .inl (by cases slot <;> rfl)) rfl) trivial

/-- **When no session is ever left without a thread**: exactly when every request that a session
takes gets a thread, or finds one of the session that has not come to its exit. -/
theorem served_always_iff (is : List Input) :
    Always step Served zero is ↔ StepsMeet step ThreadCreated zero is := by
  have hinv : ∀ (m : NiModule) (_ : Input), True → Served m → True := fun _ _ _ _ => trivial
  exact always_iff_stepsMeet hinv (fun _ i _ h => h.step_iff i) is zero trivial served_zero

/-- Without a thread a session stays busy. -/
theorem not_served_threadCreated_false :
    let m := exec step zero [.init, .requestHandler ⟨1, 0, 0⟩ (some 1) false]
    m.session.rawRequest = some 1 ∧ ¬ Served m := by
  refine ⟨by decide, fun h => ?_⟩
  have hthread := h .supl (by decide)
  revert hthread
  decide

/-! ### Requests that can be answered -/

/-- The session has the id that its request was notified with. -/
def Named (s : NiSession) (o : Option Heard) : Prop :=
  ∀ payload, s.rawRequest = some payload →
    ∃ h, o = some h ∧ h.request = some payload ∧ s.reqID = h.id

/-- Every session that holds a request has the id that the request was notified with, and an
answer under this id is one for the session. -/
def Answerable (m : NiModule) : Prop :=
  ∀ slot payload, (m.get slot).rawRequest = some payload →
    ∃ h, heard slot m.log = some h ∧ h.request = some payload ∧ (m.get slot).reqID = h.id ∧
      m.selects h.id = some slot

/-- No id is lost: a thread that clears the id of its session finds no request there, or no id,
and an emergency request does not get the id of the other one. -/
def KeepsId (m : NiModule) : Input → Prop
  | .requestHandler notif passThrough _ =>
    m.niNotifyCb = true → passThrough.isSome = true → m.accepts notif = some .es →
      m.session.rawRequest.isSome = true → m.session.reqID ≠ m.reqIDCounter + 1
  | .advance i =>
    ∀ slot msg, m.threads[i]? = some ⟨slot, .timeLeftCleared msg⟩ →
      (m.get slot).rawRequest.isSome = true → (m.get slot).reqID = 0
  | _ => True

/-- The two sessions do not hold requests under one id. -/
def Distinct (m : NiModule) : Prop :=
  m.session.rawRequest.isSome = true → m.sessionEs.rawRequest.isSome = true →
    m.session.reqID ≠ m.sessionEs.reqID

/-- A request can be answered when its session has its id, and the other one has not. -/
theorem answerable_iff (m : NiModule) :
    Answerable m ↔ (∀ slot, Named (m.get slot) (heard slot m.log)) ∧ Distinct m := by
  constructor
  · intro h
    refine ⟨fun slot payload hraw => ?_, fun hsupl hes heq => ?_⟩
    · obtain ⟨h', ho, hreq, hid, -⟩ := h slot payload hraw
      exact ⟨h', ho, hreq, hid⟩
    · obtain ⟨payload, hraw⟩ := Option.isSome_iff_exists.mp hsupl
      obtain ⟨h', -, -, hid, hsel⟩ := h .supl payload hraw
      have hid' : h'.id = m.sessionEs.reqID := hid.symm.trans heq
      rw [selects, if_pos ⟨hid', hes⟩] at hsel
      cases hsel
  · rintro ⟨hnamed, hdistinct⟩ slot payload hraw
    obtain ⟨h', ho, hreq, hid⟩ := hnamed slot payload hraw
    refine ⟨h', ho, hreq, hid, ?_⟩
    have hsome : (m.get slot).rawRequest.isSome = true := by
      rw [hraw]
      rfl
    rw [selects, ← hid]
    cases slot with
    | es => exact if_pos ⟨rfl, hsome⟩
    | supl =>
      rw [if_neg fun hes => hdistinct hsome hes.2 hes.1]
      exact if_pos ⟨rfl, hsome⟩

theorem answerable_zero : Answerable zero := by
  intro slot payload hraw
  cases slot <;> cases hraw

/-- What is heard of a session's request names it, whatever else is heard. -/
theorem Named.hear {s : NiSession} {o : Option Heard} (h : Named s o) {slot : Slot} {e : Event}
    (he : ∀ payload id, e ≠ .notifyCb slot payload id) : Named s (hear slot o e) := by
  intro payload hraw
  obtain ⟨h', rfl, hreq, hid⟩ := h payload hraw
  cases e with
  | notifyCb slot' payload' id =>
    refine ⟨h', if_neg ?_, hreq, hid⟩
    rintro rfl
    exact he payload' id rfl
  | respond id resp =>
    refine ⟨_, rfl, ?_⟩
    dsimp only
    split
    · exact ⟨hreq, hid⟩
    · exact ⟨hreq, hid⟩
  | create slot' msg => exact ⟨h', rfl, hreq, hid⟩
  | sendMsg msg => exact ⟨h', rfl, hreq, hid⟩
  | inform msg => exact ⟨h', rfl, hreq, hid⟩
  | free payload' => exact ⟨h', rfl, hreq, hid⟩
  | muteOneSession => exact ⟨h', rfl, hreq, hid⟩

/-- Nothing is outstanding afterwards that was not, and no request has been notified. -/
structure Drops (m m' : NiModule) : Prop where
  get : ∀ slot, (m'.get slot).rawRequest = none ∨
    (m'.get slot).rawRequest = (m.get slot).rawRequest ∧ (m'.get slot).reqID = (m.get slot).reqID
  heard : ∀ slot s, Named s (heard slot m.log) → Named s (heard slot m'.log)

section Drops

variable {m m' m'' : NiModule}

theorem Drops.of_eq (hget : ∀ slot, m'.get slot = m.get slot) (hlog : m'.log = m.log) :
    Drops m m' where
  get slot := .inr (by rw [hget]; exact ⟨rfl, rfl⟩)
  heard slot s h := by rwa [hlog]

theorem Drops.refl (m : NiModule) : Drops m m := .of_eq (fun _ => rfl) rfl

theorem Drops.trans (h : Drops m m') (h' : Drops m' m'') : Drops m m'' where
  get slot := by
    rcases h'.get slot with hnone | ⟨hraw', hid'⟩
    · exact .inl hnone
    · rcases h.get slot with hnone | ⟨hraw, hid⟩
      · exact .inl (hraw'.trans hnone)
      · exact .inr ⟨hraw'.trans hraw, hid'.trans hid⟩
  heard slot s hn := h'.heard slot s (h.heard slot s hn)

theorem Drops.say (h : Drops m m') (e : Event)
    (he : ∀ slot payload id, e ≠ .notifyCb slot payload id) : Drops m (m'.say e) :=
  h.trans
    { get := fun slot => .inr (by rw [get_say]; exact ⟨rfl, rfl⟩)
      heard := fun slot s hn => by
        rw [log_say, heard_concat]
        exact hn.hear (he slot) }

theorem Drops.set (h : Drops m m') {slot : Slot} {s : NiSession}
    (hs : s.rawRequest = none ∨
      s.rawRequest = (m'.get slot).rawRequest ∧ s.reqID = (m'.get slot).reqID) :
    Drops m (m'.set slot s) :=
  h.trans
    { get := fun slot' => by
        rw [get_set]
        split
        · next heq => rw [heq]; exact hs
        · exact .inr ⟨rfl, rfl⟩
      heard := fun slot' s hn => by rwa [log_set] }

theorem Drops.answer (h : Drops m m') (slot : Slot) (resp : GpsUserResponseType) :
    Drops m (m'.answer slot resp) := h.set (.inr ⟨rfl, rfl⟩)

theorem Drops.goOn (h : Drops m m') (i : ℕ) (slot : Slot) (phase : Phase) :
    Drops m (m'.goOn i slot phase) := h.trans (.of_eq (fun _ => get_goOn _ _ _ _ _) rfl)

theorem Drops.resetSession (h : Drops m m') (slot : Slot) : Drops m (m'.resetSession slot) := by
  unfold NiModule.resetSession
  split
  · next payload _ => exact (h.say (.free payload) nofun).set (.inl rfl)
  · exact h

theorem Drops.leave (h : Drops m m') (i : ℕ) (slot : Slot) : Drops m (m'.leave i slot) := by
  have hexit : Drops m (m'.exitLocked slot).2 := by
    unfold exitLocked
    dsimp only
    split
    · split
      · exact (h.set (.inl rfl)).say _ nofun
      · exact (h.set (.inl rfl)).say _ nofun
    · exact h.set (.inl rfl)
  exact hexit.goOn i slot _

theorem drops_init (m : NiModule) : Drops m m.init := by
  unfold NiModule.init
  split
  · exact .refl m
  · exact ⟨fun slot => .inl (by cases slot <;> rfl), fun _ _ hn => hn⟩

theorem drops_respond (m : NiModule) (notifId : Int32) (userResponse : GpsUserResponseType) :
    Drops m (m.respond notifId userResponse) := by
  have hsaid : Drops m (m.say (.respond notifId userResponse)) := (Drops.refl m).say _ nofun
  rcases m.respond_cases notifId userResponse with heq | ⟨slot, m', -, -, rfl | ⟨-, rfl⟩, heq⟩
  · rw [heq]
    exact hsaid
  · rw [heq]
    exact hsaid.answer _ _
  · rw [heq]
    exact (hsaid.answer _ _).answer _ _

theorem drops_resetOnEngineRestart (m : NiModule) : Drops m m.resetOnEngineRestart := by
  unfold NiModule.resetOnEngineRestart
  split
  · exact .refl m
  · exact ((Drops.refl m).resetSession .es).resetSession .supl

theorem drops_start (m : NiModule) (i : ℕ) : Drops m (m.start i) := by
  rcases m.start_cases i with heq | ⟨slot, -, ⟨-, heq⟩ | heq⟩
  · rw [heq]
    exact .refl m
  · rw [heq]
    exact (Drops.refl m).leave i slot
  · rw [heq]
    exact (Drops.refl m).goOn i slot _

theorem drops_wake (m : NiModule) (i : ℕ) (timedOut : Bool) : Drops m (m.wake i timedOut) := by
  rcases m.wake_cases i timedOut with heq | ⟨slot, _, -, ⟨-, -, heq⟩ | ⟨-, -, heq⟩⟩
  · rw [heq]
    exact .refl m
  · rw [heq]
    have hset : Drops m (m.set slot { m.get slot with resp := gpsNiResponseNoresp }) :=
      (Drops.refl m).set (.inr ⟨rfl, rfl⟩)
    exact hset.leave i slot
  · rw [heq]
    exact (Drops.refl m).leave i slot

theorem drops_process (m : NiModule) : Drops m m.process := by
  unfold NiModule.process
  split
  · exact .refl m
  · next msg queue _ =>
    have hqueue : Drops m { m with queue := queue } :=
      .of_eq (fun slot => by cases slot <;> rfl) rfl
    exact (hqueue.say (.inform msg) nofun).say _ nofun

/-- What only drops requests leaves the others answerable. -/
theorem Answerable.drops (h : Answerable m) (hd : Drops m m') : Answerable m' := by
  obtain ⟨hnamed, hdistinct⟩ := (answerable_iff m).mp h
  refine (answerable_iff m').mpr ⟨fun slot payload hraw => ?_, fun hsupl hes heq => ?_⟩
  · rcases hd.get slot with hnone | ⟨hraw', hid'⟩
    · rw [hnone] at hraw
      cases hraw
    · rw [hid']
      exact hd.heard slot (m.get slot) (hnamed slot) payload (hraw'.symm.trans hraw)
  · rcases hd.get .supl with hnone | ⟨hraw, hid⟩
    · rw [show m'.session.rawRequest = none from hnone] at hsupl
      cases hsupl
    · rcases hd.get .es with hnone | ⟨hraw', hid'⟩
      · rw [show m'.sessionEs.rawRequest = none from hnone] at hes
        cases hes
      · refine hdistinct ?_ ?_ (hid.symm.trans (heq.trans hid'))
        · rw [← show m'.session.rawRequest = m.session.rawRequest from hraw]
          exact hsupl
        · rw [← show m'.sessionEs.rawRequest = m.sessionEs.rawRequest from hraw']
          exact hes

end Drops

/-- What has been heard when a request has been accepted. -/
theorem heard_accept (m : NiModule) (slot slot' : Slot) (notif : GpsNiNotification)
    (passThrough : Option Payload) (created : Bool) :
    heard slot' (m.accept slot notif passThrough created).log =
      if slot = slot' then some ⟨passThrough, m.reqIDCounter + 1, []⟩ else heard slot' m.log := by
  rw [log_accept, heard_concat]
  split <;> simp [heard_concat, hear]

/-- What a session that takes a request has to keep apart. -/
theorem Answerable.accept_iff {m : NiModule} (h : Answerable m) {slot : Slot}
    {notif : GpsNiNotification} (hacc : m.accepts notif = some slot)
    (passThrough : Option Payload) (created : Bool) :
    Answerable (m.accept slot notif passThrough created) ↔
      (passThrough.isSome = true → slot = .es → m.session.rawRequest.isSome = true →
        m.session.reqID ≠ m.reqIDCounter + 1) := by
  obtain ⟨hnamed, -⟩ := (answerable_iff m).mp h
  rw [answerable_iff]
  -- the new request has the id that it is notified with, and the other session has kept its own
  have hnamed' : ∀ slot', Named ((m.accept slot notif passThrough created).get slot')
      (heard slot' (m.accept slot notif passThrough created).log) := by
    intro slot' payload hraw
    rw [get_accept, get_save] at hraw ⊢
    rw [heard_accept]
    by_cases heq : slot' = slot
    · rw [if_pos heq] at hraw ⊢
      rw [if_pos heq.symm]
      exact ⟨_, rfl, hraw, rfl⟩
    · rw [if_neg heq] at hraw ⊢
      rw [if_neg fun heq' => heq heq'.symm]
      exact hnamed slot' payload hraw
  rw [and_iff_right hnamed']
  have hget := fun slot' => (get_accept m slot slot' notif passThrough created).trans
    (get_save m slot slot' notif passThrough)
  have hsupl := hget .supl
  have hes := hget .es
  cases slot with
  | supl =>
    -- a request is taken here only when there is no emergency request
    have hnone : m.sessionEs.rawRequest = none := (m.rawRequest_of_accepts .supl hacc).2
    have hes' : (m.accept .supl notif passThrough created).sessionEs = m.sessionEs := hes
    refine iff_of_true (fun _ hsome => ?_) (fun _ heq => by cases heq)
    rw [hes', hnone] at hsome
    cases hsome
  | es =>
    have hsupl' : (m.accept .es notif passThrough created).session = m.session := hsupl
    unfold Distinct
    rw [hsupl', show (m.accept .es notif passThrough created).sessionEs = _ from hes]
    constructor
    · intro hdistinct hpass _ hsome
      exact hdistinct hsome hpass
    · intro hkeep hsome hpass
      exact hkeep hpass rfl hsome

theorem Answerable.requestHandler_iff {m : NiModule} (h : Answerable m)
    (notif : GpsNiNotification) (passThrough : Option Payload) (threadCreated : Bool) :
    Answerable (m.requestHandler notif passThrough threadCreated) ↔
      m.KeepsId (.requestHandler notif passThrough threadCreated) := by
  rcases m.requestHandler_cases notif passThrough threadCreated with
    ⟨slot, hcb, hacc, heq⟩ | ⟨hno, hrefused⟩
  · rw [heq]
    refine (h.accept_iff hacc passThrough threadCreated).trans ?_
    constructor
    · intro hkeep _ hpass hes
      exact hkeep hpass (Option.some.inj (hacc.symm.trans hes))
    · rintro hkeep hpass rfl
      exact hkeep hcb hpass hacc
  · refine iff_of_true ?_ fun hcb _ hes => absurd hes (hno .es hcb)
    rcases hrefused with ⟨heq, -⟩ | ⟨-, payload, -, heq⟩
    · rw [heq]
      exact h
    · rw [heq]
      exact h.drops ((Drops.refl m).say _ nofun)

/-- The store of a thread that clears the id of its session. -/
theorem Answerable.advance_iff {m : NiModule} (h : Answerable m) (i : ℕ) :
    Answerable (m.advance i) ↔ m.KeepsId (.advance i) := by
  unfold NiModule.advance
  split
  · next slot msg hi =>
    refine iff_of_true (h.drops ?_) fun slot' msg' hi' => ?_
    · have hset : Drops m (m.set slot { m.get slot with respTimeLeft := 0 }) :=
        (Drops.refl m).set (.inr ⟨rfl, rfl⟩)
      exact hset.goOn i slot _
    · rw [hi] at hi'
      cases hi'
  · next slot msg hi =>
    constructor
    · intro hans slot' msg' hi' hsome
      obtain ⟨rfl, -⟩ := NiThread.mk.inj (Option.some.inj (hi.symm.trans hi'))
      obtain ⟨payload, hraw⟩ := Option.isSome_iff_exists.mp hsome
      have hget : (goOn i slot (.reqIDCleared msg) (m.set slot { m.get slot with reqID := 0 })).get
          slot = { m.get slot with reqID := 0 } := by
        rw [get_goOn, get_set_self]
      have hlog : (goOn i slot (.reqIDCleared msg) (m.set slot { m.get slot with reqID := 0 })).log =
          m.log := log_set _ _ _
      -- what has been heard of the request is its id before the store, and after it
      obtain ⟨h₁, ho₁, -, hid₁, -⟩ := h slot payload hraw
      obtain ⟨h₂, ho₂, -, hid₂, -⟩ := hans slot payload (by rw [hget]; exact hraw)
      rw [hlog] at ho₂
      rw [hget] at hid₂
      obtain rfl := Option.some.inj (ho₁.symm.trans ho₂)
      exact hid₁.trans hid₂.symm
    · intro hkeep
      refine h.drops ?_
      have hset : Drops m (m.set slot { m.get slot with reqID := 0 }) := by
        refine (Drops.refl m).set ?_
        cases hraw : (m.get slot).rawRequest with
        | none => exact .inl rfl
        | some payload =>
          have hid := hkeep slot msg hi (by rw [hraw]; rfl)
          exact .inr ⟨rfl, hid.symm⟩
      exact hset.goOn i slot _
  · next slot msg hi =>
    refine iff_of_true (h.drops ?_) fun slot' msg' hi' => ?_
    · split
      · next msg' =>
        have hqueue : Drops m { m with queue := m.queue ++ [msg'] } :=
          .of_eq (fun slot => by cases slot <;> rfl) rfl
        exact (hqueue.say (.sendMsg msg') nofun).goOn i slot _
      · exact (Drops.refl m).goOn i slot _
    · rw [hi] at hi'
      cases hi'
  · next _ hno _ =>
    exact iff_of_true h fun slot msg hi => absurd hi (hno slot msg)

/-- **A step keeps the requests answerable exactly when it loses no id.** -/
theorem Answerable.step_iff {m : NiModule} (h : Answerable m) (i : Input) :
    Answerable (m.step i) ↔ m.KeepsId i := by
  cases i with
  | init => exact iff_of_true (h.drops (drops_init m)) trivial
  | requestHandler notif passThrough threadCreated =>
    exact h.requestHandler_iff notif passThrough threadCreated
  | respond notifId userResponse =>
    exact iff_of_true (h.drops (drops_respond m notifId userResponse)) trivial
  | resetOnEngineRestart => exact iff_of_true (h.drops (drops_resetOnEngineRestart m)) trivial
  | start i => exact iff_of_true (h.drops (drops_start m i)) trivial
  | wake i timedOut => exact iff_of_true (h.drops (drops_wake m i timedOut)) trivial
  | advance i => exact h.advance_iff i
  | process => exact iff_of_true (h.drops (drops_process m)) trivial
  | tick microseconds =>
    exact iff_of_true (h.drops (.of_eq (fun slot => by cases slot <;> rfl) rfl)) trivial

/-- **When every outstanding request can always be answered**: exactly when no thread clears the
id of a session that has taken another request, and no emergency request gets the id of the
request that the other session holds. -/
theorem answerable_always_iff (is : List Input) :
    Always step Answerable zero is ↔ StepsMeet step KeepsId zero is := by
  have hinv : ∀ (m : NiModule) (_ : Input), True → Answerable m → True := fun _ _ _ _ => trivial
  exact always_iff_stepsMeet hinv (fun _ i _ h => h.step_iff i) is zero trivial answerable_zero

/-- A thread that has left the lock clears the id of the request that was taken since. -/
theorem not_answerable_idCleared :
    let m := exec step zero
      [.init, .requestHandler ⟨1, 0, 0⟩ (some 1) true, .respond 1 gpsNiResponseAccept, .start 0,
        .requestHandler ⟨1, 0, 0⟩ (some 2) true, .advance 0, .advance 0]
    m.session.rawRequest = some 2 ∧ m.session.reqID = 0 ∧
      heard .supl m.log = some ⟨some 2, 2, []⟩ ∧ m.selects 2 = none ∧ ¬ Answerable m := by
  refine ⟨by decide, by decide, by decide, by decide, fun h => ?_⟩
  obtain ⟨h', ho, -, hid, -⟩ := h .supl 2 (by decide)
  obtain rfl : h' = ⟨some 2, 2, []⟩ := Option.some.inj (ho.symm.trans (by decide))
  revert hid
  decide

end NiModule
end Ni
end Nx507j
