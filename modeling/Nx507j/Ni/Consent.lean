import Mathlib.Data.List.Induction
import Nx507j.Lib.Run
import Nx507j.Ni.Steps

/-!
# Consent

An answer that accepts or denies a network-initiated request is sent only if it was given,
and given to that request.

## Main definitions

* `Answered` — a request was notified, and answered under the id it was notified with.
* `Consented` — every answer created was given.
* `Careful` — a step that neither takes a request into a session that still holds an old
  answer, nor answers under an id that is not the request's.

## Main results

* `consented_exec` — a run of careful steps sends only answers that were given.
-/

namespace Nx507j
namespace Ni

open Run

/-! ### Requests and answers in the log -/

/-- The response accepts or denies. -/
def IsConsent (resp : GpsUserResponseType) : Prop :=
  resp = gpsNiResponseAccept ∨ resp = gpsNiResponseDeny

instance (resp : GpsUserResponseType) : Decidable (IsConsent resp) :=
  inferInstanceAs (Decidable (resp = gpsNiResponseAccept ∨ resp = gpsNiResponseDeny))

/-- The last request that was notified for the session is `payload`, and since then
`loc_eng_ni_respond` has been called with its id and the response. -/
def Answered (slot : Slot) (payload : Payload) (resp : GpsUserResponseType) (log : List Event) :
    Prop :=
  ∃ before id after, log = before ++ .notifyCb slot (some payload) id :: after ∧
    (∀ payload' id', .notifyCb slot payload' id' ∉ after) ∧ .respond id resp ∈ after

/-- Every acceptance and every denial was given to the request that it is created for. -/
def Consented (log : List Event) : Prop :=
  ∀ before slot msg after, log = before ++ .create slot msg :: after →
    IsConsent msg.response → Answered slot msg.payload msg.response before

theorem consented_nil : Consented [] := by
  intro before slot msg after h
  simp at h

/-- An event keeps the log consented, if an answer that it creates was given. -/
theorem Consented.concat {log : List Event} {e : Event} (h : Consented log)
    (he : ∀ slot msg, e = .create slot msg → IsConsent msg.response →
      Answered slot msg.payload msg.response log) : Consented (log ++ [e]) := by
  intro before slot msg after heq hresp
  rcases List.eq_nil_or_concat after with rfl | ⟨after', e', rfl⟩
  · -- the answer is the new event
    obtain ⟨rfl, hlast⟩ := List.append_inj' heq rfl
    exact he slot msg (List.singleton_inj.mp hlast) hresp
  · rw [List.concat_eq_append, ← List.cons_append, ← List.append_assoc] at heq
    exact h before slot msg after' (List.append_inj_left' heq rfl) hresp

/-- What has been heard of the last request for a session: the request, the id it was notified
with, and the responses given under that id. -/
structure Heard where
  request : Option Payload
  id : Int32
  answers : List GpsUserResponseType
  deriving DecidableEq, Repr

/-- One event. -/
def hear (slot : Slot) (o : Option Heard) : Event → Option Heard
  | .notifyCb slot' payload id => if slot' = slot then some ⟨payload, id, []⟩ else o
  | .respond id resp =>
    o.map fun h => if id = h.id then { h with answers := resp :: h.answers } else h
  | _ => o

/-- What the log says of the last request for a session. -/
def heard (slot : Slot) (log : List Event) : Option Heard := log.foldl (hear slot) none

theorem heard_concat (slot : Slot) (log : List Event) (e : Event) :
    heard slot (log ++ [e]) = hear slot (heard slot log) e := by
  rw [heard, List.foldl_append]
  rfl

/-- What has been heard is in the log. -/
theorem heard_spec {slot : Slot} {log : List Event} :
    ∀ {h : Heard}, heard slot log = some h →
      ∃ before after, log = before ++ .notifyCb slot h.request h.id :: after ∧
        (∀ payload id, .notifyCb slot payload id ∉ after) ∧
        ∀ resp ∈ h.answers, .respond h.id resp ∈ after := by
  induction log using List.reverseRecOn with
  | nil =>
    intro h hh
    cases hh
  | append_singleton log e ih =>
    intro h hh
    rw [heard_concat] at hh
    -- an event that is no notification for the session comes after the last one
    have hkeep : ∀ h', heard slot log = some h' → (∀ payload id, e ≠ .notifyCb slot payload id) →
        ∃ before after, log ++ [e] = before ++ .notifyCb slot h'.request h'.id :: after ∧
          (∀ payload id, .notifyCb slot payload id ∉ after) ∧
          (∀ resp ∈ h'.answers, .respond h'.id resp ∈ after) ∧ e ∈ after := by
      intro h' hh' hne
      obtain ⟨before, after, rfl, hno, hans⟩ := ih hh'
      refine ⟨before, after ++ [e], by simp, ?_, ?_, by simp⟩
      · intro payload id hmem
        rcases List.mem_append.mp hmem with hmem | hmem
        · exact hno payload id hmem
        · exact hne payload id (List.mem_singleton.mp hmem).symm
      · intro resp hresp
        exact List.mem_append_left _ (hans resp hresp)
    have hsame : heard slot log = some h → (∀ payload id, e ≠ .notifyCb slot payload id) →
        ∃ before after, log ++ [e] = before ++ .notifyCb slot h.request h.id :: after ∧
          (∀ payload id, .notifyCb slot payload id ∉ after) ∧
          ∀ resp ∈ h.answers, .respond h.id resp ∈ after := by
      intro hh' hne
      obtain ⟨before, after, heq, hno, hans, -⟩ := hkeep h hh' hne
      exact ⟨before, after, heq, hno, hans⟩
    cases e with
    | notifyCb slot' payload id =>
      simp only [hear] at hh
      split at hh
      · next hslot =>
        subst hslot
        obtain rfl := Option.some.inj hh
        exact ⟨log, [], rfl, nofun, nofun⟩
      · next hslot =>
        refine hsame hh ?_
        intro payload' id' heq
        exact hslot (Event.notifyCb.inj heq).1
    | respond id resp =>
      obtain ⟨h', hh', heq⟩ := Option.map_eq_some_iff.mp hh
      obtain ⟨before, after, hlog, hno, hans, hmem⟩ := hkeep h' hh' nofun
      split at heq
      · next hid =>
        subst hid
        obtain rfl := heq
        refine ⟨before, after, hlog, hno, ?_⟩
        intro resp' hresp'
        rcases List.mem_cons.mp hresp' with rfl | hresp'
        · exact hmem
        · exact hans resp' hresp'
      · obtain rfl := heq
        exact ⟨before, after, hlog, hno, hans⟩
    | create slot' msg => exact hsame hh nofun
    | sendMsg msg => exact hsame hh nofun
    | inform msg => exact hsame hh nofun
    | free payload => exact hsame hh nofun
    | muteOneSession => exact hsame hh nofun

/-- A response that has been heard of the request has been given to it. -/
theorem answered_of_heard {slot : Slot} {log : List Event} {h : Heard} {payload : Payload}
    {resp : GpsUserResponseType} (hh : heard slot log = some h) (hp : h.request = some payload)
    (hr : resp ∈ h.answers) : Answered slot payload resp log := by
  obtain ⟨before, after, hlog, hno, hans⟩ := heard_spec hh
  rw [hp] at hlog
  exact ⟨before, h.id, after, hlog, hno, hans resp hr⟩

/-! ### The answer that a session holds -/

/-- The answer that a session holds for its request has been given to it. -/
def Backed (s : NiSession) (o : Option Heard) : Prop :=
  ∀ payload, s.rawRequest = some payload → ∃ h, o = some h ∧ h.request = some payload ∧
    (s.respRecvd = true → IsConsent s.resp → s.resp ∈ h.answers)

theorem backed_of_none {s : NiSession} (h : s.rawRequest = none) (o : Option Heard) :
    Backed s o := by
  intro payload hp
  rw [h] at hp
  cases hp

/-- A response that is heard takes back none that was. -/
theorem Backed.respond {s : NiSession} {o : Option Heard} (h : Backed s o) (slot : Slot)
    (id : Int32) (resp : GpsUserResponseType) : Backed s (hear slot o (.respond id resp)) := by
  intro payload hp
  obtain ⟨h', rfl, hreq, hans⟩ := h payload hp
  refine ⟨_, rfl, ?_⟩
  dsimp only
  split
  · exact ⟨hreq, fun hr hc => List.mem_cons_of_mem _ (hans hr hc)⟩
  · exact ⟨hreq, hans⟩

/-- A session that holds no acceptance or denial is backed, whatever else it holds. -/
theorem Backed.of_not_consent {s s' : NiSession} {o : Option Heard} (h : Backed s o)
    (hraw : s'.rawRequest = s.rawRequest) (hno : s'.respRecvd = true → ¬ IsConsent s'.resp) :
    Backed s' o := by
  intro payload hp
  rw [hraw] at hp
  obtain ⟨h', ho, hreq, -⟩ := h payload hp
  exact ⟨h', ho, hreq, fun hr hc => absurd hc (hno hr)⟩

namespace NiModule

/-- Each session holds only answers that its request was given, and so far only such were
created. -/
structure Honest (m : NiModule) : Prop where
  backed : ∀ slot, Backed (m.get slot) (heard slot m.log)
  consented : Consented m.log

theorem honest_zero : Honest zero where
  backed := by
    intro slot
    cases slot <;> exact backed_of_none rfl _
  consented := consented_nil

theorem Honest.congr {m m' : NiModule} (h : Honest m) (hget : ∀ slot, m'.get slot = m.get slot)
    (hlog : m'.log = m.log) : Honest m' := by
  constructor
  · intro slot
    rw [hget, hlog]
    exact h.backed slot
  · rw [hlog]
    exact h.consented

/-- An event that is neither a notification, a response nor a message changes nothing. -/
theorem Honest.say {m : NiModule} (h : Honest m) (e : Event) (hhear : ∀ slot o, hear slot o e = o)
    (hcreate : ∀ slot msg, e ≠ .create slot msg) : Honest (m.say e) where
  backed := by
    intro slot
    rw [get_say, log_say, heard_concat, hhear]
    exact h.backed slot
  consented := h.consented.concat fun slot msg he => absurd he (hcreate slot msg)

theorem Honest.set {m : NiModule} (h : Honest m) {slot : Slot} {s : NiSession}
    (hs : Backed s (heard slot m.log)) : Honest (m.set slot s) where
  backed := by
    intro slot'
    rw [get_set, log_set]
    split
    · next hslot =>
      rw [hslot]
      exact hs
    · exact h.backed slot'
  consented := by
    rw [log_set]
    exact h.consented

/-- What a thread does that leaves with the session's answer: the answer was given, or accepts
and denies nothing. -/
theorem Honest.leave {m : NiModule} (h : Honest m) (i : ℕ) {slot : Slot}
    (hresp : (m.get slot).respRecvd = true ∨ ¬ IsConsent (m.get slot).resp) :
    Honest (m.leave i slot) := by
  have hcleared : Honest (m.set slot { m.get slot with respRecvd := false, rawRequest := none }) :=
    h.set (backed_of_none rfl _)
  have hexit : Honest (m.exitLocked slot).2 := by
    simp only [exitLocked]
    cases hraw : (m.get slot).rawRequest with
    | none => exact hcleared
    | some payload =>
      by_cases hi : (m.get slot).resp ≠ gpsNiResponseIgnore
      · simp only [if_pos hi]
        constructor
        · intro slot'
          rw [get_say, log_say, heard_concat]
          exact hcleared.backed slot'
        · refine hcleared.consented.concat ?_
          intro slot' msg heq hc
          obtain ⟨rfl, rfl⟩ := Event.create.inj heq
          obtain ⟨h', hh, hreq, hans⟩ := h.backed slot payload hraw
          rw [log_set]
          exact answered_of_heard hh hreq (hans (hresp.resolve_right fun hno => hno hc) hc)
      · simp only [if_neg hi]
        exact hcleared.say (.free payload) (fun _ _ => rfl) (fun _ _ he => by cases he)
  unfold NiModule.leave
  exact hexit.congr (fun slot => get_goOn _ _ _ _ _) rfl

/-- Putting an answer into a session that its request was given. -/
theorem Honest.answer {m : NiModule} (h : Honest m) {slot : Slot} {resp : GpsUserResponseType}
    (hans : ∀ h', heard slot m.log = some h' → IsConsent resp → resp ∈ h'.answers) :
    Honest (m.answer slot resp) := by
  refine h.set ?_
  intro payload hp
  obtain ⟨h', hh, hreq, -⟩ := h.backed slot payload hp
  exact ⟨h', hh, hreq, fun _ hc => hans h' hh hc⟩

/-! ### The steps -/

/-- A step that takes no request into a session that still holds an acceptance or a denial,
and that accepts or denies nothing under an id other than that of the selected session's
request. -/
def Careful (m : NiModule) : Input → Prop
  | .requestHandler notif passThrough _ =>
    m.niNotifyCb = true → passThrough.isSome = true → ∀ slot, m.accepts notif = some slot →
      ¬ ((m.get slot).respRecvd = true ∧ IsConsent (m.get slot).resp)
  | .respond notifId userResponse =>
    m.niNotifyCb = true → IsConsent userResponse → ∀ slot, m.selects notifId = some slot →
      ∀ h, heard slot m.log = some h → h.id = notifId
  | _ => True

theorem Honest.init {m : NiModule} (h : Honest m) : Honest m.init := by
  unfold NiModule.init
  split
  · exact h
  · refine ⟨?_, h.consented⟩
    intro slot
    cases slot <;> exact backed_of_none rfl _

theorem Honest.accept {m : NiModule} (h : Honest m) {slot : Slot} {notif : GpsNiNotification}
    {passThrough : Option Payload} {threadCreated : Bool}
    (hold : passThrough.isSome = true →
      ¬ ((m.get slot).respRecvd = true ∧ IsConsent (m.get slot).resp)) :
    Honest (m.accept slot notif passThrough threadCreated) := by
  -- a privacy override may be logged before the notification
  have hmute : Consented ((m.save slot notif passThrough).muteIfOverride notif).log ∧
      ∀ slot', heard slot' ((m.save slot notif passThrough).muteIfOverride notif).log =
        heard slot' m.log := by
    unfold muteIfOverride
    split
    · rw [log_say, log_save]
      exact ⟨h.consented.concat (fun _ _ he => by cases he), fun slot' => heard_concat _ _ _⟩
    · rw [log_save]
      exact ⟨h.consented, fun _ => rfl⟩
  unfold NiModule.accept
  constructor
  · intro slot'
    rw [get_say, log_say, heard_concat, log_createThread, hmute.2, get_createThread,
      get_muteIfOverride, save, get_set]
    by_cases hne : slot' = slot
    · -- the session holds nothing that was answered before
      subst hne
      rw [if_pos rfl]
      intro payload hp
      obtain rfl : passThrough = some payload := hp
      refine ⟨⟨some payload, m.reqIDCounter + 1, []⟩, if_pos rfl, rfl, ?_⟩
      intro hr hc
      exact absurd ⟨hr, hc⟩ (hold rfl)
    · rw [if_neg hne]
      have hskip : hear slot' (heard slot' m.log) (.notifyCb slot passThrough (m.reqIDCounter + 1)) =
          heard slot' m.log := if_neg fun heq => hne heq.symm
      rw [hskip]
      cases slot' with
      | supl => exact h.backed .supl
      | es => exact h.backed .es
  · rw [log_say, log_createThread]
    exact hmute.1.concat fun _ _ he => by cases he

theorem Honest.respond {m : NiModule} (h : Honest m) {notifId : Int32}
    {userResponse : GpsUserResponseType} (hc : m.Careful (.respond notifId userResponse)) :
    Honest (m.respond notifId userResponse) := by
  have hsaid : Honest (m.say (.respond notifId userResponse)) := by
    constructor
    · intro slot
      rw [get_say, log_say, heard_concat]
      exact (h.backed slot).respond slot notifId userResponse
    · exact h.consented.concat nofun
  rcases m.respond_cases notifId userResponse with heq | ⟨slot, m', hcb, hsel, hm', heq⟩
  · rw [heq]
    exact hsaid
  · rw [heq]
    have hhonest : Honest m' := by
      rcases hm' with rfl | ⟨-, rfl⟩
      · exact hsaid
      · exact hsaid.answer fun _ _ hcons => absurd hcons (by decide)
    have hlog : m'.log = m.log ++ [.respond notifId userResponse] := by
      rcases hm' with rfl | ⟨-, rfl⟩
      · rw [log_say]
      · rw [log_answer, log_say]
    -- the response has been heard of the request that is selected
    refine hhonest.answer fun h' hh' hcons => ?_
    rw [hlog, heard_concat] at hh'
    obtain ⟨h₀, hh₀, rfl⟩ := Option.map_eq_some_iff.mp hh'
    rw [if_pos (hc hcb hcons slot hsel h₀ hh₀).symm]
    exact List.mem_cons_self

theorem Honest.resetSession {m : NiModule} (h : Honest m) (slot : Slot) :
    Honest (m.resetSession slot) := by
  unfold NiModule.resetSession
  split
  · next payload hraw =>
    exact (h.say (.free payload) (fun _ _ => rfl) nofun).set (backed_of_none rfl _)
  · exact h

theorem Honest.requestHandler {m : NiModule} (h : Honest m) {notif : GpsNiNotification}
    {passThrough : Option Payload} {threadCreated : Bool}
    (hc : m.Careful (.requestHandler notif passThrough threadCreated)) :
    Honest (m.requestHandler notif passThrough threadCreated) := by
  rcases m.requestHandler_cases notif passThrough threadCreated with
    ⟨slot, hcb, hacc, heq⟩ | ⟨-, ⟨heq, -⟩ | ⟨-, payload, -, heq⟩⟩
  · rw [heq]
    exact h.accept fun hp => hc hcb hp slot hacc
  · rw [heq]
    exact h
  · rw [heq]
    exact h.say (.free payload) (fun _ _ => rfl) nofun

theorem Honest.resetOnEngineRestart {m : NiModule} (h : Honest m) :
    Honest m.resetOnEngineRestart := by
  unfold NiModule.resetOnEngineRestart
  split
  · exact h
  · exact (h.resetSession .es).resetSession .supl

theorem Honest.start {m : NiModule} (h : Honest m) (i : ℕ) : Honest (m.start i) := by
  rcases m.start_cases i with heq | ⟨slot, -, ⟨hrecvd, heq⟩ | heq⟩
  · rw [heq]
    exact h
  · rw [heq]
    exact h.leave i (Or.inl hrecvd)
  · rw [heq]
    exact h.congr (fun _ => get_goOn _ _ _ _ _) rfl

theorem Honest.wake {m : NiModule} (h : Honest m) (i : ℕ) (timedOut : Bool) :
    Honest (m.wake i timedOut) := by
  rcases m.wake_cases i timedOut with heq | ⟨slot, _, -, ⟨-, -, heq⟩ | ⟨-, hrecvd, heq⟩⟩
  · rw [heq]
    exact h
  · rw [heq]
    -- a thread that has timed out answers for itself
    have hno : ¬ IsConsent gpsNiResponseNoresp := by decide
    refine Honest.leave ?_ i (Or.inr (by rw [get_set_self]; exact hno))
    exact h.set ((h.backed slot).of_not_consent rfl fun _ => hno)
  · rw [heq]
    exact h.leave i (Or.inl hrecvd)

/-- The stores of a thread that has left the lock touch neither a request nor an answer. -/
theorem Honest.advance {m : NiModule} (h : Honest m) (i : ℕ) : Honest (m.advance i) := by
  unfold NiModule.advance
  split
  · next slot msg hth =>
    exact (h.set (s := { m.get slot with respTimeLeft := 0 }) (h.backed slot)).congr
      (fun _ => get_goOn _ _ _ _ _) rfl
  · next slot msg hth =>
    exact (h.set (s := { m.get slot with reqID := 0 }) (h.backed slot)).congr
      (fun _ => get_goOn _ _ _ _ _) rfl
  · split
    · next slot msg msg' hth =>
      have hqueue : Honest { m with queue := m.queue ++ [msg'] } :=
        h.congr (fun slot => by cases slot <;> rfl) rfl
      exact (hqueue.say (.sendMsg msg') (fun _ _ => rfl) nofun).congr
        (fun _ => get_goOn _ _ _ _ _) rfl
    · exact h.congr (fun _ => get_goOn _ _ _ _ _) rfl
  · exact h

theorem Honest.process {m : NiModule} (h : Honest m) : Honest m.process := by
  unfold NiModule.process
  split
  · exact h
  · next msg queue hq =>
    have hqueue : Honest { m with queue := queue } :=
      h.congr (fun slot => by cases slot <;> rfl) rfl
    have hinform : Honest ({ m with queue := queue }.say (.inform msg)) :=
      hqueue.say (.inform msg) (fun _ _ => rfl) nofun
    exact hinform.say (.free msg.payload) (fun _ _ => rfl) nofun

/-- **A careful step keeps the module honest.** -/
theorem Honest.step {m : NiModule} (h : Honest m) {i : Input} (hc : m.Careful i) :
    Honest (m.step i) := by
  cases i with
  | init => exact h.init
  | requestHandler notif passThrough threadCreated => exact h.requestHandler hc
  | respond notifId userResponse => exact h.respond hc
  | resetOnEngineRestart => exact h.resetOnEngineRestart
  | start i => exact h.start i
  | wake i timedOut => exact h.wake i timedOut
  | advance i => exact h.advance i
  | process => exact h.process
  | tick microseconds => exact h.congr (fun slot => by cases slot <;> rfl) rfl

/-- **A run of careful steps sends only answers that were given**: every acceptance and
denial that is created for a request was given to it under the id that it was notified
with, after it was notified. -/
theorem consented_exec (is : List Input) (his : StepsMeet step Careful zero is) :
    Consented (exec step zero is).log := by
  have hstep : ∀ (m : NiModule) (i : Input), Honest m → m.Careful i → Honest (m.step i) :=
    fun m i h hc => h.step hc
  exact (exec_inv_of_stepsMeet hstep is zero honest_zero his).consented

/-- A request is accepted, and its thread sends the acceptance. -/
def answeredOnce : List Input :=
  [.init, .requestHandler ⟨1, 0, 0⟩ (some 1) true, .respond 1 gpsNiResponseAccept, .start 0]

theorem consented_exec_answeredOnce :
    .create .supl ⟨gpsNiResponseAccept, 1⟩ ∈ (exec step zero answeredOnce).log ∧
      Consented (exec step zero answeredOnce).log := by
  refine ⟨by decide, consented_exec answeredOnce ⟨trivial, ?_, ?_, trivial, trivial⟩⟩
  · intro _ _ slot _
    cases slot <;> decide
  · intro _ _ slot _ h hh
    cases slot with
    | supl =>
      obtain rfl := Option.some.inj hh
      rfl
    | es => cases hh

/-- A request is accepted, but the modem restarts before its thread wakes up; the next request
then finds the answer. -/
def staleAnswer : List Input :=
  [.init, .requestHandler ⟨1, 0, 0⟩ (some 1) true, .respond 1 gpsNiResponseAccept,
    .resetOnEngineRestart, .requestHandler ⟨1, 0, 0⟩ (some 2) true, .start 0]

/-- The acceptance of the first request is created for the second. -/
theorem staleAnswer_notConsented : ¬ Consented (exec step zero staleAnswer).log := by
  have hlog : (exec step zero staleAnswer).log =
      [.notifyCb .supl (some 1) 1, .respond 1 gpsNiResponseAccept, .free 1,
        .notifyCb .supl (some 2) 2] ++ .create .supl ⟨gpsNiResponseAccept, 2⟩ :: [] := by decide
  intro h
  obtain ⟨before, id, after, heq, -, hmem⟩ := h _ _ _ _ hlog (Or.inl rfl)
  -- the second notification is the last event, so nothing was said after it
  rcases before with _ | ⟨_, _ | ⟨_, _ | ⟨_, _ | ⟨_, _⟩⟩⟩⟩ <;> simp at heq
  rw [heq.2.2.2.2] at hmem
  cases hmem

end NiModule

end Ni
end Nx507j
