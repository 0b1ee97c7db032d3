import Nx507j.Lib.Run
import Nx507j.Ni.Outstanding

/-!
# Requests that are to be ignored

An emergency request that is accepted has the regular request ignored: `loc_eng_ni_respond` puts
`GPS_NI_RESPONSE_IGNORE` into the regular session, where its thread finds it when it wakes up.
Until then the value can be written over: a response to the regular request, which is still
outstanding, goes into the same field.

## Main definitions

* `NiModule.during` — the part of a run in which a regular request is outstanding.
* `NiModule.answers` — what a run creates for the regular session.
* `NiModule.KeepsIgnored` — a step that puts neither an acceptance nor a denial into it.

## Main results

* `NiModule.payload_answers` — what is created for the regular session while a request is
  outstanding is created for this request.
* `NiModule.ignored_exec` — an ignored request is neither accepted nor denied, if its time is one
  of such steps.
-/

namespace Nx507j
namespace Ni

open Run

/-- The answer that an event creates for the regular session. -/
def Event.suplAnswer : Event → Option InformNiResponse
  | .create .supl msg => some msg
  | _ => none

namespace NiModule

/-- What a step creates for the regular session. -/
def created (m : NiModule) (i : Input) : List InformNiResponse :=
  ((m.step i).log.drop m.log.length).filterMap Event.suplAnswer

/-- What a run creates for the regular session. -/
def answers : NiModule → List Input → List InformNiResponse
  | _, [] => []
  | m, i :: is => m.created i ++ (m.step i).answers is

/-- The part of a run in which the regular request is outstanding, to the step that ends it. -/
def during : NiModule → List Input → List Input
  | _, [] => []
  | m, i :: is => if m.session.rawRequest.isSome then i :: (m.step i).during is else []

/-- The step does not put an acceptance or a denial into the regular session. -/
def KeepsIgnored (m : NiModule) : Input → Prop
  | .respond notifId userResponse => m.selects notifId = some .supl → ¬ IsConsent userResponse
  | _ => True

instance (m : NiModule) : (i : Input) → Decidable (m.KeepsIgnored i)
  | .respond _ _ => inferInstanceAs (Decidable (_ → _))
  | .init | .requestHandler _ _ _ | .resetOnEngineRestart | .start _ | .wake _ _ | .advance _
  | .process | .tick _ => inferInstanceAs (Decidable True)

/-! ### One step -/

variable {m m' : NiModule} {es : List Event}

theorem created_eq_nil (hes : ∃ es, m'.log = m.log ++ es ∧ ∀ slot msg, .create slot msg ∉ es)
    {i : Input} (hstep : m.step i = m') : m.created i = [] := by
  obtain ⟨es, hlog, hnone⟩ := hes
  rw [created, hstep, hlog, List.drop_left, List.filterMap_eq_nil_iff]
  intro e he
  cases e with
  | create slot msg => exact absurd he (hnone slot msg)
  | _ => rfl

/-- A thread that leaves the lock creates a message for the request that it finds. -/
theorem payload_of_leave {i : Input} (j : ℕ) (slot : Slot) (hstep : m.step i = m'.leave j slot)
    (hlog : m'.log = m.log) (hraw : (m'.get .supl).rawRequest = m.session.rawRequest)
    {msg : InformNiResponse} (hmsg : msg ∈ m.created i) :
    m.session.rawRequest = some msg.payload := by
  rw [created, hstep, log_leave, hlog, List.drop_left] at hmsg
  obtain ⟨e, he, hans⟩ := List.mem_filterMap.mp hmsg
  obtain ⟨payload, hpayload, rfl⟩ := List.mem_map.mp he
  split at hans
  · cases slot with
    | supl =>
      obtain rfl := Option.some.inj hans
      rw [← hraw]
      exact Option.mem_toList.mp hpayload
    | es => cases hans
  · cases hans

/-- **A message is created only for the request that is outstanding**, and so none while there is
none. -/
theorem payload_of_created {i : Input} {msg : InformNiResponse} (hmsg : msg ∈ m.created i) :
    m.session.rawRequest = some msg.payload := by
  have hquiet : ∀ m', (∃ es, m'.log = m.log ++ es ∧ ∀ slot msg, .create slot msg ∉ es) →
      m.step i = m' → m.session.rawRequest = some msg.payload := fun m' hes hstep =>
    absurd (created_eq_nil hes hstep) (List.ne_nil_of_mem hmsg)
  have hsame : ∀ m', m'.log = m.log → m.step i = m' → m.session.rawRequest = some msg.payload :=
    fun m' hlog => hquiet m' ⟨[], hlog.trans (List.append_nil _).symm, fun _ _ => List.not_mem_nil⟩
  cases i with
  | init =>
    refine hsame m.init ?_ rfl
    unfold init
    split <;> rfl
  | requestHandler notif passThrough created =>
    exact hquiet _ (m.log_requestHandler notif passThrough created) rfl
  | respond notifId userResponse =>
    exact hquiet _ ⟨_, m.log_respond notifId userResponse, by simp⟩ rfl
  | resetOnEngineRestart => exact hquiet _ m.log_resetOnEngineRestart rfl
  | start j =>
    rcases m.start_cases j with heq | ⟨slot, -, ⟨-, heq⟩ | heq⟩
    · exact hsame m rfl heq
    · exact payload_of_leave (i := .start j) j slot heq rfl rfl hmsg
    · exact hsame (m.goOn j slot _) rfl heq
  | wake j timedOut =>
    rcases m.wake_cases j timedOut with heq | ⟨slot, _, -, ⟨-, -, heq⟩ | ⟨-, -, heq⟩⟩
    · exact hsame m rfl heq
    · refine payload_of_leave (i := .wake j timedOut) j slot heq (log_set _ _ _) ?_ hmsg
      rw [get_set]
      split
      · next hslot => rw [← hslot]; rfl
      · rfl
    · exact payload_of_leave (i := .wake j timedOut) j slot heq rfl rfl hmsg
  | advance j => exact hquiet _ (m.log_advance j) rfl
  | process => exact hquiet _ m.log_process rfl
  | tick microseconds => exact hsame (m.step (.tick microseconds)) rfl rfl

/-- A step that drops requests leaves the one that is outstanding, or none. -/
theorem Drops.rawRequest {q : Payload} (h : Drops m m') (hq : m.session.rawRequest = some q) :
    m'.session.rawRequest = some q ∨ m'.session.rawRequest = none := by
  rcases h.get .supl with hnone | ⟨hraw, -⟩
  · exact .inr hnone
  · exact .inl (hraw.trans hq)

/-- An outstanding request is not replaced by another one. -/
theorem rawRequest_step {q : Payload} (hq : m.session.rawRequest = some q) (i : Input) :
    (m.step i).session.rawRequest = some q ∨ (m.step i).session.rawRequest = none := by
  cases i with
  | init => exact (drops_init m).rawRequest hq
  | requestHandler notif passThrough created =>
    left
    show ((m.requestHandler notif passThrough created).get .supl).rawRequest = some q
    rcases m.requestHandler_cases notif passThrough created with
      ⟨slot, -, hacc, heq⟩ | ⟨-, ⟨heq, -⟩ | ⟨-, payload, -, heq⟩⟩
    · have hslot : Slot.supl ≠ slot := by
        rintro rfl
        exact nomatch hq.symm.trans (m.rawRequest_of_accepts _ hacc).1
      rw [heq, get_accept, get_save, if_neg hslot]
      exact hq
    · rw [heq]
      exact hq
    · rw [heq, get_say]
      exact hq
  | respond notifId userResponse => exact (drops_respond m notifId userResponse).rawRequest hq
  | resetOnEngineRestart => exact (drops_resetOnEngineRestart m).rawRequest hq
  | start j => exact (drops_start m j).rawRequest hq
  | wake j timedOut => exact (drops_wake m j timedOut).rawRequest hq
  | advance j =>
    left
    show ((m.advance j).get .supl).rawRequest = some q
    have hset : ∀ (slot : Slot) (s : NiSession), s.rawRequest = (m.get slot).rawRequest →
        ((m.set slot s).get .supl).rawRequest = some q := by
      intro slot s hs
      rw [get_set]
      split
      · next hslot =>
        rw [hs, ← hslot]
        exact hq
      · exact hq
    unfold advance
    split
    · rw [get_goOn]
      exact hset _ _ rfl
    · rw [get_goOn]
      exact hset _ _ rfl
    · split <;> exact hq
    · exact hq
  | process => exact (drops_process m).rawRequest hq
  | tick microseconds => exact .inl hq

/-- From `m` to `m'` the regular session is neither accepted nor denied, and nothing of the kind is
created for it. -/
def Ignores (m m' : NiModule) : Prop :=
  ¬ IsConsent (m'.get .supl).resp ∧ ∃ es, m'.log = m.log ++ es ∧
    ∀ msg ∈ es.filterMap Event.suplAnswer, ¬ IsConsent msg.response

theorem ignores_of_quiet (h : ¬ IsConsent (m'.get .supl).resp)
    (hes : ∃ es, m'.log = m.log ++ es ∧ ∀ slot msg, .create slot msg ∉ es) :
    Ignores m m' := by
  obtain ⟨es, hlog, hnone⟩ := hes
  refine ⟨h, es, hlog, fun msg hmsg => ?_⟩
  obtain ⟨e, he, hans⟩ := List.mem_filterMap.mp hmsg
  cases e with
  | create slot msg' => exact absurd he (hnone slot msg')
  | _ => cases hans

theorem ignores_of_log (h : ¬ IsConsent (m'.get .supl).resp) (hlog : m'.log = m.log) :
    Ignores m m' :=
  ignores_of_quiet h ⟨[], hlog.trans (List.append_nil _).symm, fun _ _ => List.not_mem_nil⟩

/-- A thread that leaves the lock creates no acceptance and no denial that is not there. -/
theorem ignores_leave (h : ¬ IsConsent (m.get .supl).resp) (i : ℕ) (slot : Slot)
    (hlog : m'.log = m.log) : Ignores m' (m.leave i slot) := by
  refine ⟨?_, _, hlog ▸ m.log_leave slot i, fun msg hmsg => ?_⟩
  · rw [get_leave]
    split
    · next hslot => exact hslot ▸ h
    · exact h
  · obtain ⟨e, he, hans⟩ := List.mem_filterMap.mp hmsg
    obtain ⟨payload, -, rfl⟩ := List.mem_map.mp he
    split at hans
    · cases slot with
      | supl =>
        obtain rfl := Option.some.inj hans
        exact h
      | es => cases hans
    · cases hans

theorem resp_resetSession (m : NiModule) (slot slot' : Slot) :
    ((m.resetSession slot).get slot').resp = (m.get slot').resp := by
  rw [get_resetSession]
  split
  · next h => rw [h.1]
  · rfl

theorem ignores_requestHandler (h : ¬ IsConsent (m.get .supl).resp) (notif : GpsNiNotification)
    (passThrough : Option Payload) (created : Bool) :
    Ignores m (m.requestHandler notif passThrough created) := by
  refine ignores_of_quiet ?_ (m.log_requestHandler notif passThrough created)
  rcases m.requestHandler_cases notif passThrough created with
    ⟨slot, -, -, heq⟩ | ⟨-, ⟨heq, -⟩ | ⟨-, payload, -, heq⟩⟩
  · rw [heq, get_accept, get_save]
    split
    · next hslot => exact hslot ▸ h
    · exact h
  · rw [heq]
    exact h
  · rw [heq, get_say]
    exact h

theorem ignores_respond (h : ¬ IsConsent (m.get .supl).resp) {notifId : Int32}
    {userResponse : GpsUserResponseType}
    (hkeep : m.KeepsIgnored (.respond notifId userResponse)) :
    Ignores m (m.respond notifId userResponse) := by
  refine ignores_of_quiet ?_ ⟨_, m.log_respond notifId userResponse, by simp⟩
  rcases m.get_respond .supl notifId userResponse with heq | ⟨-, hsel, heq⟩ | heq
  · rw [heq]
    exact h
  · rw [heq]
    exact hkeep hsel
  · rw [heq]
    show ¬ IsConsent gpsNiResponseIgnore
    decide

theorem ignores_advance (h : ¬ IsConsent (m.get .supl).resp) (i : ℕ) :
    Ignores m (m.advance i) := by
  have hset : ∀ (slot : Slot) (s : NiSession), s.resp = (m.get slot).resp →
      ¬ IsConsent ((m.set slot s).get .supl).resp := by
    intro slot s hs
    rw [get_set]
    split
    · next hslot =>
      rw [hs, ← hslot]
      exact h
    · exact h
  refine ignores_of_quiet ?_ (m.log_advance i)
  unfold advance
  split
  · rw [get_goOn]
    exact hset _ _ rfl
  · rw [get_goOn]
    exact hset _ _ rfl
  · split <;> exact h
  · exact h

/-- **A step leaves a regular request ignored**, unless it accepts or denies it. -/
theorem ignores_step (h : ¬ IsConsent (m.get .supl).resp) {i : Input} (hkeep : m.KeepsIgnored i) :
    Ignores m (m.step i) := by
  cases i with
  | init =>
    show Ignores m m.init
    unfold init
    split
    · exact ignores_of_log h rfl
    · exact ignores_of_log h rfl
  | requestHandler notif passThrough created =>
    exact ignores_requestHandler h notif passThrough created
  | respond notifId userResponse => exact ignores_respond h hkeep
  | resetOnEngineRestart =>
    refine ignores_of_quiet ?_ m.log_resetOnEngineRestart
    show ¬ IsConsent (m.resetOnEngineRestart.get .supl).resp
    unfold resetOnEngineRestart
    split
    · exact h
    · rw [resp_resetSession, resp_resetSession]
      exact h
  | start i =>
    show Ignores m (m.start i)
    rcases m.start_cases i with heq | ⟨slot, -, ⟨-, heq⟩ | heq⟩
    · rw [heq]
      exact ignores_of_log h rfl
    · rw [heq]
      exact ignores_leave h i slot rfl
    · rw [heq]
      exact ignores_of_log (by rw [get_goOn]; exact h) rfl
  | wake i timedOut =>
    show Ignores m (m.wake i timedOut)
    rcases m.wake_cases i timedOut with heq | ⟨slot, _, -, ⟨-, -, heq⟩ | ⟨-, -, heq⟩⟩
    · rw [heq]
      exact ignores_of_log h rfl
    · -- the time is over: the response is that there was none
      rw [heq]
      refine ignores_leave ?_ i slot (log_set _ _ _).symm
      rw [get_set]
      split
      · show ¬ IsConsent gpsNiResponseNoresp
        decide
      · exact h
    · rw [heq]
      exact ignores_leave h i slot rfl
  | advance i => exact ignores_advance h i
  | process =>
    refine ignores_of_quiet ?_ m.log_process
    show ¬ IsConsent (m.process.get .supl).resp
    unfold process
    split <;> exact h
  | tick microseconds => exact ignores_of_log h rfl

/-! ### Runs -/

/-- **What is created while a request is outstanding is created for this request.** -/
theorem payload_answers {q : Payload} : ∀ (is : List Input) (m : NiModule),
    m.session.rawRequest = some q ∨ m.session.rawRequest = none →
      ∀ msg ∈ m.answers (m.during is), msg.payload = q := by
  intro is
  induction is with
  | nil => intro m _ msg hmsg; cases hmsg
  | cons i is ih =>
    intro m hq msg hmsg
    rw [during] at hmsg
    rcases hq with hq | hnone
    · rw [hq, Option.isSome_some, if_pos rfl] at hmsg
      rcases List.mem_append.mp hmsg with hmsg | hmsg
      · exact Option.some.inj ((payload_of_created hmsg).symm.trans hq)
      · exact ih (m.step i) (rawRequest_step hq i) msg hmsg
    · rw [hnone] at hmsg
      cases hmsg

/-- A run of such steps creates no acceptance and no denial for the regular session. -/
theorem not_consent_answers : ∀ (is : List Input) (m : NiModule),
    ¬ IsConsent (m.get .supl).resp → StepsMeet step KeepsIgnored m is →
      ∀ msg ∈ m.answers is, ¬ IsConsent msg.response := by
  intro is
  induction is with
  | nil => intro m _ _ msg hmsg; cases hmsg
  | cons i is ih =>
    intro m h hkeep msg hmsg
    obtain ⟨hnext, es, hlog, hes⟩ := ignores_step h hkeep.1
    rcases List.mem_append.mp hmsg with hmsg | hmsg
    · rw [created, hlog, List.drop_left] at hmsg
      exact hes msg hmsg
    · exact ih (m.step i) hnext hkeep.2 msg hmsg

/-- **An ignored request stays ignored**: when an emergency request is accepted while a regular one
is outstanding, and the regular one is not answered with an acceptance or a denial after that,
then no message is created for it that accepts or denies. -/
theorem ignored_exec {notifId : Int32} {q : Payload} (hcb : m.niNotifyCb = true)
    (hes : m.selects notifId = some .es) (hq : m.session.rawRequest = some q)
    (after : List Input) :
    let m' := m.step (.respond notifId gpsNiResponseAccept)
    StepsMeet step KeepsIgnored m' (m'.during after) →
      ∀ msg ∈ m'.answers (m'.during after), ¬ IsConsent msg.response := by
  intro m' hkeep
  refine not_consent_answers _ m' ?_ hkeep
  have hcb' : (m.say (.respond notifId gpsNiResponseAccept)).niNotifyCb = true := hcb
  have hsel : (m.say (.respond notifId gpsNiResponseAccept)).selects notifId = some .es := hes
  have hsome : (m.say (.respond notifId gpsNiResponseAccept)).session.rawRequest.isSome := by
    show m.session.rawRequest.isSome
    rw [hq]
    rfl
  have hm' : m' = ((m.say (.respond notifId gpsNiResponseAccept)).answer .supl
      gpsNiResponseIgnore).answer .es gpsNiResponseAccept := by
    show m.respond notifId gpsNiResponseAccept = _
    unfold respond
    simp [hcb', hsel, hsome]
  rw [hm', get_answer, get_answer]
  show ¬ IsConsent gpsNiResponseIgnore
  decide

/-- A regular request and an emergency one, which is notified under 2. -/
def bothRequests : List Input :=
  [.init, .requestHandler ⟨1, 0, 0⟩ (some 7) true,
    .requestHandler ⟨gpsNiTypeEmergencySupl, 0, 0⟩ (some 8) true]

/-- The emergency one is accepted, and the other one freed. -/
theorem ignored_exec_bothRequests :
    let m' := (exec step zero bothRequests).step (.respond 2 gpsNiResponseAccept)
    ∀ msg ∈ m'.answers (m'.during [.start 0, .start 1]), ¬ IsConsent msg.response :=
  ignored_exec (q := 7) (by decide) (by decide) (by decide) [.start 0, .start 1] (by decide)

/-- The user then accepts the other one, before its thread has started: it is accepted, though it
had no answer when it was to be ignored. -/
theorem bothRequests_accepted :
    let m := exec step zero bothRequests
    let m' := m.step (.respond 2 gpsNiResponseAccept)
    m.selects 2 = some .es ∧ m.session.rawRequest = some 7 ∧ m.session.respRecvd = false ∧
      m'.answers (m'.during [.respond 1 gpsNiResponseAccept, .start 0]) =
        [⟨gpsNiResponseAccept, 7⟩] := by
  decide

end NiModule
end Ni
end Nx507j
