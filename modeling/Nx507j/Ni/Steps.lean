import Nx507j.Ni.Session

/-!
# What the steps of the NI sessions change

What each call, and each part of a thread, makes of the sessions, of the threads and of the log.

## Main results

* `NiModule.requestHandler_cases`, `NiModule.respond_cases` — what a request and a response do.
* `NiModule.start_cases`, `NiModule.wake_cases` — what a thread does when it holds the lock.
* `NiModule.get_save`, `NiModule.get_accept`, `NiModule.get_resetSession`, `NiModule.get_leave` —
  the sessions.
* `NiModule.threads_accept`, `NiModule.threads_leave` — the threads.
* `NiModule.clock_step` — the clock.
* `NiModule.log_accept`, `NiModule.log_respond`, `NiModule.log_leave` — the log.
* `NiModule.requestHandler_of_muteOneSession` — what has a session muted.
-/

namespace Nx507j
namespace Ni
namespace NiModule

variable (m : NiModule) (slot slot' : Slot) (s : NiSession) (e : Event) (i : ℕ) (phase : Phase)

/-! ### What a step can do -/

/-- A session that takes a request holds none, and no emergency request is in progress. -/
theorem rawRequest_of_accepts {notif : GpsNiNotification} (hacc : m.accepts notif = some slot) :
    (m.get slot).rawRequest = none ∧ m.sessionEs.rawRequest = none := by
  unfold accepts at hacc
  split at hacc
  · split at hacc
    · cases hacc
    · next hes =>
      cases hacc
      rw [Option.not_isSome_iff_eq_none] at hes
      exact ⟨hes, hes⟩
  · split at hacc
    · cases hacc
    · next hno =>
      cases hacc
      rw [Bool.or_eq_true, not_or, Option.not_isSome_iff_eq_none,
        Option.not_isSome_iff_eq_none] at hno
      exact hno

/-- A request is taken by a session, or it is refused: then a payload is freed, unless
`loc_eng_ni_init` has not been called. -/
theorem requestHandler_cases (notif : GpsNiNotification) (passThrough : Option Payload)
    (created : Bool) :
    (∃ slot, m.niNotifyCb = true ∧ m.accepts notif = some slot ∧
      m.requestHandler notif passThrough created = m.accept slot notif passThrough created) ∨
    ((∀ slot, m.niNotifyCb = true → m.accepts notif ≠ some slot) ∧
      (m.requestHandler notif passThrough created = m ∧
          (m.niNotifyCb = true → passThrough = none) ∨
        m.niNotifyCb = true ∧ ∃ payload, passThrough = some payload ∧
          m.requestHandler notif passThrough created = m.say (.free payload))) := by
  unfold requestHandler
  cases hcb : m.niNotifyCb with
  | false => exact .inr ⟨nofun, .inl ⟨rfl, nofun⟩⟩
  | true =>
    cases hacc : m.accepts notif with
    | some slot => exact .inl ⟨slot, rfl, rfl, rfl⟩
    | none =>
      cases passThrough with
      | none => exact .inr ⟨nofun, .inl ⟨rfl, fun _ => rfl⟩⟩
      | some payload => exact .inr ⟨nofun, .inr ⟨rfl, payload, rfl, rfl⟩⟩

/-- A response is put into the session that it selects, and may have the regular request ignored;
or it selects none. -/
theorem respond_cases (notifId : Int32) (userResponse : GpsUserResponseType) :
    m.respond notifId userResponse = m.say (.respond notifId userResponse) ∨
    ∃ slot m', m.niNotifyCb = true ∧ m.selects notifId = some slot ∧
      (m' = m.say (.respond notifId userResponse) ∨
        slot = .es ∧
          m' = (m.say (.respond notifId userResponse)).answer .supl gpsNiResponseIgnore) ∧
      m.respond notifId userResponse = m'.answer slot userResponse := by
  have hsel : (m.say (.respond notifId userResponse)).selects notifId = m.selects notifId := rfl
  unfold respond
  dsimp only
  split
  · exact .inl rfl
  · next hcb =>
    have hcb' : m.niNotifyCb = true := by
      rw [Bool.not_eq_true, Bool.not_eq_false'] at hcb
      exact hcb
    rw [hsel]
    cases hslot : m.selects notifId with
    | none => exact .inl rfl
    | some slot =>
      cases slot with
      | supl => exact .inr ⟨.supl, _, hcb', rfl, .inl rfl, rfl⟩
      | es =>
        refine .inr ⟨.es, _, hcb', rfl, ?_, rfl⟩
        split
        · exact .inr ⟨rfl, rfl⟩
        · exact .inl rfl

/-- A thread that starts leaves at once, or waits. -/
theorem start_cases :
    m.start i = m ∨
    ∃ slot, m.threads[i]? = some ⟨slot, .start⟩ ∧
      ((m.get slot).respRecvd = true ∧ m.start i = m.leave i slot ∨
        m.start i =
          m.goOn i slot (.waiting (m.clock + (m.get slot).respTimeLeft.toInt * 1000000))) := by
  unfold start
  split
  · next slot hi =>
    refine .inr ⟨slot, hi, ?_⟩
    split
    · next hrecvd => exact .inl ⟨hrecvd, rfl⟩
    · exact .inr rfl
  · exact .inl rfl

/-- A thread that wakes up waits on, or leaves because its time is over or an answer is there. -/
theorem wake_cases (timedOut : Bool) :
    m.wake i timedOut = m ∨
    ∃ slot expireTime, m.threads[i]? = some ⟨slot, .waiting expireTime⟩ ∧
      (timedOut = true ∧ expireTime ≤ m.clock ∧ m.wake i timedOut =
          (m.set slot { m.get slot with resp := gpsNiResponseNoresp }).leave i slot ∨
        timedOut = false ∧ (m.get slot).respRecvd = true ∧
          m.wake i timedOut = m.leave i slot) := by
  unfold wake
  split
  · next slot expireTime hi =>
    split
    · next htimed =>
      split
      · next hexpired => exact .inr ⟨slot, expireTime, hi, .inl ⟨htimed, hexpired, rfl⟩⟩
      · exact .inl rfl
    · next htimed =>
      rw [Bool.not_eq_true] at htimed
      split
      · next hrecvd => exact .inr ⟨slot, expireTime, hi, .inr ⟨htimed, hrecvd, rfl⟩⟩
      · exact .inl rfl
  · exact .inl rfl

/-! ### Sessions and threads -/

theorem get_set : (m.set slot s).get slot' = if slot' = slot then s else m.get slot' := by
  cases slot <;> cases slot' <;> rfl

@[simp] theorem get_set_self : (m.set slot s).get slot = s := by cases slot <;> rfl

@[simp] theorem log_set : (m.set slot s).log = m.log := by cases slot <;> rfl

@[simp] theorem get_say : (m.say e).get slot = m.get slot := by cases slot <;> rfl

@[simp] theorem log_say : (m.say e).log = m.log ++ [e] := rfl

@[simp] theorem get_goOn : (m.goOn i slot' phase).get slot = m.get slot := by
  cases slot <;> rfl

@[simp] theorem get_createThread (created : Bool) :
    (m.createThread slot created).get slot' = m.get slot' := by
  cases created <;> cases slot' <;> rfl

@[simp] theorem log_createThread (created : Bool) : (m.createThread slot created).log = m.log := by
  cases created <;> rfl

@[simp] theorem get_muteIfOverride (notif : GpsNiNotification) :
    (m.muteIfOverride notif).get slot = m.get slot := by
  unfold muteIfOverride
  split
  · exact get_say m slot .muteOneSession
  · rfl

@[simp] theorem log_save (notif : GpsNiNotification) (passThrough : Option Payload) :
    (m.save slot notif passThrough).log = m.log := log_set _ _ _

@[simp] theorem threads_set : (m.set slot s).threads = m.threads := by cases slot <;> rfl

@[simp] theorem threads_say : (m.say e).threads = m.threads := rfl

@[simp] theorem threads_answer (resp : GpsUserResponseType) :
    (m.answer slot resp).threads = m.threads := threads_set _ _ _

@[simp] theorem rawRequest_answer (resp : GpsUserResponseType) :
    ((m.answer slot resp).get slot').rawRequest = (m.get slot').rawRequest := by
  rw [answer, get_set]
  split
  · next h => rw [h]
  · rfl

@[simp] theorem threads_muteIfOverride (notif : GpsNiNotification) :
    (m.muteIfOverride notif).threads = m.threads := by
  unfold muteIfOverride
  split <;> rfl

@[simp] theorem threads_save (notif : GpsNiNotification) (passThrough : Option Payload) :
    (m.save slot notif passThrough).threads = m.threads := by
  rw [save, threads_set]

theorem get_save (notif : GpsNiNotification) (passThrough : Option Payload) :
    (m.save slot notif passThrough).get slot' =
      if slot' = slot then
        { m.get slot with
          rawRequest := passThrough
          reqID := m.reqIDCounter + 1
          respTimeLeft := 5 + (if notif.timeout ≠ 0 then notif.timeout else locNiNoResponseTime) }
      else m.get slot' := by
  rw [save, get_set]
  cases slot' <;> rfl

theorem get_accept (notif : GpsNiNotification) (passThrough : Option Payload) (created : Bool) :
    (m.accept slot notif passThrough created).get slot' =
      (m.save slot notif passThrough).get slot' := by
  rw [accept, get_say, get_createThread, get_muteIfOverride]

theorem threads_accept (notif : GpsNiNotification) (passThrough : Option Payload)
    (created : Bool) :
    (m.accept slot notif passThrough created).threads =
      if created then m.threads ++ [⟨slot, .start⟩] else m.threads := by
  rw [accept, threads_say]
  unfold createThread
  split <;> simp

/-- What a restart leaves of a session's request. -/
theorem get_resetSession :
    (m.resetSession slot).get slot' =
      if slot' = slot ∧ (m.get slot).rawRequest.isSome then
        { m.get slot with rawRequest := none, respRecvd := true }
      else m.get slot' := by
  unfold resetSession
  cases hraw : (m.get slot).rawRequest with
  | none => simp
  | some payload =>
    rw [get_set]
    simp

@[simp] theorem threads_resetSession : (m.resetSession slot).threads = m.threads := by
  unfold resetSession
  split <;> simp

/-- What an exit leaves of the sessions. -/
theorem get_leave (i : ℕ) :
    (m.leave i slot).get slot' =
      if slot' = slot then { m.get slot with respRecvd := false, rawRequest := none }
      else m.get slot' := by
  unfold leave
  rw [get_goOn]
  simp only [exitLocked]
  split
  · split <;> rw [get_say, get_set]
  · rw [get_set]

/-- The thread that has left the lock has the message to send. -/
theorem threads_leave (i : ℕ) :
    (m.leave i slot).threads = m.threads.set i ⟨slot, .unlocked (m.exitLocked slot).1⟩ := by
  unfold leave
  simp only [goOn, exitLocked]
  split
  · split <;> simp
  · simp

@[simp] theorem threads_respond (notifId : Int32) (userResponse : GpsUserResponseType) :
    (m.respond notifId userResponse).threads = m.threads := by
  rcases m.respond_cases notifId userResponse with heq | ⟨slot, m', -, -, rfl | ⟨-, rfl⟩, heq⟩
  · rw [heq, threads_say]
  · rw [heq, threads_answer, threads_say]
  · rw [heq, threads_answer, threads_answer, threads_say]

theorem get_answer (slot' : Slot) (resp : GpsUserResponseType) :
    (m.answer slot' resp).get slot =
      if slot = slot' then { m.get slot with resp := resp, respRecvd := true }
      else m.get slot := by
  rw [answer, get_set]
  split
  · next heq => rw [heq]
  · rfl

/-- A response changes a session in no way, is put into the session that it selects, or has the
regular request ignored. -/
theorem get_respond (notifId : Int32) (userResponse : GpsUserResponseType) :
    (m.respond notifId userResponse).get slot = m.get slot ∨
    (m.niNotifyCb = true ∧ m.selects notifId = some slot ∧
      (m.respond notifId userResponse).get slot =
        { m.get slot with resp := userResponse, respRecvd := true }) ∨
    (m.respond notifId userResponse).get slot =
      { m.get slot with resp := gpsNiResponseIgnore, respRecvd := true } := by
  rcases m.respond_cases notifId userResponse with
    heq | ⟨slot', m', hcb, hsel, rfl | ⟨rfl, rfl⟩, heq⟩
  · rw [heq, get_say]
    exact .inl rfl
  · rw [heq, get_answer, get_say]
    split
    · next hslot => exact .inr (.inl ⟨hcb, hslot ▸ hsel, rfl⟩)
    · exact .inl rfl
  · rw [heq, get_answer, get_answer, get_say]
    cases slot with
    | supl => exact .inr (.inr rfl)
    | es => exact .inr (.inl ⟨hcb, hsel, rfl⟩)

/-! ### The clock -/

@[simp] theorem clock_set : (m.set slot s).clock = m.clock := by cases slot <;> rfl

@[simp] theorem clock_answer (resp : GpsUserResponseType) : (m.answer slot resp).clock = m.clock :=
  clock_set _ _ _

theorem clock_accept (notif : GpsNiNotification) (passThrough : Option Payload) (created : Bool) :
    (m.accept slot notif passThrough created).clock = m.clock := by
  have hmute : ((m.save slot notif passThrough).muteIfOverride notif).clock = m.clock := by
    unfold muteIfOverride save
    split <;> simp [say]
  unfold accept createThread
  split <;> exact hmute

theorem clock_leave : (m.leave i slot).clock = m.clock := by
  unfold leave goOn exitLocked
  dsimp only
  split
  · split <;> simp [say]
  · simp

theorem clock_resetSession : (m.resetSession slot).clock = m.clock := by
  unfold resetSession
  split <;> simp [say]

/-- Only the clock's own step changes it. -/
theorem clock_step (input : Input) (h : ∀ microseconds, input ≠ .tick microseconds) :
    (m.step input).clock = m.clock := by
  cases input with
  | init =>
    simp only [step, init]
    split <;> rfl
  | requestHandler notif passThrough created =>
    show (m.requestHandler notif passThrough created).clock = m.clock
    rcases m.requestHandler_cases notif passThrough created with
      ⟨slot, -, -, heq⟩ | ⟨-, ⟨heq, -⟩ | ⟨-, payload, -, heq⟩⟩
    · rw [heq, clock_accept]
    · rw [heq]
    · rw [heq]
      rfl
  | respond notifId userResponse =>
    show (m.respond notifId userResponse).clock = m.clock
    rcases m.respond_cases notifId userResponse with heq | ⟨slot, m', -, -, rfl | ⟨-, rfl⟩, heq⟩
    · rw [heq]
      rfl
    · rw [heq, clock_answer]
      rfl
    · rw [heq, clock_answer, clock_answer]
      rfl
  | resetOnEngineRestart =>
    simp only [step, resetOnEngineRestart]
    split
    · rfl
    · rw [clock_resetSession, clock_resetSession]
  | start i =>
    show (m.start i).clock = m.clock
    rcases m.start_cases i with heq | ⟨slot, -, ⟨-, heq⟩ | heq⟩
    · rw [heq]
    · rw [heq, clock_leave]
    · rw [heq]
      rfl
  | wake i timedOut =>
    show (m.wake i timedOut).clock = m.clock
    rcases m.wake_cases i timedOut with heq | ⟨slot, _, -, ⟨-, -, heq⟩ | ⟨-, -, heq⟩⟩
    · rw [heq]
    · rw [heq, clock_leave, clock_set]
    · rw [heq, clock_leave]
  | advance i =>
    simp only [step, advance]
    split
    · simp [goOn]
    · simp [goOn]
    · split <;> rfl
    · rfl
  | process =>
    simp only [step, process]
    split <;> rfl
  | tick microseconds => exact absurd rfl (h microseconds)

/-! ### The log -/

@[simp] theorem log_answer (resp : GpsUserResponseType) : (m.answer slot resp).log = m.log :=
  log_set _ _ _

@[simp] theorem log_goOn : (m.goOn i slot phase).log = m.log := rfl

theorem log_muteIfOverride (notif : GpsNiNotification) :
    (m.muteIfOverride notif).log =
      m.log ++ if notif.notifyFlags = gpsNiPrivacyOverride then [.muteOneSession] else [] := by
  unfold muteIfOverride
  split
  · rfl
  · exact (List.append_nil _).symm

theorem log_accept (notif : GpsNiNotification) (passThrough : Option Payload) (created : Bool) :
    (m.accept slot notif passThrough created).log =
      m.log ++ (if notif.notifyFlags = gpsNiPrivacyOverride then [.muteOneSession] else []) ++
        [.notifyCb slot passThrough (m.reqIDCounter + 1)] := by
  rw [accept, log_say, log_createThread, log_muteIfOverride, log_save]

theorem log_respond (notifId : Int32) (userResponse : GpsUserResponseType) :
    (m.respond notifId userResponse).log = m.log ++ [.respond notifId userResponse] := by
  rcases m.respond_cases notifId userResponse with heq | ⟨slot, m', -, -, rfl | ⟨-, rfl⟩, heq⟩
  · rw [heq, log_say]
  · rw [heq, log_answer, log_say]
  · rw [heq, log_answer, log_answer, log_say]

theorem log_resetSession :
    (m.resetSession slot).log = m.log ++ (m.get slot).rawRequest.toList.map .free := by
  unfold resetSession
  cases (m.get slot).rawRequest with
  | none => exact (List.append_nil _).symm
  | some payload => exact log_set _ _ _

/-- A thread that leaves creates a message for the request that it finds, or frees it. -/
theorem log_leave :
    (m.leave i slot).log = m.log ++ (m.get slot).rawRequest.toList.map fun payload =>
      if (m.get slot).resp ≠ gpsNiResponseIgnore then .create slot ⟨(m.get slot).resp, payload⟩
      else .free payload := by
  unfold leave
  rw [log_goOn]
  unfold exitLocked
  dsimp only
  split
  · next payload hraw =>
    rw [hraw]
    split <;> simp
  · next hraw => simp [hraw]

/-- A request leaves no answer in the log. -/
theorem log_requestHandler (notif : GpsNiNotification) (passThrough : Option Payload)
    (created : Bool) :
    ∃ es, (m.requestHandler notif passThrough created).log = m.log ++ es ∧
      ∀ slot msg, .create slot msg ∉ es := by
  rcases m.requestHandler_cases notif passThrough created with
    ⟨slot, -, -, heq⟩ | ⟨-, ⟨heq, -⟩ | ⟨-, payload, -, heq⟩⟩
  · rw [heq, log_accept, List.append_assoc]
    refine ⟨_, rfl, ?_⟩
    intro slot' msg
    split <;> simp
  · rw [heq]
    exact ⟨[], (List.append_nil _).symm, nofun⟩
  · rw [heq]
    exact ⟨_, rfl, by simp⟩

/-- A restart leaves no answer in the log. -/
theorem log_resetOnEngineRestart :
    ∃ es, m.resetOnEngineRestart.log = m.log ++ es ∧ ∀ slot msg, .create slot msg ∉ es := by
  unfold resetOnEngineRestart
  split
  · exact ⟨[], (List.append_nil _).symm, nofun⟩
  · have hes := log_resetSession m .es
    have hsupl := log_resetSession (m.resetSession .es) .supl
    rw [hes, List.append_assoc] at hsupl
    exact ⟨_, hsupl, by simp⟩

/-- A thread without the lock creates no answer. -/
theorem log_advance :
    ∃ es, (m.advance i).log = m.log ++ es ∧ ∀ slot msg, .create slot msg ∉ es := by
  unfold advance
  split
  · exact ⟨[], by simp, nofun⟩
  · exact ⟨[], by simp, nofun⟩
  · split
    · exact ⟨_, rfl, by simp⟩
    · exact ⟨[], by simp, nofun⟩
  · exact ⟨[], by simp, nofun⟩

theorem log_process : ∃ es, m.process.log = m.log ++ es ∧ ∀ slot msg, .create slot msg ∉ es := by
  unfold process
  split
  · exact ⟨[], by simp, nofun⟩
  · exact ⟨_, List.append_assoc _ _ _, by simp⟩

/-- Only the request handler has a session muted, for a request that overrides privacy. -/
theorem requestHandler_of_muteOneSession {m : NiModule} {input : Input}
    (h : .muteOneSession ∈ (m.step input).log.drop m.log.length) :
    ∃ notif passThrough created, input = .requestHandler notif passThrough created ∧
      notif.notifyFlags = gpsNiPrivacyOverride := by
  have hadds : ∀ {m' : NiModule} {es : List Event}, m'.log = m.log ++ es →
      .muteOneSession ∉ es → .muteOneSession ∉ m'.log.drop m.log.length := by
    intro m' es hlog hes
    rw [hlog, List.drop_left]
    exact hes
  have hsame : ∀ {m' : NiModule}, m'.log = m.log → .muteOneSession ∉ m'.log.drop m.log.length :=
    fun hlog => hadds (hlog.trans (List.append_nil _).symm) nofun
  have hleave : ∀ {m₁ : NiModule} (slot : Slot) (i : ℕ), m₁.log = m.log →
      .muteOneSession ∉ (m₁.leave i slot).log.drop m.log.length := by
    intro m₁ slot i hlog
    refine hadds ((log_leave m₁ slot i).trans (by rw [hlog])) ?_
    rw [List.mem_map]
    rintro ⟨payload, -, heq⟩
    split at heq <;> cases heq
  cases input with
  | requestHandler notif passThrough created =>
    refine ⟨notif, passThrough, created, rfl, ?_⟩
    by_contra hflags
    revert h
    show .muteOneSession ∉ (m.requestHandler notif passThrough created).log.drop m.log.length
    rcases m.requestHandler_cases notif passThrough created with
      ⟨slot, -, -, heq⟩ | ⟨-, ⟨heq, -⟩ | ⟨-, payload, -, heq⟩⟩
    · rw [heq]
      refine hadds ((log_accept m slot notif passThrough created).trans
        (List.append_assoc _ _ _)) ?_
      rw [if_neg hflags]
      simp
    · exact hsame (congrArg log heq)
    · exact hadds ((congrArg log heq).trans (log_say m _)) (by simp)
  | init =>
    refine absurd h (hsame ?_)
    simp only [step, init]
    split <;> rfl
  | respond notifId userResponse =>
    exact absurd h (hadds (log_respond m notifId userResponse) (by simp))
  | resetOnEngineRestart =>
    refine absurd h ?_
    show .muteOneSession ∉ m.resetOnEngineRestart.log.drop m.log.length
    unfold resetOnEngineRestart
    split
    · exact hsame rfl
    · have hlog := log_resetSession (m.resetSession .es) .supl
      rw [log_resetSession m .es, List.append_assoc] at hlog
      exact hadds hlog (by simp)
  | start i =>
    refine absurd h ?_
    show .muteOneSession ∉ (m.start i).log.drop m.log.length
    rcases start_cases m i with heq | ⟨slot, -, ⟨-, heq⟩ | heq⟩
    · exact hsame (congrArg NiModule.log heq)
    · rw [heq]
      exact hleave slot i rfl
    · exact hsame ((congrArg NiModule.log heq).trans rfl)
  | wake i timedOut =>
    refine absurd h ?_
    show .muteOneSession ∉ (m.wake i timedOut).log.drop m.log.length
    rcases wake_cases m i timedOut with heq | ⟨slot, _, -, ⟨-, -, heq⟩ | ⟨-, -, heq⟩⟩
    · exact hsame (congrArg NiModule.log heq)
    · rw [heq]
      exact hleave slot i (log_set _ _ _)
    · rw [heq]
      exact hleave slot i rfl
  | advance i =>
    refine absurd h ?_
    show .muteOneSession ∉ (m.advance i).log.drop m.log.length
    unfold advance
    split
    · exact hsame (by simp)
    · exact hsame (by simp)
    · split
      · exact hadds rfl (by simp)
      · exact hsame rfl
    · exact hsame rfl
  | process =>
    refine absurd h ?_
    show .muteOneSession ∉ m.process.log.drop m.log.length
    unfold process
    split
    · exact hsame rfl
    · exact hadds (List.append_assoc _ _ _) (by simp)
  | tick microseconds => exact absurd h (hsame rfl)

end NiModule
end Ni
end Nx507j
