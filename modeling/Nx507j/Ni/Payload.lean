import Mathlib.Data.List.Basic
import Mathlib.Logic.Function.Iterate
import Nx507j.Lib.Lists
import Nx507j.Lib.Run
import Nx507j.Ni.Steps

/-!
# Who frees a payload

A request's payload is handed to the request handler, and has to be freed once: by the handler,
by a restart, by a thread that leaves, or by the destructor of the message that the thread sends.
A restart does not hold the lock while it frees a payload, so its steps are taken apart here; as
many restarts as one likes may be on their way.

The payloads are numbered as they are handed over.

## Main definitions

* `ResetPhase`, `Owned` — a restart on its way, and a module with its restarts.
* `Owned.Disposed` — no payload is freed twice, or sent when it has been freed, and none is left.
* `Owned.Apart` — a step that neither gets a payload before `loc_eng_ni_init`, nor comes between
  a restart's free of a payload and its `NULL` store.

## Main results

* `Owned.disposed_exec` — a run of such steps disposes of every payload once.
* `Owned.reset_eq` — a restart that nothing comes between is the call of the module.
-/

namespace Nx507j
namespace Ni

open Run

/-! ### Restarts in parts -/

/-- Where a call of `loc_eng_ni_reset_on_engine_restart` is: before its test of a session's
`rawRequest`, before its free, before its `NULL` store (when it has freed `freed`), before its
locked section, or at its end. -/
inductive ResetPhase
  | test (slot : Slot)
  | free (slot : Slot)
  | store (slot : Slot) (freed : Option Payload)
  | locked (slot : Slot)
  | done
  deriving DecidableEq, Repr

/-- The emergency session comes first. -/
def ResetPhase.next : Slot → ResetPhase
  | .es => .test .supl
  | .supl => .done

/-- The module, the restarts on their way, and how many payloads have been handed over. -/
structure Owned where
  m : NiModule
  resets : List ResetPhase
  handed : ℕ
  deriving DecidableEq, Repr

namespace Owned

/-- The zeroed module. -/
def zero : Owned := ⟨NiModule.zero, [], 0⟩

/-- The payload that is handed over next, when the caller has one. -/
def next (s : Owned) (hasPayload : Bool) : Option Payload :=
  if hasPayload then some s.handed else none

/-- What the module is when it has been handed over. -/
def hand (s : Owned) (hasPayload : Bool) (m : NiModule) : Owned :=
  { s with m := m, handed := if hasPayload then s.handed + 1 else s.handed }

/-- The restart `k` goes on. -/
def resetTo (k : ℕ) (phase : ResetPhase) (s : Owned) : Owned :=
  { s with resets := s.resets.set k phase }

/-- `free(rawRequest)`, which does nothing with `NULL`. -/
def freeRequest (slot : Slot) (m : NiModule) : NiModule :=
  match (m.get slot).rawRequest with
  | some payload => m.say (.free payload)
  | none => m

/-- `rawRequest = NULL`. -/
def clearRequest (slot : Slot) (m : NiModule) : NiModule :=
  m.set slot { m.get slot with rawRequest := none }

/-- The next part of the restart `k`. -/
def resetStep (k : ℕ) (s : Owned) : Owned :=
  match s.resets[k]? with
  | some (.test slot) =>
    s.resetTo k (if (s.m.get slot).rawRequest.isSome then .free slot else .next slot)
  | some (.free slot) =>
    { s with m := freeRequest slot s.m }.resetTo k (.store slot (s.m.get slot).rawRequest)
  | some (.store slot _) =>
    { s with m := clearRequest slot s.m }.resetTo k (.locked slot)
  | some (.locked slot) =>
    { s with m := s.m.set slot { s.m.get slot with respRecvd := true } }.resetTo k (.next slot)
  | _ => s

/-- What can happen. -/
inductive Input
  | init
  | requestHandler (notif : GpsNiNotification) (hasPayload threadCreated : Bool)
  | respond (notifId : Int32) (userResponse : GpsUserResponseType)
  | reset
  | resetStep (k : ℕ)
  | start (i : ℕ)
  | wake (i : ℕ) (timedOut : Bool)
  | advance (i : ℕ)
  | process
  | tick (microseconds : ℕ)
  deriving DecidableEq, Repr

/-- One step. -/
def step (s : Owned) : Input → Owned
  | .init => { s with m := s.m.init }
  | .requestHandler notif hasPayload threadCreated =>
    s.hand hasPayload (s.m.requestHandler notif (s.next hasPayload) threadCreated)
  | .respond notifId userResponse => { s with m := s.m.respond notifId userResponse }
  | .reset => if s.m.niNotifyCb then { s with resets := s.resets ++ [.test .es] } else s
  | .resetStep k => s.resetStep k
  | .start i => { s with m := s.m.start i }
  | .wake i timedOut => { s with m := s.m.wake i timedOut }
  | .advance i => { s with m := s.m.advance i }
  | .process => { s with m := s.m.process }
  | .tick microseconds => { s with m := s.m.step (.tick microseconds) }

end Owned

/-! ### A restart that nothing comes between -/

namespace Owned

theorem resetStep_concat (m : NiModule) (resets : List ResetPhase) (phase : ResetPhase)
    (handed : ℕ) :
    resetStep resets.length ⟨m, resets ++ [phase], handed⟩ =
      match phase with
      | .test slot => ⟨m, resets ++ [if (m.get slot).rawRequest.isSome then .free slot
          else .next slot], handed⟩
      | .free slot => ⟨freeRequest slot m, resets ++ [.store slot (m.get slot).rawRequest], handed⟩
      | .store slot _ => ⟨clearRequest slot m, resets ++ [.locked slot], handed⟩
      | .locked slot =>
        ⟨m.set slot { m.get slot with respRecvd := true }, resets ++ [.next slot], handed⟩
      | .done => ⟨m, resets ++ [.done], handed⟩ := by
  unfold resetStep
  rw [List.getElem?_concat_length]
  cases phase <;> simp [resetTo]

/-- The parts for one session do together what the call does to it. -/
theorem resetSession_eq (m : NiModule) (resets : List ResetPhase) (slot : Slot) (handed : ℕ) :
    ∃ n, (resetStep resets.length)^[n] ⟨m, resets ++ [.test slot], handed⟩ =
      ⟨m.resetSession slot, resets ++ [.next slot], handed⟩ := by
  cases hraw : (m.get slot).rawRequest with
  | none =>
    refine ⟨1, ?_⟩
    have hsame : m.resetSession slot = m := by rw [NiModule.resetSession, hraw]
    rw [hsame, Function.iterate_one, resetStep_concat]
    simp [hraw]
  | some payload =>
    refine ⟨4, ?_⟩
    simp only [Function.iterate_succ, Function.iterate_zero, Function.comp_apply, id_eq,
      resetStep_concat, hraw, Option.isSome_some, if_true]
    have hfree : freeRequest slot m = m.say (.free payload) := by rw [freeRequest, hraw]
    have hsession : m.resetSession slot = (m.say (.free payload)).set slot
        { m.get slot with rawRequest := none, respRecvd := true } := by
      rw [NiModule.resetSession, hraw]
    rw [hfree, hsession]
    cases slot <;> rfl

/-- A restart whose parts follow each other is the call. -/
theorem reset_eq (s : Owned) :
    ∃ n, (resetStep s.resets.length)^[n] (s.step .reset) =
      { s with
        m := s.m.resetOnEngineRestart
        resets := s.resets ++ if s.m.niNotifyCb then [.done] else [] } := by
  show ∃ n, (resetStep s.resets.length)^[n]
    (if s.m.niNotifyCb then { s with resets := s.resets ++ [.test .es] } else s) = _
  unfold NiModule.resetOnEngineRestart
  cases s.m.niNotifyCb with
  | false => exact ⟨0, by simp⟩
  | true =>
    obtain ⟨n, hes⟩ := resetSession_eq s.m s.resets .es s.handed
    obtain ⟨n', hsupl⟩ := resetSession_eq (s.m.resetSession .es) s.resets .supl s.handed
    refine ⟨n' + n, ?_⟩
    rw [if_pos rfl, Function.iterate_add_apply, hes]
    exact hsupl

end Owned

/-! ### Where a payload is -/

/-- The message that a thread has to send. -/
def Phase.msg : Phase → Option InformNiResponse
  | .unlocked msg | .timeLeftCleared msg | .reqIDCleared msg => msg
  | _ => none

namespace NiModule

/-- The thread has to send the payload. -/
def sends (p : Payload) (th : NiThread) : Bool := th.phase.msg.any fun msg => msg.payload = p

/-- How often the payload has been freed. -/
def freed (m : NiModule) (p : Payload) : ℕ := m.log.count (.free p)

/-- In how many messages the payload is. -/
def inMessages (m : NiModule) (p : Payload) : ℕ :=
  m.threads.countP (sends p) + m.queue.countP fun msg => msg.payload = p

/-- No message was created with a payload that had been freed. -/
def Wrapped (m : NiModule) : Prop :=
  ∀ before slot msg after, m.log = before ++ .create slot msg :: after →
    .free msg.payload ∉ before

end NiModule

namespace Owned

/-- A restart has freed the payload, and has not stored `NULL` since. -/
def Dangling (s : Owned) (slot : Slot) (p : Payload) : Prop := .store slot (some p) ∈ s.resets

instance (s : Owned) (slot : Slot) (p : Payload) : Decidable (s.Dangling slot p) :=
  inferInstanceAs (Decidable (_ ∈ _))

/-- No payload is freed twice, none is sent that has been freed, and each one has been freed once
when no thread is left, no message is queued and no session holds it. -/
structure Disposed (s : Owned) : Prop where
  freed_le_one : ∀ p, s.m.freed p ≤ 1
  wrapped : s.m.Wrapped
  freed_eq_one : ∀ p < s.handed, (∀ th ∈ s.m.threads, th.phase = .done) → s.m.queue = [] →
    (∀ slot, (s.m.get slot).rawRequest ≠ some p) → s.m.freed p = 1

/-- A step that hands no payload over before `loc_eng_ni_init`, with which neither a thread that
leaves nor another restart finds a payload that a restart has freed, and no restart stores `NULL`
over a request that has not been freed. -/
def Apart (s : Owned) : Input → Prop
  | .requestHandler _ hasPayload _ => hasPayload = true → s.m.niNotifyCb = true
  | .start i =>
    ∀ slot p, s.m.threads[i]? = some ⟨slot, .start⟩ → (s.m.get slot).respRecvd = true →
      (s.m.get slot).rawRequest = some p → ¬ s.Dangling slot p
  | .wake i timedOut =>
    ∀ slot expireTime p, s.m.threads[i]? = some ⟨slot, .waiting expireTime⟩ →
      (if timedOut then expireTime ≤ s.m.clock else (s.m.get slot).respRecvd = true) →
        (s.m.get slot).rawRequest = some p → ¬ s.Dangling slot p
  | .resetStep k =>
    ∀ slot p, (s.m.get slot).rawRequest = some p →
      (s.resets[k]? = some (.free slot) → ¬ s.Dangling slot p) ∧
        ∀ freed, s.resets[k]? = some (.store slot freed) → s.Dangling slot p
  | _ => True

/-- Whether a session holds the payload, and no restart has freed it. -/
def heldIn (s : Owned) (slot : Slot) (p : Payload) : ℕ :=
  if (s.m.get slot).rawRequest = some p ∧ ¬ s.Dangling slot p then 1 else 0

theorem heldIn_of_none {s : Owned} {slot : Slot} (hraw : (s.m.get slot).rawRequest = none)
    (p : Payload) : s.heldIn slot p = 0 := by
  rw [heldIn, hraw]
  exact if_neg nofun

theorem heldIn_congr {s s' : Owned} {slot : Slot} {p : Payload}
    (hraw : (s'.m.get slot).rawRequest = (s.m.get slot).rawRequest)
    (hd : s'.Dangling slot p ↔ s.Dangling slot p) : s'.heldIn slot p = s.heldIn slot p :=
  if_congr (and_congr (by rw [hraw]) (not_congr hd)) rfl rfl

/-- The other session. -/
def other : Slot → Slot
  | .supl => .es
  | .es => .supl

theorem other_ne (slot : Slot) : other slot ≠ slot := by cases slot <;> decide

/-- How many sessions hold the payload. -/
def held (s : Owned) (p : Payload) : ℕ := s.heldIn .supl p + s.heldIn .es p

theorem held_eq (s : Owned) (slot : Slot) (p : Payload) :
    s.held p = s.heldIn slot p + s.heldIn (other slot) p := by
  cases slot with
  | supl => rfl
  | es => exact Nat.add_comm _ _

/-- **The account of the payloads**: each one that has been handed over has been freed, is in a
message, or is held by a session. -/
structure Account (s : Owned) : Prop where
  balance : ∀ p, s.m.freed p + s.m.inMessages p + s.held p = if p < s.handed then 1 else 0
  dangling : ∀ slot p, s.Dangling slot p → 0 < s.m.freed p
  uninit : s.m.niNotifyCb = false → ∀ slot, (s.m.get slot).rawRequest = none
  wrapped : s.m.Wrapped

end Owned

/-! ### What changes no payload's place -/

namespace NiModule

/-- Every payload stays where it is. -/
structure Quiet (m m' : NiModule) : Prop where
  rawRequest : ∀ slot, (m'.get slot).rawRequest = (m.get slot).rawRequest
  freed : ∀ p, m'.freed p = m.freed p
  inMessages : ∀ p, m'.inMessages p = m.inMessages p
  niNotifyCb : m'.niNotifyCb = m.niNotifyCb
  wrapped : m.Wrapped → m'.Wrapped

variable {m m' m'' : NiModule}

theorem Quiet.refl (m : NiModule) : Quiet m m :=
  ⟨fun _ => rfl, fun _ => rfl, fun _ => rfl, rfl, fun h => h⟩

theorem Quiet.trans (h : Quiet m m') (h' : Quiet m' m'') : Quiet m m'' where
  rawRequest slot := (h'.rawRequest slot).trans (h.rawRequest slot)
  freed p := (h'.freed p).trans (h.freed p)
  inMessages p := (h'.inMessages p).trans (h.inMessages p)
  niNotifyCb := h'.niNotifyCb.trans h.niNotifyCb
  wrapped hw := h'.wrapped (h.wrapped hw)

theorem Wrapped.of_log (h : m.Wrapped) (hlog : m'.log = m.log) : m'.Wrapped := by
  unfold Wrapped
  rw [hlog]
  exact h

/-- An event is logged after the others, and a message with a payload that had not been freed. -/
theorem Wrapped.concat (h : m.Wrapped) {e : Event} (hlog : m'.log = m.log ++ [e])
    (he : ∀ slot msg, e = .create slot msg → .free msg.payload ∉ m.log) : m'.Wrapped := by
  intro before slot msg after heq
  rw [hlog] at heq
  rcases List.eq_nil_or_concat' after with rfl | ⟨after', e', rfl⟩
  · obtain ⟨rfl, hlast⟩ := List.append_inj' heq rfl
    exact he slot msg (List.singleton_inj.mp hlast)
  · rw [← List.cons_append, ← List.append_assoc] at heq
    exact h before slot msg after' (List.append_inj_left' heq rfl)

theorem quiet_set {slot : Slot} {s : NiSession} (hs : s.rawRequest = (m.get slot).rawRequest) :
    Quiet m (m.set slot s) where
  rawRequest slot' := by
    rw [get_set]
    split
    · next heq => rw [heq, hs]
    · rfl
  freed p := by rw [freed, freed, log_set]
  inMessages p := by cases slot <;> rfl
  niNotifyCb := by cases slot <;> rfl
  wrapped h := h.of_log (log_set _ _ _)

/-- An event that neither frees a payload nor creates a message. -/
theorem quiet_say {e : Event} (hfree : ∀ p, e ≠ .free p) (hcreate : ∀ slot msg, e ≠ .create slot msg) :
    Quiet m (m.say e) where
  rawRequest slot := by rw [get_say]
  freed p := by
    rw [freed, log_say, List.count_append, List.count_singleton, if_neg, Nat.add_zero]
    · rfl
    · rw [beq_iff_eq]
      exact hfree p
  inMessages p := rfl
  niNotifyCb := rfl
  wrapped h := h.concat (log_say m e) fun slot msg heq => absurd heq (hcreate slot msg)

theorem quiet_answer (slot : Slot) (resp : GpsUserResponseType) : Quiet m (m.answer slot resp) :=
  quiet_set rfl

/-- A thread goes on with the message that it has to send. -/
theorem quiet_goOn {i : ℕ} {slot : Slot} {p q : Phase} (hi : m.threads[i]? = some ⟨slot, p⟩)
    (hmsg : q.msg = p.msg) : Quiet m (m.goOn i slot q) where
  rawRequest slot' := by rw [get_goOn]
  freed _ := rfl
  inMessages p' := by
    have hcount := Lists.countP_set_add (p := sends p') hi ⟨slot, q⟩
    have hsends : sends p' ⟨slot, q⟩ = sends p' ⟨slot, p⟩ := by
      simp only [sends, hmsg]
    rw [hsends] at hcount
    have hthreads := Nat.add_right_cancel hcount
    simp only [inMessages, goOn, hthreads]
  niNotifyCb := rfl
  wrapped h := h.of_log rfl

theorem quiet_respond (notifId : Int32) (userResponse : GpsUserResponseType) :
    Quiet m (m.respond notifId userResponse) := by
  have hsaid : Quiet m (m.say (.respond notifId userResponse)) := quiet_say nofun nofun
  rcases m.respond_cases notifId userResponse with heq | ⟨slot, m', -, -, rfl | ⟨-, rfl⟩, heq⟩
  · rw [heq]
    exact hsaid
  · rw [heq]
    exact hsaid.trans (quiet_answer _ _)
  · rw [heq]
    exact (hsaid.trans (quiet_answer _ _)).trans (quiet_answer _ _)

/-- A thread without the lock sends its message, but does not touch the payload. -/
theorem quiet_advance (i : ℕ) : Quiet m (m.advance i) := by
  unfold advance
  split
  · next slot msg hi =>
    have hset : Quiet m (m.set slot { m.get slot with respTimeLeft := 0 }) := quiet_set rfl
    exact hset.trans (quiet_goOn (p := .unlocked msg) (by rw [threads_set]; exact hi) rfl)
  · next slot msg hi =>
    have hset : Quiet m (m.set slot { m.get slot with reqID := 0 }) := quiet_set rfl
    exact hset.trans (quiet_goOn (p := .timeLeftCleared msg) (by rw [threads_set]; exact hi) rfl)
  · next slot msg hi =>
    cases msg with
    | none => exact quiet_goOn hi rfl
    | some msg =>
      refine ⟨fun slot' => by cases slot' <;> rfl, fun p => ?_, fun p => ?_, rfl, fun h => ?_⟩
      · have hcount : (m.log ++ [Event.sendMsg msg]).count (.free p) = m.log.count (.free p) := by
          rw [List.count_append]
          exact Nat.add_zero _
        exact hcount
      · have hcount := Lists.countP_set_add (p := sends p) hi ⟨slot, .done⟩
        have hqueue : (m.queue ++ [msg]).countP (fun msg => msg.payload = p) =
            m.queue.countP (fun msg => msg.payload = p) + if msg.payload = p then 1 else 0 := by
          rw [List.countP_append, List.countP_singleton]
          simp
        simp only [sends, Phase.msg, Option.any_some, Option.any_none, decide_eq_true_eq,
          Bool.false_eq_true, if_false] at hcount
        show (m.threads.set i ⟨slot, .done⟩).countP (sends p) + (m.queue ++ [msg]).countP _ = _
        rw [hqueue]
        unfold inMessages
        omega
      · exact h.concat (e := .sendMsg msg) rfl nofun
  · exact .refl m

/-! ### A thread that leaves -/

theorem freed_say (m : NiModule) (e : Event) (p : Payload) :
    (m.say e).freed p = m.freed p + if e = .free p then 1 else 0 := by
  rw [freed, log_say, List.count_append, List.count_singleton]
  simp only [beq_iff_eq]
  rfl

theorem exitLocked_freed (m : NiModule) (slot : Slot) (p : Payload) :
    (m.exitLocked slot).2.freed p = m.freed p +
      if (m.get slot).rawRequest = some p ∧ (m.get slot).resp = gpsNiResponseIgnore then 1 else 0 := by
  have hset : ∀ s, (m.set slot s).freed p = m.freed p := fun s => by rw [freed, freed, log_set]
  unfold exitLocked
  dsimp only
  split
  · next payload hraw =>
    rw [hraw]
    by_cases hresp : (m.get slot).resp = gpsNiResponseIgnore
    · rw [if_neg (not_not.mpr hresp), freed_say, hset]
      simp [hresp]
    · rw [if_pos hresp, freed_say, hset]
      simp [hresp]
  · next hraw =>
    rw [hset]
    simp [hraw]

theorem exitLocked_msg (m : NiModule) (slot : Slot) (p : Payload) :
    ((m.exitLocked slot).1.any fun msg => msg.payload = p) =
      decide ((m.get slot).rawRequest = some p ∧ (m.get slot).resp ≠ gpsNiResponseIgnore) := by
  unfold exitLocked
  dsimp only
  split
  · next payload hraw =>
    rw [hraw]
    by_cases hresp : (m.get slot).resp = gpsNiResponseIgnore
    · rw [if_neg (not_not.mpr hresp)]
      simp [hresp]
    · rw [if_pos hresp]
      simp [hresp]
  · next hraw => simp [hraw]

theorem exitLocked_queue (m : NiModule) (slot : Slot) : (m.exitLocked slot).2.queue = m.queue := by
  have hset : ∀ s, (m.set slot s).queue = m.queue := fun s => by cases slot <;> rfl
  unfold exitLocked
  dsimp only
  split
  · split <;> exact hset _
  · exact hset _

theorem exitLocked_niNotifyCb (m : NiModule) (slot : Slot) :
    (m.exitLocked slot).2.niNotifyCb = m.niNotifyCb := by
  have hset : ∀ s, (m.set slot s).niNotifyCb = m.niNotifyCb := fun s => by cases slot <;> rfl
  unfold exitLocked
  dsimp only
  split
  · split <;> exact hset _
  · exact hset _

/-- What a thread that leaves wraps had not been freed. -/
theorem Wrapped.leave (h : m.Wrapped) {slot : Slot}
    (hraw : ∀ p, (m.get slot).rawRequest = some p → m.freed p = 0) (i : ℕ) :
    (m.leave i slot).Wrapped := by
  have hset : ∀ s, (m.set slot s).Wrapped := fun s => h.of_log (log_set _ _ _)
  have hexit : (m.exitLocked slot).2.Wrapped := by
    unfold exitLocked
    dsimp only
    split
    · next payload hp =>
      split
      · refine (hset _).concat (log_say _ _) fun slot' msg heq => ?_
        obtain ⟨rfl, rfl⟩ := Event.create.inj heq
        rw [log_set]
        exact List.count_eq_zero.mp (hraw payload hp)
      · exact (hset _).concat (log_say _ _) nofun
    · exact hset _
  exact hexit.of_log rfl

/-- A thread that leaves takes the payload out of the session: into its message, or to be freed. -/
theorem leave_inMessages {i : ℕ} {slot : Slot} {q : Phase} (hi : m.threads[i]? = some ⟨slot, q⟩)
    (hq : q.msg = none) (p : Payload) :
    (m.leave i slot).inMessages p = m.inMessages p +
      if (m.get slot).rawRequest = some p ∧ (m.get slot).resp ≠ gpsNiResponseIgnore then 1 else 0 := by
  have hbefore : sends p ⟨slot, q⟩ = false := by
    simp only [sends, hq, Option.any_none]
  have hafter : sends p ⟨slot, .unlocked (m.exitLocked slot).1⟩ = _ := exitLocked_msg m slot p
  have hcount := Lists.countP_set_add (p := sends p) hi ⟨slot, .unlocked (m.exitLocked slot).1⟩
  rw [hbefore, hafter] at hcount
  simp only [Bool.false_eq_true, if_false, decide_eq_true_eq] at hcount
  unfold inMessages
  rw [threads_leave, show (m.leave i slot).queue = m.queue from exitLocked_queue m slot]
  omega

/-- What a thread that leaves does with the payload that it finds. -/
theorem leave_total {i : ℕ} {slot : Slot} {q : Phase} (hi : m.threads[i]? = some ⟨slot, q⟩)
    (hq : q.msg = none) (p : Payload) :
    (m.leave i slot).freed p + (m.leave i slot).inMessages p =
      m.freed p + m.inMessages p + if (m.get slot).rawRequest = some p then 1 else 0 := by
  rw [leave_inMessages hi hq, show (m.leave i slot).freed p = _ from exitLocked_freed m slot p]
  by_cases hraw : (m.get slot).rawRequest = some p
  · by_cases hresp : (m.get slot).resp = gpsNiResponseIgnore
    · simp [hraw, hresp]
      omega
    · simp [hraw, hresp]
      omega
  · simp [hraw]

end NiModule

namespace Owned

variable {s : Owned}

theorem account_zero : Account zero where
  balance p := by
    have hnone : zero.held p = 0 := rfl
    rw [hnone]
    rfl
  dangling slot p hd := by cases hd
  uninit _ slot := by cases slot <;> rfl
  wrapped := by
    intro before slot msg after heq
    cases before <;> cases heq

theorem Account.quiet (h : s.Account) {m' : NiModule} (hq : s.m.Quiet m') :
    { s with m := m' }.Account where
  balance p := by
    have hbalance := h.balance p
    simp only [held, heldIn, Dangling, hq.rawRequest, hq.freed, hq.inMessages] at hbalance ⊢
    exact hbalance
  dangling slot p hd := by
    rw [hq.freed]
    exact h.dangling slot p hd
  uninit hcb slot := by
    rw [hq.rawRequest]
    exact h.uninit (hq.niNotifyCb.symm.trans hcb) slot
  wrapped := hq.wrapped h.wrapped

/-- A payload that a session holds has not been freed, and is nowhere else. -/
theorem Account.of_held (h : s.Account) {slot : Slot} {p : Payload}
    (hraw : (s.m.get slot).rawRequest = some p) (hd : ¬ s.Dangling slot p) :
    s.m.freed p = 0 ∧ s.heldIn (other slot) p = 0 ∧ p < s.handed := by
  have hbalance := h.balance p
  have hheld : s.heldIn slot p = 1 := if_pos ⟨hraw, hd⟩
  rw [held_eq s slot, hheld] at hbalance
  by_cases hlt : p < s.handed
  · rw [if_pos hlt] at hbalance
    exact ⟨by omega, by omega, hlt⟩
  · rw [if_neg hlt] at hbalance
    omega

/-- A thread leaves, and does not find a payload that a restart has freed. -/
theorem Account.leave (h : s.Account) {i : ℕ} {slot : Slot} {q : Phase}
    (hi : s.m.threads[i]? = some ⟨slot, q⟩) (hq : q.msg = none)
    (hd : ∀ p, (s.m.get slot).rawRequest = some p → ¬ s.Dangling slot p) :
    { s with m := s.m.leave i slot }.Account where
  balance p := by
    have hbalance := h.balance p
    have htotal := NiModule.leave_total hi hq p
    have hslot : s.heldIn slot p = if (s.m.get slot).rawRequest = some p then 1 else 0 := by
      by_cases hraw : (s.m.get slot).rawRequest = some p
      · rw [heldIn, if_pos ⟨hraw, hd p hraw⟩, if_pos hraw]
      · rw [heldIn, if_neg fun hheld => hraw hheld.1, if_neg hraw]
    have hslot' : { s with m := s.m.leave i slot }.heldIn slot p = 0 := by
      refine heldIn_of_none ?_ p
      rw [NiModule.get_leave, if_pos rfl]
    have hother : { s with m := s.m.leave i slot }.heldIn (other slot) p =
        s.heldIn (other slot) p := by
      refine heldIn_congr ?_ Iff.rfl
      rw [NiModule.get_leave, if_neg (other_ne slot)]
    rw [held_eq s slot, hslot] at hbalance
    rw [held_eq _ slot, hslot', hother]
    show (s.m.leave i slot).freed p + (s.m.leave i slot).inMessages p +
      (0 + s.heldIn (other slot) p) = if p < s.handed then 1 else 0
    omega
  dangling slot' p hdp := by
    have hpos := h.dangling slot' p hdp
    have hfreed : (s.m.leave i slot).freed p = _ := NiModule.exitLocked_freed s.m slot p
    show 0 < (s.m.leave i slot).freed p
    omega
  uninit hcb slot' := by
    have hcb' : s.m.niNotifyCb = false := (NiModule.exitLocked_niNotifyCb s.m slot).symm.trans hcb
    show ((s.m.leave i slot).get slot').rawRequest = none
    rw [NiModule.get_leave]
    split
    · rfl
    · exact h.uninit hcb' slot'
  wrapped := h.wrapped.leave (fun p hraw => (h.of_held hraw (hd p hraw)).1) i

/-! ### The request handler -/

/-- A payload that has not been handed over is nowhere. -/
theorem Account.fresh (h : s.Account) {p : Payload} (hp : s.handed ≤ p) :
    s.m.freed p = 0 ∧ s.m.inMessages p = 0 ∧ s.held p = 0 := by
  have hbalance := h.balance p
  rw [if_neg (Nat.not_lt.mpr hp)] at hbalance
  exact ⟨by omega, by omega, by omega⟩

theorem lt_handed_succ (p handed : ℕ) :
    (if p < handed + 1 then 1 else 0) =
      (if p < handed then 1 else 0) + if p = handed then 1 else 0 := by
  split <;> split <;> split <;> omega

/-- A session that holds no request takes the next one. -/
theorem Account.save (h : s.Account) {slot : Slot} (hcb : s.m.niNotifyCb = true)
    (hnone : (s.m.get slot).rawRequest = none) (notif : GpsNiNotification) (hasPayload : Bool) :
    (s.hand hasPayload (s.m.save slot notif (s.next hasPayload))).Account where
  balance p := by
    have hbalance := h.balance p
    have hslot : s.heldIn slot p = 0 := heldIn_of_none hnone p
    have hfresh : ¬ s.Dangling slot s.handed := fun hd =>
      absurd (h.dangling slot s.handed hd) (by rw [(h.fresh (Nat.le_refl _)).1]; exact Nat.lt_irrefl 0)
    have hslot' : (s.hand hasPayload (s.m.save slot notif (s.next hasPayload))).heldIn slot p =
        if hasPayload = true ∧ p = s.handed then 1 else 0 := by
      show (if ((s.m.save slot notif (s.next hasPayload)).get slot).rawRequest = some p ∧
        ¬ s.Dangling slot p then 1 else 0) = _
      rw [NiModule.get_save, if_pos rfl]
      cases hasPayload with
      | false => rfl
      | true =>
        refine if_congr ⟨fun hheld => ⟨rfl, (Option.some.inj hheld.1).symm⟩, ?_⟩ rfl rfl
        rintro ⟨-, rfl⟩
        exact ⟨rfl, hfresh⟩
    have hother : (s.hand hasPayload (s.m.save slot notif (s.next hasPayload))).heldIn
        (other slot) p = s.heldIn (other slot) p := by
      refine heldIn_congr ?_ Iff.rfl
      rw [hand, NiModule.get_save, if_neg (other_ne slot)]
    rw [held_eq s slot, hslot] at hbalance
    rw [held_eq _ slot, hslot', hother]
    have hfreed : (s.m.save slot notif (s.next hasPayload)).freed p = s.m.freed p := by
      rw [NiModule.freed, NiModule.log_save]
      rfl
    have hmsgs : (s.m.save slot notif (s.next hasPayload)).inMessages p = s.m.inMessages p := by
      cases slot <;> rfl
    show (s.m.save slot notif (s.next hasPayload)).freed p +
      (s.m.save slot notif (s.next hasPayload)).inMessages p + _ =
        if p < (if hasPayload then s.handed + 1 else s.handed) then 1 else 0
    rw [hfreed, hmsgs]
    cases hasPayload with
    | false =>
      simp only [Bool.false_eq_true, false_and, if_false]
      omega
    | true =>
      simp only [true_and, if_true, lt_handed_succ]
      omega
  dangling slot' p hd := by
    have hfreed : (s.m.save slot notif (s.next hasPayload)).freed p = s.m.freed p := by
      rw [NiModule.freed, NiModule.log_save]
      rfl
    show 0 < (s.m.save slot notif (s.next hasPayload)).freed p
    rw [hfreed]
    exact h.dangling slot' p hd
  uninit hcb' := by
    have hsave : (s.m.save slot notif (s.next hasPayload)).niNotifyCb = s.m.niNotifyCb := by
      cases slot <;> rfl
    exact absurd ((hsave.symm.trans hcb').symm.trans hcb) Bool.false_ne_true
  wrapped := h.wrapped.of_log (NiModule.log_save _ _ _ _)

/-- A request that no session takes is freed. -/
theorem Account.refuse (h : s.Account) (hcb : s.m.niNotifyCb = true) :
    (s.hand true (s.m.say (.free s.handed))).Account where
  balance p := by
    have hbalance := h.balance p
    have hheld : (s.hand true (s.m.say (.free s.handed))).held p = s.held p := rfl
    have hfreed : (s.m.say (.free s.handed)).freed p =
        s.m.freed p + if p = s.handed then 1 else 0 := by
      rw [NiModule.freed_say]
      simp only [Event.free.injEq, eq_comm]
    rw [hheld]
    show (s.m.say (.free s.handed)).freed p + s.m.inMessages p + s.held p =
      if p < s.handed + 1 then 1 else 0
    rw [hfreed, lt_handed_succ]
    omega
  dangling slot p hd := by
    have hpos := h.dangling slot p hd
    show 0 < (s.m.say (.free s.handed)).freed p
    rw [NiModule.freed_say]
    omega
  uninit hcb' := absurd (hcb.symm.trans hcb') nofun
  wrapped := h.wrapped.concat (NiModule.log_say _ _) nofun

/-- The handler does not touch the payload after it has saved it. -/
theorem quiet_accept (m : NiModule) (slot : Slot) (notif : GpsNiNotification)
    (passThrough : Option Payload) (created : Bool) :
    (m.save slot notif passThrough).Quiet (m.accept slot notif passThrough created) := by
  have hmute : ∀ m : NiModule, m.Quiet (m.muteIfOverride notif) := by
    intro m
    unfold NiModule.muteIfOverride
    split
    · exact NiModule.quiet_say nofun nofun
    · exact .refl m
  have hthread : ∀ m : NiModule, m.Quiet (m.createThread slot created) := by
    intro m
    cases created with
    | false => exact .refl m
    | true =>
      refine ⟨fun slot' => by rw [NiModule.get_createThread], fun _ => rfl, fun p => ?_, rfl,
        fun hw => hw.of_log rfl⟩
      simp only [NiModule.inMessages, NiModule.createThread, if_true, List.countP_append]
      rfl
  exact ((hmute _).trans (hthread _)).trans (NiModule.quiet_say nofun nofun)

theorem Account.requestHandler (h : s.Account) (notif : GpsNiNotification)
    {hasPayload : Bool} (created : Bool) (hinit : hasPayload = true → s.m.niNotifyCb = true) :
    (s.hand hasPayload (s.m.requestHandler notif (s.next hasPayload) created)).Account := by
  rcases s.m.requestHandler_cases notif (s.next hasPayload) created with
    ⟨slot, hcb, hacc, heq⟩ | ⟨-, ⟨heq, hnone⟩ | ⟨hcb, payload, hpayload, heq⟩⟩
  · rw [heq]
    have hsave := h.save hcb (s.m.rawRequest_of_accepts slot hacc).1 notif hasPayload
    exact hsave.quiet (quiet_accept s.m slot notif (s.next hasPayload) created)
  · rw [heq]
    cases hasPayload with
    | false => exact h
    | true => exact absurd (hnone (hinit rfl)) nofun
  · rw [heq]
    cases hasPayload with
    | false => cases hpayload
    | true =>
      obtain rfl : s.handed = payload := Option.some.inj hpayload
      exact h.refuse hcb

/-! ### Restarts -/

/-- A restart goes on, and neither comes from a `NULL` store nor to one. -/
theorem Account.resets (h : s.Account) {resets : List ResetPhase}
    (hd : ∀ slot p, .store slot (some p) ∈ resets ↔ .store slot (some p) ∈ s.resets) :
    { s with resets := resets }.Account where
  balance p := by
    have hbalance := h.balance p
    have hheld : ∀ slot, { s with resets := resets }.heldIn slot p = s.heldIn slot p :=
      fun slot => heldIn_congr rfl (hd slot p)
    rw [held, ← hheld, ← hheld] at hbalance
    exact hbalance
  dangling slot p hdp := h.dangling slot p ((hd slot p).mp hdp)
  uninit := h.uninit
  wrapped := h.wrapped

theorem Account.reset (h : s.Account) : (s.step .reset).Account := by
  show (if s.m.niNotifyCb then { s with resets := s.resets ++ [.test .es] } else s).Account
  split
  · exact h.resets fun slot p => by simp
  · exact h

/-- A restart frees what a session holds, and no restart has freed it before. -/
theorem Account.free (h : s.Account) {k : ℕ} {slot : Slot} {p : Payload}
    (hk : s.resets[k]? = some (.free slot)) (hraw : (s.m.get slot).rawRequest = some p)
    (hd : ¬ s.Dangling slot p) :
    ({ s with m := s.m.say (.free p) }.resetTo k (.store slot (some p))).Account := by
  have hcb : s.m.niNotifyCb = true := by
    by_contra hcb
    rw [Bool.not_eq_true] at hcb
    rw [h.uninit hcb slot] at hraw
    cases hraw
  have hdangling : ∀ slot' p',
      ({ s with m := s.m.say (.free p) }.resetTo k (.store slot (some p))).Dangling slot' p' ↔
        (slot' = slot ∧ p' = p) ∨ s.Dangling slot' p' := by
    intro slot' p'
    by_cases heq : slot' = slot ∧ p' = p
    · obtain ⟨rfl, rfl⟩ := heq
      refine iff_of_true ?_ (.inl ⟨rfl, rfl⟩)
      exact List.mem_set (List.getElem?_eq_some_iff.mp hk).1 _
    · rw [or_iff_right heq]
      refine Lists.mem_set_iff hk nofun fun hstore => heq ?_
      cases hstore
      exact ⟨rfl, rfl⟩
  have hfreed : ∀ p', (s.m.say (.free p)).freed p' = s.m.freed p' + if p' = p then 1 else 0 := by
    intro p'
    rw [NiModule.freed_say]
    simp only [Event.free.injEq, eq_comm]
  constructor
  · intro p'
    have hbalance := h.balance p'
    have hheldIn : ∀ slot', s.heldIn slot' p' =
        ({ s with m := s.m.say (.free p) }.resetTo k (.store slot (some p))).heldIn slot' p' +
          if slot' = slot ∧ p' = p then 1 else 0 := by
      intro slot'
      by_cases heq : slot' = slot ∧ p' = p
      · obtain ⟨rfl, rfl⟩ := heq
        have hfree := (hdangling slot' p').mpr (.inl ⟨rfl, rfl⟩)
        rw [if_pos ⟨rfl, rfl⟩, heldIn, if_pos ⟨hraw, hd⟩, heldIn, if_neg fun hheld => hheld.2 hfree]
      · rw [if_neg heq, Nat.add_zero]
        refine (heldIn_congr ?_ ?_).symm
        · rw [resetTo, NiModule.get_say]
        · rw [hdangling, or_iff_right heq]
    have hslot := hheldIn slot
    have hother := hheldIn (other slot)
    rw [if_neg fun heq => other_ne slot heq.1] at hother
    rw [if_congr (and_iff_right rfl) rfl rfl] at hslot
    rw [held_eq s slot] at hbalance
    rw [held_eq _ slot]
    show (s.m.say (.free p)).freed p' + s.m.inMessages p' + _ = if p' < s.handed then 1 else 0
    rw [hfreed]
    omega
  · intro slot' p' hdp
    show 0 < (s.m.say (.free p)).freed p'
    rw [hfreed]
    rcases (hdangling slot' p').mp hdp with ⟨-, rfl⟩ | hdp
    · rw [if_pos rfl]
      omega
    · have hpos := h.dangling slot' p' hdp
      omega
  · exact fun hcb' => absurd (hcb.symm.trans hcb') nofun
  · exact h.wrapped.concat (NiModule.log_say _ _) nofun

/-- A restart stores `NULL`, over a payload that a restart has freed if there is one. -/
theorem Account.store (h : s.Account) {k : ℕ} {slot : Slot} {freed : Option Payload}
    (hk : s.resets[k]? = some (.store slot freed))
    (hd : ∀ p, (s.m.get slot).rawRequest = some p → s.Dangling slot p) :
    ({ s with m := clearRequest slot s.m }.resetTo k (.locked slot)).Account := by
  have hraw : ∀ slot', ((clearRequest slot s.m).get slot').rawRequest =
      if slot' = slot then none else (s.m.get slot').rawRequest := by
    intro slot'
    rw [clearRequest, NiModule.get_set]
    split <;> rfl
  have hlog : (clearRequest slot s.m).log = s.m.log := NiModule.log_set _ _ _
  have hfreed : ∀ p, (clearRequest slot s.m).freed p = s.m.freed p := fun p => by
    rw [NiModule.freed, NiModule.freed, hlog]
  constructor
  · intro p
    have hbalance := h.balance p
    have hslot : s.heldIn slot p = 0 := if_neg fun hheld => hheld.2 (hd p hheld.1)
    have hslot' : ({ s with m := clearRequest slot s.m }.resetTo k (.locked slot)).heldIn slot p =
        0 := by
      refine heldIn_of_none ?_ p
      rw [resetTo, hraw, if_pos rfl]
    have hother : ({ s with m := clearRequest slot s.m }.resetTo k (.locked slot)).heldIn
        (other slot) p = s.heldIn (other slot) p := by
      refine heldIn_congr ?_ ?_
      · rw [resetTo, hraw, if_neg (other_ne slot)]
      · exact Lists.mem_set_iff hk
          (fun hstore => other_ne slot (ResetPhase.store.inj hstore).1) nofun
    have hmsgs : (clearRequest slot s.m).inMessages p = s.m.inMessages p := by cases slot <;> rfl
    rw [held_eq s slot, hslot] at hbalance
    rw [held_eq _ slot, hslot', hother]
    show (clearRequest slot s.m).freed p + (clearRequest slot s.m).inMessages p + _ =
      if p < s.handed then 1 else 0
    rw [hfreed, hmsgs]
    exact hbalance
  · intro slot' p hdp
    have hdp' : s.Dangling slot' p := (List.mem_or_eq_of_mem_set hdp).resolve_right nofun
    show 0 < (clearRequest slot s.m).freed p
    rw [hfreed]
    exact h.dangling slot' p hdp'
  · intro hcb slot'
    have hcb' : (clearRequest slot s.m).niNotifyCb = s.m.niNotifyCb := by cases slot <;> rfl
    show ((clearRequest slot s.m).get slot').rawRequest = none
    rw [hraw]
    split
    · rfl
    · exact h.uninit (hcb'.symm.trans hcb) slot'
  · exact h.wrapped.of_log hlog

theorem Account.resetStep (h : s.Account) {k : ℕ} (hapart : s.Apart (.resetStep k)) :
    (s.resetStep k).Account := by
  have hgoOn : ∀ {phase phase' : ResetPhase}, s.resets[k]? = some phase →
      (∀ slot p, .store slot (some p) ≠ phase) → (∀ slot p, .store slot (some p) ≠ phase') →
        (s.resetTo k phase').Account := fun hk hphase hphase' =>
    h.resets fun slot p => Lists.mem_set_iff hk (hphase slot p) (hphase' slot p)
  have hnext : ∀ slot slot' p, ResetPhase.store slot' (some p) ≠ ResetPhase.next slot :=
    fun slot slot' p => by cases slot <;> nofun
  unfold Owned.resetStep
  split
  · next slot hk =>
    split
    · exact hgoOn hk nofun nofun
    · exact hgoOn hk nofun (hnext slot)
  · next slot hk =>
    cases hraw : (s.m.get slot).rawRequest with
    | none =>
      have hfree : freeRequest slot s.m = s.m := by rw [freeRequest, hraw]
      rw [hfree]
      exact hgoOn hk nofun nofun
    | some p =>
      have hfree : freeRequest slot s.m = s.m.say (.free p) := by rw [freeRequest, hraw]
      rw [hfree]
      exact h.free hk hraw ((hapart slot p hraw).1 hk)
  · next slot freed hk => exact h.store hk fun p hraw => (hapart slot p hraw).2 freed hk
  · next slot hk =>
    have hset : s.m.Quiet (s.m.set slot { s.m.get slot with respRecvd := true }) :=
      NiModule.quiet_set rfl
    exact (h.quiet hset).resets fun slot' p => Lists.mem_set_iff hk nofun (hnext slot slot' p)
  · exact h

/-! ### Threads and messages -/

theorem Account.start (h : s.Account) {i : ℕ} (hapart : s.Apart (.start i)) :
    { s with m := s.m.start i }.Account := by
  rcases NiModule.start_cases s.m i with heq | ⟨slot, hi, ⟨hrecvd, heq⟩ | heq⟩
  · rw [heq]
    exact h
  · rw [heq]
    exact h.leave hi rfl fun p hraw => hapart slot p hi hrecvd hraw
  · rw [heq]
    exact h.quiet (NiModule.quiet_goOn hi rfl)

theorem Account.wake (h : s.Account) {i : ℕ} {timedOut : Bool}
    (hapart : s.Apart (.wake i timedOut)) : { s with m := s.m.wake i timedOut }.Account := by
  rcases s.m.wake_cases i timedOut with
    heq | ⟨slot, expireTime, hi, ⟨rfl, hexpired, heq⟩ | ⟨rfl, hrecvd, heq⟩⟩
  · rw [heq]
    exact h
  · rw [heq]
    have hset : s.m.Quiet (s.m.set slot { s.m.get slot with resp := gpsNiResponseNoresp }) :=
      NiModule.quiet_set rfl
    refine (h.quiet hset).leave (q := .waiting expireTime) ?_ rfl fun p hraw => ?_
    · rw [NiModule.threads_set]
      exact hi
    · rw [NiModule.get_set_self] at hraw
      exact hapart slot expireTime p hi hexpired hraw
  · rw [heq]
    exact h.leave hi rfl fun p hraw => hapart slot expireTime p hi hrecvd hraw

/-- The destructor of a message frees its payload. -/
theorem Account.process (h : s.Account) : { s with m := s.m.process }.Account := by
  cases hqueue : s.m.queue with
  | nil =>
    have hsame : s.m.process = s.m := by rw [NiModule.process, hqueue]
    rw [hsame]
    exact h
  | cons msg queue =>
    have hprocess : s.m.process =
        ({ s.m with queue := queue }.say (.inform msg)).say (.free msg.payload) := by
      rw [NiModule.process, hqueue]
    have hfreed : ∀ p, s.m.process.freed p = s.m.freed p + if msg.payload = p then 1 else 0 := by
      intro p
      rw [hprocess, NiModule.freed_say, NiModule.freed_say, if_neg fun he => by cases he]
      simp only [Event.free.injEq]
      rfl
    have hmsgs : ∀ p, s.m.inMessages p =
        s.m.process.inMessages p + if msg.payload = p then 1 else 0 := by
      intro p
      rw [hprocess, NiModule.inMessages, hqueue, List.countP_cons]
      simp only [decide_eq_true_eq, ← Nat.add_assoc]
      rfl
    have hget : ∀ slot, s.m.process.get slot = s.m.get slot := fun slot => by
      rw [hprocess]
      cases slot <;> rfl
    constructor
    · intro p
      have hbalance := h.balance p
      have hheld : ∀ slot, { s with m := s.m.process }.heldIn slot p = s.heldIn slot p :=
        fun slot => heldIn_congr (congrArg _ (hget slot)) Iff.rfl
      rw [held, ← hheld, ← hheld] at hbalance
      show s.m.process.freed p + s.m.process.inMessages p + _ = if p < s.handed then 1 else 0
      rw [hmsgs] at hbalance
      rw [hfreed, ← hbalance, held]
      omega
    · intro slot p hdp
      have hpos := h.dangling slot p hdp
      show 0 < s.m.process.freed p
      rw [hfreed]
      omega
    · intro hcb slot
      have hcb' : s.m.process.niNotifyCb = s.m.niNotifyCb := by
        rw [hprocess]
        rfl
      show (s.m.process.get slot).rawRequest = none
      rw [hget]
      exact h.uninit (hcb'.symm.trans hcb) slot
    · have hinform : ({ s.m with queue := queue }.say (.inform msg)).Wrapped :=
        h.wrapped.concat rfl fun _ _ he => by cases he
      show s.m.process.Wrapped
      rw [hprocess]
      exact hinform.concat rfl fun _ _ he => by cases he

/-! ### Runs -/

/-- `loc_eng_ni_init` finds no payload. -/
theorem Account.init (h : s.Account) : { s with m := s.m.init }.Account := by
  unfold NiModule.init
  split
  · exact h
  · next hcb =>
    rw [Bool.not_eq_true] at hcb
    have hsupl : s.m.session.rawRequest = none := h.uninit hcb .supl
    have hes : s.m.sessionEs.rawRequest = none := h.uninit hcb .es
    constructor
    · intro p
      have hbalance := h.balance p
      have hheld : s.held p = 0 := by
        rw [held, heldIn_of_none (h.uninit hcb .supl), heldIn_of_none (h.uninit hcb .es)]
      rw [hheld] at hbalance
      exact hbalance
    · exact h.dangling
    · exact nofun
    · exact h.wrapped.of_log rfl

/-- A step keeps the account. -/
theorem Account.step (h : s.Account) {input : Input} (hapart : s.Apart input) :
    (s.step input).Account := by
  cases input with
  | init => exact h.init
  | requestHandler notif hasPayload created => exact h.requestHandler notif created hapart
  | respond notifId userResponse => exact h.quiet (NiModule.quiet_respond notifId userResponse)
  | reset => exact h.reset
  | resetStep k => exact h.resetStep hapart
  | start i => exact h.start hapart
  | wake i timedOut => exact h.wake hapart
  | advance i => exact h.quiet (NiModule.quiet_advance i)
  | process => exact h.process
  | tick microseconds =>
    exact h.quiet ⟨fun _ => rfl, fun _ => rfl, fun _ => rfl, rfl, fun hw => hw.of_log rfl⟩

/-- What the account says at the end. -/
theorem Account.disposed (h : s.Account) : s.Disposed where
  freed_le_one p := by
    have hbalance := h.balance p
    split at hbalance <;> omega
  wrapped := h.wrapped
  freed_eq_one p hp hthreads hqueue hraw := by
    have hbalance := h.balance p
    have hheld : ∀ slot, s.heldIn slot p = 0 := fun slot => if_neg fun hheld => hraw slot hheld.1
    have hmsgs : s.m.inMessages p = 0 := by
      rw [NiModule.inMessages, hqueue, List.countP_nil, Nat.add_zero, List.countP_eq_zero]
      intro th hth
      rw [NiModule.sends, hthreads th hth]
      exact Bool.false_ne_true
    rw [if_pos hp, hmsgs, held, hheld, hheld] at hbalance
    exact hbalance

/-- **Every payload is freed once**, in a run in which no payload comes before `loc_eng_ni_init`
and nothing comes between a restart's free and its `NULL` store. -/
theorem disposed_exec (inputs : List Input) (h : StepsMeet step Apart zero inputs) :
    (exec step zero inputs).Disposed :=
  (exec_inv_of_stepsMeet (fun _ _ hs hapart => hs.step hapart) inputs zero account_zero h).disposed

/-- A request is answered; the next one is reset before its thread looks at it. -/
def answeredAndReset : List Input :=
  [.init, .requestHandler ⟨1, 0, 0⟩ true true, .respond 1 gpsNiResponseAccept, .start 0,
    .advance 0, .advance 0, .advance 0, .process, .requestHandler ⟨1, 0, 0⟩ true true, .reset,
    .resetStep 0, .resetStep 0, .resetStep 0, .resetStep 0, .resetStep 0, .start 1]

theorem disposed_exec_answeredAndReset :
    (exec step zero answeredAndReset).m.freed 0 = 1 ∧
      (exec step zero answeredAndReset).m.freed 1 = 1 ∧
        (exec step zero answeredAndReset).Disposed := by
  refine ⟨by decide, by decide, disposed_exec answeredAndReset ?_⟩
  refine ⟨trivial, fun _ => rfl, trivial, ?_, trivial, trivial, trivial, trivial, fun _ => rfl,
    trivial, ?_, ?_, ?_, ?_, ?_, ?_, trivial⟩
  · intro slot p hi _ hraw
    cases hi
    cases hraw
    decide
  -- the parts of the restart find no other one, and the thread finds no request
  iterate 5
    · intro slot p hraw
      refine ⟨?_, fun freed hstore => ?_⟩
      · cases slot <;> cases hraw <;> decide
      · cases hstore <;> cases hraw <;> decide
  · intro slot p hi _ hraw
    cases hi
    cases hraw

/-- A request comes before `loc_eng_ni_init`. -/
def beforeInit : List Input := [.requestHandler ⟨1, 0, 0⟩ true true]

/-- A thread leaves with an answer between a restart's free and its `NULL` store. -/
def wrappedFreed : List Input :=
  [.init, .requestHandler ⟨1, 0, 0⟩ true true, .respond 1 gpsNiResponseAccept, .reset,
    .resetStep 0, .resetStep 0, .resetStep 0, .start 0, .resetStep 0, .advance 0, .advance 0,
    .advance 0, .process]

/-- The one payload is never freed; the other one is sent when it has been freed, and freed
again. -/
theorem not_disposed_wrappedFreed :
    ¬ (exec step zero beforeInit).Disposed ∧
      ¬ (exec step zero wrappedFreed).m.Wrapped ∧ (exec step zero wrappedFreed).m.freed 0 = 2 := by
  refine ⟨fun h => ?_, fun h => ?_, by decide⟩
  · have hfreed := h.freed_eq_one 0 (by decide) nofun rfl fun slot => by cases slot <;> nofun
    exact absurd hfreed (by decide)
  · exact h [.notifyCb .supl (some 0) 1, .respond 1 gpsNiResponseAccept, .free 0] .supl
      ⟨gpsNiResponseAccept, 0⟩ _ (by rfl) (by decide)

end Owned

end Ni
end Nx507j
