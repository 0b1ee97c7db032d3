import Mathlib.Data.Int.Notation
import Mathlib.Data.List.Basic

/-!
# The NI sessions

Network-initiated requests, from `loc_eng_ni.cpp`: the two sessions, the calls that
act on them, and the threads that wait for an answer.

A call is one step, and so is each part of a thread that holds the session's lock:
from the start to the first wait, and from a wake-up to the next wait or to the
exit.  The stores after the exit are a step each.

What crosses the boundary of the module is kept in its `log`, oldest first.

## Main definitions

* `NiSession`, `NiThread`, `NiModule` — a session, a thread, and the whole.
* `requestHandler`, `respond`, `resetOnEngineRestart` — the calls.
* `start`, `wake`, `advance` — the steps of `ni_thread_proc`.
* `NiModule.step` — all of them as inputs of one step function.
-/

namespace Nx507j
namespace Ni

/-! ### Data -/

/-- The address of a request's raw data. -/
abbrev Payload := ℕ

/-- `GpsUserResponseType`. -/
abbrev GpsUserResponseType := Int32

def gpsNiResponseAccept : GpsUserResponseType := 1
def gpsNiResponseDeny : GpsUserResponseType := 2
def gpsNiResponseNoresp : GpsUserResponseType := 3
def gpsNiResponseIgnore : GpsUserResponseType := 4

/-- `GPS_NI_TYPE_EMERGENCY_SUPL`. -/
def gpsNiTypeEmergencySupl : UInt32 := 4

/-- `GPS_NI_PRIVACY_OVERRIDE`. -/
def gpsNiPrivacyOverride : UInt32 := 4

/-- `LOC_NI_NO_RESPONSE_TIME`, in seconds. -/
def locNiNoResponseTime : Int32 := 20

/-- What the request handler looks at of a `GpsNiNotification`. -/
structure GpsNiNotification where
  niType : UInt32
  notifyFlags : UInt32
  timeout : Int32
  deriving DecidableEq, Repr

/-- `loc_eng_ni_session_s_type`. -/
structure NiSession where
  respTimeLeft : Int32
  respRecvd : Bool
  rawRequest : Option Payload
  reqID : Int32
  resp : GpsUserResponseType
  deriving DecidableEq, Repr

/-- The two sessions, `session` and `sessionEs`. -/
inductive Slot
  | supl
  | es
  deriving DecidableEq, Repr

/-- A `LocEngInformNiResponse`. -/
structure InformNiResponse where
  response : GpsUserResponseType
  payload : Payload
  deriving DecidableEq, Repr

/-- Where a thread is in `ni_thread_proc`.  Times are in microseconds. -/
inductive Phase
  | start
  | waiting (expireTime : ℤ)
  /-- The lock has been released; `msg` is what the thread has to send. -/
  | unlocked (msg : Option InformNiResponse)
  /-- `respTimeLeft` has been cleared. -/
  | timeLeftCleared (msg : Option InformNiResponse)
  /-- `reqID` has been cleared. -/
  | reqIDCleared (msg : Option InformNiResponse)
  | done
  deriving DecidableEq, Repr

/-- A thread, and the session it was created for. -/
structure NiThread where
  slot : Slot
  phase : Phase
  deriving DecidableEq, Repr

/-- What crosses the boundary of the module. -/
inductive Event
  /-- `ni_notify_cb` was called. -/
  | notifyCb (slot : Slot) (payload : Option Payload) (notificationId : Int32)
  /-- `loc_eng_ni_respond` was called. -/
  | respond (notifId : Int32) (userResponse : GpsUserResponseType)
  /-- A `LocEngInformNiResponse` was created. -/
  | create (slot : Slot) (msg : InformNiResponse)
  /-- `adapter->sendMsg`. -/
  | sendMsg (msg : InformNiResponse)
  /-- `adapter->informNiResponse`. -/
  | inform (msg : InformNiResponse)
  | free (payload : Payload)
  | muteOneSession
  deriving DecidableEq, Repr

/-- The module: `niNotifyCb` says that the callback has been set, `queue` holds the messages
that were sent and not processed. -/
structure NiModule where
  niNotifyCb : Bool
  session : NiSession
  sessionEs : NiSession
  reqIDCounter : Int32
  threads : List NiThread
  queue : List InformNiResponse
  clock : ℤ
  log : List Event
  deriving DecidableEq, Repr

namespace NiModule

/-- The zeroed data before `loc_eng_ni_init`. -/
def zero : NiModule :=
  let s : NiSession := ⟨0, false, none, 0, 0⟩
  ⟨false, s, s, 0, [], [], 0, []⟩

/-- The session in a slot. -/
def get (m : NiModule) : Slot → NiSession
  | .supl => m.session
  | .es => m.sessionEs

/-- Writes the session in a slot. -/
def set (slot : Slot) (s : NiSession) (m : NiModule) : NiModule :=
  match slot with
  | .supl => { m with session := s }
  | .es => { m with sessionEs := s }

/-- Writes an event into the log. -/
def say (e : Event) (m : NiModule) : NiModule := { m with log := m.log ++ [e] }

/-! ### The calls -/

/-- `loc_eng_ni_init`, with a callback. -/
def init (m : NiModule) : NiModule :=
  if m.niNotifyCb then m
  else
    { m with
      niNotifyCb := true
      session :=
        { m.session with respTimeLeft := 0, respRecvd := false, rawRequest := none, reqID := 0 }
      sessionEs :=
        { m.sessionEs with
          respTimeLeft := 0, respRecvd := false, rawRequest := none, reqID := 0 } }

/-- The session that takes the request; none, when one is in progress. -/
def accepts (m : NiModule) (notif : GpsNiNotification) : Option Slot :=
  if notif.niType = gpsNiTypeEmergencySupl then
    if m.sessionEs.rawRequest.isSome then none else some .es
  else if m.session.rawRequest.isSome || m.sessionEs.rawRequest.isSome then none
  else some .supl

/-- Saves a request in a session, and the time that its answer may take. -/
def save (slot : Slot) (notif : GpsNiNotification) (passThrough : Option Payload)
    (m : NiModule) : NiModule :=
  { m with reqIDCounter := m.reqIDCounter + 1 }.set slot
    { m.get slot with
      rawRequest := passThrough
      reqID := m.reqIDCounter + 1
      respTimeLeft := 5 + (if notif.timeout ≠ 0 then notif.timeout else locNiNoResponseTime) }

/-- Calls `loc_eng_mute_one_session` for a request that overrides privacy. -/
def muteIfOverride (notif : GpsNiNotification) (m : NiModule) : NiModule :=
  if notif.notifyFlags = gpsNiPrivacyOverride then m.say .muteOneSession else m

/-- `pthread_create`, which may fail. -/
def createThread (slot : Slot) (threadCreated : Bool) (m : NiModule) : NiModule :=
  if threadCreated then { m with threads := m.threads ++ [⟨slot, .start⟩] } else m

/-- What the handler does with a request that a session takes. -/
def accept (slot : Slot) (notif : GpsNiNotification) (passThrough : Option Payload)
    (threadCreated : Bool) (m : NiModule) : NiModule :=
  (((m.save slot notif passThrough).muteIfOverride notif).createThread slot threadCreated).say
    (.notifyCb slot passThrough (m.reqIDCounter + 1))

/-- `loc_eng_ni_request_handler`. -/
def requestHandler (notif : GpsNiNotification) (passThrough : Option Payload)
    (threadCreated : Bool) (m : NiModule) : NiModule :=
  if !m.niNotifyCb then m
  else
    match m.accepts notif with
    | some slot => m.accept slot notif passThrough threadCreated
    | none =>
      match passThrough with
      | some payload => m.say (.free payload)
      | none => m

/-- The session that an answer is for. -/
def selects (m : NiModule) (notifId : Int32) : Option Slot :=
  if notifId = m.sessionEs.reqID ∧ m.sessionEs.rawRequest.isSome then some .es
  else if notifId = m.session.reqID ∧ m.session.rawRequest.isSome then some .supl
  else none

/-- Puts an answer into a session, and wakes its thread. -/
def answer (slot : Slot) (resp : GpsUserResponseType) (m : NiModule) : NiModule :=
  m.set slot { m.get slot with resp := resp, respRecvd := true }

/-- `loc_eng_ni_respond`. -/
def respond (notifId : Int32) (userResponse : GpsUserResponseType) (m : NiModule) : NiModule :=
  let m := m.say (.respond notifId userResponse)
  if !m.niNotifyCb then m
  else
    match m.selects notifId with
    | none => m
    | some .supl => m.answer .supl userResponse
    | some .es =>
      -- a regular request is ignored once an emergency one is accepted
      let m :=
        if userResponse = gpsNiResponseAccept ∧ m.session.rawRequest.isSome then
          m.answer .supl gpsNiResponseIgnore
        else m
      m.answer .es userResponse

/-- What a restart does to one session: the thread is woken, to let it exit. -/
def resetSession (slot : Slot) (m : NiModule) : NiModule :=
  match (m.get slot).rawRequest with
  | some payload =>
    (m.say (.free payload)).set slot { m.get slot with rawRequest := none, respRecvd := true }
  | none => m

/-- `loc_eng_ni_reset_on_engine_restart`. -/
def resetOnEngineRestart (m : NiModule) : NiModule :=
  if !m.niNotifyCb then m else (m.resetSession .es).resetSession .supl

/-! ### The threads -/

/-- The exit of `ni_thread_proc` while it holds the lock, and what it then has to send. -/
def exitLocked (slot : Slot) (m : NiModule) : Option InformNiResponse × NiModule :=
  let m' := m.set slot { m.get slot with respRecvd := false, rawRequest := none }
  match (m.get slot).rawRequest with
  | some payload =>
    if (m.get slot).resp ≠ gpsNiResponseIgnore then
      (some ⟨(m.get slot).resp, payload⟩, m'.say (.create slot ⟨(m.get slot).resp, payload⟩))
    else (none, m'.say (.free payload))
  | none => (none, m')

/-- The thread goes on to a phase. -/
def goOn (i : ℕ) (slot : Slot) (phase : Phase) (m : NiModule) : NiModule :=
  { m with threads := m.threads.set i ⟨slot, phase⟩ }

/-- The thread leaves the locked part. -/
def leave (i : ℕ) (slot : Slot) (m : NiModule) : NiModule :=
  let (msg, m) := m.exitLocked slot
  m.goOn i slot (.unlocked msg)

/-- The locked part up to the first wait. -/
def start (i : ℕ) (m : NiModule) : NiModule :=
  match m.threads[i]? with
  | some ⟨slot, .start⟩ =>
    if (m.get slot).respRecvd then m.leave i slot
    else m.goOn i slot (.waiting (m.clock + (m.get slot).respTimeLeft.toInt * 1000000))
  | _ => m

/-- The locked part from a return of `pthread_cond_timedwait`, which may also return without
having been signalled. -/
def wake (i : ℕ) (timedOut : Bool) (m : NiModule) : NiModule :=
  match m.threads[i]? with
  | some ⟨slot, .waiting expireTime⟩ =>
    if timedOut then
      if expireTime ≤ m.clock then
        (m.set slot { m.get slot with resp := gpsNiResponseNoresp }).leave i slot
      else m
    else if (m.get slot).respRecvd then m.leave i slot
    else m
  | _ => m

/-- One of the steps of a thread without the lock. -/
def advance (i : ℕ) (m : NiModule) : NiModule :=
  match m.threads[i]? with
  | some ⟨slot, .unlocked msg⟩ =>
    (m.set slot { m.get slot with respTimeLeft := 0 }).goOn i slot (.timeLeftCleared msg)
  | some ⟨slot, .timeLeftCleared msg⟩ =>
    (m.set slot { m.get slot with reqID := 0 }).goOn i slot (.reqIDCleared msg)
  | some ⟨slot, .reqIDCleared msg⟩ =>
    match msg with
    | some msg => ({ m with queue := m.queue ++ [msg] }.say (.sendMsg msg)).goOn i slot .done
    | none => m.goOn i slot .done
  | _ => m

/-- The oldest message is processed and deleted. -/
def process (m : NiModule) : NiModule :=
  match m.queue with
  | [] => m
  | msg :: queue => ({ m with queue := queue }.say (.inform msg)).say (.free msg.payload)

/-! ### Runs -/

/-- What can happen. -/
inductive Input
  | init
  | requestHandler (notif : GpsNiNotification) (passThrough : Option Payload)
      (threadCreated : Bool)
  | respond (notifId : Int32) (userResponse : GpsUserResponseType)
  | resetOnEngineRestart
  | start (i : ℕ)
  | wake (i : ℕ) (timedOut : Bool)
  | advance (i : ℕ)
  | process
  | tick (microseconds : ℕ)
  deriving DecidableEq, Repr

/-- One step. -/
def step (m : NiModule) : Input → NiModule
  | .init => m.init
  | .requestHandler notif passThrough threadCreated =>
    m.requestHandler notif passThrough threadCreated
  | .respond notifId userResponse => m.respond notifId userResponse
  | .resetOnEngineRestart => m.resetOnEngineRestart
  | .start i => m.start i
  | .wake i timedOut => m.wake i timedOut
  | .advance i => m.advance i
  | .process => m.process
  | .tick microseconds => { m with clock := m.clock + microseconds }

end NiModule

end Ni
end Nx507j
