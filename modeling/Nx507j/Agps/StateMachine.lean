import Nx507j.Agps.Subscriber
import Nx507j.Utils.LinkedList

/-!
# The AGPS state machine

`AgpsStateMachine` and its subclass `DSStateMachine`, from `loc_eng_agps.cpp`.

The code of the four states and of the public calls is written once, over the
operations `MachineOps` that they use; `P` is the type of a subscriber pointer.
This file gives the operations on a machine that holds the subscribers
themselves, where a pointer to a listed object is its value (the first one in
the list with that value) and a comparison with an object sees it as it was when
the pointer was taken.  `Nx507j.Agps.Store` gives them on a machine that holds
addresses into a heap.

What a machine is told and what it calls are kept in its `log`, oldest first.

## Main definitions

* `MachineOps` — what the states use of a machine.
* `AgpsState.onRsrcEvent` — the transitions.
* `subscribeRsrc`, `unsubscribeRsrc`, `onRsrcEvent` — the public calls.
* `AgpsStateMachine` — the machine, a plain one or a `DSStateMachine`.
* `Call`, `AgpsStateMachine.call` — the public calls as inputs of one step function.
-/

namespace Nx507j
namespace Agps

/-! ### What crosses the boundary of a machine -/

/-- `AGpsExtType`. -/
abbrev AGpsExtType := Int16

def agpsTypeInvalid : AGpsExtType := -1
def agpsTypeSupl : AGpsExtType := 1
def agpsTypeWwanAny : AGpsExtType := 3
def agpsTypeWifi : AGpsExtType := 4
def agpsTypeSuplEs : AGpsExtType := 5

/-- `AGpsBearerType`. -/
abbrev AGpsBearerType := Int16

def agpsApnBearerInvalid : AGpsBearerType := -1

/-- The two requests a machine makes of its servicer, of type `AGpsStatusValue`. -/
inductive AGpsStatusValue
  | gpsRequestAgpsDataConn
  | gpsReleaseAgpsDataConn
  deriving DecidableEq, Repr

/-- The results sent to a daemon, `GPSONE_LOC_API_IF_…`. -/
inductive IfResult
  | requestSuccess
  | releaseSuccess
  | failure
  deriving DecidableEq, Repr

/-- A call into the adapter, or to the daemon connection. -/
inductive AdapterCall
  | atlOpenStatus (handle : UInt32) (isSucc : Bool) (apn : Option CString)
      (bearer : AGpsBearerType) (agpsType : AGpsExtType)
  | atlCloseStatus (handle : UInt32) (isSucc : Bool)
  | locApiServerDataConn (sender : SenderId) (status : IfResult)
  | requestATL (connHandle : UInt32) (agpsType : AGpsExtType)
  | requestSuplES (connHandle : UInt32)
  | closeDataCall
  deriving DecidableEq, Repr

/-- `AGpsExtStatus`, as `sendRsrcRequest` fills it in.  `ipv4Addr` is `none` where
the code leaves the field unwritten; `inet6` says `ss_family` is `AF_INET6`. -/
structure AGpsExtStatus where
  type : AGpsExtType
  status : AGpsStatusValue
  ipv4Addr : Option UInt32
  inet6 : Bool
  ssid : CString
  password : CString
  deriving DecidableEq, Repr

/-- An entry of a machine's log. -/
inductive Entry
  /-- `onRsrcEvent` was called. -/
  | rsrcEvent (event : AgpsRsrcStatus)
  /-- `who->notifyRsrcStatus` took the status in, and made the call if any. -/
  | notified (who : Subscriber) (status : AgpsRsrcStatus) (call : Option AdapterCall)
  /-- A call made other than by `notifyRsrcStatus`. -/
  | adapter (call : AdapterCall)
  /-- `mServicer->requestRsrc` of a plain machine. -/
  | requestRsrc (nifRequest : AGpsExtStatus)
  /-- `mServicer->requestRsrc` of a `DSStateMachine`, on behalf of `connHandle`,
  and what it returned. -/
  | requestDataCall (action : AGpsStatusValue) (connHandle : UInt32) (ret : Int32)
  /-- `loc_timer_start` for a retry, and whether it returned a handle. -/
  | timerStart (started : Bool)
  deriving DecidableEq, Repr

/-- What the environment answers during a call: the result of
`openAndStartDataCall`, and whether `loc_timer_start` returns a handle. -/
structure Env where
  openAndStartDataCall : Int32
  timerStarts : Bool
  deriving DecidableEq, Repr

/-- A start that is taken at once. -/
def Env.ok : Env := ⟨0, false⟩

/-! ### The states -/

/-- The four states. -/
inductive AgpsState
  | released
  | pending
  | acquired
  | releasing
  deriving DecidableEq, Repr

/-- What the states and the public calls use of a machine: `M` the machine with
everything it can touch, `P` a pointer to a subscriber. -/
class MachineOps (M : Type) (P : outParam Type) where
  mStatePtr : M → AgpsState
  setStatePtr : AgpsState → M → M
  mEnforceSingleSubscriber : M → Bool
  hasSubscribers : M → Bool
  hasActiveSubscribers : M → Bool × M
  /-- The search for a listed object equal to the given one. -/
  findSubscriber : P → M → Option P × M
  addSubscriber : P → M → M
  notifySubscribers : Notification P → M → M
  /-- `s->notifyRsrcStatus (notification)` outside a search. -/
  notifyRsrcStatus : P → Notification P → M → M
  waitForCloseComplete : P → M → Bool × M
  setInactive : P → M → M
  sendRsrcRequest : Env → AGpsStatusValue → M → Int32 × M

section States

variable {M P : Type} [MachineOps M P]

open MachineOps

/-- `AgpsReleasedState::onRsrcEvent`. -/
def AgpsState.onReleased (env : Env) (m : M) : AgpsRsrcStatus → Option P → AgpsState × M
  | .rsrcSubscribe, some data =>
    let m := addSubscriber data m
    let (ret, m) := sendRsrcRequest env .gpsRequestAgpsDataConn m
    if ret = 0 then (.pending, m) else (.released, m)
  | .rsrcUnsubscribe, some subscriber =>
    -- the list should really be empty: the client is told, nothing is removed
    (.released, notifyRsrcStatus subscriber (.unicast subscriber .rsrcUnsubscribe false) m)
  | _, _ => (.released, m)

/-- What Pending, Acquired and Releasing do first on `RSRC_UNSUBSCRIBE`. -/
def dropSubscriber (subscriber : P) (m : M) : M :=
  let (wait, m) := waitForCloseComplete subscriber m
  if wait then setInactive subscriber m
  else notifySubscribers (.unicast subscriber .rsrcUnsubscribe true) m

/-- How Pending and Acquired go on: they release the resource with the last
active subscriber, and otherwise stay in `this`. -/
def releaseIfInactive (this : AgpsState) (env : Env) (m : M) : AgpsState × M :=
  if !hasSubscribers m then
    (.released, (sendRsrcRequest env .gpsReleaseAgpsDataConn m).2)
  else
    let (active, m) := hasActiveSubscribers m
    if !active then (.releasing, (sendRsrcRequest env .gpsReleaseAgpsDataConn m).2)
    else (this, m)

/-- `AgpsPendingState::onRsrcEvent`. -/
def AgpsState.onPending (env : Env) (m : M) : AgpsRsrcStatus → Option P → AgpsState × M
  | .rsrcSubscribe, some data => (.pending, addSubscriber data m)
  | .rsrcUnsubscribe, some subscriber =>
    releaseIfInactive .pending env (dropSubscriber subscriber m)
  | .rsrcGranted, _ =>
    (.acquired, notifySubscribers (.broadcast .broadcastActive .rsrcGranted false) m)
  | .rsrcDenied, _ =>
    (.released, notifySubscribers (.broadcast .broadcastAll .rsrcDenied true) m)
  | _, _ => (.pending, m)

/-- `AgpsAcquiredState::onRsrcEvent`. -/
def AgpsState.onAcquired (env : Env) (m : M) : AgpsRsrcStatus → Option P → AgpsState × M
  | .rsrcSubscribe, some subscriber =>
    -- the resource is in hand: the subscriber is granted before it is listed
    let m := notifyRsrcStatus subscriber (.unicast subscriber .rsrcGranted false) m
    (.acquired, addSubscriber subscriber m)
  | .rsrcUnsubscribe, some subscriber =>
    releaseIfInactive .acquired env (dropSubscriber subscriber m)
  | .rsrcReleased, _ =>
    (.released, notifySubscribers (.broadcast .broadcastAll .rsrcReleased true) m)
  | _, _ => (.acquired, m)

/-- `RSRC_RELEASED` in Releasing, which `RSRC_DENIED` falls through to.  The
result of the new request is not looked at. -/
def closeReleasing (env : Env) (event : AgpsRsrcStatus) (m : M) : AgpsState × M :=
  let m := notifySubscribers (.broadcast .broadcastInactive event true) m
  let (active, m) := hasActiveSubscribers m
  if active then (.pending, (sendRsrcRequest env .gpsRequestAgpsDataConn m).2)
  else (.released, m)

/-- `AgpsReleasingState::onRsrcEvent`. -/
def AgpsState.onReleasing (env : Env) (m : M) : AgpsRsrcStatus → Option P → AgpsState × M
  | .rsrcSubscribe, some data => (.releasing, addSubscriber data m)
  | .rsrcUnsubscribe, some subscriber =>
    let m := dropSubscriber subscriber m
    if !hasSubscribers m then (.released, m) else (.releasing, m)
  | .rsrcDenied, _ => closeReleasing env .rsrcDenied m
  | .rsrcReleased, _ => closeReleasing env .rsrcReleased m
  | _, _ => (.releasing, m)

/-- The virtual `AgpsState::onRsrcEvent`. -/
def AgpsState.onRsrcEvent (this : AgpsState) (env : Env) (event : AgpsRsrcStatus)
    (data : Option P) (m : M) : AgpsState × M :=
  match this with
  | .released => AgpsState.onReleased env m event data
  | .pending => AgpsState.onPending env m event data
  | .acquired => AgpsState.onAcquired env m event data
  | .releasing => AgpsState.onReleasing env m event data

/-- `mStatePtr = mStatePtr->onRsrcEvent (event, data)`. -/
def dispatch (env : Env) (event : AgpsRsrcStatus) (data : Option P) (m : M) : M :=
  let (next, m) := (mStatePtr m).onRsrcEvent env event data m
  setStatePtr next m

/-- `AgpsStateMachine::subscribeRsrc`. -/
def subscribeRsrc (env : Env) (subscriber : P) (m : M) : M :=
  if mEnforceSingleSubscriber m && hasSubscribers m then
    notifyRsrcStatus subscriber (.broadcast .broadcastAll .rsrcDenied true) m
  else
    dispatch env .rsrcSubscribe (some subscriber) m

/-- `AgpsStateMachine::unsubscribeRsrc`. -/
def unsubscribeRsrc (env : Env) (subscriber : P) (m : M) : Bool × M :=
  match findSubscriber subscriber m with
  | (some s, m) => (true, dispatch env .rsrcUnsubscribe (some s) m)
  | (none, m) => (false, m)

/-- `AgpsStateMachine::onRsrcEvent`. -/
def onRsrcEventBase (env : Env) (event : AgpsRsrcStatus) (m : M) : M :=
  match event with
  | .rsrcGranted | .rsrcReleased | .rsrcDenied => dispatch env event none m
  | _ => m

/-- `DSStateMachine::onRsrcEvent`: the data services report a call that could not
be set up as `RSRC_RELEASED`, so one that changes nothing is taken as
`RSRC_DENIED`. -/
def onRsrcEventDS (env : Env) (event : AgpsRsrcStatus) (m : M) : M :=
  match event with
  | .rsrcGranted => dispatch env .rsrcGranted none m
  | .rsrcReleased =>
    let m' := dispatch env .rsrcReleased none m
    if mStatePtr m' ≠ mStatePtr m then m' else dispatch env .rsrcDenied none m'
  | .rsrcDenied => dispatch env .rsrcDenied none m
  | _ => m

end States

/-! ### The machine -/

/-- The members a `DSStateMachine` adds. -/
structure DSMembers where
  mRetries : UInt8
  deriving DecidableEq, Repr

/-- An `AgpsStateMachine`; `ds` is `none` in a plain one. -/
structure AgpsStateMachine where
  mSubscribers : List Subscriber
  mStatePtr : AgpsState
  mType : AGpsExtType
  mAPN : Option CString
  mBearer : AGpsBearerType
  mEnforceSingleSubscriber : Bool
  ds : Option DSMembers
  log : List Entry
  deriving DecidableEq, Repr

namespace AgpsStateMachine

/-- The constructor of a plain machine. -/
def new (type : AGpsExtType) (enforceSingleSubscriber : Bool) : AgpsStateMachine where
  mSubscribers := []
  mStatePtr := .released
  mType := type
  mAPN := none
  mBearer := agpsApnBearerInvalid
  mEnforceSingleSubscriber := enforceSingleSubscriber
  ds := none
  log := []

/-- The constructor of a `DSStateMachine`. -/
def newDS : AgpsStateMachine :=
  { new agpsTypeInvalid false with ds := some ⟨0⟩ }

/-- `hasSubscribers`. -/
def hasSubscribers (m : AgpsStateMachine) : Bool := !m.mSubscribers.isEmpty

/-- Writes an entry into the log. -/
def say (e : Entry) (m : AgpsStateMachine) : AgpsStateMachine := { m with log := m.log ++ [e] }

/-- The call that `DSStateMachine::informStatus` makes for a status. -/
def informCall (ID : UInt32) : AgpsRsrcStatus → Option AdapterCall
  | .rsrcUnsubscribe => some (.atlCloseStatus ID true)
  | .rsrcReleased => some .closeDataCall
  | .rsrcDenied => some (.requestATL ID agpsTypeSupl)
  | .rsrcGranted =>
    some (.atlOpenStatus ID true none agpsApnBearerInvalid agpsTypeInvalid)
  | _ => none

/-- `DSStateMachine::informStatus` also starts the count of retries anew when the
machine falls back to a regular ATL. -/
def resetRetries (status : AgpsRsrcStatus) (m : AgpsStateMachine) : AgpsStateMachine :=
  if status = .rsrcDenied then { m with ds := m.ds.map fun _ => ⟨0⟩ } else m

/-- `DSStateMachine::informStatus`, called other than by `notifyRsrcStatus`. -/
def informStatus (status : AgpsRsrcStatus) (ID : UInt32) (m : AgpsStateMachine) :
    AgpsStateMachine :=
  match informCall ID status with
  | some call => (m.resetRetries status).say (.adapter call)
  | none => m

/-- The `AGpsExtType` an `ATLSubscriber` reports. -/
def reportedType (m : AgpsStateMachine) (mBackwardCompatibleMode : Bool) : AGpsExtType :=
  if mBackwardCompatibleMode then agpsTypeInvalid else m.mType

/-- The result a daemon is sent for a status. -/
def ifResult : AgpsRsrcStatus → Option IfResult
  | .rsrcUnsubscribe | .rsrcReleased => some .releaseSuccess
  | .rsrcDenied => some .failure
  | .rsrcGranted => some .requestSuccess
  | _ => none

/-- The call that the `switch` of a class's `notifyRsrcStatus` makes. -/
def notifyCall (m : AgpsStateMachine) (status : AgpsRsrcStatus) : Subscriber → Option AdapterCall
  | .bit _ _ => (ifResult status).map (.locApiServerDataConn .gpsoneDaemon ·)
  | .atl ID compatible =>
    match status with
    | .rsrcUnsubscribe | .rsrcReleased => some (.atlCloseStatus ID true)
    | .rsrcDenied => some (.atlOpenStatus ID false m.mAPN m.mBearer (m.reportedType compatible))
    | .rsrcGranted => some (.atlOpenStatus ID true m.mAPN m.mBearer (m.reportedType compatible))
    | _ => none
  | .wifi sender _ _ _ =>
    -- an unsubscribed WIFI client is told nothing
    if status = .rsrcUnsubscribe then none
    else (ifResult status).map (.locApiServerDataConn sender ·)
  | .ds ID _ => informCall ID status

/-- What `notifyRsrcStatus` does once it has found the notification to be for `s`. -/
def tell (status : AgpsRsrcStatus) (s : Subscriber) (m : AgpsStateMachine) : AgpsStateMachine :=
  let m' := match s with
    | .ds _ _ => m.resetRetries status
    | _ => m
  m'.say (.notified s status (m.notifyCall status s))

/-- The virtual `notifyRsrcStatus`. -/
def notifyRsrcStatus (s : Subscriber) (n : Notification Subscriber) (m : AgpsStateMachine) :
    Bool × AgpsStateMachine :=
  (s.hears n, if s.hears n then m.tell n.rsrcStatus s else m)

/-- `hasSubscriber`, the comparison of a search. -/
def hasSubscriber (n : Notification Subscriber) (s : Subscriber) (m : AgpsStateMachine) :
    Bool × AgpsStateMachine := (s.forMe n, m)

/-- `notifySubscriber`, the comparison that notifies. -/
def notifySubscriber (n : Notification Subscriber) (s : Subscriber) (m : AgpsStateMachine) :
    Bool × AgpsStateMachine :=
  let (notify, m) := m.notifyRsrcStatus s n
  (notify && n.postNotifyDelete, m)

/-- `AgpsStateMachine::notifySubscribers`. -/
def notifySubscribers (n : Notification Subscriber) (m : AgpsStateMachine) : AgpsStateMachine :=
  if n.postNotifyDelete then
    let (l, m) := searchLoop (notifySubscriber n) (fun _ m => m)
      (m.mSubscribers.length + 1) m.mSubscribers m
    { m with mSubscribers := l }
  else
    (linkedListSearch (notifySubscriber n) false m.mSubscribers m).2.2

/-- The search for a listed object that a notification is for. -/
def search (n : Notification Subscriber) (m : AgpsStateMachine) : Option Subscriber :=
  (linkedListSearch (hasSubscriber n) false m.mSubscribers m).1

/-- `AgpsStateMachine::addSubscriber`; `linked_list_add` adds at the head. -/
def addSubscriber (subscriber : Subscriber) (m : AgpsStateMachine) : AgpsStateMachine :=
  match m.search (.toSubscriber subscriber) with
  | some _ => m
  | none => { m with mSubscribers := subscriber.clone :: m.mSubscribers }

/-- `AgpsStateMachine::hasActiveSubscribers`. -/
def hasActiveSubscribers (m : AgpsStateMachine) : Bool :=
  (m.search (.toGroup .broadcastActive)).isSome

/-- The call of the virtual `setInactive` on a listed object. -/
def setInactive (s : Subscriber) (m : AgpsStateMachine) : AgpsStateMachine :=
  let m := { m with mSubscribers := m.mSubscribers.replace s s.setInactive }
  match s with
  | .ds ID _ => m.informStatus .rsrcUnsubscribe ID
  | _ => m

/-- `setWifiInfo`: the network of a `WIFISubscriber`, nothing for the others. -/
def wifiInfo : Subscriber → CString × CString
  | .wifi _ ssid password _ => (ssid.getD [], password.getD [])
  | _ => ([], [])

/-- The request `AgpsStateMachine::sendRsrcRequest` makes, for the active
subscriber it found. -/
def nifRequest (m : AgpsStateMachine) (action : AGpsStatusValue) :
    Option Subscriber → AGpsExtStatus
  | none => ⟨m.mType, action, some inaddrNone, false, [], []⟩
  | some s => ⟨m.mType, action, none, true, (wifiInfo s).1, (wifiInfo s).2⟩

/-- `AgpsStateMachine::sendRsrcRequest`: an action that does not match the
presence of an active subscriber is dropped. -/
def sendRsrcRequestBase (action : AGpsStatusValue) (m : AgpsStateMachine) :
    Int32 × AgpsStateMachine :=
  let s := m.search (.toGroup .broadcastActive)
  if s.isNone = decide (action = .gpsReleaseAgpsDataConn) then
    (0, m.say (.requestRsrc (m.nifRequest action s)))
  else
    (0, m)

def locApiAdapterErrSuccess : Int32 := 0
def locApiAdapterErrUnsupported : Int32 := 2
def locApiAdapterErrEngineBusy : Int32 := 6

/-- `DSStateMachine::MAX_START_DATA_CALL_RETRIES`. -/
def maxStartDataCallRetries : UInt8 := 4

/-- `dataCallCb`: only a start can fail. -/
def dataCallCb (env : Env) : AGpsStatusValue → Int32
  | .gpsRequestAgpsDataConn => env.openAndStartDataCall
  | .gpsReleaseAgpsDataConn => 0

/-- `DSStateMachine::sendRsrcRequest`.  A retry timer that starts makes the result
`-1`: the code takes the handle of `loc_timer_start` for an error. -/
def sendRsrcRequestDS (env : Env) (action : AGpsStatusValue) (members : DSMembers)
    (m : AgpsStateMachine) : Int32 × AgpsStateMachine :=
  let connHandle := ((m.search (.toGroup .broadcastActive)).map Subscriber.ID).getD 0xFFFFFFFF
  let ret := dataCallCb env action
  let m := m.say (.requestDataCall action connHandle ret)
  if ret = locApiAdapterErrEngineBusy then
    let mRetries := members.mRetries + 1
    let m := { m with ds := some ⟨mRetries⟩ }
    if mRetries > maxStartDataCallRetries then
      (ret, m.informStatus .rsrcDenied connHandle)
    else
      (if env.timerStarts then -1 else ret, m.say (.timerStart env.timerStarts))
  else if ret = locApiAdapterErrUnsupported ∨ ret = -1 then
    (ret, m.informStatus .rsrcDenied connHandle)
  else
    (ret, m)

/-- The virtual `sendRsrcRequest`. -/
def sendRsrcRequest (env : Env) (action : AGpsStatusValue) (m : AgpsStateMachine) :
    Int32 × AgpsStateMachine :=
  match m.ds with
  | none => m.sendRsrcRequestBase action
  | some members => m.sendRsrcRequestDS env action members

instance : MachineOps AgpsStateMachine Subscriber where
  mStatePtr := AgpsStateMachine.mStatePtr
  setStatePtr s m := { m with mStatePtr := s }
  mEnforceSingleSubscriber := AgpsStateMachine.mEnforceSingleSubscriber
  hasSubscribers := hasSubscribers
  hasActiveSubscribers m := (m.hasActiveSubscribers, m)
  findSubscriber s m := (m.search (.toSubscriber s), m)
  addSubscriber := addSubscriber
  notifySubscribers := notifySubscribers
  notifyRsrcStatus s n m := (m.notifyRsrcStatus s n).2
  waitForCloseComplete s m := (s.waitForCloseComplete, m)
  setInactive := setInactive
  sendRsrcRequest := sendRsrcRequest

/-- The virtual `onRsrcEvent`. -/
def onRsrcEvent (env : Env) (event : AgpsRsrcStatus) (m : AgpsStateMachine) : AgpsStateMachine :=
  let m := m.say (.rsrcEvent event)
  match m.ds with
  | none => onRsrcEventBase env event m
  | some _ => onRsrcEventDS env event m

/-- `dropAllSubscribers`: the list is flushed, the state stays. -/
def dropAllSubscribers (m : AgpsStateMachine) : AgpsStateMachine := { m with mSubscribers := [] }

/-- `DSStateMachine::retryCallback`. -/
def retryCallback (m : AgpsStateMachine) : AgpsStateMachine :=
  match m.search (.toGroup .broadcastActive) with
  | some subscriber => m.say (.adapter (.requestSuplES subscriber.ID))
  | none => m

/-! ### The calls as inputs -/

end AgpsStateMachine

/-- A public call on a machine. -/
inductive Call
  | subscribeRsrc (subscriber : Subscriber)
  | unsubscribeRsrc (subscriber : Subscriber)
  | onRsrcEvent (event : AgpsRsrcStatus)
  | setAPN (apn : Option CString)
  | setBearer (bearer : AGpsBearerType)
  deriving DecidableEq, Repr

/-- One call on a machine, with what the environment answers meanwhile. -/
def AgpsStateMachine.call (m : AgpsStateMachine) (c : Call × Env) : AgpsStateMachine :=
  match c.1 with
  | .subscribeRsrc s => subscribeRsrc c.2 s m
  | .unsubscribeRsrc s => (unsubscribeRsrc c.2 s m).2
  | .onRsrcEvent e => m.onRsrcEvent c.2 e
  | .setAPN apn => { m with mAPN := apn }
  | .setBearer bearer => { m with mBearer := bearer }

end Agps
end Nx507j
