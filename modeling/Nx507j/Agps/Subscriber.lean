import Mathlib.Data.List.Basic
import Mathlib.Order.Basic

/-!
# Subscribers and notifications

The clients of an AGPS state machine, from `loc_eng_agps.h` and the top of
`loc_eng_agps.cpp`: four classes under one virtual interface, and the record a
notification travels in.

## Main definitions

* `Subscriber` — an object of one of the four classes.
* `Subscriber.equals` — the virtual `equals`, dispatched on the listed object.
* `Subscriber.ident` — what `equals` compares, as one value.
* `Notification`, `Subscriber.forMe` — who a notification is for.

## Main results

* `Subscriber.equals_iff_ident` — on objects of one class `equals` is equality of
  `ident`, hence an equivalence.
-/

namespace Nx507j
namespace Agps

/-- A C string, without its terminator. -/
abbrev CString := List UInt8

/-- The resource events, `AgpsRsrcStatus`. -/
inductive AgpsRsrcStatus
  | rsrcSubscribe
  | rsrcUnsubscribe
  | rsrcGranted
  | rsrcReleased
  | rsrcDenied
  | rsrcStatusMax
  deriving DecidableEq, Repr

/-- The senders of interface requests, `loc_if_req_sender_id_e_type`. -/
inductive SenderId
  | quipc
  | msapm
  | msapu
  | gpsoneDaemon
  | modem
  | unknown
  deriving DecidableEq, Repr

/-- The value a sender has in the C enumeration. -/
def SenderId.toUInt32 : SenderId → UInt32
  | quipc => 0
  | msapm => 1
  | msapu => 2
  | gpsoneDaemon => 3
  | modem => 4
  | unknown => 5

/-- The IPv4 value that says there is no IPv4 address. -/
def inaddrNone : UInt32 := 0xFFFFFFFF

/-- A subscriber object, by its class.  A field that is a connection handle, an
IPv4 value or a sender in the source's constructors is the `ID` of the object. -/
inductive Subscriber
  /-- `BITSubscriber`, for the BIT daemon. -/
  | bit (ID : UInt32) (mIPv6Addr : Vector UInt8 16)
  /-- `ATLSubscriber`, for a modem connection. -/
  | atl (ID : UInt32) (mBackwardCompatibleMode : Bool)
  /-- `WIFISubscriber`, for MSAPM or QuIPC. -/
  | wifi (senderId : SenderId) (mSSID mPassword : Option CString) (mIsInactive : Bool)
  /-- `DSSubscriber`, for an emergency connection of the data services. -/
  | ds (ID : UInt32) (mIsInactive : Bool)
  deriving DecidableEq, Repr

namespace Subscriber

/-- `Subscriber::ID`. -/
def ID : Subscriber → UInt32
  | bit id _ => id
  | atl id _ => id
  | wifi sender _ _ _ => sender.toUInt32
  | ds id _ => id

/-- The object is a `BITSubscriber`. -/
def isBit : Subscriber → Bool
  | bit .. => true
  | _ => false

/-- The object is an `ATLSubscriber`. -/
def isAtl : Subscriber → Bool
  | atl .. => true
  | _ => false

/-- The object is a `WIFISubscriber`. -/
def isWifi : Subscriber → Bool
  | wifi .. => true
  | _ => false

/-- The object is a `DSSubscriber`. -/
def isDs : Subscriber → Bool
  | ds .. => true
  | _ => false

/-- `strncmp (a, b, n) == 0`, for buffers of the same size `n`. -/
def strncmpEq : List UInt8 → List UInt8 → Bool
  | a :: as, b :: bs => a == b && (a == 0 || strncmpEq as bs)
  | _, _ => true

/-- The virtual `equals`: `this` is the listed object, `s` the one asked about.
`BITSubscriber::equals` casts `s` to a `BITSubscriber` whatever it is; where it
then reads bytes that `s` does not have, the comparison counts as a mismatch. -/
def equals : (this s : Subscriber) → Bool
  | bit id a, bit id' a' =>
    id == id' && (id != inaddrNone || strncmpEq a.toList a'.toList)
  | bit id _, s => id == s.ID && id != inaddrNone
  | this, s => this.ID == s.ID

/-- The virtual `isInactive`. -/
def isInactive : Subscriber → Bool
  | wifi _ _ _ i => i
  | ds _ i => i
  | _ => false

/-- The virtual `waitForCloseComplete`. -/
def waitForCloseComplete : Subscriber → Bool
  | wifi .. => true
  | ds .. => true
  | _ => false

/-- What the virtual `setInactive` makes of the object; a `DSSubscriber` also
informs its machine. -/
def setInactive : Subscriber → Subscriber
  | wifi sender ssid password _ => wifi sender ssid password true
  | ds id _ => ds id true
  | s => s

/-- The virtual `clone`: a fresh object of the same class and identity, active
whatever the original was. -/
def clone : Subscriber → Subscriber
  | wifi sender ssid password _ => wifi sender ssid password false
  | ds id _ => ds id false
  | s => s

@[simp] theorem isInactive_clone (s : Subscriber) : s.clone.isInactive = false := by
  cases s <;> rfl

@[simp] theorem ID_clone (s : Subscriber) : s.clone.ID = s.ID := by cases s <;> rfl

@[simp] theorem ID_setInactive (s : Subscriber) : s.setInactive.ID = s.ID := by cases s <;> rfl

theorem isInactive_setInactive {s : Subscriber} (h : s.waitForCloseComplete = true) :
    s.setInactive.isInactive = true := by
  cases s <;> simp_all [waitForCloseComplete, setInactive, isInactive]

/-- Only a subscriber that waits for the close is ever inactive. -/
theorem isInactive_of_not_wait {s : Subscriber} (h : s.waitForCloseComplete = false) :
    s.isInactive = false := by
  cases s <;> simp_all [waitForCloseComplete, isInactive]

/-! ### Identity -/

/-- What `equals` compares: the `ID`, and for a `BITSubscriber` without an IPv4
address the IPv6 bytes up to the first NUL. -/
def ident : Subscriber → UInt32 × List UInt8
  | bit id a => (id, if id = inaddrNone then a.toList.takeWhile (· != 0) else [])
  | s => (s.ID, [])

@[simp] theorem ident_clone (s : Subscriber) : s.clone.ident = s.ident := by cases s <;> rfl

@[simp] theorem ident_setInactive (s : Subscriber) : s.setInactive.ident = s.ident := by
  cases s <;> rfl

@[simp] theorem isBit_clone (s : Subscriber) : s.clone.isBit = s.isBit := by cases s <;> rfl

/-- `strncmp` compares what stands before the first NUL. -/
theorem strncmpEq_iff : ∀ {as bs : List UInt8}, as.length = bs.length →
    (strncmpEq as bs = true ↔ as.takeWhile (· != 0) = bs.takeWhile (· != 0))
  | [], [], _ => by simp [strncmpEq]
  | a :: as, b :: bs, h => by
    have ih := @strncmpEq_iff as bs (by simpa using h)
    by_cases hab : a = b
    · subst hab
      by_cases ha : a = 0 <;> simp [strncmpEq, ha, ih]
    · have hne : ¬ (a = 0 ∧ b = 0) := fun h => hab (h.1.trans h.2.symm)
      by_cases ha : a = 0 <;> by_cases hb : b = 0 <;> simp_all [strncmpEq]

/-- **On objects of one class `equals` compares identities.** -/
theorem equals_iff_ident {s t : Subscriber} (h : s.isBit = t.isBit) :
    s.equals t = true ↔ s.ident = t.ident := by
  cases s with
  | bit id a =>
    cases t with
    | bit id' a' =>
      have hs := @strncmpEq_iff a.toList a'.toList (by simp)
      by_cases hid : id = id'
      · subst hid
        by_cases hn : id = inaddrNone <;> simp [equals, ident, hn, hs]
      · simp [equals, ident, hid]
    | atl id' m => simp [isBit] at h
    | wifi sender ssid password i => simp [isBit] at h
    | ds id' i => simp [isBit] at h
  | atl id m => cases t <;> simp_all [equals, ident, isBit]
  | wifi sender ssid password i => cases t <;> simp_all [equals, ident, isBit]
  | ds id i => cases t <;> simp_all [equals, ident, isBit]

@[simp] theorem equals_self (s : Subscriber) : s.equals s = true :=
  (equals_iff_ident rfl).mpr rfl

theorem ID_eq_of_equals {s t : Subscriber} (h : s.equals t = true) : s.ID = t.ID := by
  cases s <;> cases t <;> simp_all [equals, ID]

/-- `equals` is transitive on objects of any classes; it is not symmetric. -/
theorem equals_trans {s t u : Subscriber} (hst : s.equals t = true) (htu : t.equals u = true) :
    s.equals u = true := by
  have hID := (ID_eq_of_equals hst).trans (ID_eq_of_equals htu)
  cases s with
  | bit id a =>
    by_cases hn : id = inaddrNone
    · -- without an IPv4 address only a `BITSubscriber` is equal
      cases t with
      | bit id' a' =>
        cases u with
        | bit id'' a'' =>
          have h₁ := (equals_iff_ident (s := .bit id a) (t := .bit id' a') rfl).mp hst
          have h₂ := (equals_iff_ident (s := .bit id' a') (t := .bit id'' a'') rfl).mp htu
          exact (equals_iff_ident (s := .bit id a) (t := .bit id'' a'') rfl).mpr (h₁.trans h₂)
        | _ => simp_all [equals, ID]
      | _ => simp_all [equals, ID]
    · cases u <;> simp_all [equals, ID]
  | atl id c => simpa [equals] using hID
  | wifi sender ssid password i => simpa [equals] using hID
  | ds id i => simpa [equals] using hID

end Subscriber

/-! ### Notifications -/

/-- `Notification::groupID`; `none` is the `-1` of a notification for one
subscriber. -/
inductive GroupID
  | none
  | broadcastAll
  | broadcastActive
  | broadcastInactive
  deriving DecidableEq, Repr

/-- The information bundle for subscribers.  `P` is the type of a subscriber
pointer: here, the object as it was when the notification was built. -/
structure Notification (P : Type) where
  rcver : Option P
  groupID : GroupID
  rsrcStatus : AgpsRsrcStatus
  postNotifyDelete : Bool
  deriving DecidableEq, Repr

namespace Notification

variable {P : Type}

/-- `Notification (broadcast, status, deleteAfterwards)`. -/
def broadcast (groupID : GroupID) (status : AgpsRsrcStatus) (deleteAfterwards : Bool) :
    Notification P :=
  ⟨Option.none, groupID, status, deleteAfterwards⟩

/-- `Notification (subscriber, status, deleteAfterwards)`. -/
def unicast (subscriber : P) (status : AgpsRsrcStatus) (deleteAfterwards : Bool) :
    Notification P :=
  ⟨some subscriber, .none, status, deleteAfterwards⟩

/-- `Notification (broadcast)`, for a search. -/
def toGroup (groupID : GroupID) : Notification P :=
  ⟨Option.none, groupID, .rsrcStatusMax, false⟩

/-- `Notification (subscriber)`, for a search. -/
def toSubscriber (subscriber : P) : Notification P :=
  ⟨some subscriber, .none, .rsrcStatusMax, false⟩

end Notification

/-- `Subscriber::forMe`: the notification has my identity, or a broadcast id I
belong to. -/
def Subscriber.forMe (s : Subscriber) (n : Notification Subscriber) : Bool :=
  match n.rcver with
  | some rcver => s.equals rcver
  | none =>
    n.groupID == .broadcastAll ||
      (n.groupID == .broadcastActive && !s.isInactive) ||
      (n.groupID == .broadcastInactive && s.isInactive)

/-- The statuses the `switch` of every `notifyRsrcStatus` handles. -/
def AgpsRsrcStatus.notifiable : AgpsRsrcStatus → Bool
  | .rsrcUnsubscribe | .rsrcReleased | .rsrcDenied | .rsrcGranted => true
  | .rsrcSubscribe | .rsrcStatusMax => false

/-- What `notifyRsrcStatus` returns, in every class: the notification is for this
object and its status is one of those handled. -/
def Subscriber.hears (s : Subscriber) (n : Notification Subscriber) : Bool :=
  s.forMe n && n.rsrcStatus.notifiable

namespace Subscriber

/-- The complement of `isInactive`. -/
def isActive (s : Subscriber) : Bool := !s.isInactive

@[simp] theorem isActive_clone (s : Subscriber) : s.clone.isActive = true := by
  simp [isActive]

@[simp] theorem forMe_toSubscriber (s x : Subscriber) :
    s.forMe (.toSubscriber x) = s.equals x := rfl

@[simp] theorem forMe_toActive (s : Subscriber) :
    s.forMe (.toGroup .broadcastActive) = s.isActive := by
  cases h : s.isInactive <;> simp [forMe, Notification.toGroup, isActive, h]

@[simp] theorem hears_unicast (s x : Subscriber) (st : AgpsRsrcStatus) (del : Bool) :
    s.hears (.unicast x st del) = (s.equals x && st.notifiable) := rfl

@[simp] theorem hears_all (s : Subscriber) (st : AgpsRsrcStatus) (del : Bool) :
    s.hears (.broadcast .broadcastAll st del) = st.notifiable := by
  simp [hears, forMe, Notification.broadcast]

@[simp] theorem hears_active (s : Subscriber) (st : AgpsRsrcStatus) (del : Bool) :
    s.hears (.broadcast .broadcastActive st del) = (s.isActive && st.notifiable) := by
  cases h : s.isInactive <;> simp [hears, forMe, Notification.broadcast, isActive, h]

@[simp] theorem hears_inactive (s : Subscriber) (st : AgpsRsrcStatus) (del : Bool) :
    s.hears (.broadcast .broadcastInactive st del) = (!s.isActive && st.notifiable) := by
  cases h : s.isInactive <;> simp [hears, forMe, Notification.broadcast, isActive, h]

end Subscriber

end Agps
end Nx507j
