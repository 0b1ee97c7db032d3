import Nx507j.Lib.Bits
import Nx507j.Lib.Memory

/-!
# The installation of certificates

`loc_eng_agps_install_certificates` checks the number of the certificates against the slots that may
be written, and each length, and then sends one message with copies of all of them.  The copies are
made by the constructor of the message, and read when the message is processed.

Every object has a memory of its own, at its address; `new` takes an address that no object has.

## Main definitions

* `Heap`, `CertBuffers` — the objects, and what the caller gives.
* `LocEngInstallAGpsCert`, `LocEngInstallAGpsCert.proc` — the message, and what it delivers.
* `slotCount` — the loop that counts the slots.
* `locEngAgpsInstallCertificates` — what is sent, and what is returned.

## Main results

* `slotCount_eq` — the loop counts the bits that are set.
* `LocEngInstallAGpsCert.proc_new` — the copies are delivered, whatever becomes of the originals.
* `installCertificates_all` — all certificates are delivered or nothing is sent.
-/

namespace Nx507j
namespace Eng

open Bits

/-! ### Objects -/

/-- The bytes of each object.  Addresses from `next` on are free. -/
structure Heap where
  bytes : ℕ → Memory
  next : ℕ

/-- `DerEncodedCertificate`, with the address of its data. -/
structure DerEncodedCertificate where
  length : ℕ
  data : ℕ
  deriving DecidableEq, Repr

/-- What the pointer of a certificate leads to. -/
def DerEncodedCertificate.text (cert : DerEncodedCertificate) (heap : Heap) : List UInt8 :=
  (heap.bytes cert.data).load 0 cert.length

/-- What the caller gives: certificates whose data are in objects that it has. -/
structure CertBuffers where
  heap : Heap
  certificates : List DerEncodedCertificate
  allocated : ∀ cert ∈ certificates, cert.data < heap.next

/-- `new`, which does not return `NULL`. -/
def Heap.alloc (heap : Heap) : ℕ × Heap := (heap.next, { heap with next := heap.next + 1 })

/-- `memcpy` from the beginning of one object to that of another. -/
def Heap.memcpy (dest src n : ℕ) (heap : Heap) : Heap :=
  let copied := (heap.bytes dest).store 0 ((heap.bytes src).load 0 n)
  { heap with bytes := Function.update heap.bytes dest copied }

/-! ### The message -/

structure LocEngInstallAGpsCert where
  mNumberOfCerts : ℕ
  mSlotBitMask : UInt32
  mpData : List DerEncodedCertificate
  deriving DecidableEq, Repr

/-- The loop of the constructor: each certificate gets a copy of its data. -/
def copyCerts : List DerEncodedCertificate → Heap → List DerEncodedCertificate × Heap
  | [], heap => ([], heap)
  | cert :: pData, heap =>
    let (data, heap) := heap.alloc
    let heap := heap.memcpy data cert.data cert.length
    let (mpData, heap) := copyCerts pData heap
    (⟨cert.length, data⟩ :: mpData, heap)

namespace LocEngInstallAGpsCert

/-- The constructor. -/
def new (pData : List DerEncodedCertificate) (numberOfCerts : ℕ) (slotBitMask : UInt32)
    (heap : Heap) : LocEngInstallAGpsCert × Heap :=
  let (mpData, heap) := copyCerts (pData.take numberOfCerts) heap
  (⟨numberOfCerts, slotBitMask, mpData⟩, heap)

/-- `proc`: what the adapter finds behind the pointers that `installAGpsCert` gets, and the mask. -/
def proc (msg : LocEngInstallAGpsCert) (heap : Heap) : List (List UInt8) × UInt32 :=
  ((msg.mpData.take msg.mNumberOfCerts).map (·.text heap), msg.mSlotBitMask)

end LocEngInstallAGpsCert

/-! ### The installation -/

/-- `AGPS_CERTIFICATE_MAX_LENGTH`. -/
def agpsCertificateMaxLength : ℕ := 2000

/-- `AGPS_CERTIFICATE_OPERATION_SUCCESS` and the errors that are returned. -/
inductive CertificateResult
  | operationSuccess
  | errorGeneric
  | errorTooManyCertificates
  deriving DecidableEq, Repr

theorem toNat_and_pred_lt {mask : UInt32} (h : mask ≠ 0) :
    (mask &&& (mask - 1)).toNat = mask.toNat &&& (mask.toNat - 1) ∧
      (mask &&& (mask - 1)).toNat < mask.toNat := by
  have hpos : 0 < mask.toNat := Nat.pos_of_ne_zero fun hzero => h (UInt32.toNat_inj.mp hzero)
  have hone : (1 : UInt32) ≤ mask := UInt32.le_iff_toNat_le.mpr hpos
  have hand : (mask &&& (mask - 1)).toNat = mask.toNat &&& (mask.toNat - 1) := by
    rw [UInt32.toNat_and, UInt32.toNat_sub_of_le _ _ hone]
    rfl
  have hle : mask.toNat &&& (mask.toNat - 1) ≤ mask.toNat - 1 := Nat.and_le_right
  exact ⟨hand, by omega⟩

/-- The loop that counts the slots, from a value of `slotBitMaskCounter` on. -/
def slotCount (slotBitMaskCounter : UInt32) : ℕ :=
  if h : slotBitMaskCounter = 0 then 0
  else slotCount (slotBitMaskCounter &&& (slotBitMaskCounter - 1)) + 1
termination_by slotBitMaskCounter.toNat
decreasing_by exact (toNat_and_pred_lt h).2

/-- The check of the lengths. -/
def checkLengths : List DerEncodedCertificate → CertificateResult
  | [] => .operationSuccess
  | cert :: certificates =>
    if cert.length > agpsCertificateMaxLength then .errorGeneric else checkLengths certificates

/-- What the call leaves: the messages that it has sent, the objects, and what it returns. -/
structure Installed where
  sent : List LocEngInstallAGpsCert
  heap : Heap
  retVal : CertificateResult

/-- `loc_eng_agps_install_certificates`, with whether there is an adapter. -/
def locEngAgpsInstallCertificates (agpsCertWritableMask : UInt32) (adapter : Bool)
    (caller : CertBuffers) : Installed :=
  let slotBitMask := agpsCertWritableMask
  let slots := slotCount slotBitMask
  let numberOfCerts := caller.certificates.length
  if numberOfCerts = 0 then ⟨[], caller.heap, .operationSuccess⟩
  else if !adapter then ⟨[], caller.heap, .errorGeneric⟩
  else if slots < numberOfCerts then ⟨[], caller.heap, .errorTooManyCertificates⟩
  else
    let retVal := checkLengths caller.certificates
    if retVal = .operationSuccess then
      let (msg, heap) :=
        LocEngInstallAGpsCert.new caller.certificates numberOfCerts slotBitMask caller.heap
      ⟨[msg], heap, retVal⟩
    else ⟨[], caller.heap, retVal⟩

/-! ### The slots -/

/-- **The loop counts the bits that are set**: each turn takes the lowest one away. -/
theorem slotCount_eq (mask : UInt32) : slotCount mask = setBits 32 mask.toNat := by
  induction mask using slotCount.induct with
  | case1 => simp [slotCount]
  | case2 mask h ih =>
    have hne : mask.toNat ≠ 0 := fun hzero => h (UInt32.toNat_inj.mp hzero)
    rw [slotCount, dif_neg h, ih, (toNat_and_pred_lt h).1]
    exact setBits_and_pred 32 hne mask.toNat_lt

/-! ### The copies -/

variable {pData : List DerEncodedCertificate} {heap heap' later : Heap}

theorem bytes_memcpy_of_ne {dest src n p : ℕ} (h : p ≠ dest) :
    (heap.memcpy dest src n).bytes p = heap.bytes p := Function.update_of_ne h ..

/-- What the copies are: in new objects, one for each certificate, with its bytes; what was there
before is as it was. -/
theorem copyCerts_spec : ∀ {pData : List DerEncodedCertificate} {heap : Heap},
    (∀ cert ∈ pData, cert.data < heap.next) →
    let copied := copyCerts pData heap
    heap.next ≤ copied.2.next ∧ (∀ p < heap.next, copied.2.bytes p = heap.bytes p) ∧
      (∀ cert ∈ copied.1, heap.next ≤ cert.data ∧ cert.data < copied.2.next) ∧
      copied.1.map (·.text copied.2) = pData.map (·.text heap) := by
  intro pData
  induction pData with
  | nil => exact fun _ => ⟨Nat.le_refl _, fun _ _ => rfl, by simp [copyCerts], rfl⟩
  | cons cert pData ih =>
    intro heap hdata
    obtain ⟨hcert, hrest⟩ := List.forall_mem_cons.mp hdata
    -- the objects after the first copy: those from before, and the new one
    let first := heap.alloc.2.memcpy heap.next cert.data cert.length
    have hfirst : ∀ p < heap.next, first.bytes p = heap.bytes p :=
      fun p hp => bytes_memcpy_of_ne (Nat.ne_of_lt hp)
    have hcopy : (first.bytes heap.next).load 0 cert.length = cert.text heap := by
      have hself : first.bytes heap.next = (heap.bytes heap.next).store 0 (cert.text heap) :=
        Function.update_self ..
      have hlength : (cert.text heap).length = cert.length := Memory.length_load
      have hload := Memory.load_store_self (heap.bytes heap.next) 0 (cert.text heap)
      rw [hlength] at hload
      rw [hself, hload]
    have hdata' : ∀ cert' ∈ pData, cert'.data < first.next :=
      fun cert' hcert' => Nat.lt_succ_of_lt (hrest cert' hcert')
    obtain ⟨hnext, hkept, hnew, htexts⟩ := ih hdata'
    have hle : heap.next + 1 ≤ (copyCerts pData first).2.next := hnext
    have hcons : copyCerts (cert :: pData) heap =
        (⟨cert.length, heap.next⟩ :: (copyCerts pData first).1, (copyCerts pData first).2) := rfl
    rw [hcons]
    refine ⟨Nat.le_of_succ_le hle, ?_, ?_, ?_⟩
    · intro p hp
      exact (hkept p (Nat.lt_succ_of_lt hp)).trans (hfirst p hp)
    · refine List.forall_mem_cons.mpr ⟨⟨Nat.le_refl _, hle⟩, fun cert' hcert' => ?_⟩
      obtain ⟨hlow, hhigh⟩ := hnew cert' hcert'
      exact ⟨Nat.le_of_succ_le hlow, hhigh⟩
    · have hold : pData.map (·.text first) = pData.map (·.text heap) := by
        refine List.map_congr_left fun cert' hcert' => ?_
        rw [DerEncodedCertificate.text, hfirst _ (hrest cert' hcert')]
        rfl
      have hhead : DerEncodedCertificate.text ⟨cert.length, heap.next⟩ (copyCerts pData first).2 =
          cert.text heap := by
        rw [DerEncodedCertificate.text, hkept _ (Nat.lt_succ_self _)]
        exact hcopy
      rw [List.map_cons, List.map_cons, htexts, hold, hhead]

/-- The objects that a call has made are as it has left them. -/
def OwnUntouched (heap heap' later : Heap) : Prop :=
  ∀ p, heap.next ≤ p → p < heap'.next → later.bytes p = heap'.bytes p

/-- **The copies are delivered, whatever becomes of the originals**: only the objects that the
message owns have to be as they were. -/
theorem LocEngInstallAGpsCert.proc_new (caller : CertBuffers) (slotBitMask : UInt32)
    (h : OwnUntouched caller.heap (LocEngInstallAGpsCert.new caller.certificates
      caller.certificates.length slotBitMask caller.heap).2 later) :
    (LocEngInstallAGpsCert.new caller.certificates caller.certificates.length slotBitMask
        caller.heap).1.proc later =
      (caller.certificates.map (·.text caller.heap), slotBitMask) := by
  have hspec := copyCerts_spec caller.allocated
  unfold LocEngInstallAGpsCert.new proc at *
  rw [List.take_length] at *
  dsimp only at *
  obtain ⟨hnext, hkept, hnew, htexts⟩ := hspec
  have hlength : (copyCerts caller.certificates caller.heap).1.length =
      caller.certificates.length := by
    have hlengths := congrArg List.length htexts
    rwa [List.length_map, List.length_map] at hlengths
  rw [← hlength, List.take_length, ← htexts]
  refine Prod.ext (List.map_congr_left fun cert hcert => ?_) rfl
  obtain ⟨hlow, hhigh⟩ := hnew cert hcert
  rw [DerEncodedCertificate.text, h _ hlow hhigh]
  rfl

/-! ### All or nothing -/

theorem checkLengths_eq_success_iff (certificates : List DerEncodedCertificate) :
    checkLengths certificates = .operationSuccess ↔
      ∀ cert ∈ certificates, cert.length ≤ agpsCertificateMaxLength := by
  induction certificates with
  | nil => simp [checkLengths]
  | cons cert certificates ih =>
    rw [checkLengths, List.forall_mem_cons]
    split
    · next hlong => exact iff_of_false (by simp) fun h => absurd h.1 (Nat.not_le.mpr hlong)
    · next hshort => rw [ih, and_iff_right (Nat.not_lt.mp hshort)]

/-- The certificates can be installed. -/
def Installable (mask : UInt32) (adapter : Bool) (certificates : List DerEncodedCertificate) :
    Prop :=
  certificates ≠ [] ∧ adapter = true ∧ certificates.length ≤ setBits 32 mask.toNat ∧
    ∀ cert ∈ certificates, cert.length ≤ agpsCertificateMaxLength

/-- What a call does: it sends the message, with success, or nothing, which is a success for no
certificates only. -/
theorem installCertificates_cases (mask : UInt32) (adapter : Bool) (caller : CertBuffers) :
    let installed := locEngAgpsInstallCertificates mask adapter caller
    let message := LocEngInstallAGpsCert.new caller.certificates caller.certificates.length mask
      caller.heap
    (Installable mask adapter caller.certificates ∧
      installed = ⟨[message.1], message.2, .operationSuccess⟩) ∨
    (¬ Installable mask adapter caller.certificates ∧ installed.sent = [] ∧
      (installed.retVal = .operationSuccess ↔ caller.certificates = [])) := by
  intro installed message
  have hdef : installed = locEngAgpsInstallCertificates mask adapter caller := rfl
  unfold locEngAgpsInstallCertificates at hdef
  dsimp only at hdef
  rw [slotCount_eq] at hdef
  unfold Installable
  split_ifs at hdef with hzero hadapter hslots hlengths
  · have hnil := List.length_eq_zero_iff.mp hzero
    exact .inr ⟨fun h => h.1 hnil, by rw [hdef], iff_of_true (by rw [hdef]) hnil⟩
  · have hne : caller.certificates ≠ [] := fun hnil => hzero (by rw [hnil]; rfl)
    refine .inr ⟨fun h => ?_, by rw [hdef], iff_of_false (by rw [hdef]; simp) hne⟩
    rw [h.2.1] at hadapter
    cases hadapter
  · have hne : caller.certificates ≠ [] := fun hnil => hzero (by rw [hnil]; rfl)
    refine .inr ⟨fun h => ?_, by rw [hdef], iff_of_false (by rw [hdef]; simp) hne⟩
    exact Nat.not_le.mpr hslots h.2.2.1
  · have hne : caller.certificates ≠ [] := fun hnil => hzero (by rw [hnil]; rfl)
    refine .inl ⟨⟨hne, by simpa using hadapter, Nat.not_lt.mp hslots, ?_⟩, ?_⟩
    · exact (checkLengths_eq_success_iff _).mp hlengths
    · rw [hdef, hlengths]
  · have hne : caller.certificates ≠ [] := fun hnil => hzero (by rw [hnil]; rfl)
    refine .inr ⟨fun h => ?_, by rw [hdef], iff_of_false (by rw [hdef]; exact hlengths) hne⟩
    exact hlengths ((checkLengths_eq_success_iff _).mpr h.2.2.2)

/-- **All certificates are delivered or nothing is sent**: at most one message is sent, exactly if
the certificates can be installed; it delivers them with the mask, also if the caller's buffers have
changed; and the call is a success exactly if it has sent the message or there was nothing to
send. -/
theorem installCertificates_all (mask : UInt32) (adapter : Bool) (caller : CertBuffers) :
    let installed := locEngAgpsInstallCertificates mask adapter caller
    installed.sent.length ≤ 1 ∧
    (installed.sent ≠ [] ↔ caller.certificates ≠ [] ∧ adapter = true ∧
      caller.certificates.length ≤ setBits 32 mask.toNat ∧
      ∀ cert ∈ caller.certificates, cert.length ≤ agpsCertificateMaxLength) ∧
    (∀ msg ∈ installed.sent, ∀ later, OwnUntouched caller.heap installed.heap later →
      msg.proc later = (caller.certificates.map (·.text caller.heap), mask)) ∧
    (installed.retVal = .operationSuccess ↔ installed.sent ≠ [] ∨ caller.certificates = []) := by
  intro installed
  rcases installCertificates_cases mask adapter caller with ⟨hall, hsent⟩ | ⟨hnot, hnone, hret⟩
  · have hinstalled : installed = _ := hsent
    rw [hinstalled]
    refine ⟨Nat.le_refl 1, iff_of_true (by simp) hall, ?_, iff_of_true rfl (.inl (by simp))⟩
    intro msg hmsg later hlater
    rw [List.mem_singleton.mp hmsg]
    exact LocEngInstallAGpsCert.proc_new caller mask hlater
  · have hinstalled : installed.sent = [] := hnone
    refine ⟨by rw [hinstalled]; simp, iff_of_false (fun h => h hinstalled) hnot, ?_, ?_⟩
    · intro msg hmsg
      rw [hinstalled] at hmsg
      cases hmsg
    · rw [hret]
      exact ⟨.inr, fun h => h.resolve_left fun hne => hne hinstalled⟩

/-- Two certificates, of one byte and of two. -/
def twoCerts : CertBuffers where
  heap := ⟨fun a k => UInt8.ofNat (10 * a + k), 2⟩
  certificates := [⟨1, 0⟩, ⟨2, 1⟩]
  allocated := by decide

/-- They are delivered, with two slots, although the caller has cleared its buffers meanwhile. -/
theorem installCertificates_all_twoCerts :
    let installed := locEngAgpsInstallCertificates 5 true twoCerts
    let later : Heap := { installed.heap with
      bytes := fun a => if a < 2 then fun _ => 0 else installed.heap.bytes a }
    installed.sent ≠ [] ∧ OwnUntouched twoCerts.heap installed.heap later ∧
      ∀ msg ∈ installed.sent, msg.proc later = ([[0], [10, 11]], 5) := by
  intro installed later
  have hall := installCertificates_all 5 true twoCerts
  have hlater : OwnUntouched twoCerts.heap installed.heap later :=
    fun a ha _ => if_neg (Nat.not_lt.mpr ha)
  exact ⟨hall.2.1.mpr ⟨by decide, rfl, by decide, by decide⟩, hlater,
    fun msg hmsg => hall.2.2.1 msg hmsg later hlater⟩

end Eng
end Nx507j
