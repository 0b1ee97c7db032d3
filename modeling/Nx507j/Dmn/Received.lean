import Mathlib.Data.List.TakeWhile
import Nx507j.Dmn.Server

/-!
# What a decision depends on

The server's buffer comes from `malloc` with whatever is in it, and the handlers read the members of
the message without looking at its length.  So the message that a short frame sends may depend on
bytes that nobody has sent.

## Main definitions

* `Frame.sent` — the message that a frame sends from a buffer.
* `Frame.Determined` — every member that the handlers come to has been received, or as much of it as
  they look at.

## Main results

* `Frame.same_sender_iff`, `Frame.same_type_iff`, `Frame.same_ctrl_iff` — one member at a time.
* `Frame.sameDecision_iff` — when the decision does not depend on the buffer.
-/

namespace Nx507j
namespace Dmn

open Memory Glue
open Agps (Msg SenderId CString AGpsExtType agpsTypeSupl agpsTypeWifi)

variable {w : Word}

namespace Frame

variable (f : Frame w)

/-- The buffer once the frame has been received. -/
def received (buf : Memory) : Memory := store 0 f.bytes buf

/-- A buffer that has this byte everywhere. -/
def filled (b : UInt8) : Memory := fun _ => b

/-! ### Members -/

theorem load_received (buf : Memory) (off n : ℕ) :
    load (f.received buf) off n =
      f.part off n ++ load buf (off + (f.part off n).length) (n - (f.part off n).length) := by
  have h := load_store_part buf 0 f.bytes (n := n) off
  rwa [Nat.zero_add] at h

theorem load_received_of_le {off n : ℕ} (h : off + n ≤ f.bytes.length) (buf : Memory) :
    load (f.received buf) off n = f.part off n := load_part h

theorem received_of_ge {a : ℕ} (h : f.bytes.length ≤ a) (buf : Memory) :
    f.received buf a = buf a := store_apply_of_ge (by omega)

/-- What has been received of a member can be completed to any value that begins so. -/
theorem load_received_store {off n : ℕ} {bytes : List UInt8} (hlen : bytes.length = n)
    (hpart : f.part off n <+: bytes) (buf : Memory) :
    load (f.received (store off bytes buf)) off n = bytes := by
  obtain ⟨tail, htail⟩ := hpart
  have hsum := congrArg List.length htail
  rw [List.length_append] at hsum
  have hin := load_store_inside buf off bytes (n := n - (f.part off n).length)
    (i := (f.part off n).length) (by omega)
  rw [load_received, hin, ← htail, List.drop_left, List.take_of_length_le (by omega)]

/-- The number in a member of four bytes, by its last byte. -/
theorem leNat_load_four (m : Memory) (off : ℕ) :
    leNat (load m off 4) = leNat (load m off 3) + 256 ^ 3 * (m (off + 3)).toNat := by
  rw [load_add 1, leNat_append, length_load]
  rfl

theorem part_eq_nil {off : ℕ} (h : f.bytes.length ≤ off) (n : ℕ) : f.part off n = [] := by
  rw [part, List.drop_eq_nil_of_le h, List.take_nil]

theorem length_part {off n : ℕ} (h : off + n ≤ f.bytes.length) : (f.part off n).length = n :=
  List.length_take_of_le (by rw [List.length_drop]; omega)

theorem length_part_lt {off n : ℕ} (h : f.bytes.length < off + n) (hn : 0 < n) :
    (f.part off n).length < n := by
  rw [part, List.length_take, List.length_drop]
  omega

end Frame

/-! ### Blindness -/

/-- The value is the same for all buffers. -/
def Blind {α : Type*} (g : Memory → α) : Prop := ∀ m₁ m₂, g m₁ = g m₂

namespace Frame

variable {α β : Type*} (f : Frame w)

/-- A member of four bytes settles what comes after it: no valid value begins with what has been
received of it, or it has been received as a whole and `rest` holds. -/
def Settles (off : ℕ) (values : List ℕ) (rest : Prop) : Prop :=
  Begins 4 values (f.part off 4) → off + 4 ≤ f.bytes.length ∧ rest

variable {f} in
/-- A member that has been received as a whole, and begins like a valid value, has one. -/
theorem leNat_part_mem {off : ℕ} {values : List ℕ} (hsmall : ∀ v ∈ values, v < 256)
    (hbegins : Begins 4 values (f.part off 4)) (hlen : off + 4 ≤ f.bytes.length) :
    leNat (f.part off 4) ∈ values := by
  obtain ⟨v, hv, hpart⟩ := hbegins
  have hwhole : f.part off 4 = leBytes 4 v :=
    hpart.eq_of_length (by rw [f.length_part hlen, length_leBytes])
  have hlt := hsmall v hv
  rwa [hwhole, leNat_leBytes, Nat.mod_eq_of_lt (by omega)]

variable {f} in
theorem settles_congr {off : ℕ} {values : List ℕ} (hsmall : ∀ v ∈ values, v < 256) {P Q : Prop}
    (h : leNat (f.part off 4) ∈ values → (P ↔ Q)) :
    f.Settles off values P ↔ f.Settles off values Q :=
  forall_congr' fun hbegins => and_congr_right fun hlen =>
    h (leNat_part_mem hsmall hbegins hlen)

/-- A member of four bytes that decides how to go on: with the values it may have, what is chosen by
each, and the rest of the decision, which can come to a message when the member has not been
received as a whole. -/
theorem blind_member_iff {off : ℕ} {values : List ℕ} {choose : ℕ → Option α}
    (rest : α → Memory → Option β)
    (hvalues : ∀ v, (choose v).isSome ↔ v ∈ values) (hsmall : ∀ v ∈ values, v < 256)
    (hrest : f.bytes.length < off + 4 → ∀ a bytes, bytes.length = 4 →
      (rest a (f.received (store off bytes (filled 0)))).isSome) :
    Blind (fun buf =>
        (choose (leNat (load (f.received buf) off 4))).bind fun a => rest a (f.received buf)) ↔
      f.Settles off values (∀ a, choose (leNat (f.part off 4)) = some a →
        Blind fun buf => rest a (f.received buf)) := by
  unfold Settles
  by_cases hbegins : Begins 4 values (f.part off 4)
  · rw [imp_iff_right hbegins]
    obtain ⟨v, hv, hpart⟩ := hbegins
    have hval : leNat (leBytes 4 v) = v := by
      have hlt := hsmall v hv
      rw [leNat_leBytes, Nat.mod_eq_of_lt (by omega)]
    obtain ⟨a, ha⟩ := Option.isSome_iff_exists.mp ((hvalues v).mpr hv)
    by_cases hlen : off + 4 ≤ f.bytes.length
    · -- the member has been received, and is that value
      have hwhole : f.part off 4 = leBytes 4 v :=
        hpart.eq_of_length (by rw [f.length_part hlen, length_leBytes])
      have hload : ∀ buf, load (f.received buf) off 4 = leBytes 4 v := fun buf => by
        rw [f.load_received_of_le hlen, hwhole]
      simp only [hload, hwhole, hval, ha, Option.bind_some, Option.some.injEq, forall_eq', hlen,
        true_and]
    · rw [and_iff_left_of_imp (fun h => absurd h hlen)]
      refine iff_of_false (fun hblind => ?_) hlen
      have hlast : f.bytes.length ≤ off + 3 := by omega
      have hsome := hrest (by omega) a (leBytes 4 v) (length_leBytes 4 v)
      -- one buffer completes the value, in the other the last byte is too large
      have heq := hblind (store off (leBytes 4 v) (filled 0)) (filled 255)
      have hlarge : choose (leNat (load (f.received (filled 255)) off 4)) = none := by
        by_contra hne
        have hmem := (hvalues _).mp (Option.isSome_iff_ne_none.mpr hne)
        have hlt := hsmall _ hmem
        rw [leNat_load_four, f.received_of_ge hlast] at hlt
        have hbyte : (filled 255 (off + 3)).toNat = 255 := rfl
        omega
      have hvalue := f.load_received_store (length_leBytes 4 v) hpart (filled 0)
      simp only [hvalue, hval, ha, hlarge, Option.bind_some, Option.bind_none] at heq
      rw [heq] at hsome
      cases hsome
  · refine iff_of_true ?_ fun h => absurd h hbegins
    have hnone : ∀ buf, choose (leNat (load (f.received buf) off 4)) = none := by
      intro buf
      by_contra hne
      have hmem := (hvalues _).mp (Option.isSome_iff_ne_none.mpr hne)
      have hlen : (load (f.received buf) off 4).length = 4 := length_load
      rw [load_received] at hmem hlen
      exact hbegins (begins_of_mem hlen hmem)
    intro m₁ m₂
    simp only [hnone, Option.bind_none]

/-! ### The members of a message -/

/-- The first `n` bytes of a string that have been received say all that is copied of it. -/
def EndsReceived (off : ℕ) : Prop :=
  0 ∈ f.part off (ssidBufSize - 1) ∨ off + (ssidBufSize - 1) ≤ f.bytes.length

theorem ssidAt_eq (m : Memory) (off : ℕ) :
    ssidAt m off = (load m off (ssidBufSize - 1)).takeWhile (· ≠ 0) := by
  rw [ssidAt, strlcpySsid, take_load (Nat.sub_le ssidBufSize 1)]

theorem load_filled (b : UInt8) (off n : ℕ) : load (filled b) off n = List.replicate n b :=
  List.ext_getElem (by simp) fun k _ _ => by simp [filled]

theorem blind_ssidAt_iff (off : ℕ) :
    Blind (fun buf => ssidAt (f.received buf) off) ↔ f.EndsReceived off := by
  simp only [ssidAt_eq]
  constructor
  · intro hblind
    by_contra hends
    obtain ⟨hzero, hlen⟩ := not_or.mp hends
    have hall : ∀ b ∈ f.part off (ssidBufSize - 1), decide (b ≠ 0) = true :=
      fun b hb => decide_eq_true fun h => hzero (h ▸ hb)
    have hlt := f.length_part_lt (Nat.not_le.mp hlen) (by decide)
    -- the string goes on with nothing in one buffer and with something in the other
    have heq := congrArg List.length (hblind (filled 0) (filled 1))
    simp only [load_received, load_filled, List.takeWhile_append_of_pos hall,
      List.takeWhile_replicate, List.length_append] at heq
    simp at heq
    omega
  · rintro (hzero | hlen) m₁ m₂
    · have hstop : ((f.part off (ssidBufSize - 1)).takeWhile (· ≠ 0)).length ≠
          (f.part off (ssidBufSize - 1)).length := by
        intro heq
        have hall := List.takeWhile_eq_self_iff.mp
          ((List.takeWhile_prefix _).eq_of_length heq) 0 hzero
        simp at hall
      simp only [load_received, List.takeWhile_append, if_neg hstop]
    · simp only [f.load_received_of_le hlen]

theorem blind_ipv6Addr_iff :
    Blind (fun buf => ipv6Addr w (f.received buf)) ↔ ipv6AddrOff w + 16 ≤ f.bytes.length := by
  constructor
  · intro hblind
    by_contra hlen
    have hload := congrArg (·.toArray.toList) (hblind (filled 0) (filled 1))
    have hlast := congrArg (·[15]?) hload
    have hge : f.bytes.length ≤ ipv6AddrOff w + 15 := by omega
    simp [ipv6Addr, f.received_of_ge hge, filled] at hlast
  · intro hlen m₁ m₂
    simp only [ipv6Addr, f.load_received_of_le hlen]

/-- The members that a message to the engine is made of have been received. -/
def PayloadReceived (senderId : SenderId) : Prop :=
  if senderId = .gpsoneDaemon then ipv6AddrOff w + 16 ≤ f.bytes.length
  else f.EndsReceived (passwordOff w)

theorem blind_ifMessage_iff (isReq : Bool) (type : AGpsExtType) (senderId : SenderId) :
    Blind (fun buf => ifMessage w isReq type senderId (f.received buf)) ↔
      f.PayloadReceived senderId := by
  unfold ifMessage PayloadReceived
  split
  · -- the IPv4 address lies in front of the IPv6 address
    rw [← blind_ipv6Addr_iff]
    refine ⟨fun h m₁ m₂ => Option.some.inj (Msg.reqRelBIT.inj (h m₁ m₂)).2.2.1, fun h m₁ m₂ => ?_⟩
    have hlen := f.blind_ipv6Addr_iff.mp h
    have hipv4 : ipv4AddrOff w + w.bytes ≤ f.bytes.length := by
      unfold ipv4AddrOff
      unfold ipv6AddrOff at hlen
      omega
    have hsix : ipv6Addr w (f.received m₁) = ipv6Addr w (f.received m₂) := h m₁ m₂
    simp only [ipv4Addr, f.load_received_of_le hipv4, hsix]
  · -- and the ssid in front of the password
    rw [← blind_ssidAt_iff]
    refine ⟨fun h m₁ m₂ => Option.some.inj (Msg.reqRelWifi.inj (h m₁ m₂)).2.2.2.1,
      fun h m₁ m₂ => ?_⟩
    have hssid : f.EndsReceived (ssidOff w) := by
      refine .inr ?_
      have hpassword : passwordOff w = ssidOff w + ssidBufSize := rfl
      have hsize : ssidBufSize - 1 < ssidBufSize := by decide
      rcases (f.blind_ssidAt_iff _).mp h with hzero | hlen
      · by_contra hshort
        rw [f.part_eq_nil (by omega)] at hzero
        cases hzero
      · omega
    have hone : ssidAt (f.received m₁) (ssidOff w) = ssidAt (f.received m₂) (ssidOff w) :=
      (f.blind_ssidAt_iff _).mpr hssid m₁ m₂
    have htwo : ssidAt (f.received m₁) (passwordOff w) = ssidAt (f.received m₂) (passwordOff w) :=
      h m₁ m₂
    simp only [hone, htwo]

/-! ### The decision -/

/-- The values of `ctrl_if_req_type_e_type`. -/
def typeValues : List ℕ := [0, 1, 2]

/-- The values of `ctrl_if_req_sender_id_e_type` that the handlers know. -/
def senderIdValues : List ℕ := [0, 1, 2, 3]

theorem ifRequestType_isSome (v : ℕ) : (ifRequestType v).isSome ↔ v ∈ typeValues := by
  unfold ifRequestType typeValues
  split <;> simp_all

theorem ifRequestSenderId_isSome (v : ℕ) : (ifRequestSenderId v).isSome ↔ v ∈ senderIdValues := by
  unfold ifRequestSenderId senderIdValues
  split <;> simp_all

/-- What the sender's member and those behind it settle. -/
def SenderIdSettles : Prop :=
  f.Settles (senderIdOff w) senderIdValues
    (if leNat (f.part (senderIdOff w) 4) = 3 then ipv6AddrOff w + 16 ≤ f.bytes.length
      else f.EndsReceived (passwordOff w))

/-- Every member that the handlers come to has been received, or as much of it as they look at. -/
def Determined : Prop :=
  ctrlTypeOff w < f.bytes.length ∧
    (f.bytes.getD (ctrlTypeOff w) 0 ∈ [gpsoneLocApiIfRequest, gpsoneLocApiIfRelease] →
      f.Settles (typeOff w) typeValues f.SenderIdSettles)

theorem small_of_mem_senderIdValues : ∀ v ∈ senderIdValues, v < 256 := by decide

theorem small_of_mem_typeValues : ∀ v ∈ typeValues, v < 256 := by decide

/-- What each known sender needs. -/
theorem payloadReceived_iff {v : ℕ} (hv : v ∈ senderIdValues) :
    (∀ senderId, ifRequestSenderId v = some senderId → f.PayloadReceived senderId) ↔
      if v = 3 then ipv6AddrOff w + 16 ≤ f.bytes.length else f.EndsReceived (passwordOff w) := by
  simp only [senderIdValues, List.mem_cons, List.not_mem_nil, or_false] at hv
  rcases hv with rfl | rfl | rfl | rfl <;>
    simp [ifRequestSenderId, PayloadReceived]

/-- From the sender on. -/
theorem blind_sender_iff (isReq : Bool) (type : AGpsExtType) :
    Blind (fun buf =>
      (ifRequestSenderId (leNat (load (f.received buf) (senderIdOff w) 4))).bind fun senderId =>
        some (ifMessage w isReq type senderId (f.received buf))) ↔ f.SenderIdSettles := by
  refine (f.blind_member_iff (fun senderId m => some (ifMessage w isReq type senderId m))
    ifRequestSenderId_isSome small_of_mem_senderIdValues fun _ _ _ _ => rfl).trans
    (settles_congr small_of_mem_senderIdValues fun hv => ?_)
  rw [← f.payloadReceived_iff hv]
  refine forall₂_congr fun senderId _ => ?_
  rw [← f.blind_ifMessage_iff isReq type senderId]
  exact forall₂_congr fun m₁ m₂ => Option.some_inj

/-- From the type on. -/
theorem blind_type_iff (isReq : Bool) (len : Int32) :
    Blind (fun buf => (ifHandler w isReq (f.received buf) len).2) ↔
      f.Settles (typeOff w) typeValues f.SenderIdSettles := by
  simp only [ifHandler_snd, Option.map_eq_bind]
  refine (f.blind_member_iff
    (fun type m => (ifRequestSenderId (leNat (load m (senderIdOff w) 4))).bind fun senderId =>
      some (ifMessage w isReq type senderId m))
    ifRequestType_isSome small_of_mem_typeValues fun hshort type bytes hbytes => ?_).trans
    (settles_congr small_of_mem_typeValues fun hv => ?_)
  · -- nothing has been received of the sender, and the buffer has a known one
    have hoff : typeOff w + 4 = senderIdOff w := rfl
    have hload : load (f.received (store (typeOff w) bytes (filled 0))) (senderIdOff w) 4 =
        [0, 0, 0, 0] := by
      rw [load_received, f.part_eq_nil (by omega)]
      exact load_store_of_ge (by omega)
    rw [hload]
    rfl
  · obtain ⟨type, htype⟩ := Option.isSome_iff_exists.mp ((ifRequestType_isSome _).mpr hv)
    rw [htype]
    simp only [Option.some.injEq, forall_eq']
    exact f.blind_sender_iff isReq type

/-- From the control type on. -/
theorem blind_dispatch_iff (len : Int32) :
    Blind (fun buf => dispatch w true (f.received buf) len) ↔ f.Determined := by
  by_cases hlen : ctrlTypeOff w < f.bytes.length
  · rw [Determined, and_iff_right hlen]
    have hctrl : ∀ buf, ctrlType w (f.received buf) = f.bytes.getD (ctrlTypeOff w) 0 :=
      fun buf => ctrlType_store hlen
    simp only [dispatch, hctrl, List.mem_cons, List.not_mem_nil, or_false]
    by_cases hrequest : f.bytes.getD (ctrlTypeOff w) 0 = gpsoneLocApiIfRequest
    · simp only [hrequest, if_true, true_or, forall_const]
      exact f.blind_type_iff true len
    · by_cases hrelease : f.bytes.getD (ctrlTypeOff w) 0 = gpsoneLocApiIfRelease
      · have hne : gpsoneLocApiIfRelease ≠ gpsoneLocApiIfRequest := by decide
        simp only [hrelease, if_neg hne, if_true, or_true, forall_const]
        exact f.blind_type_iff false len
      · simp only [if_neg hrequest, if_neg hrelease]
        refine iff_of_true (fun _ _ => rfl) ?_
        rintro (h | h)
        · exact absurd h hrequest
        · exact absurd h hrelease
  · refine iff_of_false (fun hblind => ?_) fun h => hlen h.1
    -- one buffer has a request behind the bytes that have been received, the other has none
    have hgap := congrArg (·.bind requestOf)
      (hblind (store (ctrlTypeOff w) [gpsoneLocApiIfRequest] (filled 0)) (filled 0))
    have hge : f.bytes.length ≤ ctrlTypeOff w := Nat.not_lt.mp hlen
    have hctrl :
        ctrlType w (f.received (store (ctrlTypeOff w) [gpsoneLocApiIfRequest] (filled 0))) =
          gpsoneLocApiIfRequest := by
      have hfirst : store (ctrlTypeOff w) [gpsoneLocApiIfRequest] (filled 0) (ctrlTypeOff w + 0) =
          [gpsoneLocApiIfRequest][0] := store_apply_add Nat.one_pos
      rw [ctrlType, f.received_of_ge hge]
      exact hfirst
    have hload : ∀ off, ctrlTypeOff w + 1 ≤ off →
        load (f.received (store (ctrlTypeOff w) [gpsoneLocApiIfRequest] (filled 0))) off 4 =
          [0, 0, 0, 0] := by
      intro off hoff
      rw [load_received, f.part_eq_nil (by omega)]
      exact load_store_of_ge hoff
    have hcmsg : ctrlTypeOff w + 1 ≤ cmsgOff w := by
      have hw := w.bytes_pos
      unfold ctrlTypeOff cmsgOff
      omega
    have hzero : ctrlType w (f.received (filled 0)) = 0 := by
      rw [ctrlType, f.received_of_ge hge]
      rfl
    simp only [requestOf_dispatch] at hgap
    rw [hctrl, hload (typeOff w) hcmsg, hload (senderIdOff w) (Nat.le_add_right_of_le hcmsg), hzero]
      at hgap
    cases hgap

/-- **What a decision depends on.**  A frame that is received sends the same message, or none,
whatever was in the buffer, just when it determines the members that the handlers come to. -/
theorem sameDecision_iff (w : Word) (f : Frame w) (hfits : f.Fits) :
    (∀ m₁ m₂ : Memory,
      (locApiServerProc w true (some m₁) .complete .complete f.bytes).sent =
        (locApiServerProc w true (some m₂) .complete .complete f.bytes).sent) ↔
    f.Determined := by
  have hsent : ∀ buf, (locApiServerProc w true (some buf) .complete .complete f.bytes).sent =
      dispatch w true (f.received buf) (toInt f.size) := by
    intro buf
    have hserved : locApiServerProc w true (some buf) .complete .complete (f.bytes ++ []) = _ :=
      Thelper.locApiServerProc_fits hfits buf
    rw [List.append_nil] at hserved
    rw [hserved]
    rfl
  simp only [hsent]
  exact f.blind_dispatch_iff (toInt f.size)

/-- A frame that ends with its control type. -/
def withoutBody : Frame .w64 := .ofBody .w64 [0, 0, 0, 0, 0, 0, 0, 0, 0xF1] (by decide)

theorem sameDecision_iff_withoutBody :
    (∀ m₁ m₂ : Memory,
      (locApiServerProc .w64 true (some m₁) .complete .complete withoutBody.bytes).sent =
        (locApiServerProc .w64 true (some m₂) .complete .complete withoutBody.bytes).sent) ↔
    withoutBody.Determined :=
  sameDecision_iff .w64 withoutBody (by decide)

/-- With zeros in the buffer a release is sent, with other bytes none. -/
theorem not_sameDecision_withoutBody :
    ¬ ∀ m₁ m₂ : Memory,
      (locApiServerProc .w64 true (some m₁) .complete .complete withoutBody.bytes).sent =
        (locApiServerProc .w64 true (some m₂) .complete .complete withoutBody.bytes).sent := by
  intro h
  exact absurd (h (filled 0) (filled 255)) (by decide)

end Frame
end Dmn
end Nx507j
