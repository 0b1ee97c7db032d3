import Nx507j.Agps.Engine
import Nx507j.Dmn.GlueMsg
import Nx507j.Lib.Run

/-!
# The server for the daemons' requests

`loc_api_server_proc` and its handlers, and the loop of the thread helper around it.  One call of
the server receives one message and may send one to the engine; the loop ends when a call fails.

The member offsets are those of `struct ctrl_msgbuf` with natural alignment, an enumeration having
four bytes.

## Main definitions

* `locApiServerProc` — one call.
* `Thelper.step` — the loop of `thelper_main`, by its calls.
* `serve` — the same loop on frames instead of bytes.
* `Frame.request` — the request that the bytes of a frame make.

## Main results

* `calls_exec` — the loop does on the bytes what `serve` does on the frames.
* `dispatches_iff` — when every request is dispatched.
-/

namespace Nx507j
namespace Dmn

open Memory Glue Run
open Agps (Msg SenderId CString AGpsExtType agpsTypeSupl agpsTypeWifi)

/-! ### The message -/

/-- `AGPS_TYPE_ANY`. -/
def agpsTypeAny : AGpsExtType := 0

/-- `GPSONE_LOC_API_IF_REQUEST`. -/
def gpsoneLocApiIfRequest : UInt8 := 0xF0

/-- `GPSONE_LOC_API_IF_RELEASE`. -/
def gpsoneLocApiIfRelease : UInt8 := 0xF1

/-- `sizeof(struct ctrl_msgbuf)`. -/
def sizeofCtrlMsgbuf : Word → ℕ
  | .w32 => 112
  | .w64 => 128

variable (w : Word)

/-- The offset of `ctrl_type`, behind the size and the two reserved members. -/
def ctrlTypeOff : ℕ := w.bytes + 8

/-- The offset of `cmsg`, aligned for an `unsigned long`. -/
def cmsgOff : ℕ := 2 * w.bytes + 8

/-- The offset of `cmsg_if_request.type`. -/
def typeOff : ℕ := cmsgOff w

/-- The offset of `cmsg_if_request.sender_id`. -/
def senderIdOff : ℕ := cmsgOff w + 4

/-- The offset of `cmsg_if_request.ipv4_addr`. -/
def ipv4AddrOff : ℕ := cmsgOff w + 8

/-- The offset of `cmsg_if_request.ipv6_addr`. -/
def ipv6AddrOff : ℕ := cmsgOff w + 8 + w.bytes

/-- `SSID_BUF_SIZE`. -/
def ssidBufSize : ℕ := 33

/-- The offset of `cmsg_if_request.ssid`. -/
def ssidOff : ℕ := ipv6AddrOff w + 16

/-- The offset of `cmsg_if_request.password`. -/
def passwordOff : ℕ := ssidOff w + ssidBufSize

/-- The member `ctrl_type`. -/
def ctrlType (pmsg : Memory) : UInt8 := pmsg (ctrlTypeOff w)

/-- The member `ipv4_addr`, an `unsigned long`, as the `int` that it is passed as. -/
def ipv4Addr (pmsg : Memory) : UInt32 :=
  UInt32.ofNat (leNat (load pmsg (ipv4AddrOff w) w.bytes))

/-- The sixteen bytes of `ipv6_addr`. -/
def ipv6Addr (pmsg : Memory) : Vector UInt8 16 :=
  ⟨(load pmsg (ipv6AddrOff w) 16).toArray, by simp⟩

/-- What `strlcpy` copies of a string into `SSID_BUF_SIZE` bytes. -/
def strlcpySsid (bytes : List UInt8) : CString := (bytes.take (ssidBufSize - 1)).takeWhile (· ≠ 0)

/-- The string in `SSID_BUF_SIZE` bytes. -/
def ssidAt (pmsg : Memory) (off : ℕ) : CString := strlcpySsid (load pmsg off ssidBufSize)

/-- The types of requests, `ctrl_if_req_type_e_type`, and what they are for the state machines. -/
def ifRequestType : ℕ → Option AGpsExtType
  | 0 => some agpsTypeSupl
  | 1 => some agpsTypeWifi
  | 2 => some agpsTypeAny
  | _ => none

/-- The senders, `ctrl_if_req_sender_id_e_type`, that the handlers know. -/
def ifRequestSenderId : ℕ → Option SenderId
  | 0 => some .quipc
  | 1 => some .msapm
  | 2 => some .msapu
  | 3 => some .gpsoneDaemon
  | _ => none

/-! ### The server -/

/-- The message that is built for a sender: `LocEngReqRelBIT` for the daemon of the modem, else
`LocEngReqRelWifi`. -/
def ifMessage (isReq : Bool) (type : AGpsExtType) (senderId : SenderId) (pmsg : Memory) : Msg :=
  if senderId = .gpsoneDaemon then
    .reqRelBIT type (ipv4Addr w pmsg) (some (ipv6Addr w pmsg)) isReq
  else
    .reqRelWifi type senderId (some (ssidAt pmsg (ssidOff w))) (some (ssidAt pmsg (passwordOff w)))
      isReq

/-- What the two handlers have in common: the result, and the message sent to the engine.  The
length of the message is not looked at. -/
def ifHandler (isReq : Bool) (pmsg : Memory) (_len : Int32) : Int32 × Option Msg :=
  match ifRequestType (leNat (load pmsg (typeOff w) 4)) with
  | none => (-1, none)
  | some type =>
    match ifRequestSenderId (leNat (load pmsg (senderIdOff w) 4)) with
    | none => (-1, none)
    | some senderId => (0, some (ifMessage w isReq type senderId pmsg))

/-- `loc_eng_dmn_conn_loc_api_server_if_request_handler`; `handle` says that `loc_api_handle` is
set. -/
def ifRequestHandler (handle : Bool) (pmsg : Memory) (len : Int32) : Int32 × Option Msg :=
  if handle then ifHandler w true pmsg len else (1, none)

/-- `loc_eng_dmn_conn_loc_api_server_if_release_handler`, which does not look at the handle. -/
def ifReleaseHandler (pmsg : Memory) (len : Int32) : Int32 × Option Msg :=
  ifHandler w false pmsg len

/-- The switch on `ctrl_type`, by the message it sends. -/
def dispatch (handle : Bool) (pmsg : Memory) (length : Int32) : Option Msg :=
  if ctrlType w pmsg = gpsoneLocApiIfRequest then (ifRequestHandler w handle pmsg length).2
  else if ctrlType w pmsg = gpsoneLocApiIfRelease then (ifReleaseHandler w pmsg length).2
  else none

/-- The size of the server's buffer. -/
def serverBufsz : SizeT w := BitVec.ofNat w.bits (sizeofCtrlMsgbuf w + 256)

/-- The outcome of one call: its result, the message it has sent, and what is left on the pipe. -/
structure Served where
  result : Int32
  sent : Option Msg
  stream : List UInt8

/-- `loc_api_server_proc`; `malloc` gives the buffer with what is in it, or nothing. -/
def locApiServerProc (handle : Bool) (malloc : Option Memory) (t₁ t₂ : Transfer)
    (stream : List UInt8) : Served :=
  match malloc with
  | none => ⟨-1, none, stream⟩
  | some buf =>
    let received := msgrcv w t₁ t₂ buf (serverBufsz w) stream
    if received.result ≤ 0 then ⟨-1, none, received.stream⟩
    else ⟨0, dispatch w handle received.buf received.result, received.stream⟩

/-! ### The thread -/

/-- What a call has taken from the pipe and what it has sent. -/
abbrev Call := List UInt8 × Option Msg

/-- The thread in the loop of `thelper_main`: whether it is still there, and its calls so far. -/
structure Thelper where
  threadExit : Bool := false
  looping : Bool := true
  stream : List UInt8
  calls : List Call := []

/-- What can happen to the thread. -/
inductive Input
  | proc (malloc : Option Memory)
  | unblock

namespace Thelper

/-- One turn of the loop.  With an empty pipe the call waits in its first read. -/
def turn (s : Thelper) (malloc : Option Memory) : Thelper :=
  if !s.looping || (malloc.isSome && s.stream.isEmpty) then s
  else
    let served := locApiServerProc w true malloc .complete .complete s.stream
    let threadExit := s.threadExit || decide (served.result < 0)
    { threadExit := threadExit
      looping := !threadExit
      stream := served.stream
      calls := s.calls ++
        [(s.stream.take (s.stream.length - served.stream.length), served.sent)] }

/-- `loc_eng_dmn_conn_unblock_thelper` sets the flag that the loop looks at after a call. -/
def step (s : Thelper) : Input → Thelper
  | .proc malloc => s.turn w malloc
  | .unblock => { s with threadExit := true }

end Thelper

/-! ### The request of a frame -/

variable {w}

/-- A request: whether it asks or gives back, its type and its sender. -/
abbrev Request := Bool × AGpsExtType × SenderId

/-- The request that a message carries to the engine. -/
def requestOf : Msg → Option Request
  | .reqRelBIT type _ _ isReq => some (isReq, type, .gpsoneDaemon)
  | .reqRelWifi type senderId _ _ isReq => some (isReq, type, senderId)
  | _ => none

/-- The request with this control type, type and sender. -/
def requestFor (ctrl : UInt8) (type senderId : ℕ) : Option Request :=
  (if ctrl = gpsoneLocApiIfRequest then some true
    else if ctrl = gpsoneLocApiIfRelease then some false else none).bind fun isReq =>
    (ifRequestType type).bind fun type =>
      (ifRequestSenderId senderId).map fun senderId => (isReq, type, senderId)

theorem requestOf_ifMessage (isReq : Bool) (type : AGpsExtType) (senderId : SenderId)
    (pmsg : Memory) :
    requestOf (ifMessage w isReq type senderId pmsg) = some (isReq, type, senderId) := by
  unfold ifMessage
  split
  · next h => rw [h]; rfl
  · rfl

theorem ifHandler_snd (isReq : Bool) (pmsg : Memory) (len : Int32) :
    (ifHandler w isReq pmsg len).2 =
      (ifRequestType (leNat (load pmsg (typeOff w) 4))).bind fun type =>
        (ifRequestSenderId (leNat (load pmsg (senderIdOff w) 4))).map fun senderId =>
          ifMessage w isReq type senderId pmsg := by
  unfold ifHandler
  cases ifRequestType (leNat (load pmsg (typeOff w) 4)) with
  | none => rfl
  | some type => cases ifRequestSenderId (leNat (load pmsg (senderIdOff w) 4)) <;> rfl

theorem requestOf_ifHandler (isReq : Bool) (pmsg : Memory) (len : Int32) :
    (ifHandler w isReq pmsg len).2.bind requestOf =
      (ifRequestType (leNat (load pmsg (typeOff w) 4))).bind fun type =>
        (ifRequestSenderId (leNat (load pmsg (senderIdOff w) 4))).map fun senderId =>
          (isReq, type, senderId) := by
  rw [ifHandler_snd]
  cases ifRequestType (leNat (load pmsg (typeOff w) 4)) with
  | none => rfl
  | some type =>
    cases ifRequestSenderId (leNat (load pmsg (senderIdOff w) 4)) with
    | none => rfl
    | some senderId => exact requestOf_ifMessage isReq type senderId pmsg

/-- With its handle set the server sends the request that is in the buffer. -/
theorem requestOf_dispatch (pmsg : Memory) (len : Int32) :
    (dispatch w true pmsg len).bind requestOf =
      requestFor (ctrlType w pmsg) (leNat (load pmsg (typeOff w) 4))
        (leNat (load pmsg (senderIdOff w) 4)) := by
  unfold dispatch requestFor
  split
  · exact requestOf_ifHandler true pmsg len
  · split
    · exact requestOf_ifHandler false pmsg len
    · rfl

namespace Frame

variable (f : Frame w)

/-- The bytes of the frame in a member at this offset. -/
def part (off n : ℕ) : List UInt8 := (f.bytes.drop off).take n

/-- The frame fits in the server's buffer. -/
def Fits : Prop := f.bytes.length ≤ sizeofCtrlMsgbuf w + 256

instance : Decidable f.Fits := inferInstanceAs (Decidable (_ ≤ _))

/-- The request that the frame makes with its own bytes. -/
def request : Option Request :=
  if senderIdOff w + 4 ≤ f.bytes.length then
    requestFor (f.bytes.getD (ctrlTypeOff w) 0) (leNat (f.part (typeOff w) 4))
      (leNat (f.part (senderIdOff w) 4))
  else none

/-- A well-formed request or release with a valid type and sender. -/
def Dispatchable : Prop := f.Fits ∧ f.request.isSome

variable {f} {buf : Memory}

theorem load_part {off n : ℕ} (h : off + n ≤ f.bytes.length) :
    load (store 0 f.bytes buf) off n = f.part off n := by
  have hin := load_store_inside buf 0 f.bytes h
  rwa [Nat.zero_add] at hin

theorem ctrlType_store (h : ctrlTypeOff w < f.bytes.length) :
    ctrlType w (store 0 f.bytes buf) = f.bytes.getD (ctrlTypeOff w) 0 := by
  have hin : store 0 f.bytes buf (0 + ctrlTypeOff w) = f.bytes[ctrlTypeOff w] := store_apply_add h
  rw [Nat.zero_add] at hin
  rw [ctrlType, hin, List.getD_eq_getElem _ _ h]

/-- A frame that makes a request has it in the buffer, whatever was there before. -/
theorem requestOf_dispatch_store (h : f.request.isSome) (buf : Memory) (len : Int32) :
    (dispatch w true (store 0 f.bytes buf) len).bind requestOf = f.request := by
  unfold request at h ⊢
  split at h
  · next hlen =>
    have hctrl : ctrlTypeOff w < f.bytes.length := by
      unfold ctrlTypeOff
      unfold senderIdOff cmsgOff at hlen
      omega
    have htype : typeOff w + 4 ≤ f.bytes.length := by
      unfold typeOff
      unfold senderIdOff at hlen
      omega
    rw [if_pos hlen, requestOf_dispatch, ctrlType_store hctrl, load_part htype, load_part hlen]
  · cases h

end Frame

/-! ### The loop on frames -/

/-- The calls of the server: one for each frame, until memory is short or a frame does not fit. -/
def serve : List (Frame w) → List (Option Memory) → List Call
  | [], mallocs => if mallocs.all (·.isSome) then [] else [([], none)]
  | _ :: _, [] => []
  | _ :: _, none :: _ => [([], none)]
  | f :: frames, some buf :: mallocs =>
    if f.Fits then
      (f.bytes, dispatch w true (store 0 f.bytes buf) (toInt f.size)) :: serve frames mallocs
    else [(f.bytes.take w.bytes, none)]

namespace Thelper

/-- The thread has left the loop. -/
theorem exec_of_not_looping {s : Thelper} (h : s.looping = false) (mallocs : List (Option Memory)) :
    exec (step w) s (mallocs.map .proc) = s := by
  induction mallocs with
  | nil => rfl
  | cons malloc mallocs ih =>
    have hturn : s.turn w malloc = s := by
      unfold turn
      rw [h]
      rfl
    show exec (step w) (s.turn w malloc) _ = s
    rw [hturn, ih]

/-- A call without memory ends the loop. -/
theorem turn_none {s : Thelper} (h : s.looping = true) :
    s.turn w none =
      { s with threadExit := true, looping := false, calls := s.calls ++ [([], none)] } := by
  have hneg : (-1 : Int32) < 0 := by decide
  unfold turn
  rw [h]
  simp [locApiServerProc, hneg]

/-- A call on an empty pipe waits. -/
theorem turn_empty {s : Thelper} (h : s.stream = []) (buf : Memory) :
    s.turn w (some buf) = s := by
  unfold turn
  rw [h]
  simp

variable {s : Thelper} {f : Frame w} {rest : List UInt8}

theorem serverBufsz_toNat (w : Word) : (serverBufsz w).toNat = sizeofCtrlMsgbuf w + 256 := by
  cases w <;> rfl

theorem length_pos (f : Frame w) : 0 < f.bytes.length :=
  Nat.lt_of_lt_of_le w.bytes_pos f.bytes_le

/-- A call that takes something from the pipe. -/
theorem turn_of_served {taken : List UInt8} {buf : Memory} {result : Int32} {sent : Option Msg}
    (hloop : s.looping = true) (hstream : s.stream = taken ++ rest) (htaken : 0 < taken.length)
    (hserved : locApiServerProc w true (some buf) .complete .complete (taken ++ rest) =
      ⟨result, sent, rest⟩) :
    s.turn w (some buf) =
      { threadExit := s.threadExit || decide (result < 0)
        looping := !(s.threadExit || decide (result < 0))
        stream := rest
        calls := s.calls ++ [(taken, sent)] } := by
  have hne : (taken ++ rest).isEmpty = false := by
    rw [List.isEmpty_eq_false_iff, ← List.length_pos_iff, List.length_append]
    omega
  have hlen : (taken ++ rest).length - rest.length = taken.length := by
    rw [List.length_append, Nat.add_sub_cancel]
  unfold turn
  rw [hloop, hstream, hserved, hne]
  simp only [Bool.not_true, Bool.and_false, Bool.or_self, Bool.false_eq_true, if_false, hlen,
    List.take_left']

/-- A frame that fits is dispatched from the buffer. -/
theorem locApiServerProc_fits (hfits : f.Fits) (buf : Memory) :
    locApiServerProc w true (some buf) .complete .complete (f.bytes ++ rest) =
      ⟨0, dispatch w true (store 0 f.bytes buf) (toInt f.size), rest⟩ := by
  have hle : f.bytes.length ≤ (serverBufsz w).toNat := by rwa [serverBufsz_toNat]
  have hrcv := msgrcv_frame buf f rest hle
  have hsmall : f.bytes.length < 2 ^ 31 := by
    have h : sizeofCtrlMsgbuf w + 256 < 2 ^ 31 := by cases w <;> decide
    exact Nat.lt_of_le_of_lt hfits h
  have hpos : ¬ toInt f.size ≤ 0 := by
    have hzero : (0 : Int32).toInt = 0 := rfl
    have hlen := length_pos f
    rw [Int32.le_iff_toInt_le, toInt, f.toNat_size, Int32.toInt_ofNat_of_lt hsmall, hzero]
    omega
  simp only [locApiServerProc, hrcv, if_neg hpos]

/-- A call that finds a frame that fits. -/
theorem turn_fits (hloop : s.looping = true) (hexit : s.threadExit = false)
    (hstream : s.stream = f.bytes ++ rest) (hfits : f.Fits) (buf : Memory) :
    s.turn w (some buf) =
      { threadExit := false, looping := true, stream := rest,
        calls := s.calls ++
          [(f.bytes, dispatch w true (store 0 f.bytes buf) (toInt f.size))] } := by
  have hzero : decide ((0 : Int32) < 0) = false := rfl
  rw [turn_of_served hloop hstream (length_pos f) (locApiServerProc_fits hfits buf), hexit, hzero]
  rfl

/-- A call that finds a frame that does not fit ends the loop. -/
theorem turn_oversized (hloop : s.looping = true) (hstream : s.stream = f.bytes ++ rest)
    (hfits : ¬ f.Fits) (buf : Memory) :
    s.turn w (some buf) =
      { threadExit := true, looping := false, stream := f.bytes.drop w.bytes ++ rest,
        calls := s.calls ++ [(f.bytes.take w.bytes, none)] } := by
  have hlt : (serverBufsz w).toNat < f.bytes.length := by
    rw [serverBufsz_toNat]
    exact Nat.not_le.mp hfits
  have hrcv := msgrcv_oversized buf f rest hlt .complete
  have hsplit : f.bytes ++ rest = f.bytes.take w.bytes ++ (f.bytes.drop w.bytes ++ rest) := by
    rw [← List.append_assoc, List.take_append_drop]
  have hle : (-1 : Int32) ≤ 0 := by decide
  have hserved : locApiServerProc w true (some buf) .complete .complete (f.bytes ++ rest) =
      ⟨-1, none, f.bytes.drop w.bytes ++ rest⟩ := by
    simp only [locApiServerProc, hrcv, if_pos hle]
  rw [hsplit] at hstream hserved
  have htaken : 0 < (f.bytes.take w.bytes).length := by
    rw [List.length_take_of_le f.bytes_le]
    exact w.bytes_pos
  have hneg : decide ((-1 : Int32) < 0) = true := rfl
  rw [turn_of_served hloop hstream htaken hserved, hneg, Bool.or_true]
  rfl

/-- A call without memory is the last one. -/
theorem calls_exec_none (hloop : s.looping = true) (frames : List (Frame w))
    (mallocs : List (Option Memory)) :
    (exec (step w) s ((none :: mallocs).map .proc)).calls =
      s.calls ++ serve frames (none :: mallocs) := by
  show (exec (step w) (s.turn w none) (mallocs.map .proc)).calls = _
  rw [turn_none hloop, exec_of_not_looping rfl]
  cases frames <;> rfl

/-- With nothing on the pipe, only a call without memory does anything. -/
theorem calls_exec_nil (hloop : s.looping = true) (hstream : s.stream = [])
    (mallocs : List (Option Memory)) :
    (exec (step w) s (mallocs.map .proc)).calls =
      s.calls ++ serve ([] : List (Frame w)) mallocs := by
  induction mallocs with
  | nil => exact (List.append_nil s.calls).symm
  | cons malloc mallocs ih =>
    cases malloc with
    | none => exact calls_exec_none hloop [] mallocs
    | some buf =>
      show (exec (step w) (s.turn w (some buf)) (mallocs.map .proc)).calls = _
      rw [turn_empty hstream, ih]
      rfl

/-- The loop does on the bytes of the frames what `serve` does on the frames. -/
theorem calls_exec (frames : List (Frame w)) :
    ∀ (mallocs : List (Option Memory)) (s : Thelper), s.looping = true → s.threadExit = false →
      s.stream = frames.flatMap (·.bytes) →
      (exec (step w) s (mallocs.map .proc)).calls = s.calls ++ serve frames mallocs := by
  induction frames with
  | nil =>
    intro mallocs s hloop _ hstream
    exact calls_exec_nil hloop hstream mallocs
  | cons f frames ih =>
    intro mallocs s hloop hexit hstream
    rw [List.flatMap_cons] at hstream
    cases mallocs with
    | nil => exact (List.append_nil s.calls).symm
    | cons malloc mallocs =>
      cases malloc with
      | none => exact calls_exec_none hloop (f :: frames) mallocs
      | some buf =>
        show (exec (step w) (s.turn w (some buf)) (mallocs.map .proc)).calls = _
        unfold serve
        by_cases hfits : f.Fits
        · rw [if_pos hfits, turn_fits hloop hexit hstream hfits, ih mallocs _ rfl rfl rfl,
            List.append_assoc]
          rfl
        · rw [if_neg hfits, turn_oversized hloop hstream hfits, exec_of_not_looping rfl]

end Thelper

/-! ### Which requests are dispatched -/

/-- Each dispatchable frame is taken from the pipe, as a whole, by the call of its number, and that
call sends its request. -/
def Dispatches (frames : List (Frame w)) (calls : List Call) : Prop :=
  ∀ (k : ℕ) (f : Frame w), frames[k]? = some f → f.Dispatchable →
    ∃ msg, calls[k]? = some (f.bytes, some msg) ∧ requestOf msg = f.request

/-- The calls up to this one have memory, and the frames before it fit. -/
def Reached (frames : List (Frame w)) (mallocs : List (Option Memory)) (k : ℕ) : Prop :=
  (∀ j ≤ k, ∃ buf, mallocs[j]? = some (some buf)) ∧ ∀ j < k, ∀ f, frames[j]? = some f → f.Fits

section

variable {frames : List (Frame w)} {mallocs : List (Option Memory)} {f : Frame w} {buf : Memory}

theorem reached_zero : Reached frames mallocs 0 ↔ ∃ buf, mallocs[0]? = some (some buf) := by
  refine ⟨fun h => h.1 0 (Nat.le_refl 0), fun h => ⟨fun j hj => ?_, fun j hj => ?_⟩⟩
  · rwa [Nat.le_zero.mp hj]
  · exact absurd hj (Nat.not_lt_zero j)

theorem reached_succ {k : ℕ} :
    Reached (f :: frames) (some buf :: mallocs) (k + 1) ↔ f.Fits ∧ Reached frames mallocs k := by
  constructor
  · intro ⟨hmem, hfits⟩
    refine ⟨hfits 0 (Nat.succ_pos k) f rfl, fun j hj => ?_, fun j hj g hg => ?_⟩
    · exact hmem (j + 1) (Nat.succ_le_succ hj)
    · exact hfits (j + 1) (Nat.succ_lt_succ hj) g hg
  · intro ⟨hf, hmem, hfits⟩
    constructor
    · intro j hj
      cases j with
      | zero => exact ⟨buf, rfl⟩
      | succ j => exact hmem j (Nat.le_of_succ_le_succ hj)
    · intro j hj g hg
      cases j with
      | zero => cases hg; exact hf
      | succ j => exact hfits j (Nat.lt_of_succ_lt_succ hj) g hg

/-- Without memory for its first call the server reaches nothing. -/
theorem not_reached_of_head (h : ∀ buf, mallocs[0]? ≠ some (some buf)) (k : ℕ) :
    ¬ Reached frames mallocs k := by
  intro hreached
  obtain ⟨buf, hbuf⟩ := hreached.1 0 (Nat.zero_le k)
  exact h buf hbuf

/-- A dispatchable frame is dispatched just when it is reached. -/
theorem serve_dispatches_iff : ∀ (frames : List (Frame w)) (mallocs : List (Option Memory)) (k : ℕ)
    (f : Frame w), frames[k]? = some f → f.Dispatchable →
    ((∃ msg, (serve frames mallocs)[k]? = some (f.bytes, some msg) ∧ requestOf msg = f.request) ↔
      Reached frames mallocs k) := by
  intro frames
  induction frames with
  | nil => intro mallocs k f hf; cases hf
  | cons g frames ih =>
    intro mallocs k f hf hdisp
    -- a list of calls that has no message at this place
    have hno : ∀ calls : List Call, (∀ c, calls[k]? = some c → c.2 = none) →
        ¬ ∃ msg, calls[k]? = some (f.bytes, some msg) ∧ requestOf msg = f.request := by
      intro calls hcalls ⟨msg, hmsg, _⟩
      cases hcalls _ hmsg
    have hsingle : ∀ bytes : List UInt8,
        ∀ c, [((bytes, none) : Call)][k]? = some c → c.2 = none := by
      intro bytes c hc
      have hmem := List.mem_of_getElem? hc
      rw [List.mem_singleton.mp hmem]
    cases mallocs with
    | nil =>
      exact iff_of_false (hno [] fun c hc => by cases hc)
        (not_reached_of_head (fun _ h => by cases h) k)
    | cons malloc mallocs =>
      cases malloc with
      | none =>
        exact iff_of_false (hno _ (hsingle [])) (not_reached_of_head (fun _ h => by cases h) k)
      | some buf =>
        unfold serve
        by_cases hfits : g.Fits
        · rw [if_pos hfits]
          cases k with
          | zero =>
            cases hf
            rw [reached_zero]
            refine iff_of_true ?_ ⟨buf, rfl⟩
            obtain ⟨request, hrequest⟩ := Option.isSome_iff_exists.mp hdisp.2
            have hsent := Frame.requestOf_dispatch_store hdisp.2 buf (toInt g.size)
            rw [hrequest] at hsent
            obtain ⟨msg, hmsg, hof⟩ := Option.bind_eq_some_iff.mp hsent
            rw [hmsg]
            exact ⟨msg, rfl, hof.trans hrequest.symm⟩
          | succ k =>
            rw [reached_succ]
            exact (ih mallocs k f hf hdisp).trans (and_iff_right hfits).symm
        · rw [if_neg hfits]
          refine iff_of_false (hno _ (hsingle _)) ?_
          cases k with
          | zero =>
            cases hf
            exact absurd hdisp.1 hfits
          | succ k => exact fun h => hfits (reached_succ.mp h).1

end

/-- **Which requests are dispatched.**  Frames on the pipe are dispatched, each by one call and in
order, just when every dispatchable one comes before a call that is out of memory and behind no
oversized frame. -/
theorem dispatches_iff (w : Word) (frames : List (Frame w)) (mallocs : List (Option Memory)) :
    Dispatches frames (exec (Thelper.step w) { stream := frames.flatMap (·.bytes) }
        (mallocs.map .proc)).calls ↔
      ∀ k f, frames[k]? = some f → f.Dispatchable → Reached frames mallocs k := by
  rw [Thelper.calls_exec frames mallocs _ rfl rfl rfl, List.nil_append, Dispatches]
  exact forall₄_congr fun k f hf hdisp => serve_dispatches_iff frames mallocs k f hf hdisp

/-- The frame with these bytes behind its size. -/
def Frame.ofBody (w : Word) (body : List UInt8) (h : w.bytes + body.length < 2 ^ w.bits) :
    Frame w where
  bytes := leBytes w.bytes (w.bytes + body.length) ++ body
  bytes_le := by
    rw [List.length_append, length_leBytes]
    exact Nat.le_add_right ..
  declared := by
    rw [List.take_left' (length_leBytes ..), leNat_leBytes, Word.pow_bytes, Nat.mod_eq_of_lt h,
      List.length_append, length_leBytes]

/-- One byte more than the server's buffer has. -/
def oversized : Frame .w32 :=
  .ofBody .w32 (List.replicate 365 0) (by rw [List.length_replicate]; decide)

/-- The daemon asks for the SUPL interface. -/
def suplRequest : Frame .w32 :=
  .ofBody .w32 [0, 0, 0, 0, 0, 0, 0, 0, 0xF0, 0, 0, 0, 0, 0, 0, 0, 3, 0, 0, 0] (by decide)

/-- The server ends with the oversized frame, and the request behind it stays on the pipe. -/
theorem not_dispatches_behindOversized :
    ¬ Dispatches [oversized, suplRequest]
      (exec (Thelper.step .w32) { stream := [oversized, suplRequest].flatMap (·.bytes) }
        ([some fun _ => 0, some fun _ => 0].map .proc)).calls := by
  rw [Thelper.calls_exec [oversized, suplRequest] _ _ rfl rfl rfl]
  have hfits : ¬ oversized.Fits := by
    show ¬ (leBytes _ _ ++ List.replicate 365 0).length ≤ _
    rw [List.length_append, length_leBytes, List.length_replicate]
    decide
  intro h
  obtain ⟨msg, hmsg, _⟩ := h 1 suplRequest rfl ⟨by decide, by decide⟩
  unfold serve at hmsg
  rw [if_neg hfits] at hmsg
  cases hmsg

end Dmn
end Nx507j
