import Nx507j.Lib.Memory

/-!
# Messages on a pipe

The daemons talk through named pipes.  A message carries its size in its first member, a `size_t`
of the machine's word width: `loc_eng_dmn_conn_glue_msgsnd` writes the size there and sends the
bytes, `loc_eng_dmn_conn_glue_msgrcv` reads the size first and then the rest.

## Main definitions

* `SizeT w` — a `size_t`, whose arithmetic wraps around.
* `Transfer` — what one call of `read` or `write` does.
* `Glue.msgsnd`, `Glue.msgrcv` — the two functions.
* `Frame` — bytes that carry their own number in front.

## Main results

* `Glue.msgrcv_frame`, `Glue.msgrcv_oversized` — what a receiver does with a frame.
* `Glue.receiveAll_sendAll` — what has been sent is received.
* `Glue.inBounds_iff` — when a receiver stays in its buffer.
-/

namespace Nx507j
namespace Dmn

open Memory

/-- The word widths of the targets. -/
inductive Word
  | w32
  | w64
  deriving DecidableEq, Repr

/-- The bits of a word. -/
def Word.bits : Word → ℕ
  | w32 => 32
  | w64 => 64

/-- `sizeof(size_t)`, which is `sizeof(unsigned long)` too. -/
def Word.bytes : Word → ℕ
  | w32 => 4
  | w64 => 8

/-- A `size_t`. -/
abbrev SizeT (w : Word) := BitVec w.bits

/-- `sizeof(size_t)` as a `size_t`. -/
def sizeofSizeT (w : Word) : SizeT w := BitVec.ofNat w.bits w.bytes

/-- A size converted to `int`. -/
def toInt {w : Word} (size : SizeT w) : Int32 := Int32.ofNat size.toNat

variable {w : Word}

theorem Word.pow_bytes (w : Word) : 256 ^ w.bytes = 2 ^ w.bits := by
  cases w <;> rfl

theorem Word.bytes_le (w : Word) : w.bytes ≤ 8 := by
  cases w <;> decide

theorem Word.bytes_pos (w : Word) : 0 < w.bytes := by
  cases w <;> decide

@[simp] theorem toNat_sizeofSizeT (w : Word) : (sizeofSizeT w).toNat = w.bytes := by
  cases w <;> rfl

/-- What one call of `read` or `write` does with the bytes it is asked for. -/
inductive Transfer
  | fails
  | upTo (n : ℕ)
  | complete
  deriving DecidableEq, Repr

/-- How many of `sz` bytes are transferred. -/
def Transfer.count (sz : ℕ) : Transfer → Option ℕ
  | fails => none
  | upTo n => some (min n sz)
  | complete => some sz

/-- The bytes that a read of `sz` bytes takes from the pipe. -/
def Transfer.got (t : Transfer) (sz : ℕ) (stream : List UInt8) : Option (List UInt8) :=
  (t.count sz).map stream.take

theorem Transfer.length_got {t : Transfer} {sz : ℕ} {stream bytes : List UInt8}
    (h : t.got sz stream = some bytes) : bytes.length ≤ sz := by
  cases t with
  | fails => cases h
  | upTo n =>
    cases h
    exact Nat.le_trans (List.length_take_le ..) (Nat.min_le_right ..)
  | complete =>
    cases h
    exact List.length_take_le ..

namespace Glue

/-- The outcome of a read: `len`, the buffer, and what is left on the pipe. -/
structure PipeRead where
  len : Int32
  buf : Memory
  stream : List UInt8

/-- `loc_eng_dmn_conn_glue_piperead`, into the buffer from `off` on. -/
def piperead (t : Transfer) (buf : Memory) (off sz : ℕ) (stream : List UInt8) : PipeRead :=
  match t.got sz stream with
  | none => ⟨-1, buf, stream⟩
  | some bytes => ⟨Int32.ofNat bytes.length, store off bytes buf, stream.drop bytes.length⟩

/-- `loc_eng_dmn_conn_glue_pipewrite`: its result, and the pipe with the bytes written. -/
def pipewrite (t : Transfer) (buf : Memory) (sz : ℕ) (stream : List UInt8) :
    Int32 × List UInt8 :=
  match t.count sz with
  | none => (-1, stream)
  | some n => (Int32.ofNat n, stream ++ load buf 0 n)

/-- The outcome of `loc_eng_dmn_conn_glue_msgsnd`: the message has its size in it now. -/
structure Sent where
  result : Int32
  msg : Memory
  stream : List UInt8

/-- `loc_eng_dmn_conn_glue_msgsnd`. -/
def msgsnd (w : Word) (t : Transfer) (msg : Memory) (msgsz : SizeT w) (stream : List UInt8) :
    Sent :=
  let msg := store 0 (leBytes w.bytes msgsz.toNat) msg
  let written := pipewrite t msg msgsz.toNat stream
  if written.1 ≠ toInt msgsz then ⟨-1, msg, written.2⟩ else ⟨written.1, msg, written.2⟩

/-- The member `msgsz` of a message. -/
def msgsz (w : Word) (buf : Memory) : SizeT w := BitVec.ofNat w.bits (leNat (load buf 0 w.bytes))

/-- The outcome of `loc_eng_dmn_conn_glue_msgrcv`, with where in the buffer it has asked for how
many bytes. -/
structure Received where
  result : Int32
  buf : Memory
  stream : List UInt8
  asked : List (ℕ × ℕ)

/-- `loc_eng_dmn_conn_glue_msgrcv`; the two transfers are those of its two reads. -/
def msgrcv (w : Word) (t₁ t₂ : Transfer) (buf : Memory) (msgbufsz : SizeT w)
    (stream : List UInt8) : Received :=
  let header := piperead t₁ buf 0 w.bytes stream
  if header.len ≠ Int32.ofNat w.bytes then ⟨-1, header.buf, header.stream, [(0, w.bytes)]⟩
  else if msgbufsz < msgsz w header.buf then ⟨-1, header.buf, header.stream, [(0, w.bytes)]⟩
  else
    -- the difference is a `size_t` and wraps around
    let rest := (msgsz w header.buf - sizeofSizeT w).toNat
    let body := piperead t₂ header.buf w.bytes rest header.stream
    let asked := [(0, w.bytes), (w.bytes, rest)]
    if body.len ≠ toInt (msgsz w body.buf - sizeofSizeT w) then
      ⟨-1, body.buf, body.stream, asked⟩
    else ⟨toInt (msgsz w body.buf), body.buf, body.stream, asked⟩

end Glue

/-- Bytes that carry their own number in front, as a `size_t`. -/
structure Frame (w : Word) where
  bytes : List UInt8
  bytes_le : w.bytes ≤ bytes.length
  declared : leNat (bytes.take w.bytes) = bytes.length

namespace Frame

variable (f : Frame w)

theorem length_lt : f.bytes.length < 2 ^ w.bits := by
  have h := leNat_lt (f.bytes.take w.bytes)
  rwa [f.declared, List.length_take_of_le f.bytes_le, Word.pow_bytes] at h

/-- The size of the frame. -/
def size : SizeT w := BitVec.ofNat w.bits f.bytes.length

@[simp] theorem toNat_size : f.size.toNat = f.bytes.length := by
  rw [size, BitVec.toNat_ofNat, Nat.mod_eq_of_lt f.length_lt]

end Frame

/-- A message at an address, and its size. -/
abbrev Message (w : Word) := Memory × SizeT w

namespace Message

variable (m : Message w)

/-- The message's memory with its size in its first member. -/
def stamped : Memory := store 0 (leBytes w.bytes m.2.toNat) m.1

/-- The bytes that are sent of the message. -/
def sentBytes : List UInt8 := load m.stamped 0 m.2.toNat

@[simp] theorem length_sentBytes : m.sentBytes.length = m.2.toNat := length_load

/-- What is sent of a message that has room for its size is a frame. -/
def frame (h : w.bytes ≤ m.2.toNat) : Frame w where
  bytes := m.sentBytes
  bytes_le := by rwa [length_sentBytes]
  declared := by
    have hself := load_store_self m.1 0 (leBytes w.bytes m.2.toNat)
    rw [length_leBytes] at hself
    rw [sentBytes, take_load h, stamped, hself, leNat_leBytes, length_load, Word.pow_bytes]
    exact Nat.mod_eq_of_lt m.2.isLt

@[simp] theorem size_frame (h : w.bytes ≤ m.2.toNat) : (m.frame h).size = m.2 := by
  apply BitVec.eq_of_toNat_eq
  rw [Frame.toNat_size]
  exact m.length_sentBytes

end Message

/-! ### What a receiver does with a frame -/

namespace Glue

variable (buf : Memory) (f : Frame w) (rest : List UInt8) {msgbufsz : SizeT w}

/-- What is written behind the size leaves the size alone. -/
@[simp] theorem msgsz_store (w : Word) (buf : Memory) (bytes : List UInt8) :
    msgsz w (store w.bytes bytes buf) = msgsz w buf := by
  rw [msgsz, load_store_of_le (Nat.le_of_eq (Nat.zero_add w.bytes))]
  rfl

theorem piperead_complete_append {bytes : List UInt8} {sz : ℕ} (h : bytes.length = sz) (off : ℕ) :
    piperead .complete buf off sz (bytes ++ rest) =
      ⟨Int32.ofNat sz, store off bytes buf, rest⟩ := by
  have hgot : Transfer.complete.got sz (bytes ++ rest) = some bytes :=
    congrArg some (List.take_left' h)
  simp only [piperead, hgot, h, List.drop_left' h]

/-- A frame in a buffer has its size there. -/
theorem msgsz_frame : msgsz w (store 0 f.bytes buf) = f.size := by
  rw [msgsz, load_store_front _ _ _ f.bytes_le, f.declared, Frame.size]

/-- So does what the first read gets of it. -/
theorem msgsz_header : msgsz w (store 0 (f.bytes.take w.bytes) buf) = f.size := by
  have hlen : (f.bytes.take w.bytes).length = w.bytes := List.length_take_of_le f.bytes_le
  rw [msgsz, load_store_front _ _ _ (Nat.le_of_eq hlen.symm), List.take_take, Nat.min_self,
    f.declared, Frame.size]

theorem toNat_size_sub : (f.size - sizeofSizeT w).toNat = f.bytes.length - w.bytes := by
  have hle : sizeofSizeT w ≤ f.size := by
    rw [BitVec.le_def, toNat_sizeofSizeT, f.toNat_size]
    exact f.bytes_le
  rw [BitVec.toNat_sub_of_le hle, toNat_sizeofSizeT, f.toNat_size]

theorem piperead_header :
    piperead .complete buf 0 w.bytes (f.bytes ++ rest) =
      ⟨Int32.ofNat w.bytes, store 0 (f.bytes.take w.bytes) buf, f.bytes.drop w.bytes ++ rest⟩ := by
  have h := piperead_complete_append buf (f.bytes.drop w.bytes ++ rest)
    (List.length_take_of_le f.bytes_le) 0
  rwa [← List.append_assoc, List.take_append_drop] at h

/-- A frame that fits is received, and the pipe is left at the next one. -/
theorem msgrcv_frame (h : f.bytes.length ≤ msgbufsz.toNat) :
    msgrcv w .complete .complete buf msgbufsz (f.bytes ++ rest) =
      ⟨toInt f.size, store 0 f.bytes buf, rest,
        [(0, w.bytes), (w.bytes, f.bytes.length - w.bytes)]⟩ := by
  have hfits : ¬ msgbufsz < f.size := by
    rw [BitVec.lt_def, f.toNat_size]
    exact Nat.not_lt.mpr h
  have hbody := piperead_complete_append (store 0 (f.bytes.take w.bytes) buf) rest
    (List.length_drop (i := w.bytes) (l := f.bytes)) w.bytes
  have hstore : store w.bytes (f.bytes.drop w.bytes) (store 0 (f.bytes.take w.bytes) buf) =
      store 0 f.bytes buf := by
    have happ := store_append buf 0 (f.bytes.take w.bytes) (f.bytes.drop w.bytes)
    rw [List.take_append_drop, List.length_take_of_le f.bytes_le, Nat.zero_add] at happ
    exact happ.symm
  have hlen : Int32.ofNat (f.bytes.length - w.bytes) = toInt (f.size - sizeofSizeT w) := by
    rw [toInt, toNat_size_sub]
  unfold msgrcv
  simp only [piperead_header, msgsz_header, toNat_size_sub, hbody, msgsz_store, hlen, ne_eq,
    not_true_eq_false, if_false, if_neg hfits]
  rw [hstore]

/-- A frame that does not fit is given up behind its size. -/
theorem msgrcv_oversized (h : msgbufsz.toNat < f.bytes.length) (t : Transfer) :
    msgrcv w .complete t buf msgbufsz (f.bytes ++ rest) =
      ⟨-1, store 0 (f.bytes.take w.bytes) buf, f.bytes.drop w.bytes ++ rest, [(0, w.bytes)]⟩ := by
  have hover : msgbufsz < f.size := by
    rwa [BitVec.lt_def, f.toNat_size]
  unfold msgrcv
  simp only [piperead_header, msgsz_header, ne_eq, not_true_eq_false, if_false, if_pos hover]

/-! ### What has been sent is received -/

/-- The pipe after the messages have been sent. -/
def sendAll (w : Word) (msgs : List (Message w)) (stream : List UInt8) : List UInt8 :=
  msgs.foldl (fun stream m => (msgsnd w .complete m.1 m.2 stream).stream) stream

/-- One call of `msgrcv` for each buffer, and the pipe after them. -/
def receiveAll (w : Word) (msgbufsz : SizeT w) :
    List Memory → List UInt8 → List Received × List UInt8
  | [], stream => ([], stream)
  | buf :: bufs, stream =>
    let received := msgrcv w .complete .complete buf msgbufsz stream
    let rest := receiveAll w msgbufsz bufs received.stream
    (received :: rest.1, rest.2)

/-- The message has arrived: its size is reported, as an `int`, and is in the buffer, together with
the bytes that the sender had at the address. -/
structure Arrived (m : Message w) (received : Received) : Prop where
  result : received.result = toInt m.2
  result_of_lt : m.2.toNat < 2 ^ 31 → received.result.toInt = m.2.toNat
  msgsz : Glue.msgsz w received.buf = m.2
  bytes : load received.buf 0 m.2.toNat =
    load (msgsnd w .complete m.1 m.2 []).msg 0 m.2.toNat

theorem msgsnd_complete (m : Message w) (stream : List UInt8) :
    msgsnd w .complete m.1 m.2 stream = ⟨toInt m.2, m.stamped, stream ++ m.sentBytes⟩ := by
  simp only [msgsnd, pipewrite, Transfer.count, toInt, ne_eq, not_true_eq_false, if_false]
  rfl

/-- The pipe holds the messages one behind the other. -/
theorem sendAll_eq : ∀ (msgs : List (Message w)) (stream : List UInt8),
    sendAll w msgs stream = stream ++ msgs.flatMap (·.sentBytes) := by
  intro msgs
  induction msgs with
  | nil => intro stream; exact (List.append_nil stream).symm
  | cons m msgs ih =>
    intro stream
    have hsnd := congrArg Sent.stream (msgsnd_complete m stream)
    show sendAll w msgs (msgsnd w .complete m.1 m.2 stream).stream = _
    rw [hsnd, ih, List.append_assoc, List.flatMap_cons]

/-- A message at the front of the pipe is received. -/
theorem arrived_msgrcv (m : Message w) (h : w.bytes ≤ m.2.toNat)
    (hfits : m.2.toNat ≤ msgbufsz.toNat) (buf : Memory) :
    Arrived m (msgrcv w .complete .complete buf msgbufsz (m.sentBytes ++ rest)) := by
  have hrcv := msgrcv_frame buf (m.frame h) rest (m.length_sentBytes.symm ▸ hfits)
  have hmsgsz := msgsz_frame buf (m.frame h)
  have hself := load_store_self buf 0 m.sentBytes
  rw [m.size_frame] at hrcv hmsgsz
  rw [m.length_sentBytes] at hself
  have hbuf := congrArg Received.buf hrcv
  refine ⟨congrArg Received.result hrcv, fun hlt => ?_, ?_, ?_⟩
  · exact (congrArg (Int32.toInt ∘ Received.result) hrcv).trans (Int32.toInt_ofNat_of_lt hlt)
  · exact (congrArg (Glue.msgsz w) hbuf).trans hmsgsz
  · rw [msgsnd_complete]
    exact (congrArg (load · 0 m.2.toNat) hbuf).trans hself

/-- The smallest message and one of twenty bytes, to a receiver with the server's buffer. -/
def twoMessages : List (Message .w64) := [(fun _ => 7, 8), (fun k => UInt8.ofNat k, 20)]

/-- The receiver asks for bytes within its buffer only. -/
def InBounds (msgbufsz : SizeT w) (received : Received) : Prop :=
  ∀ p ∈ received.asked, ∀ k < p.2, p.1 + k < msgbufsz.toNat

/-- The first read brings a whole size, and one that has no room for itself. -/
def Undersized (w : Word) (t₁ : Transfer) (stream : List UInt8) : Prop :=
  ∃ header, t₁.got w.bytes stream = some header ∧ header.length = w.bytes ∧
    leNat header < w.bytes

variable {buf} {t₁ t₂ : Transfer} {stream : List UInt8}

/-- Without a whole size the receiver gives up. -/
theorem asked_of_no_header
    (h : ∀ header, t₁.got w.bytes stream = some header → header.length ≠ w.bytes) :
    (msgrcv w t₁ t₂ buf msgbufsz stream).asked = [(0, w.bytes)] := by
  have hfail : (-1 : Int32) ≠ Int32.ofNat w.bytes := by cases w <;> decide
  have hlen : (piperead t₁ buf 0 w.bytes stream).len ≠ Int32.ofNat w.bytes := by
    unfold piperead
    cases hgot : t₁.got w.bytes stream with
    | none => exact hfail
    | some header =>
      intro heq
      have hw := w.bytes_le
      have hle := Transfer.length_got hgot
      have hint := congrArg Int32.toInt heq
      rw [Int32.toInt_ofNat_of_lt (by omega), Int32.toInt_ofNat_of_lt (by omega)] at hint
      exact h header hgot (Int.ofNat_inj.mp hint)
  unfold msgrcv
  simp only [if_pos hlen]

/-- With a whole size that is not too large it asks for the difference. -/
theorem asked_of_header {header : List UInt8} (hgot : t₁.got w.bytes stream = some header)
    (hlen : header.length = w.bytes) :
    (msgrcv w t₁ t₂ buf msgbufsz stream).asked =
      if msgbufsz.toNat < leNat header then [(0, w.bytes)]
      else [(0, w.bytes),
        (w.bytes, (BitVec.ofNat w.bits (leNat header) - sizeofSizeT w).toNat)] := by
  have hread : piperead t₁ buf 0 w.bytes stream =
      ⟨Int32.ofNat w.bytes, store 0 header buf, stream.drop w.bytes⟩ := by
    simp only [piperead, hgot, hlen]
  have hmsgsz : msgsz w (store 0 header buf) = BitVec.ofNat w.bits (leNat header) := by
    rw [msgsz, load_store_front _ _ _ (Nat.le_of_eq hlen.symm), ← hlen, List.take_length]
  have hlt : leNat header < 2 ^ w.bits := by
    rw [← Word.pow_bytes, ← hlen]
    exact leNat_lt header
  have htoNat : (BitVec.ofNat w.bits (leNat header)).toNat = leNat header := by
    rw [BitVec.toNat_ofNat, Nat.mod_eq_of_lt hlt]
  unfold msgrcv
  simp only [hread, hmsgsz, ne_eq, not_true_eq_false, if_false, BitVec.lt_def, htoNat]
  split
  · rfl
  · split <;> rfl

/-- **Where a receiver stores.**  Whatever is on the pipe and however its reads go, a receiver with
a buffer that has room for a size stays in the buffer unless it reads an undersized frame. -/
theorem inBounds_iff (w : Word) (t₁ t₂ : Transfer) (buf : Memory) (msgbufsz : SizeT w)
    (stream : List UInt8) (hbuf : w.bytes ≤ msgbufsz.toNat) :
    InBounds msgbufsz (msgrcv w t₁ t₂ buf msgbufsz stream) ↔ ¬ Undersized w t₁ stream := by
  have hfirst : ∀ k < w.bytes, 0 + k < msgbufsz.toNat := fun k hk => by omega
  by_cases hheader : ∃ header, t₁.got w.bytes stream = some header ∧ header.length = w.bytes
  · obtain ⟨header, hgot, hlen⟩ := hheader
    have hunder : Undersized w t₁ stream ↔ leNat header < w.bytes := by
      unfold Undersized
      rw [hgot]
      simp [hlen]
    rw [hunder, InBounds, asked_of_header hgot hlen]
    split
    · next hlarge =>
      -- the size is too large, hence large enough
      simp only [List.forall_mem_singleton]
      exact iff_of_true hfirst (by omega)
    · next hfits =>
      have hlt := msgbufsz.isLt
      have hw : w.bytes < 2 ^ w.bits := by cases w <;> decide
      have hsub : (BitVec.ofNat w.bits (leNat header) - sizeofSizeT w).toNat =
          (2 ^ w.bits - w.bytes + leNat header) % 2 ^ w.bits := by
        rw [BitVec.toNat_sub, toNat_sizeofSizeT, BitVec.toNat_ofNat, Nat.add_mod_mod]
      rw [List.forall_mem_cons, List.forall_mem_singleton, hsub]
      by_cases hsmall : leNat header < w.bytes
      · -- the difference wraps around
        rw [Nat.mod_eq_of_lt (by omega)]
        refine iff_of_false (fun h => ?_) (not_not_intro hsmall)
        have hk := h.2 (msgbufsz.toNat - w.bytes) (by omega)
        omega
      · have hmod : (2 ^ w.bits - w.bytes + leNat header) % 2 ^ w.bits =
            leNat header - w.bytes := by
          rw [show 2 ^ w.bits - w.bytes + leNat header = leNat header - w.bytes + 2 ^ w.bits by
            omega, Nat.add_mod_right, Nat.mod_eq_of_lt (by omega)]
        rw [hmod]
        exact iff_of_true ⟨hfirst, fun k hk => by omega⟩ hsmall
  · have hnone : ∀ header, t₁.got w.bytes stream = some header → header.length ≠ w.bytes :=
      fun header hgot hlen => hheader ⟨header, hgot, hlen⟩
    rw [InBounds, asked_of_no_header hnone, List.forall_mem_singleton]
    exact iff_of_true hfirst fun ⟨header, hgot, hlen, _⟩ => hnone header hgot hlen

theorem inBounds_iff_wholeSize :
    InBounds (384 : SizeT .w64)
        (msgrcv .w64 .complete (.upTo 3) (fun _ => 0) 384 [16, 0, 0, 0, 0, 0, 0, 0, 1, 2]) ↔
      ¬ Undersized .w64 .complete [16, 0, 0, 0, 0, 0, 0, 0, 1, 2] :=
  inBounds_iff .w64 .complete (.upTo 3) (fun _ => 0) 384 [16, 0, 0, 0, 0, 0, 0, 0, 1, 2] (by decide)

/-- A frame says that it has no bytes at all, and the rest of it is `2 ^ 32 - 4` bytes. -/
theorem not_inBounds_zeroSize :
    ¬ InBounds (368 : SizeT .w32)
      (msgrcv .w32 .complete .complete (fun _ => 0) 368 [0, 0, 0, 0]) := by
  intro h
  have hasked : (4, 2 ^ 32 - 4) ∈
      (msgrcv .w32 .complete .complete (fun _ => 0) (368 : SizeT .w32) [0, 0, 0, 0]).asked := by
    decide
  exact absurd (h _ hasked 364 (by decide)) (by decide)

end Glue
end Dmn
end Nx507j
