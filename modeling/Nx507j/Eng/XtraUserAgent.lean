import Mathlib.Data.List.DropRight
import Mathlib.Data.List.Infix
import Nx507j.Lib.Buffer

/-!
# The parts of the user agent

`LocEngAdapter.cpp` puts the user agent for XTRA together from properties of the device, in which
the characters that separate the parts are replaced by codes, and from the serial number of the
chipset, without the white space behind it.  Both are worked on in the arrays that hold them.

## Main definitions

* `encodings`, `encode`, `decode` — the codes.
* `encodeLoop`, `encodeInPlace` — the text is written with codes to a second array, and copied back.
* `fit` — the characters whose codes have room.
* `getChipsetSerialNo` — the serial number is read, and trimmed.

## Main results

* `encodeInPlace_eq` — what is left of a text, and where.
* `encodeInPlace_keeps` — it decodes to the longest prefix that fits.
* `getChipsetSerialNo_iff` — the trimming stops in the array if and only if it comes to a character
  that is not white space.
-/

namespace Nx507j
namespace Eng

open Buffer CText

/-! ### Codes -/

/-- `encodings`. -/
def encodings : List (UInt8 × Text) :=
  [(47, text "%2F"), (43, text "%2B"), (124, text "%7C"), (37, text "%25")]

/-- `NUM_CHARS_IN_CODE`. -/
def numCharsInCode : ℕ := 3

/-- The code of a character that is escaped. -/
def findCode (c : UInt8) : Option Text := (encodings.find? fun e => e.1 == c).map Prod.snd

/-- A character as it is written. -/
def encodeChar (c : UInt8) : Text := (findCode c).getD [c]

/-- A text with codes. -/
def encode (s : Text) : Text := s.flatMap encodeChar

/-- The text that one with codes stands for. -/
def decode : Text → Text
  | [] => []
  | 37 :: 50 :: 70 :: t => 47 :: decode t
  | 37 :: 50 :: 66 :: t => 43 :: decode t
  | 37 :: 55 :: 67 :: t => 124 :: decode t
  | 37 :: 50 :: 53 :: t => 37 :: decode t
  | c :: t => c :: decode t

/-- No separator is in the text, and a percent sign only where a code starts. -/
def WellEncoded (t : Text) : Prop :=
  ∀ c rest, c :: rest <:+ t →
    c ∉ text "/+|" ∧ (c ∈ text "%" → ∃ e ∈ encodings, e.2 <+: c :: rest)

/-- A character has one of the codes, or is written as it is. -/
theorem findCode_cases (c : UInt8) :
    (∃ e ∈ encodings, c = e.1 ∧ findCode c = some e.2) ∨ (c ∉ text "/+|%" ∧ findCode c = none) := by
  cases hfind : encodings.find? fun e => e.1 == c with
  | some e =>
    have hc := List.find?_some (p := fun e : UInt8 × Text => e.1 == c) hfind
    refine .inl ⟨e, List.mem_of_find?_eq_some hfind, (beq_iff_eq.mp hc).symm, ?_⟩
    rw [findCode, hfind]
    rfl
  | none =>
    refine .inr ⟨fun hmem => ?_, by rw [findCode, hfind]; rfl⟩
    have hnone := List.find?_eq_none.mp hfind
    have htable : text "/+|%" = encodings.map Prod.fst := by decide
    rw [htable] at hmem
    obtain ⟨e, he, rfl⟩ := List.mem_map.mp hmem
    exact hnone e he (beq_self_eq_true e.1)

theorem length_code : ∀ e ∈ encodings, e.2.length = numCharsInCode := by decide

theorem encodeChar_code : ∀ e ∈ encodings, encodeChar e.1 = e.2 := by decide

theorem encodeChar_of_none {c : UInt8} (h : findCode c = none) : encodeChar c = [c] := by
  rw [encodeChar, h]
  rfl

theorem encode_cons (c : UInt8) (s : Text) : encode (c :: s) = encodeChar c ++ encode s :=
  List.flatMap_cons ..

theorem decode_cons_of_ne {c : UInt8} (h : c ≠ 37) (t : Text) :
    decode (c :: t) = c :: decode t := by
  rw [decode]
  all_goals
    intros
    simp_all

/-- A code is a percent sign and two characters that need no code. -/
theorem code_eq {e : UInt8 × Text} (he : e ∈ encodings) :
    ∃ x y, e.2 = [37, x, y] ∧ x ∉ text "/+|%" ∧ y ∉ text "/+|%" := by
  rcases List.mem_cons.mp he with rfl | he
  · exact ⟨50, 70, rfl, by decide, by decide⟩
  rcases List.mem_cons.mp he with rfl | he
  · exact ⟨50, 66, rfl, by decide, by decide⟩
  rcases List.mem_cons.mp he with rfl | he
  · exact ⟨55, 67, rfl, by decide, by decide⟩
  rw [List.mem_singleton.mp he]
  exact ⟨50, 53, rfl, by decide, by decide⟩

theorem decode_code_append {e : UInt8 × Text} (he : e ∈ encodings) (t : Text) :
    decode (e.2 ++ t) = e.1 :: decode t := by
  have hall : ∀ e ∈ encodings, e = (47, text "%2F") ∨ e = (43, text "%2B") ∨
      e = (124, text "%7C") ∨ e = (37, text "%25") := by decide
  rcases hall e he with rfl | rfl | rfl | rfl <;> rfl

/-- **Codes are read back.** -/
theorem decode_encode (s : Text) : decode (encode s) = s := by
  induction s with
  | nil => rfl
  | cons c s ih =>
    rw [encode_cons]
    rcases findCode_cases c with ⟨e, he, rfl, -⟩ | ⟨hc, hnone⟩
    · rw [encodeChar_code e he, decode_code_append he, ih]
    · have hne : c ≠ 37 := fun heq => hc (heq ▸ by decide)
      rw [encodeChar_of_none hnone, List.singleton_append, decode_cons_of_ne hne, ih]

/-- A character that needs no code is none of those that have one. -/
theorem notMem_of_notMem {c : UInt8} (hc : c ∉ text "/+|%") : c ∉ text "/+|" ∧ c ∉ text "%" := by
  have hall : text "/+|" ++ text "%" = text "/+|%" := by decide
  rw [← hall, List.mem_append, not_or] at hc
  exact hc

theorem WellEncoded.cons {c : UInt8} {t : Text} (h : WellEncoded t) (hc : c ∉ text "/+|")
    (hcode : c ∈ text "%" → ∃ e ∈ encodings, e.2 <+: c :: t) : WellEncoded (c :: t) := by
  intro d rest hsuffix
  rcases List.suffix_cons_iff.mp hsuffix with heq | hsuffix
  · obtain ⟨rfl, rfl⟩ := List.cons.inj heq
    exact ⟨hc, hcode⟩
  · exact h d rest hsuffix

theorem WellEncoded.cons_of_notMem {c : UInt8} {t : Text} (h : WellEncoded t)
    (hc : c ∉ text "/+|%") : WellEncoded (c :: t) :=
  h.cons (notMem_of_notMem hc).1 fun hmem => absurd hmem (notMem_of_notMem hc).2

/-- What is written with codes has no separator, and percent signs only for codes. -/
theorem wellEncoded_encode (s : Text) : WellEncoded (encode s) := by
  induction s with
  | nil =>
    intro c rest hsuffix
    exact absurd (List.suffix_nil.mp hsuffix) (List.cons_ne_nil c rest)
  | cons c s ih =>
    rw [encode_cons]
    rcases findCode_cases c with ⟨e, he, rfl, -⟩ | ⟨hc, hnone⟩
    · rw [encodeChar_code e he]
      obtain ⟨x, y, hcode, hx, hy⟩ := code_eq he
      rw [hcode]
      refine ((ih.cons_of_notMem hy).cons_of_notMem hx).cons (by decide) fun _ => ?_
      exact ⟨e, he, hcode ▸ List.prefix_append [37, x, y] (encode s)⟩
    · rw [encodeChar_of_none hnone]
      exact ih.cons_of_notMem hc

/-! ### The loops -/

/-- The loop that writes a code. -/
def copyCode (size : ℕ) : Text → List UInt8 → ℕ → Except Outside (List UInt8 × ℕ)
  | [], buffer, outpos => .ok (buffer, outpos)
  | c :: code, buffer, outpos =>
    if outpos + 1 < size then do copyCode size code (← write buffer outpos c) (outpos + 1)
    else .ok (buffer, outpos)

/-- The loop over the value, of which the bytes from `inpos` on are given: it does not write them. -/
def encodeLoop (size : ℕ) :
    List UInt8 → ℕ → List UInt8 → ℕ → Except Outside (List UInt8 × ℕ)
  | [], inpos, _, _ => .error ⟨inpos⟩
  | c :: rest, inpos, buffer, outpos =>
    if c ≠ 0 ∧ outpos + 1 < size then
      match findCode c with
      | none => do encodeLoop size rest (inpos + 1) (← write buffer outpos c) (outpos + 1)
      | some code =>
        if outpos + numCharsInCode ≥ size then .ok (buffer, outpos)
        else do
          let (buffer, outpos) ← copyCode size code buffer outpos
          encodeLoop size rest (inpos + 1) buffer outpos
    else .ok (buffer, outpos)

/-- The loop that copies the buffer to the value, from its end on. -/
def copyBack (buffer : List UInt8) : ℕ → List UInt8 → Except Outside (List UInt8)
  | 0, value => .ok value
  | outpos + 1, value => do copyBack buffer outpos (← write value outpos (← read buffer outpos))

/-- `encodeInPlace`; the buffer on the stack is not initialised. -/
def encodeInPlace (stack : ℕ → UInt8) (value : List UInt8) (size : ℕ) :
    Except Outside (List UInt8) := do
  let (buffer, outpos) ← encodeLoop size value 0 ((List.range size).map stack) 0
  copyBack buffer outpos (← write value outpos 0)

/-- The first characters, as far as their codes have room. -/
def fit : ℕ → Text → Text
  | _, [] => []
  | room, c :: s =>
    if (encodeChar c).length ≤ room then c :: fit (room - (encodeChar c).length) s else []

variable {size room : ℕ} {s behind : List UInt8}

/-- A code for which there is room is written whole. -/
theorem copyCode_append :
    ∀ (code : Text) (out spare : List UInt8) {outpos : ℕ}, outpos = out.length →
      (out ++ spare).length = size → out.length + code.length < size →
      copyCode size code (out ++ spare) outpos =
        .ok (out ++ code ++ spare.drop code.length, outpos + code.length) := by
  intro code
  induction code with
  | nil =>
    intro out spare outpos _ _ _
    rw [copyCode, List.append_nil]
    rfl
  | cons c code ih =>
    intro out spare outpos houtpos hsize hroom
    rw [List.length_cons] at hroom
    obtain ⟨d, spare, rfl⟩ := exists_cons_of_lt hsize (by omega)
    have hnext := succ_eq_length_concat houtpos c
    have hsize' : (out ++ [c] ++ spare).length = size := by
      rw [List.length_append, List.length_cons] at hsize
      rw [List.length_append, ← hnext]
      omega
    have hrest := ih (out ++ [c]) spare hnext hsize' (by omega)
    rw [List.append_assoc, List.append_assoc, List.singleton_append] at hrest
    rw [copyCode, if_pos (by omega), write_append houtpos, ok_bind, hrest, List.append_assoc,
      List.append_assoc, List.length_cons, List.drop_succ_cons, Nat.add_assoc, Nat.add_comm 1]
    rfl

/-- The buffer that is copied back takes the place of what was in the value. -/
theorem copyBack_append (out : List UInt8) :
    ∀ (spare value rest : List UInt8), value.length = out.length →
      copyBack (out ++ spare) out.length (value ++ rest) = .ok (out ++ rest) := by
  induction out using List.reverseRecOn with
  | nil =>
    intro spare value rest hvalue
    rw [List.length_eq_zero_iff.mp hvalue]
    rfl
  | append_singleton out c ih =>
    intro spare value rest hvalue
    rw [List.length_append, List.length_singleton] at hvalue
    rcases List.eq_nil_or_concat' value with rfl | ⟨value, d, rfl⟩
    · exact absurd hvalue (Nat.succ_ne_zero out.length).symm
    rw [List.length_append, List.length_singleton] at hvalue
    have hlen : out.length = value.length := (Nat.succ_inj.mp hvalue).symm
    rw [List.length_append, List.length_singleton, List.append_assoc, List.append_assoc,
      List.append_assoc, copyBack]
    simp only [List.singleton_append]
    rw [read_append rfl, ok_bind, write_append hlen, ok_bind]
    exact ih (c :: spare) value (c :: rest) hlen.symm

theorem length_encodeChar_pos (c : UInt8) : 0 < (encodeChar c).length := by
  rcases findCode_cases c with ⟨e, he, rfl, -⟩ | ⟨-, hnone⟩
  · rw [encodeChar_code e he, length_code e he]
    decide
  · rw [encodeChar_of_none hnone]
    exact Nat.one_pos

theorem fit_cons_of_le {c : UInt8} (h : (encodeChar c).length ≤ room) :
    fit room (c :: s) = c :: fit (room - (encodeChar c).length) s := if_pos h

theorem fit_cons_of_lt {c : UInt8} (h : room < (encodeChar c).length) : fit room (c :: s) = [] :=
  if_neg (Nat.not_le.mpr h)

/-- A turn of the loop writes a character, or its code, for which there is room. -/
theorem encodeLoop_cons {c : UInt8} {rest out spare : List UInt8} {inpos outpos : ℕ} (hc : c ≠ 0)
    (houtpos : outpos = out.length) (hsize : (out ++ spare).length = size)
    (hroom : outpos + (encodeChar c).length < size) :
    encodeLoop size (c :: rest) inpos (out ++ spare) outpos =
      encodeLoop size rest (inpos + 1)
        (out ++ encodeChar c ++ spare.drop (encodeChar c).length)
        (outpos + (encodeChar c).length) := by
  have hpos := length_encodeChar_pos c
  rw [encodeLoop, if_pos ⟨hc, by omega⟩]
  rcases findCode_cases c with ⟨e, he, rfl, hcode⟩ | ⟨-, hnone⟩
  · rw [encodeChar_code e he] at hroom ⊢
    have hlen := length_code e he
    rw [hcode]
    dsimp only
    rw [if_neg (by omega), copyCode_append e.2 out spare houtpos hsize (by omega), ok_bind]
  · rw [encodeChar_of_none hnone, List.length_singleton] at hroom ⊢
    rw [hnone]
    dsimp only
    obtain ⟨d, spare, rfl⟩ := exists_cons_of_lt hsize (by omega)
    rw [write_append houtpos, ok_bind, List.append_assoc]
    rfl

/-- A turn of the loop stops at a character for which there is no room. -/
theorem encodeLoop_cons_of_le {c : UInt8} {rest buffer : List UInt8} {inpos outpos : ℕ}
    (hroom : size ≤ outpos + (encodeChar c).length) :
    encodeLoop size (c :: rest) inpos buffer outpos = .ok (buffer, outpos) := by
  rw [encodeLoop]
  split
  · next hturn =>
    rcases findCode_cases c with ⟨e, he, rfl, hcode⟩ | ⟨-, hnone⟩
    · rw [encodeChar_code e he, length_code e he] at hroom
      rw [hcode]
      exact if_pos hroom
    · -- a character that is written as it is has room in every turn
      rw [encodeChar_of_none hnone, List.length_singleton] at hroom
      exact absurd hturn.2 (Nat.not_lt.mpr hroom)
  · rfl

/-- **The loop writes the codes of what fits**, and stops there. -/
theorem encodeLoop_append (behind : List UInt8) :
    ∀ (s : Text) (inpos : ℕ) (out spare : List UInt8) (outpos : ℕ), 0 ∉ s →
      outpos = out.length → (out ++ spare).length = size → outpos < size →
      ∃ r spare', r = out ++ encode (fit (size - 1 - outpos) s) ∧
        (r ++ spare').length = size ∧ r.length < size ∧
        encodeLoop size (s ++ 0 :: behind) inpos (out ++ spare) outpos =
          .ok (r ++ spare', r.length) := by
  intro s
  induction s with
  | nil =>
    intro inpos out spare outpos _ houtpos hsize hlt
    refine ⟨out, spare, (List.append_nil out).symm, hsize, houtpos ▸ hlt, ?_⟩
    rw [List.nil_append, encodeLoop, if_neg fun h => h.1 rfl, ← houtpos]
  | cons c s ih =>
    intro inpos out spare outpos hs houtpos hsize hlt
    have hc : c ≠ 0 := fun hzero => hs (hzero ▸ List.mem_cons_self)
    rw [List.cons_append]
    by_cases hroom : outpos + (encodeChar c).length < size
    · have hlen : (out ++ encodeChar c ++ spare.drop (encodeChar c).length).length = size := by
        rw [List.length_append] at hsize
        rw [List.length_append, List.length_append, List.length_drop]
        omega
      have hnext : outpos + (encodeChar c).length = (out ++ encodeChar c).length := by
        rw [houtpos, List.length_append]
      obtain ⟨r, spare', hr, hrsize, hrlt, hloop⟩ :=
        ih (inpos + 1) _ _ _ (fun hmem => hs (List.mem_cons_of_mem c hmem)) hnext hlen hroom
      have hleft : size - 1 - (outpos + (encodeChar c).length) =
          size - 1 - outpos - (encodeChar c).length := by omega
      refine ⟨r, spare', ?_, hrsize, hrlt, ?_⟩
      · rw [hr, hleft, fit_cons_of_le (by omega), encode_cons, List.append_assoc]
      · rw [encodeLoop_cons hc houtpos hsize hroom, hloop]
    · refine ⟨out, spare, ?_, hsize, houtpos ▸ hlt, ?_⟩
      · rw [fit_cons_of_lt (by omega)]
        exact (List.append_nil out).symm
      · rw [encodeLoop_cons_of_le (by omega), ← houtpos]

/-- The value holds the codes of what fits. -/
theorem encodeInPlace_eq (stack : ℕ → UInt8) (hs : 0 ∉ s)
    (hsize : (s ++ 0 :: behind).length = size) :
    ∃ rest, encodeInPlace stack (s ++ 0 :: behind) size =
        .ok (encode (fit (size - 1) s) ++ 0 :: rest) ∧
      (encode (fit (size - 1) s) ++ 0 :: rest).length = size := by
  have hstack : ([] ++ (List.range size).map stack).length = size := by
    rw [List.nil_append, List.length_map, List.length_range]
  have hpos : 0 < size := by
    rw [← hsize, List.length_append, List.length_cons]
    omega
  obtain ⟨r, spare, hr, hrsize, hrlt, hloop⟩ :=
    encodeLoop_append behind s 0 [] ((List.range size).map stack) 0 hs rfl hstack hpos
  rw [List.nil_append, Nat.sub_zero] at hr
  rw [← hr, encodeInPlace, ← List.nil_append ((List.range size).map stack), hloop, ok_bind]
  dsimp only
  -- the value up to where the buffer has been written
  obtain ⟨value, rest, hvalue, hlen⟩ : ∃ value rest, s ++ 0 :: behind = value ++ rest ∧
      value.length = r.length :=
    ⟨_, _, (List.take_append_drop r.length _).symm,
      List.length_take_of_le (hsize ▸ Nat.le_of_lt hrlt)⟩
  rw [hvalue] at hsize ⊢
  obtain ⟨d, rest, rfl⟩ := exists_cons_of_lt hsize (by omega)
  refine ⟨rest, ?_, ?_⟩
  · rw [write_append hlen.symm, ok_bind, copyBack_append r spare value (0 :: rest) hlen]
  · rw [List.length_append, ← hlen, ← hsize, List.length_append]
    rfl

/-! ### What fits -/

theorem isPrefix_fit (s : Text) : ∀ room, fit room s <+: s := by
  induction s with
  | nil => intro room; exact List.prefix_rfl
  | cons c s ih =>
    intro room
    rw [fit]
    split
    · exact List.cons_prefix_cons.mpr ⟨rfl, ih _⟩
    · exact List.nil_prefix

theorem length_encode_fit (s : Text) : ∀ room, (encode (fit room s)).length ≤ room := by
  induction s with
  | nil => intro room; exact Nat.zero_le room
  | cons c s ih =>
    intro room
    rw [fit]
    split
    · next hroom =>
      have hrest := ih (room - (encodeChar c).length)
      rw [encode_cons, List.length_append]
      omega
    · exact Nat.zero_le room

/-- No longer prefix fits. -/
theorem length_le_length_fit (q : Text) :
    ∀ {room : ℕ} {s : Text}, q <+: s → (encode q).length ≤ room →
      q.length ≤ (fit room s).length := by
  induction q with
  | nil => intro room s _ _; exact Nat.zero_le _
  | cons c q ih =>
    intro room s hprefix hroom
    obtain ⟨t, rfl⟩ := hprefix
    rw [encode_cons, List.length_append] at hroom
    have hrest := ih (List.prefix_append q t) (Nat.le_sub_of_add_le' hroom)
    rw [List.cons_append, fit_cons_of_le (by omega), List.length_cons, List.length_cons]
    exact Nat.succ_le_succ hrest

theorem zero_notMem_encode (hs : 0 ∉ s) : 0 ∉ encode s := by
  intro hmem
  obtain ⟨c, hc, hmem⟩ := List.mem_flatMap.mp hmem
  rcases findCode_cases c with ⟨e, he, rfl, -⟩ | ⟨-, hnone⟩
  · have hall : ∀ e ∈ encodings, 0 ∉ e.2 := by decide
    exact hall e he (encodeChar_code e he ▸ hmem)
  · rw [encodeChar_of_none hnone] at hmem
    exact hs (List.mem_singleton.mp hmem ▸ hc)

/-- **What fits is kept**: the value is a text with codes that ends in the array and decodes to the
longest prefix of what it was that has room with its codes. -/
theorem encodeInPlace_keeps (stack : ℕ → UInt8) (hs : 0 ∉ s)
    (hsize : (s ++ 0 :: behind).length = size) :
    ∃ r rest, encodeInPlace stack (s ++ 0 :: behind) size = .ok (r ++ 0 :: rest) ∧
      (r ++ 0 :: rest).length = size ∧ 0 ∉ r ∧ WellEncoded r ∧
      decode r <+: s ∧ (encode (decode r)).length ≤ size - 1 ∧
      ∀ q, q <+: s → (encode q).length ≤ size - 1 → q.length ≤ (decode r).length := by
  obtain ⟨rest, heq, hlen⟩ := encodeInPlace_eq stack hs hsize
  have hfit : 0 ∉ fit (size - 1) s := fun hmem => hs ((isPrefix_fit s _).subset hmem)
  refine ⟨_, rest, heq, hlen, zero_notMem_encode hfit, wellEncoded_encode _, ?_⟩
  rw [decode_encode]
  exact ⟨isPrefix_fit s _, length_encode_fit s _, fun q => length_le_length_fit q⟩

theorem encodeInPlace_keeps_slash :
    ∃ r rest, encodeInPlace (fun _ => 170) (text "a/b" ++ 0 :: [1, 2]) 6 = .ok (r ++ 0 :: rest) ∧
      (r ++ 0 :: rest).length = 6 ∧ 0 ∉ r ∧ WellEncoded r ∧
      decode r <+: text "a/b" ∧ (encode (decode r)).length ≤ 6 - 1 ∧
      ∀ q, q <+: text "a/b" → (encode q).length ≤ 6 - 1 → q.length ≤ (decode r).length :=
  encodeInPlace_keeps (fun _ => 170) (by decide) rfl

/-! ### The serial number -/

/-- `SIZE_MAX`: what `--len` makes of 0. -/
def sizeMax : ℕ := 4294967295

/-- The loop that removes white space from the end of a text of length `len`.  A `size_t` is never
negative, so that the first part of its condition always holds: 0 is followed by the largest number,
and no array reaches as far as that. -/
def trimTrailing : ℕ → List UInt8 → Except Outside (List UInt8)
  | 0, _ => .error ⟨sizeMax⟩
  | len + 1, buf => do
    if isSpace (← read buf len) then trimTrailing len (← write buf len 0) else .ok buf

/-- The part of `getChipsetSerialNo` that reads the file, which may be empty. -/
def readSerialNo (content buf : List UInt8) (buflen : ℕ) (dflt : Text) :
    Except Outside (List UInt8) := do
  let got := content.take (buflen - 1)
  let buf ← writeAll buf 0 got
  if got.length = 0 then strlcpy buf buflen dflt else write buf got.length 0

/-- `getChipsetSerialNo`; the content of the file is none if it is not opened. -/
def getChipsetSerialNo (file : Option (List UInt8)) (buf : List UInt8) (buflen : ℕ) (dflt : Text) :
    Except Outside (List UInt8) :=
  match file with
  | none => strlcpy buf buflen dflt
  | some content => do
    let buf ← readSerialNo content buf buflen dflt
    trimTrailing (← strlen buf) buf

/-- The text that is trimmed: what is read up to its first NUL, or the default if nothing is
read. -/
def serialNoRead (content : List UInt8) (buflen : ℕ) (dflt : Text) : Text :=
  if content = [] then dflt.take (buflen - 1) else untilNul (content.take (buflen - 1))

/-- White space at the end is replaced by NULs, where it does not reach the beginning. -/
theorem trimTrailing_append (s : Text) :
    ∀ rest, (∃ c ∈ s, isSpace c = false) →
      ∃ nuls, (s.rdropWhile isSpace ++ nuls).length = s.length ∧ (∀ c ∈ nuls, c = 0) ∧
        trimTrailing s.length (s ++ rest) = .ok (s.rdropWhile isSpace ++ nuls ++ rest) := by
  induction s using List.reverseRecOn with
  | nil =>
    rintro rest ⟨c, hc, -⟩
    exact absurd hc List.not_mem_nil
  | append_singleton s c ih =>
    intro rest hnonspace
    rw [List.length_append, List.length_singleton, List.append_assoc, List.singleton_append,
      trimTrailing, read_append rfl, ok_bind]
    cases hc : isSpace c with
    | false =>
      have hself : (s ++ [c]).rdropWhile isSpace = s ++ [c] :=
        List.rdropWhile_concat_neg isSpace s c (by rw [hc]; exact Bool.false_ne_true)
      refine ⟨[], ?_, ?_, ?_⟩
      · rw [hself, List.append_nil, List.length_append, List.length_singleton]
      · exact fun d hd => absurd hd List.not_mem_nil
      · rw [hself, List.append_nil, List.append_assoc]
        rfl
    | true =>
      have hself : (s ++ [c]).rdropWhile isSpace = s.rdropWhile isSpace :=
        List.rdropWhile_concat_pos isSpace s c hc
      have hnonspace' : ∃ d ∈ s, isSpace d = false := by
        obtain ⟨d, hd, hspace⟩ := hnonspace
        rcases List.mem_append.mp hd with hd | hd
        · exact ⟨d, hd, hspace⟩
        · rw [List.mem_singleton.mp hd, hc] at hspace
          cases hspace
      obtain ⟨nuls, hlen, hnuls, htrim⟩ := ih (0 :: rest) hnonspace'
      refine ⟨nuls ++ [0], ?_, ?_, ?_⟩
      · rw [hself, ← List.append_assoc, List.length_append, hlen, List.length_singleton]
      · intro d hd
        rcases List.mem_append.mp hd with hd | hd
        · exact hnuls d hd
        · exact List.mem_singleton.mp hd
      · rw [if_pos rfl, write_append rfl, ok_bind, htrim, hself, ← List.append_assoc,
          List.append_assoc _ [0], List.singleton_append]

/-- White space that reaches the beginning takes the loop out of the array. -/
theorem trimTrailing_blank (s : Text) :
    ∀ rest, Blank s → trimTrailing s.length (s ++ rest) = .error ⟨sizeMax⟩ := by
  induction s using List.reverseRecOn with
  | nil => intro rest _; rfl
  | append_singleton s c ih =>
    intro rest hblank
    have hc : isSpace c = true := hblank c (List.mem_append_right s (List.mem_singleton_self c))
    rw [List.length_append, List.length_singleton, List.append_assoc, List.singleton_append,
      trimTrailing, read_append rfl, ok_bind, if_pos hc, write_append rfl, ok_bind]
    exact ih (0 :: rest) fun d hd => hblank d (List.mem_append_left [c] hd)

variable {content buf : List UInt8} {dflt : Text}

/-- What is in the array before it is trimmed. -/
theorem readSerialNo_eq (content : List UInt8) (hdflt : 0 ∉ dflt) (hbuf : 2 ≤ buf.length) :
    ∃ tail, readSerialNo content buf buf.length dflt =
        .ok (serialNoRead content buf.length dflt ++ 0 :: tail) ∧
      (serialNoRead content buf.length dflt ++ 0 :: tail).length = buf.length ∧
      0 ∉ serialNoRead content buf.length dflt := by
  obtain ⟨n, hn⟩ : ∃ n, buf.length = n + 1 := ⟨buf.length - 1, by omega⟩
  have hfront : 0 = ([] : List UInt8).length := rfl
  rw [hn, readSerialNo, serialNoRead, Nat.add_sub_cancel]
  by_cases hempty : content = []
  · subst hempty
    have hlt : (dflt.take n).length + 1 ≤ buf.length := by
      rw [List.length_take]
      omega
    have hold : (buf.take ((dflt.take n).length + 1)).length = (dflt.take n).length + 1 :=
      List.length_take_of_le hlt
    have hprint := snprintf_append (buf.drop ((dflt.take n).length + 1)) hfront hold
    rw [List.take_append_drop, List.nil_append, List.nil_append] at hprint
    refine ⟨buf.drop ((dflt.take n).length + 1), ?_, ?_, ?_⟩
    · rw [List.take_nil, writeAll, ok_bind, if_pos List.length_nil, if_pos rfl]
      exact hprint
    · rw [if_pos rfl, List.length_append, List.length_cons, List.length_drop]
      omega
    · rw [if_pos rfl]
      exact fun hmem => hdflt (List.mem_of_mem_take hmem)
  · -- something is read, and a NUL is written behind it
    have hgot : (content.take n).length ≠ 0 := by
      have hpos : 0 < content.length := List.length_pos_of_ne_nil hempty
      rw [List.length_take]
      omega
    obtain ⟨old, rest, hold, hlen⟩ : ∃ old rest, buf = old ++ rest ∧
        old.length = (content.take n).length :=
      ⟨_, _, (List.take_append_drop (content.take n).length buf).symm,
        List.length_take_of_le (by rw [List.length_take]; omega)⟩
    have htake : (content.take n).length ≤ n := List.length_take_le n content
    have hrest : (old ++ rest).length = n + 1 := by rw [← hold, hn]
    obtain ⟨d, rest, rfl⟩ := exists_cons_of_lt hrest (by omega)
    have hall : writeAll (old ++ d :: rest) 0 (content.take n) =
        .ok (content.take n ++ d :: rest) :=
      writeAll_append (content.take n) hfront hlen
    obtain ⟨tail, htail⟩ := exists_untilNul_append (b := content.take n ++ 0 :: rest)
      (List.mem_append_right _ List.mem_cons_self)
    rw [untilNul_append_zero] at htail
    refine ⟨tail, ?_, ?_, ?_⟩
    · rw [hold, hall, ok_bind, if_neg hgot, if_neg hempty, write_append rfl, ← htail]
    · rw [if_neg hempty, ← htail, List.length_append, ← hlen, ← hrest, List.length_append]
      rfl
    · rw [if_neg hempty]
      exact zero_notMem_untilNul _

/-- **The trimming of the serial number** stays in the array, ends, and leaves the text without the
white space at its end, if and only if the text has a character that is not white space. -/
theorem getChipsetSerialNo_iff (hdflt : 0 ∉ dflt) (hbuf : 2 ≤ buf.length) :
    (∃ buf', getChipsetSerialNo (some content) buf buf.length dflt = .ok buf' ∧
      buf'.length = buf.length ∧ 0 ∈ buf' ∧
      untilNul buf' = (serialNoRead content buf.length dflt).rdropWhile isSpace) ↔
    ∃ c ∈ serialNoRead content buf.length dflt, isSpace c = false := by
  obtain ⟨tail, hread, hlen, hnul⟩ := readSerialNo_eq content hdflt hbuf
  generalize serialNoRead content buf.length dflt = s at *
  have hget : getChipsetSerialNo (some content) buf buf.length dflt =
      trimTrailing s.length (s ++ 0 :: tail) := by
    rw [getChipsetSerialNo, hread, ok_bind, strlen_append hnul, ok_bind]
  rw [hget]
  constructor
  · rintro ⟨buf', htrim, -⟩
    by_contra hnone
    rw [← not_blank_iff, not_not] at hnone
    rw [trimTrailing_blank s _ hnone] at htrim
    cases htrim
  · intro hnonspace
    obtain ⟨nuls, hnuls, hzero, htrim⟩ := trimTrailing_append s (0 :: tail) hnonspace
    have hs' : 0 ∉ s.rdropWhile isSpace := fun hmem =>
      hnul ((List.rdropWhile_prefix isSpace s).subset hmem)
    refine ⟨_, htrim, ?_, List.mem_append_right _ List.mem_cons_self, ?_⟩
    · rw [← hlen, List.length_append, hnuls, List.length_append]
    · -- the text ends at the first of the NULs
      rw [List.append_assoc]
      cases nuls with
      | nil => exact untilNul_append hs'
      | cons d nuls =>
        rw [hzero d List.mem_cons_self]
        exact untilNul_append hs'

theorem getChipsetSerialNo_iff_newline :
    (∃ buf', getChipsetSerialNo (some (text "7 \n")) (List.replicate 8 170)
        (List.replicate 8 170).length (text "-") = .ok buf' ∧
      buf'.length = (List.replicate 8 170).length ∧ 0 ∈ buf' ∧
      untilNul buf' = (serialNoRead (text "7 \n") (List.replicate 8 170).length
        (text "-")).rdropWhile isSpace) ↔
    ∃ c ∈ serialNoRead (text "7 \n") (List.replicate 8 170).length (text "-"), isSpace c = false :=
  getChipsetSerialNo_iff (by decide) (by decide)

/-- A file with a line that is empty. -/
theorem getChipsetSerialNo_emptyLine :
    ¬ ∃ buf', getChipsetSerialNo (some (text "\n")) (List.replicate 8 170) 8 (text "-") = .ok buf' ∧
      buf'.length = 8 ∧ 0 ∈ buf' ∧
      untilNul buf' = (serialNoRead (text "\n") 8 (text "-")).rdropWhile isSpace := by
  rintro ⟨buf', hget, -⟩
  have herror : getChipsetSerialNo (some (text "\n")) (List.replicate 8 170) 8 (text "-") =
      .error ⟨sizeMax⟩ := by decide
  rw [herror] at hget
  cases hget

end Eng
end Nx507j
