import Nx507j.Eng.Nmea
import Nx507j.Lib.Buffer

/-!
# Bytes as texts

The two functions at the head of `LocApiBase.cpp` that make a text of bytes: `hexcode` prints them
in hexadecimal, and `decodeAddress` reads an address that has two decimal digits in each byte.  A
`char` is not signed.

## Main definitions

* `hexcodeLoop`, `hexcode` — the digits of a byte are printed over the NUL of the byte before.
* `unhex` — the bytes that digits stand for.
* `decodeAddressLoop`, `decodeAddress` — the digits are written as long as there is room.
* `addressDigits`, `packDigits` — the digits that bytes hold, and bytes that hold some digits.

## Main results

* `hexcode_eq` — as many bytes are printed as there is room for, and they are read back.
* `decodeAddress_eq` — the first of the digits are in the array, and digits that are packed and have
  room are all there.
-/

namespace Nx507j

open Buffer CText Eng

/-! ### Hexadecimal -/

/-- The loop of `hexcode`, with the number of bytes that are left. -/
def hexcodeLoop (stringSize : ℕ) (data : List UInt8) :
    ℕ → ℕ → List UInt8 → Except Outside (List UInt8 × ℕ)
  | 0, i, hexstring => .ok (hexstring, i)
  | left + 1, i, hexstring => do
    let ch ← read data i
    -- no `int` overflows: beside a string of `INT_MAX` bytes 2^30 bytes of data have no room
    if i * 2 + 3 ≤ stringSize then
      hexcodeLoop stringSize data left (i + 1) (← snprintf hexstring (i * 2) 3 (printHexByte ch))
    else .ok (hexstring, i)

/-- `hexcode`, with its result. -/
def hexcode (hexstring : List UInt8) (stringSize : ℕ) (data : List UInt8) (dataSize : ℕ) :
    Except Outside (List UInt8 × ℕ) :=
  hexcodeLoop stringSize data dataSize 0 hexstring

/-- Bytes in hexadecimal. -/
def hexText (data : List UInt8) : Text := data.flatMap printHexByte

/-- The bytes that digits stand for, two to a byte. -/
def unhex : Text → List UInt8
  | high :: low :: t => UInt8.ofNat (number 16 [high, low]) :: unhex t
  | _ => []

theorem length_hexText (data : List UInt8) : (hexText data).length = 2 * data.length := by
  induction data with
  | nil => rfl
  | cons c data ih =>
    rw [hexText, List.flatMap_cons, List.length_append, ← hexText, ih, List.length_cons,
      Nat.mul_succ, Nat.add_comm]
    rfl

theorem unhex_hexText (data : List UInt8) : unhex (hexText data) = data := by
  induction data with
  | nil => rfl
  | cons c data ih =>
    have hcons : unhex (hexText (c :: data)) =
        UInt8.ofNat (number 16 (printHexByte c)) :: unhex (hexText data) := rfl
    rw [hcons, ih, number_printHexByte, UInt8.ofNat_toNat]

/-- The digits of another byte. -/
theorem hexText_concat (data : List UInt8) (c : UInt8) :
    hexText (data ++ [c]) = hexText data ++ printHexByte c := by
  rw [hexText, List.flatMap_append, List.flatMap_singleton]
  rfl

/-- **The loop prints the bytes that there is room for**, each over the NUL of the one before. -/
theorem hexcodeLoop_append :
    ∀ (rest done spare : List UInt8) {size : ℕ}, size = (hexText done ++ spare).length →
      (done ≠ [] → spare.head? = some 0) →
      ∃ k spare', k = min rest.length ((spare.length - 1) / 2) ∧
        (hexText (done ++ rest.take k) ++ spare').length = size ∧
        (done ++ rest.take k ≠ [] → spare'.head? = some 0) ∧
        hexcodeLoop size (done ++ rest) rest.length done.length (hexText done ++ spare) =
          .ok (hexText (done ++ rest.take k) ++ spare', done.length + k) := by
  intro rest
  induction rest with
  | nil =>
    intro done spare size hsize hnul
    refine ⟨0, spare, (Nat.zero_min _).symm, ?_, ?_, ?_⟩
    · rw [List.take_nil, List.append_nil, hsize]
    · rwa [List.take_nil, List.append_nil]
    · rw [List.take_nil, List.append_nil]
      rfl
  | cons c rest ih =>
    intro done spare size hsize hnul
    rw [List.length_cons, hexcodeLoop, read_append rfl, ok_bind]
    have hlen : size = 2 * done.length + spare.length := by
      rw [hsize, List.length_append, length_hexText]
    by_cases hroom : done.length * 2 + 3 ≤ size
    · have hoff : done.length * 2 = (hexText done).length := by
        rw [length_hexText, Nat.mul_comm]
      have hold : (spare.take 3).length = ((printHexByte c).take 2).length + 1 :=
        List.length_take_of_le (by omega)
      have hprint := snprintf_append (spare.drop 3) hoff hold
      rw [List.take_append_drop] at hprint
      have htext : hexText done ++ ((printHexByte c).take 2 ++ 0 :: spare.drop 3) =
          hexText (done ++ [c]) ++ 0 :: spare.drop 3 := by
        rw [hexText_concat, List.append_assoc]
        rfl
      have hsize' : size = (hexText (done ++ [c]) ++ 0 :: spare.drop 3).length := by
        rw [List.length_append, length_hexText, List.length_append, List.length_singleton,
          List.length_cons, List.length_drop]
        omega
      obtain ⟨k, spare', hk, hlen', hnul', hloop⟩ :=
        ih (done ++ [c]) (0 :: spare.drop 3) hsize' fun _ => rfl
      rw [List.length_cons, List.length_drop] at hk
      have hdone : done ++ [c] ++ rest.take k = done ++ (c :: rest).take (k + 1) := by
        rw [List.append_assoc, List.singleton_append, List.take_succ_cons]
      rw [hdone] at hlen' hnul' hloop
      refine ⟨k + 1, spare', by omega, hlen', hnul', ?_⟩
      rw [if_pos hroom, hprint, ok_bind, htext]
      rw [List.append_assoc, List.singleton_append, List.length_append, List.length_singleton]
        at hloop
      rw [hloop, Nat.add_assoc, Nat.add_comm 1]
    · rw [if_neg hroom]
      refine ⟨0, spare, by omega, ?_, ?_, ?_⟩
      · rw [List.take_zero, List.append_nil, hsize]
      · rwa [List.take_zero, List.append_nil]
      · rw [List.take_zero, List.append_nil]
        rfl

/-- **The dump is read back**: as many bytes are printed as the string has room for with its NUL,
and nothing is written behind it. -/
theorem hexcode_eq (hexstring data : List UInt8) :
    ∃ k hexstring', k = min data.length ((hexstring.length - 1) / 2) ∧
      hexcode hexstring hexstring.length data data.length = .ok (hexstring', k) ∧
      hexstring'.length = hexstring.length ∧
      (0 < k → ∃ t rest, hexstring' = t ++ 0 :: rest ∧ t.length = 2 * k ∧
        (∀ c ∈ t, IsUpperHex c) ∧ unhex t = data.take k) := by
  obtain ⟨k, spare, hk, hlen, hnul, hloop⟩ :=
    hexcodeLoop_append data [] hexstring rfl fun hne => absurd rfl hne
  refine ⟨k, _, hk, ?_, hlen, fun hpos => ?_⟩
  · rw [List.length_nil, Nat.zero_add] at hloop
    exact hloop
  · rw [List.nil_append] at hnul ⊢
    have htake : (data.take k).length = k := List.length_take_of_le (by omega)
    have hne : data.take k ≠ [] := by
      rw [← List.length_pos_iff, htake]
      exact hpos
    obtain ⟨rest, rfl⟩ := List.head?_eq_some_iff.mp (hnul hne)
    refine ⟨hexText (data.take k), rest, rfl, ?_, fun c hc => ?_, unhex_hexText _⟩
    · rw [length_hexText, htake]
    · obtain ⟨b, -, hb⟩ := List.mem_flatMap.mp hc
      exact isUpperHex_printHexByte hb

/-! ### Addresses -/

/-- One of the two tests of a turn of `decodeAddress`. -/
def putDigit (stringSize : ℕ) (digit : UInt8) (addrString : List UInt8) (idxOutput : ℕ) :
    Except Outside (List UInt8 × ℕ) := do
  if digit ≤ 9 ∧ idxOutput + 1 < stringSize then
    .ok (← write addrString idxOutput (digit + 48), idxOutput + 1)
  else .ok (addrString, idxOutput)

/-- The loop of `decodeAddress`, with the number of bytes that are left. -/
def decodeAddressLoop (stringSize : ℕ) (data : List UInt8) :
    ℕ → ℕ → List UInt8 → ℕ → Except Outside (List UInt8 × ℕ)
  | 0, _, addrString, idxOutput => .ok (addrString, idxOutput)
  | left + 1, i, addrString, idxOutput => do
    let ch ← read data i
    let (addrString, idxOutput) ← putDigit stringSize (ch &&& 15) addrString idxOutput
    let (addrString, idxOutput) ← putDigit stringSize (ch >>> 4) addrString idxOutput
    decodeAddressLoop stringSize data left (i + 1) addrString idxOutput

/-- `addr_prefix`. -/
def addrPrefix : UInt8 := 145

/-- `decodeAddress`, with its result. -/
def decodeAddress (addrString : Option (List UInt8)) (stringSize : ℕ) (data : Option (List UInt8))
    (dataSize : ℕ) : Except Outside (Option (List UInt8) × ℕ) :=
  match data, addrString with
  | some data, some addrString => do
    if (← read data 0) ≠ addrPrefix then .ok (some (← write addrString 0 0), 0)
    else
      let (addrString, idxOutput) ←
        decodeAddressLoop stringSize data (dataSize - 1) 1 addrString 0
      .ok (some (← write addrString idxOutput 0), idxOutput)
  | _, _ => .ok (addrString, 0)

/-- A number as a decimal digit, if it is one. -/
def digitText (n : UInt8) : Text := if n ≤ 9 then [n + 48] else []

/-- The digits that bytes hold, the lower half of a byte first. -/
def addressDigits (bytes : List UInt8) : Text :=
  bytes.flatMap fun ch => digitText (ch &&& 15) ++ digitText (ch >>> 4)

/-- Bytes that hold digits; an odd number of them is filled up. -/
def packDigits : Text → List UInt8
  | a :: b :: t => ((a - 48) ||| (b - 48) <<< (4 : UInt8)) :: packDigits t
  | [a] => [(a - 48) ||| 240]
  | [] => []

/-- Decimal digits. -/
def IsDecimal (t : Text) : Prop := ∀ c ∈ t, 48 ≤ c ∧ c ≤ 57

instance (t : Text) : Decidable (IsDecimal t) := List.decidableBAll ..

theorem addressDigits_cons (ch : UInt8) (bytes : List UInt8) :
    addressDigits (ch :: bytes) =
      digitText (ch &&& 15) ++ (digitText (ch >>> 4) ++ addressDigits bytes) := by
  rw [addressDigits, List.flatMap_cons, List.append_assoc]
  rfl

/-- A digit is a number below 10. -/
theorem exists_fin_of_digit {c : UInt8} (h : 48 ≤ c ∧ c ≤ 57) :
    ∃ n : Fin 10, c = UInt8.ofNat (48 + n) := by
  have hall : ∀ m : Fin 256, 48 ≤ UInt8.ofFin m ∧ UInt8.ofFin m ≤ 57 →
      ∃ n : Fin 10, UInt8.ofFin m = UInt8.ofNat (48 + n) := by decide +kernel
  exact hall c.toFin h

/-- **Digits that are packed are read back.** -/
theorem addressDigits_packDigits : ∀ t : Text, IsDecimal t → addressDigits (packDigits t) = t := by
  intro t
  induction t using packDigits.induct with
  | case1 a b t ih =>
    intro h
    obtain ⟨m, hm⟩ := exists_fin_of_digit (h a List.mem_cons_self)
    obtain ⟨n, hn⟩ := exists_fin_of_digit (h b (List.mem_cons_of_mem _ List.mem_cons_self))
    have hpair : ∀ m n : Fin 10,
        addressDigits (packDigits [UInt8.ofNat (48 + m), UInt8.ofNat (48 + n)]) =
          [UInt8.ofNat (48 + m), UInt8.ofNat (48 + n)] := by decide +kernel
    have hrest : IsDecimal t := fun c hc => h c (List.mem_cons_of_mem _ (List.mem_cons_of_mem _ hc))
    have hsplit : addressDigits (packDigits [a, b] ++ packDigits t) =
        addressDigits (packDigits [a, b]) ++ addressDigits (packDigits t) := List.flatMap_append
    change addressDigits (packDigits [a, b] ++ packDigits t) = _
    rw [hsplit, ih hrest, hm, hn, hpair]
    rfl
  | case2 a =>
    intro h
    obtain ⟨m, hm⟩ := exists_fin_of_digit (h a List.mem_cons_self)
    have hone : ∀ m : Fin 10,
        addressDigits (packDigits [UInt8.ofNat (48 + m)]) = [UInt8.ofNat (48 + m)] := by
      decide +kernel
    rw [hm]
    exact hone m
  | case3 => intro _; rfl

/-- What one test adds to the text. -/
theorem putDigit_append (n : UInt8) {t spare : List UInt8} {idx size : ℕ} (hidx : idx = t.length)
    (hsize : (t ++ spare).length = size) (hlt : idx < size) :
    ∃ t' spare', t' = t ++ (digitText n).take (size - 1 - idx) ∧ (t' ++ spare').length = size ∧
      t'.length < size ∧
      putDigit size n (t ++ spare) idx = .ok (t' ++ spare', t'.length) := by
  unfold putDigit digitText
  by_cases hn : n ≤ 9
  · by_cases hroom : idx + 1 < size
    · obtain ⟨d, spare, rfl⟩ := exists_cons_of_lt hsize (by omega)
      have hone : size - 1 - idx = size - 2 - idx + 1 := by omega
      have hlen := succ_eq_length_concat hidx (n + 48)
      refine ⟨t ++ [n + 48], spare, ?_, ?_, hlen ▸ hroom, ?_⟩
      · rw [if_pos hn, hone, List.take_succ_cons, List.take_nil]
      · rw [List.length_append, ← hlen, hidx, ← hsize, List.length_append, List.length_cons,
          Nat.add_assoc, Nat.add_comm 1]
      · rw [if_pos ⟨hn, hroom⟩, write_append hidx, ok_bind, ← hlen, List.append_assoc]
        rfl
    · have hzero : size - 1 - idx = 0 := by omega
      refine ⟨t, spare, ?_, hsize, hidx ▸ hlt, ?_⟩
      · rw [hzero, List.take_zero, List.append_nil]
      · rw [if_neg fun h => hroom h.2, hidx]
  · refine ⟨t, spare, ?_, hsize, hidx ▸ hlt, ?_⟩
    · rw [if_neg hn, List.take_nil, List.append_nil]
    · rw [if_neg fun h => hn h.1, hidx]

/-- **The loop writes the digits that there is room for.** -/
theorem decodeAddressLoop_append {size : ℕ} :
    ∀ (rest done t spare : List UInt8) (idx : ℕ), idx = t.length →
      (t ++ spare).length = size → idx < size →
      ∃ t' spare', t' = t ++ (addressDigits rest).take (size - 1 - idx) ∧
        (t' ++ spare').length = size ∧ t'.length < size ∧
        decodeAddressLoop size (done ++ rest) rest.length done.length (t ++ spare) idx =
          .ok (t' ++ spare', t'.length) := by
  intro rest
  induction rest with
  | nil =>
    intro done t spare idx hidx hsize hlt
    refine ⟨t, spare, ?_, hsize, hidx ▸ hlt, ?_⟩
    · rw [addressDigits, List.flatMap_nil, List.take_nil, List.append_nil]
    · rw [List.length_nil, decodeAddressLoop, hidx]
  | cons ch rest ih =>
    intro done t spare idx hidx hsize hlt
    obtain ⟨t₁, spare₁, ht₁, hsize₁, hlt₁, hlow⟩ := putDigit_append (ch &&& 15) hidx hsize hlt
    obtain ⟨t₂, spare₂, ht₂, hsize₂, hlt₂, hhigh⟩ := putDigit_append (ch >>> 4) rfl hsize₁ hlt₁
    obtain ⟨t', spare', ht', hsize', hlt', hloop⟩ :=
      ih (done ++ [ch]) t₂ spare₂ t₂.length rfl hsize₂ hlt₂
    refine ⟨t', spare', ?_, hsize', hlt', ?_⟩
    · -- each test has the room that the one before has left
      have hlen₁ := congrArg List.length ht₁
      have hlen₂ := congrArg List.length ht₂
      rw [List.length_append, List.length_take] at hlen₁ hlen₂
      have hroom₁ : size - 1 - t₁.length = size - 1 - idx - (digitText (ch &&& 15)).length := by
        omega
      have hroom₂ : size - 1 - t₂.length =
          size - 1 - idx - (digitText (ch &&& 15)).length - (digitText (ch >>> 4)).length := by
        omega
      rw [hroom₁] at ht₂
      rw [hroom₂] at ht'
      rw [ht', ht₂, ht₁, addressDigits_cons, List.take_append, List.take_append]
      simp only [List.append_assoc]
    · rw [List.append_assoc, List.singleton_append, List.length_append, List.length_singleton]
        at hloop
      rw [List.length_cons, decodeAddressLoop, read_append rfl, ok_bind, hlow, ok_bind]
      dsimp only
      rw [hhigh, ok_bind]
      exact hloop

theorem zero_notMem_digitText (n : UInt8) : 0 ∉ digitText n := by
  have hall : ∀ n : Fin 256, 0 ∉ digitText (UInt8.ofFin n) := by decide +kernel
  exact hall n.toFin

theorem zero_notMem_addressDigits (bytes : List UInt8) : 0 ∉ addressDigits bytes := by
  intro hmem
  obtain ⟨ch, -, hch⟩ := List.mem_flatMap.mp hmem
  rcases List.mem_append.mp hch with h | h
  · exact zero_notMem_digitText _ h
  · exact zero_notMem_digitText _ h

/-- **The address is decoded within its array**: it has the first of the digits behind the prefix,
as many as there is room for; a text of decimal digits that has room is recovered from the bytes
that it is packed in; and without the prefix it is empty. -/
theorem decodeAddress_eq (addrString : List UInt8) (first : UInt8) (bytes : List UInt8)
    (hsize : 1 ≤ addrString.length) :
    ∃ t rest,
      decodeAddress (some addrString) addrString.length (some (first :: bytes))
          (first :: bytes).length = .ok (some (t ++ 0 :: rest), t.length) ∧
      (t ++ 0 :: rest).length = addrString.length ∧ 0 ∉ t ∧
      t = (if first = 145 then (addressDigits bytes).take (addrString.length - 1) else []) ∧
      ∀ digits, IsDecimal digits → digits.length < addrString.length →
        first = 145 → bytes = packDigits digits → t = digits := by
  have hread : read (first :: bytes) 0 = .ok first := rfl
  rw [decodeAddress]
  dsimp only
  rw [hread, ok_bind]
  by_cases hfirst : first = addrPrefix
  · obtain ⟨t, spare, ht, hlen, hlt, hloop⟩ :=
      decodeAddressLoop_append bytes [first] [] addrString 0 rfl rfl hsize
    obtain ⟨d, rest, rfl⟩ := exists_cons_of_lt hlen hlt
    refine ⟨t, rest, ?_, ?_, ?_, ?_, fun digits hdigits hroom _ hbytes => ?_⟩
    · have hturns : (first :: bytes).length - 1 = bytes.length := rfl
      rw [if_neg (not_not.mpr hfirst), hturns]
      rw [List.nil_append] at hloop
      have hloop' :
          decodeAddressLoop addrString.length (first :: bytes) bytes.length 1 addrString 0 =
            .ok (t ++ d :: rest, t.length) := hloop
      rw [hloop', ok_bind]
      dsimp only
      rw [write_append rfl, ok_bind]
    · rw [List.length_append] at hlen ⊢
      exact hlen
    · rw [ht]
      exact fun hmem => zero_notMem_addressDigits bytes (List.mem_of_mem_take hmem)
    · have hprefix : first = 145 := hfirst
      rw [if_pos hprefix, ht]
      rfl
    · rw [ht, hbytes, addressDigits_packDigits digits hdigits, List.nil_append, List.nil_append]
      exact List.take_of_length_le (by omega)
  · obtain ⟨d, rest, rfl⟩ := List.exists_cons_of_length_pos hsize
    refine ⟨[], rest, ?_, rfl, List.not_mem_nil, (if_neg hfirst).symm,
      fun _ _ _ hprefix _ => absurd hprefix hfirst⟩
    rw [if_pos hfirst]
    rfl

theorem decodeAddress_eq_three :
    ∃ t rest,
      decodeAddress (some [7, 7, 7]) ([7, 7, 7] : List UInt8).length (some (145 :: [33, 67]))
          ((145 : UInt8) :: [33, 67]).length = .ok (some (t ++ 0 :: rest), t.length) ∧
      (t ++ 0 :: rest).length = ([7, 7, 7] : List UInt8).length ∧ 0 ∉ t ∧
      t = (if (145 : UInt8) = 145 then
        (addressDigits [33, 67]).take (([7, 7, 7] : List UInt8).length - 1) else []) ∧
      ∀ digits, IsDecimal digits → digits.length < ([7, 7, 7] : List UInt8).length →
        (145 : UInt8) = 145 → [33, 67] = packDigits digits → t = digits :=
  decodeAddress_eq [7, 7, 7] 145 [33, 67] (by decide)

end Nx507j
