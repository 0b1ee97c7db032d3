import Nx507j.Eng.Nmea
import Nx507j.Lib.Buffer

/-!
# The checksum in the buffer

`loc_eng_nmea_put_checksum` on the buffer itself: it looks for the end of the sentence byte by byte
and has the checksum printed there, with the room that it works out from its count.

## Main definitions

* `checksumLoop` — the loop over the sentence.
* `locEngNmeaPutChecksumIn` — `loc_eng_nmea_put_checksum`.

## Main results

* `locEngNmeaPutChecksumIn_eq` — what is in the buffer in the end, whatever its size.
* `untilNul_locEngNmeaPutChecksumIn` — the text in it is that of `locEngNmeaPutChecksum`.
* `locEngNmeaPutChecksumIn_valid` — a checksum that has room is whole, and no byte is written behind
  the buffer.
-/

namespace Nx507j
namespace Eng

open Buffer CText

/-- The loop of `loc_eng_nmea_put_checksum`, on the bytes from the pointer on. -/
def checksumLoop : List UInt8 → UInt8 → ℕ → Except Outside (UInt8 × ℕ)
  | [], _, length => .error ⟨length + 1⟩
  | c :: rest, checksum, length =>
    if c = 0 then .ok (checksum, length) else checksumLoop rest (checksum ^^^ c) (length + 1)

/-- `loc_eng_nmea_put_checksum` on the buffer, with its result.  The pointer is behind the `$`, and
the count does not include it. -/
def locEngNmeaPutChecksumIn (pNmea : List UInt8) (maxSize : Int32) :
    Except Outside (List UInt8 × ℕ) := do
  let (checksum, length) ← checksumLoop (pNmea.drop 1) 0 0
  let printed := 42 :: printHexByte checksum ++ [13, 10]
  let pNmea ← snprintf pNmea (1 + length) (sizeT (maxSize.toInt - length - 1)) printed
  .ok (pNmea, length + printed.length)

variable {body behind : List UInt8} {maxSize : Int32}

theorem checksumLoop_append (behind : List UInt8) :
    ∀ (body : List UInt8) (checksum : UInt8) (length : ℕ), 0 ∉ body →
      checksumLoop (body ++ 0 :: behind) checksum length =
        .ok (body.foldl (· ^^^ ·) checksum, length + body.length) := by
  intro body
  induction body with
  | nil => intro checksum length _; rfl
  | cons c body ih =>
    intro checksum length hbody
    have hc : c ≠ 0 := fun hzero => hbody (hzero ▸ List.mem_cons_self)
    rw [List.cons_append, checksumLoop, if_neg hc,
      ih _ _ fun hmem => hbody (List.mem_cons_of_mem c hmem), List.foldl_cons, List.length_cons,
      Nat.add_assoc, Nat.add_comm 1]

/-- The text is printed as far as the bytes behind the sentence go. -/
theorem locEngNmeaPutChecksumIn_eq (hbody : 0 ∉ body)
    (hsize : ((36 :: body ++ 0 :: behind).length : ℤ) = maxSize.toInt) :
    locEngNmeaPutChecksumIn (36 :: body ++ 0 :: behind) maxSize =
      .ok (36 :: body ++ ((checksumText body).take behind.length ++ 0 :: behind.drop 5),
        body.length + 5) := by
  have hint : maxSize.toInt < 2147483648 := maxSize.toInt_lt
  have hlen : (36 :: body ++ 0 :: behind).length = 1 + body.length + (behind.length + 1) := by
    rw [List.length_append, List.length_cons, List.length_cons]
    omega
  -- what is left of the buffer is the NUL and what stands behind it
  have hroom : maxSize.toInt - (0 + body.length : ℕ) - 1 = (behind.length + 1 : ℕ) := by omega
  have hsizeT : sizeT (behind.length + 1 : ℕ) = behind.length + 1 := sizeT_natCast (by omega)
  have hfront : 1 + (0 + body.length) = (36 :: body).length := by
    rw [List.length_cons]
    omega
  have hold : (0 :: behind.take 5).length =
      ((checksumText body).take behind.length).length + 1 := by
    rw [List.length_cons, List.length_take, List.length_take, length_checksumText, Nat.min_comm]
  have hsplit : (0 :: behind.take 5) ++ behind.drop 5 = 0 :: behind :=
    congrArg (0 :: ·) (List.take_append_drop 5 behind)
  have hdrop : (36 :: body ++ 0 :: behind).drop 1 = body ++ 0 :: behind := rfl
  have hprint := snprintf_append (behind.drop 5) hfront hold
  rw [hsplit] at hprint
  rw [locEngNmeaPutChecksumIn, hdrop, checksumLoop_append behind body 0 0 hbody, ok_bind]
  dsimp only
  rw [hroom, hsizeT]
  change (snprintf (36 :: body ++ 0 :: behind) (1 + (0 + body.length)) (behind.length + 1)
    (checksumText body) >>= _) = _
  rw [hprint, ok_bind, Nat.zero_add]
  rfl

/-- The text of a sentence with its checksum has no NUL. -/
theorem zero_notMem_checksumText (body : Text) : 0 ∉ checksumText body := by
  intro hmem
  rcases List.mem_cons.mp hmem with h | hmem
  · exact absurd h (by decide)
  rcases List.mem_append.mp hmem with hmem | hmem
  · exact absurd (isUpperHex_printHexByte hmem) (by decide)
  · exact absurd hmem (by decide)

/-- The buffer holds the text that the sentence is given. -/
theorem untilNul_locEngNmeaPutChecksumIn (hbody : 0 ∉ body)
    (hsize : ((36 :: body ++ 0 :: behind).length : ℤ) = maxSize.toInt) :
    ∃ buffer,
      locEngNmeaPutChecksumIn (36 :: body ++ 0 :: behind) maxSize =
        .ok (buffer, (locEngNmeaPutChecksum (36 :: body) maxSize.toInt.toNat).2) ∧
      untilNul buffer = (locEngNmeaPutChecksum (36 :: body) maxSize.toInt.toNat).1 := by
  refine ⟨_, locEngNmeaPutChecksumIn_eq hbody hsize, ?_⟩
  have hroom : maxSize.toInt.toNat - body.length - 1 - 1 = behind.length := by
    rw [← hsize, List.length_append, List.length_cons, List.length_cons]
    omega
  -- none of what is in front of the NUL is one
  have htext : 0 ∉ 36 :: body ++ (checksumText body).take behind.length := by
    apply List.not_mem_append
    · exact List.not_mem_cons_of_ne_of_not_mem (by decide) hbody
    · exact fun hmem => zero_notMem_checksumText body (List.mem_of_mem_take hmem)
  rw [← List.append_assoc, untilNul_append htext, ← hroom]
  rfl

/-- **The checksum is valid and stays inside**: the buffer is written only where it is, and where
there is room for the checksum it stands behind the sentence, with the end of the line and the
NUL. -/
theorem locEngNmeaPutChecksumIn_valid (hbody : 0 ∉ body)
    (hsize : ((36 :: body ++ 0 :: behind).length : ℤ) = maxSize.toInt) :
    ∃ buffer,
      locEngNmeaPutChecksumIn (36 :: body ++ 0 :: behind) maxSize = .ok (buffer, body.length + 5) ∧
      (buffer.length : ℤ) = maxSize.toInt ∧
      (1 + body.length + 6 ≤ maxSize.toInt →
        buffer = 36 :: body ++ 42 :: printHexByte (body.foldl (· ^^^ ·) 0) ++
          13 :: 10 :: 0 :: behind.drop 5) := by
  refine ⟨_, locEngNmeaPutChecksumIn_eq hbody hsize, ?_, fun hroom => ?_⟩
  · rw [← hsize]
    congr 1
    rw [List.length_append, List.length_append, List.length_append, List.length_cons,
      List.length_cons, List.length_cons, List.length_take, List.length_drop, length_checksumText]
    omega
  · have hbehind : (checksumText body).length ≤ behind.length := by
      rw [List.length_append, List.length_cons, List.length_cons] at hsize
      rw [length_checksumText]
      omega
    rw [List.take_of_length_le hbehind, checksumText, nmeaChecksum, List.append_assoc,
      List.append_assoc]
    rfl

theorem locEngNmeaPutChecksumIn_valid_a :
    ∃ buffer,
      locEngNmeaPutChecksumIn (36 :: text "A" ++ 0 :: List.replicate 5 170) 8 =
        .ok (buffer, (text "A").length + 5) ∧
      (buffer.length : ℤ) = (8 : Int32).toInt ∧
      (1 + (text "A").length + 6 ≤ (8 : Int32).toInt →
        buffer = 36 :: text "A" ++ 42 :: printHexByte ((text "A").foldl (· ^^^ ·) 0) ++
          13 :: 10 :: 0 :: (List.replicate 5 170).drop 5) :=
  locEngNmeaPutChecksumIn_valid (by decide) (by decide)

end Eng
end Nx507j
