import Nx507j.Lib.CText

/-!
# NMEA sentences

The functions of `loc_eng_nmea.cpp` write a sentence piece by piece into a buffer, and leave without
sending it when a piece does not fit.  A sentence ends with a checksum.

## Main definitions

* `Sentence`, `Sentence.print` — a sentence in the buffer, and a piece that is printed behind it.
* `Sentence.printAll` — several pieces.
* `Sentence.put` — a piece that is cut off where it does not fit.
* `locEngNmeaPutChecksum` — the checksum and what is returned for it.

## Main results

* `printAll_eq` — pieces that fit are printed.
* `isUpperHex_printHexByte`, `number_printHexByte` — a byte in two digits, and what they stand for.
* `locEngNmeaPutChecksum_eq` — a checksum that fits is printed whole.
-/

namespace Nx507j
namespace Eng

open CText

/-- `NMEA_SENTENCE_MAX_LENGTH`. -/
def nmeaSentenceMaxLength : ℕ := 200

/-- A sentence in its buffer: there is room for the NUL. -/
structure Sentence where
  text : Text
  fits : text.length < nmeaSentenceMaxLength
  deriving DecidableEq

/-- What is left of the buffer. -/
def Sentence.lengthRemaining (s : Sentence) : ℕ := nmeaSentenceMaxLength - s.text.length

/-- A buffer with nothing in it. -/
def Sentence.empty : Sentence := ⟨[], by decide⟩

/-- `snprintf` to what is left of the buffer, with the check of what it returns. -/
def Sentence.print (s : Sentence) (piece : Text) : Option Sentence :=
  if h : piece.length < s.lengthRemaining then
    some ⟨s.text ++ piece, by
      rw [List.length_append]
      unfold lengthRemaining at h
      omega⟩
  else none

/-- `snprintf` to what is left of the buffer, without a check. -/
def Sentence.put (s : Sentence) (piece : Text) : Sentence :=
  ⟨s.text ++ piece.take (s.lengthRemaining - 1), by
    have hfits := s.fits
    rw [List.length_append, List.length_take]
    unfold lengthRemaining
    omega⟩

/-- Several pieces, one behind the other. -/
def Sentence.printAll (s : Sentence) (pieces : List Text) : Option Sentence :=
  pieces.foldlM Sentence.print s

/-- A digit as `%X` prints it. -/
def hexDigit (n : UInt8) : UInt8 := if n < 10 then n + 48 else n + 55

/-- `%02X` of a byte. -/
def printHexByte (n : UInt8) : Text := [hexDigit (n / 16), hexDigit (n % 16)]

/-- The checksum of what stands behind the `$`. -/
def nmeaChecksum (body : Text) : UInt8 := body.foldl (· ^^^ ·) 0

/-- What is printed behind a sentence. -/
def checksumText (body : Text) : Text := 42 :: printHexByte (nmeaChecksum body) ++ [13, 10]

/-- `loc_eng_nmea_put_checksum` for a buffer of `maxSize`, with its result: the `$` is skipped, and
the checksum is cut off where the buffer ends. -/
def locEngNmeaPutChecksum (pNmea : Text) (maxSize : ℕ) : Text × ℕ :=
  let body := pNmea.drop 1
  (pNmea ++ (checksumText body).take (maxSize - body.length - 1 - 1),
    body.length + (checksumText body).length)

/-- What is given to `loc_eng_nmea_send`. -/
def sendSentence (sentence : Text) : Text × ℕ :=
  locEngNmeaPutChecksum sentence nmeaSentenceMaxLength

/-! ### What fits -/

theorem Sentence.print_eq_some (s : Sentence) (piece : Text)
    (h : s.text.length + piece.length < nmeaSentenceMaxLength) :
    ∃ s', s.print piece = some s' ∧ s'.text = s.text ++ piece := by
  have hfits : piece.length < s.lengthRemaining := by
    unfold lengthRemaining
    omega
  exact ⟨_, dif_pos hfits, rfl⟩

/-- **Pieces that fit are printed.** -/
theorem printAll_eq : ∀ (pieces : List Text) {s : Sentence},
    s.text.length + pieces.flatten.length < nmeaSentenceMaxLength →
      ∃ s', s.printAll pieces = some s' ∧ s'.text = s.text ++ pieces.flatten := by
  intro pieces
  induction pieces with
  | nil =>
    intro s _
    exact ⟨s, rfl, (List.append_nil s.text).symm⟩
  | cons piece pieces ih =>
    intro s h
    rw [List.flatten_cons, List.length_append] at h
    obtain ⟨s₁, hs₁, htext₁⟩ := s.print_eq_some piece (by omega)
    have hroom : s₁.text.length + pieces.flatten.length < nmeaSentenceMaxLength := by
      rw [htext₁, List.length_append]
      omega
    obtain ⟨s', hs', htext⟩ := ih hroom
    refine ⟨s', ?_, ?_⟩
    · rw [Sentence.printAll, List.foldlM_cons, hs₁]
      exact hs'
    · rw [htext, htext₁, List.append_assoc, List.flatten_cons]

/-- A digit of base 16 in upper case. -/
def IsUpperHex (c : UInt8) : Prop := 48 ≤ c ∧ c ≤ 57 ∨ 65 ≤ c ∧ c ≤ 70

instance (c : UInt8) : Decidable (IsUpperHex c) :=
  inferInstanceAs (Decidable (48 ≤ c ∧ c ≤ 57 ∨ 65 ≤ c ∧ c ≤ 70))

theorem isUpperHex_printHexByte {c n : UInt8} (h : c ∈ printHexByte n) : IsUpperHex c := by
  have hall : ∀ n : Fin 256, IsUpperHex (hexDigit (UInt8.ofFin n / 16)) ∧
      IsUpperHex (hexDigit (UInt8.ofFin n % 16)) := by decide +kernel
  obtain ⟨hhigh, hlow⟩ := hall n.toFin
  rcases List.mem_cons.mp h with rfl | h
  · exact hhigh
  · rw [List.mem_singleton.mp h]
    exact hlow

theorem number_printHexByte (n : UInt8) : number 16 (printHexByte n) = n.toNat := by
  have hall : ∀ n : Fin 256, number 16 (printHexByte (UInt8.ofFin n)) = n.val := by decide +kernel
  exact hall n.toFin

theorem length_checksumText (body : Text) : (checksumText body).length = 5 := rfl

/-- The whole sentence with its checksum. -/
def withChecksum (sentence : Text) : Text := sentence ++ checksumText (sentence.drop 1)

/-- The checksum of a sentence that leaves room for it is not cut off. -/
theorem locEngNmeaPutChecksum_eq {pNmea : Text} {maxSize : ℕ} (hne : 0 < pNmea.length)
    (h : pNmea.length + 6 ≤ maxSize) :
    (locEngNmeaPutChecksum pNmea maxSize).1 = withChecksum pNmea := by
  have hroom : (checksumText (pNmea.drop 1)).length ≤ maxSize - (pNmea.drop 1).length - 1 - 1 := by
    rw [length_checksumText, List.length_drop]
    omega
  rw [locEngNmeaPutChecksum, withChecksum]
  dsimp only
  rw [List.take_of_length_le hroom]

end Eng
end Nx507j
