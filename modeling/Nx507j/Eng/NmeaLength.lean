import Nx507j.Eng.NmeaFields
import Nx507j.Eng.NmeaSv

/-!
# The length of a sentence that is sent

`loc_eng_nmea_put_checksum` is documented to return the total length of the sentence, and its
callers give what it returns to the callback.  It counts from behind the `$` that it skips, so that
every sentence is given with one character less than it has.

## Main definitions

* `Completed` — a sentence that is sent with its whole checksum.
* `LengthsCover` — the sentences are given with their lengths.

## Main results

* `Completed.length` — one character is missing.
* `not_lengthsCover` — no call of a generator gives the lengths of its sentences.
-/

namespace Nx507j
namespace Eng

open CText

/-- A sentence from the `$` on, and its checksum is not cut off. -/
def Completed (sent : Text × ℕ) : Prop :=
  ∃ sentence : Text, sentence.head? = some 36 ∧ sent = sendSentence sentence ∧
    sent.1 = withChecksum sentence

/-- Every sentence that is completed is given with the number of its characters. -/
def LengthsCover (sents : List (Text × ℕ)) : Prop :=
  ∀ sent ∈ sents, Completed sent → sent.2 = sent.1.length

variable {sent : Text × ℕ} {sentence : Text}

theorem length_pos_of_head? (h : sentence.head? = some 36) : 0 < sentence.length := by
  cases sentence with
  | nil => cases h
  | cons c sentence => exact Nat.succ_pos _

/-- A sentence that leaves room for the checksum is completed. -/
theorem completed_sendSentence (hdollar : sentence.head? = some 36)
    (hroom : sentence.length + 6 ≤ nmeaSentenceMaxLength) : Completed (sendSentence sentence) :=
  ⟨sentence, hdollar, rfl, locEngNmeaPutChecksum_eq (length_pos_of_head? hdollar) hroom⟩

/-- **One character is missing**: the `$` is not counted. -/
theorem Completed.length (h : Completed sent) : sent.2 + 1 = sent.1.length := by
  obtain ⟨sentence, hdollar, hsent, hwhole⟩ := h
  have hpos := length_pos_of_head? hdollar
  have hgiven : sent.2 = (sentence.drop 1).length + 5 := by
    rw [hsent]
    rfl
  rw [hwhole, withChecksum, List.length_append, length_checksumText, hgiven, List.length_drop]
  omega

theorem not_lengthsCover_of_mem {sents : List (Text × ℕ)} (hmem : sent ∈ sents)
    (h : Completed sent) : ¬ LengthsCover sents := by
  intro hcover
  have hlength := hcover sent hmem h
  have hmissing := h.length
  omega

/-! ### The sentences of a position report -/

theorem head?_trackText (location : GpsLocation) (extended : GpsLocationExtended) :
    (trackText location extended).head? = some 36 := by
  unfold trackText
  cases gpvtgTracks location extended with
  | none => rfl
  | some tracks => rfl

/-- The courses of a final fix are sent with a whole checksum. -/
theorem completed_gpvtg (data : NmeaData) (location : GpsLocation)
    (extended : GpsLocationExtended) {s : Sentence} (h : gpvtg data location extended = some s) :
    Completed (sendSentence s.text) := by
  have htrack := length_trackText_le location extended
  have hspeed := length_speedText_le location
  have hmode : (modeText data location).length = 1 := by
    unfold modeText
    split_ifs <;> rfl
  have hpieces : [trackText location extended, speedText location].flatten.length ≤ 192 := by
    simp only [List.flatten_cons, List.flatten_nil, List.length_append, List.length_nil]
    omega
  have hroom : Sentence.empty.text.length +
      [trackText location extended, speedText location].flatten.length < nmeaSentenceMaxLength := by
    rw [Sentence.empty, List.length_nil, nmeaSentenceMaxLength]
    omega
  obtain ⟨s₁, hs₁, htext₁⟩ := printAll_eq _ hroom
  have hput : s = s₁.put (modeText data location) := by
    rw [gpvtg, hs₁] at h
    exact (Option.some.inj h).symm
  have htext : s.text = [trackText location extended, speedText location].flatten ++
      (modeText data location).take (s₁.lengthRemaining - 1) := by
    rw [hput]
    exact congrArg (· ++ _) htext₁
  refine completed_sendSentence ?_ ?_
  · rw [htext, List.flatten_cons, List.append_assoc, List.head?_append,
      head?_trackText location extended]
    rfl
  · rw [htext, List.length_append, List.length_take, nmeaSentenceMaxLength]
    omega

/-- A report that is not without a time sends a sentence with a whole checksum. -/
theorem exists_completed_generatePos (tm : Tm) (data : NmeaData) (location : GpsLocation)
    (extended : GpsLocationExtended) (generateNmea : Bool) :
    ∃ sent ∈ (locEngNmeaGeneratePos (some tm) data location extended generateNmea).1,
      Completed sent := by
  cases generateNmea with
  | true =>
    obtain ⟨gsa, vtg, rmc, gga, -, hvtg, -, -, hsent⟩ := generatePos_eq tm data location extended
    refine ⟨sendSentence vtg.text, ?_, completed_gpvtg data location extended hvtg⟩
    rw [hsent]
    exact List.mem_cons_of_mem _ List.mem_cons_self
  | false => exact ⟨_, List.mem_cons_self, completed_sendSentence (by decide) (by decide)⟩

/-! ### The satellites in view -/

variable {kind : SvKind} {svList : List SvInfo}

/-- A block sends a sentence with a whole checksum. -/
theorem exists_completed_gsvBlock (hkind : kind.TwoDigits) (htalker : kind.talker.length = 7)
    (hdollar : kind.talker.head? = some 36) (h : svList.length ≤ gpsMaxSvs) :
    ∃ sent ∈ (gsvBlock kind (kind.svs svList).length svList).1, Completed sent := by
  have hcount : (kind.svs svList).length ≤ 32 := (List.length_filter_le _ _).trans h
  by_cases hzero : (kind.svs svList).length = 0
  · have hcopy := strlcpy_blank htalker
    rw [gsvBlock, if_pos hzero]
    refine ⟨_, List.mem_cons_self, kind.talker ++ text "1,1,0,", ?_, ?_, ?_⟩
    · rw [List.head?_append, hdollar]
      rfl
    · rw [hcopy]
    · exact sendGsv_blank_fst htalker
  · obtain ⟨turns, hturns⟩ : ∃ turns, (kind.svs svList).length / 4 +
        (if (kind.svs svList).length % 4 ≠ 0 then 1 else 0) = turns + 1 :=
      Nat.exists_eq_succ_of_ne_zero (by split <;> omega)
    have hten : turns + 1 < 10 := by
      split at hturns <;> omega
    obtain ⟨s, rest', hsentence, hsend, -⟩ := gsvSentence_eq hkind htalker hten (by decide : 1 < 10)
      (Nat.lt_of_le_of_lt hcount (by decide)) svList
    have hfour : ((kind.svs svList).take 4).length ≤ 4 := List.length_take_le _ _
    have hwhole := sendGsv_fst hkind htalker hten (by decide : 1 < 10)
      (Nat.lt_of_le_of_lt hcount (by decide))
      (fun sv hsv => (List.mem_filter.mp (List.mem_of_mem_take hsv)).2) hfour
    rw [gsvBlock, if_neg hzero, hturns]
    refine ⟨sendSentence s.text, ?_, _, ?_, hsend, ?_⟩
    · rw [gsvLoop, hsentence]
      exact List.mem_cons_self
    · rw [headerText, List.append_assoc, List.append_assoc, List.append_assoc, List.head?_append,
        hdollar]
      rfl
    · rw [hsend]
      exact hwhole

theorem exists_completed_generateSv (h : svList.length ≤ gpsMaxSvs) :
    ∃ sent ∈ (locEngNmeaGenerateSv svList).1, Completed sent := by
  have hgps : gps.TwoDigits := by decide
  obtain ⟨sent, hmem, hcompleted⟩ := exists_completed_gsvBlock hgps rfl rfl h
  refine ⟨sent, ?_, hcompleted⟩
  have hcount : svList.countP gps.has = (gps.svs svList).length := List.countP_eq_length_filter
  rw [locEngNmeaGenerateSv]
  dsimp only
  rw [hcount]
  split
  · exact List.mem_append_left _ hmem
  · exact hmem

/-! ### No call gives the lengths -/

/-- **No call gives the lengths of its sentences**, whatever it reports: each sentence that is
completed is given with one character less than it has, and there is one in every call.  Only a
position whose time `gmtime` cannot break down has no sentences. -/
theorem not_lengthsCover (tm : Tm) (data : NmeaData) (location : GpsLocation)
    (extended : GpsLocationExtended) (generateNmea : Bool) (svList : List SvInfo)
    (hlength : svList.length ≤ gpsMaxSvs) :
    ¬ LengthsCover (locEngNmeaGeneratePos (some tm) data location extended generateNmea).1 ∧
    ¬ LengthsCover (locEngNmeaGenerateSv svList).1 ∧
    (∀ sent : Text × ℕ, Completed sent → sent.2 + 1 = sent.1.length) ∧
    (locEngNmeaGeneratePos none data location extended generateNmea).1 = [] := by
  refine ⟨?_, ?_, fun sent h => h.length, rfl⟩
  · obtain ⟨sent, hmem, h⟩ :=
      exists_completed_generatePos tm data location extended generateNmea
    exact not_lengthsCover_of_mem hmem h
  · obtain ⟨sent, hmem, h⟩ := exists_completed_generateSv hlength
    exact not_lengthsCover_of_mem hmem h

/-- The five satellites fill two sentences of one kind, the other has one. -/
theorem not_lengthsCover_mixedReport : mixedReport.length ≤ gpsMaxSvs ∧
    ¬ LengthsCover (locEngNmeaGenerateSv mixedReport).1 := by
  have hlength : mixedReport.length ≤ gpsMaxSvs := by decide
  obtain ⟨-, hsv, -⟩ := not_lengthsCover noon standalone (place 48 11) (deviation Single.zero)
    false mixedReport hlength
  exact ⟨hlength, hsv⟩

/-- The blank sentences of a report that is not final, with the lengths they are given with. -/
theorem lengths_blankSentences :
    let sents := (locEngNmeaGeneratePos (some noon) standalone (place 48 11)
      (deviation Single.zero) false).1
    (sents.map fun sent => (sent.2, sent.1.length)) = [(29, 30), (24, 25), (24, 25), (25, 26)] ∧
      ¬ LengthsCover sents := by
  intro sents
  have hcompleted : Completed (sendSentence (text "$GPGSA,A,1,,,,,,,,,,,,,,,")) :=
    completed_sendSentence (by decide) (by decide)
  exact ⟨by decide +kernel, not_lengthsCover_of_mem List.mem_cons_self hcompleted⟩

end Eng
end Nx507j
