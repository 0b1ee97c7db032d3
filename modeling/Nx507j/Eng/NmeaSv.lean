import Nx507j.Eng.Nmea
import Nx507j.Lib.Lists

/-!
# The satellites in view

`loc_eng_nmea_generate_sv` counts the GPS and the GLONASS satellites of a report, and sends each
kind in sentences of four.  The sentences of a kind share one cursor over the whole report, which
skips the satellites of other kinds.

The two blocks of the function differ in the talker and the range of numbers.  A sentence is given
to `loc_eng_nmea_send` with the length that `loc_eng_nmea_put_checksum` returns.

## Main definitions

* `SvInfo`, `SvKind` — a satellite of the report, and a kind of satellites.
* `locEngNmeaGenerateSv` — what is sent, and whether the function comes to its end.
* `gsvText` — the text of a sentence.

## Main results

* `gsvFill_eq` — what the inner loop puts in a sentence.
* `generateSv_partition` — the sentences hold all satellites of each kind, in fours.
-/

namespace Nx507j
namespace Eng

open CText

/-! ### The report -/

/-- `GPS_MAX_SVS`. -/
def gpsMaxSvs : ℕ := 32

/-- A satellite of the report: the elevation, the azimuth and the signal-to-noise ratio as they are
rounded, and whether there is a signal. -/
structure SvInfo where
  prn : Int32
  elevation : Int32
  azimuth : Int32
  snr : Int32
  hasSnr : Bool
  deriving DecidableEq, Repr

/-- A kind of satellites, with the talker of its sentences and the range of its numbers. -/
structure SvKind where
  talker : Text
  prnStart : Int32
  prnEnd : Int32
  deriving DecidableEq

def gps : SvKind := ⟨text "$GPGSV,", 1, 32⟩

def glonass : SvKind := ⟨text "$GLGSV,", 65, 96⟩

/-- The satellite is of the kind. -/
def SvKind.has (kind : SvKind) (sv : SvInfo) : Bool :=
  kind.prnStart ≤ sv.prn ∧ sv.prn ≤ kind.prnEnd

/-! ### The sentences -/

/-- `",%02d,%02d,%03d,"`. -/
def svText (sv : SvInfo) : Text :=
  44 :: printD 2 sv.prn.toInt ++ 44 :: printD 2 sv.elevation.toInt ++
    44 :: printD 3 sv.azimuth.toInt ++ [44]

/-- `"%02d"`. -/
def snrText (sv : SvInfo) : Text := printD 2 sv.snr.toInt

/-- The entry of a satellite. -/
def entryText (sv : SvInfo) : Text := svText sv ++ if sv.hasSnr then snrText sv else []

/-- `"$GPGSV,%d,%d,%02d"`. -/
def headerText (kind : SvKind) (sentenceCount sentenceNumber count : ℕ) : Text :=
  kind.talker ++ printD 0 sentenceCount ++ 44 :: printD 0 sentenceNumber ++ 44 :: printD 2 count

/-- The entry is printed in its two parts. -/
def printEntry (s : Sentence) (sv : SvInfo) : Option Sentence := do
  let s ← s.print (svText sv)
  if sv.hasSnr then s.print (snrText sv) else some s

/-- The inner loop: entries from the cursor on, until the sentence has four; with the cursor. -/
def gsvFill (kind : SvKind) : ℕ → List SvInfo → Sentence → Option (Sentence × List SvInfo)
  | _, [], s => some (s, [])
  | i, sv :: rest, s =>
    if i < 4 then
      if kind.has sv then do
        let s ← printEntry s sv
        gsvFill kind (i + 1) rest s
      else gsvFill kind i rest s
    else some (s, sv :: rest)

/-- One turn of the outer loop: a sentence, and the cursor behind it. -/
def gsvSentence (kind : SvKind) (sentenceCount sentenceNumber count : ℕ) (rest : List SvInfo) :
    Option (Sentence × List SvInfo) := do
  let s ← Sentence.empty.print (headerText kind sentenceCount sentenceNumber count)
  gsvFill kind 0 rest s

/-- The outer loop, with as many turns as are left: what is sent, and whether it comes to its
end. -/
def gsvLoop (kind : SvKind) (sentenceCount count : ℕ) :
    ℕ → ℕ → List SvInfo → List (Text × ℕ) × Bool
  | 0, _, _ => ([], true)
  | turns + 1, sentenceNumber, rest =>
    match gsvSentence kind sentenceCount sentenceNumber count rest with
    | none => ([], false)
    | some (s, rest) =>
      let sent := gsvLoop kind sentenceCount count turns (sentenceNumber + 1) rest
      (sendSentence s.text :: sent.1, sent.2)

/-- A block of the function: the sentences of one kind. -/
def gsvBlock (kind : SvKind) (count : ℕ) (svList : List SvInfo) : List (Text × ℕ) × Bool :=
  if count = 0 then
    -- no svs in view, so just send a blank sentence
    ([sendSentence (strlcpy nmeaSentenceMaxLength (kind.talker ++ text "1,1,0,"))], true)
  else
    let sentenceCount := count / 4 + if count % 4 ≠ 0 then 1 else 0
    gsvLoop kind sentenceCount count sentenceCount 1 svList

/-- `loc_eng_nmea_generate_sv`: what is sent, and whether it comes to its end. -/
def locEngNmeaGenerateSv (svList : List SvInfo) : List (Text × ℕ) × Bool :=
  let gpsCount := svList.countP gps.has
  let glnCount := svList.countP fun sv => !gps.has sv && glonass.has sv
  let sent := gsvBlock gps gpsCount svList
  if sent.2 then
    let sent' := gsvBlock glonass glnCount svList
    (sent.1 ++ sent'.1, sent'.2)
  else sent

/-! ### What is to be sent -/

/-- The satellites of a kind. -/
def SvKind.svs (kind : SvKind) (svList : List SvInfo) : List SvInfo := svList.filter kind.has

/-- The text of a sentence with some satellites. -/
def gsvText (kind : SvKind) (sentenceCount sentenceNumber count : ℕ) (svs : List SvInfo) : Text :=
  withChecksum (headerText kind sentenceCount sentenceNumber count ++ svs.flatMap entryText)

/-- The sentences of a kind: one for each group of satellites, or a blank one. -/
def gsvTexts (kind : SvKind) (count : ℕ) (groups : List (List SvInfo)) : List Text :=
  if groups = [] then [withChecksum (kind.talker ++ text "1,1,0,")]
  else groups.mapIdx fun i svs => gsvText kind groups.length (i + 1) count svs

/-- The satellites in groups: all in order, four to a group but the last, and no group more than is
needed. -/
structure InFours (svs : List SvInfo) (groups : List (List SvInfo)) : Prop where
  flatten : groups.flatten = svs
  length : groups.length = (svs.length + 3) / 4
  full : ∀ group ∈ groups.dropLast, group.length = 4

/-! ### What fits -/

theorem length_printD_toInt_le {width : ℕ} (hwidth : width ≤ 11) (n : Int32) :
    (printD width n.toInt).length ≤ 11 := by
  have hlt := n.toInt_lt
  have hle := n.le_toInt
  have hprint : (printD width n.toInt).length ≤ max width (10 + 1) :=
    length_printD_le (by decide) (by omega)
  omega

/-- The numbers of a kind have two digits. -/
def SvKind.TwoDigits (kind : SvKind) : Prop := 0 ≤ kind.prnStart ∧ kind.prnEnd < 100

instance (kind : SvKind) : Decidable kind.TwoDigits := by unfold SvKind.TwoDigits; infer_instance

variable {kind : SvKind} {svList rest : List SvInfo} {sv : SvInfo}

theorem length_prn_le (hkind : kind.TwoDigits) (h : kind.has sv = true) :
    (printD 2 sv.prn.toInt).length ≤ 2 := by
  obtain ⟨hstart, hend⟩ := of_decide_eq_true h
  have hpos : 0 ≤ sv.prn.toInt := Int32.le_iff_toInt_le.mp (Int32.le_trans hkind.1 hstart)
  have hlt : sv.prn.toInt < 100 := Int32.lt_iff_toInt_lt.mp (Int32.lt_of_le_of_lt hend hkind.2)
  obtain ⟨n, hn⟩ := Int.eq_ofNat_of_zero_le hpos
  rw [hn] at hlt ⊢
  exact length_printD_natCast_le (k := 2) (by decide) (by omega)

/-- The two parts of an entry. -/
theorem length_svText_le (hkind : kind.TwoDigits) (h : kind.has sv = true) :
    (svText sv).length ≤ 28 := by
  have hprn := length_prn_le hkind h
  have helevation : (printD 2 sv.elevation.toInt).length ≤ 11 :=
    length_printD_toInt_le (by decide) sv.elevation
  have hazimuth : (printD 3 sv.azimuth.toInt).length ≤ 11 :=
    length_printD_toInt_le (by decide) sv.azimuth
  simp only [svText, List.length_append, List.length_cons, List.length_nil]
  omega

theorem length_snrText_le (sv : SvInfo) : (snrText sv).length ≤ 11 :=
  length_printD_toInt_le (by decide) sv.snr

/-- An entry is no longer than 39 characters. -/
theorem length_entryText_le (hkind : kind.TwoDigits) (h : kind.has sv = true) :
    (entryText sv).length ≤ 39 := by
  have hsv := length_svText_le hkind h
  have hsnr := length_snrText_le sv
  rw [entryText, List.length_append]
  split
  · omega
  · rw [List.length_nil]
    omega

theorem printEntry_eq {s : Sentence} (hkind : kind.TwoDigits) (h : kind.has sv = true)
    (hroom : s.text.length + 39 < nmeaSentenceMaxLength) :
    ∃ s', printEntry s sv = some s' ∧ s'.text = s.text ++ entryText sv := by
  have hsv := length_svText_le hkind h
  have hsnr := length_snrText_le sv
  obtain ⟨s₁, hs₁, htext₁⟩ := s.print_eq_some (svText sv) (by omega)
  unfold printEntry entryText
  rw [hs₁, Option.bind_eq_bind, Option.bind_some]
  cases sv.hasSnr with
  | false => exact ⟨s₁, rfl, by rw [htext₁]; simp⟩
  | true =>
    have hlength : s₁.text.length = s.text.length + (svText sv).length := by
      rw [htext₁, List.length_append]
    obtain ⟨s₂, hs₂, htext₂⟩ := s₁.print_eq_some (snrText sv) (by omega)
    exact ⟨s₂, hs₂, by rw [htext₂, htext₁, List.append_assoc]; rfl⟩

/-- **What the inner loop puts in a sentence**: the next satellites of the kind, up to four in all;
the cursor goes on to the others. -/
theorem gsvFill_eq (hkind : kind.TwoDigits) : ∀ (rest : List SvInfo) {i : ℕ} {s : Sentence},
    i ≤ 4 → s.text.length + 39 * (4 - i) < nmeaSentenceMaxLength →
      ∃ s' rest', gsvFill kind i rest s = some (s', rest') ∧
        s'.text = s.text ++ ((kind.svs rest).take (4 - i)).flatMap entryText ∧
        kind.svs rest' = (kind.svs rest).drop (4 - i) := by
  intro rest
  induction rest with
  | nil =>
    intro i s _ _
    refine ⟨s, [], rfl, ?_, ?_⟩
    · simp [SvKind.svs]
    · simp [SvKind.svs]
  | cons sv rest ih =>
    intro i s hi hroom
    unfold gsvFill
    by_cases hlt : i < 4
    · rw [if_pos hlt]
      cases hhas : kind.has sv with
      | false =>
        have hsvs : kind.svs (sv :: rest) = kind.svs rest :=
          List.filter_cons_of_neg (by simp [hhas])
        rw [hsvs]
        exact ih hi hroom
      | true =>
        have hsvs : kind.svs (sv :: rest) = sv :: kind.svs rest := List.filter_cons_of_pos hhas
        obtain ⟨s₁, hs₁, htext₁⟩ := printEntry_eq hkind hhas (s := s) (by omega)
        have hentry := length_entryText_le hkind hhas
        have hlength : s₁.text.length = s.text.length + (entryText sv).length := by
          rw [htext₁, List.length_append]
        obtain ⟨s', rest', hfill, htext, hrest⟩ := ih (i := i + 1) (s := s₁) hlt (by omega)
        have hturns : 4 - i = (4 - (i + 1)) + 1 := by omega
        refine ⟨s', rest', ?_, ?_, ?_⟩
        · rw [if_pos rfl, hs₁]
          exact hfill
        · rw [htext, htext₁, hsvs, hturns, List.take_succ_cons, List.flatMap_cons,
            List.append_assoc]
        · rw [hrest, hsvs, hturns, List.drop_succ_cons]
    · have hfour : i = 4 := by omega
      subst hfour
      rw [if_neg hlt]
      exact ⟨s, sv :: rest, rfl, by simp, by simp⟩

/-! ### The loops -/

/-- The header is no longer than 13 characters. -/
theorem length_headerText_le (htalker : kind.talker.length = 7) {sentenceCount sentenceNumber
    count : ℕ} (hsentences : sentenceCount < 10) (hnumber : sentenceNumber < 10)
    (hcount : count < 100) :
    (headerText kind sentenceCount sentenceNumber count).length ≤ 13 := by
  have h₁ : (printD 0 (sentenceCount : ℤ)).length ≤ max 0 1 :=
    length_printD_natCast_le (by decide) (by omega)
  have h₂ : (printD 0 (sentenceNumber : ℤ)).length ≤ max 0 1 :=
    length_printD_natCast_le (by decide) (by omega)
  have h₃ : (printD 2 (count : ℤ)).length ≤ max 2 2 :=
    length_printD_natCast_le (by decide) (by omega)
  simp only [headerText, List.length_append, List.length_cons]
  omega

/-- A sentence holds the next four satellites of its kind. -/
theorem gsvSentence_eq (hkind : kind.TwoDigits) (htalker : kind.talker.length = 7)
    {sentenceCount sentenceNumber count : ℕ} (hsentences : sentenceCount < 10)
    (hnumber : sentenceNumber < 10) (hcount : count < 100) (rest : List SvInfo) :
    ∃ s rest', gsvSentence kind sentenceCount sentenceNumber count rest = some (s, rest') ∧
      sendSentence s.text = sendSentence (headerText kind sentenceCount sentenceNumber count ++
        ((kind.svs rest).take 4).flatMap entryText) ∧
      kind.svs rest' = (kind.svs rest).drop 4 := by
  have hheader := length_headerText_le htalker hsentences hnumber hcount
  have hempty : Sentence.empty.text.length = 0 := rfl
  have hmax : nmeaSentenceMaxLength = 200 := rfl
  obtain ⟨s₁, hs₁, htext₁⟩ := Sentence.empty.print_eq_some
    (headerText kind sentenceCount sentenceNumber count) (by omega)
  have hlength : s₁.text.length = (headerText kind sentenceCount sentenceNumber count).length := by
    rw [htext₁]
    rfl
  obtain ⟨s, rest', hfill, htext, hrest⟩ :=
    gsvFill_eq hkind rest (i := 0) (s := s₁) (by omega) (by omega)
  refine ⟨s, rest', ?_, ?_, hrest⟩
  · rw [gsvSentence, hs₁]
    exact hfill
  · rw [htext, htext₁]
    rfl

/-- **What the outer loop sends**: the satellites of the kind that are left, in fours. -/
theorem gsvLoop_eq (hkind : kind.TwoDigits) (htalker : kind.talker.length = 7)
    {sentenceCount count : ℕ} (hsentences : sentenceCount < 10) (hcount : count < 100) :
    ∀ (turns : ℕ) {sentenceNumber : ℕ} {rest : List SvInfo}, sentenceNumber + turns ≤ 10 →
      gsvLoop kind sentenceCount count turns sentenceNumber rest =
        ((Lists.groups 4 turns (kind.svs rest)).mapIdx fun i svs =>
          sendSentence (headerText kind sentenceCount (sentenceNumber + i) count ++
            svs.flatMap entryText), true) := by
  intro turns
  induction turns with
  | zero => exact fun _ => rfl
  | succ turns ih =>
    intro sentenceNumber rest hturns
    have hnumber : sentenceNumber < 10 := by omega
    obtain ⟨s, rest', hsentence, hsend, hrest⟩ :=
      gsvSentence_eq hkind htalker hsentences hnumber hcount rest
    have hleft : sentenceNumber + 1 + turns ≤ 10 := by omega
    rw [gsvLoop, hsentence]
    dsimp only
    rw [ih hleft, hsend, hrest, Lists.groups, List.mapIdx_cons]
    simp only [Nat.add_assoc, Nat.add_comm 1, Nat.add_zero]

/-- What is sent as a sentence of at most four entries is its whole text with the checksum. -/
theorem sendGsv_fst (hkind : kind.TwoDigits) (htalker : kind.talker.length = 7)
    {sentenceCount sentenceNumber count : ℕ} (hsentences : sentenceCount < 10)
    (hnumber : sentenceNumber < 10) (hcount : count < 100) {svs : List SvInfo}
    (hsvs : ∀ sv ∈ svs, kind.has sv = true) (hfour : svs.length ≤ 4) :
    (sendSentence (headerText kind sentenceCount sentenceNumber count ++ svs.flatMap entryText)).1 =
      gsvText kind sentenceCount sentenceNumber count svs := by
  have hheader := length_headerText_le htalker hsentences hnumber hcount
  have hentries : (svs.flatMap entryText).length ≤ svs.length * 39 :=
    Lists.length_flatMap_le fun sv hsv => length_entryText_le hkind (hsvs sv hsv)
  have htext : 7 ≤ (headerText kind sentenceCount sentenceNumber count).length := by
    simp only [headerText, List.length_append]
    omega
  refine locEngNmeaPutChecksum_eq ?_ ?_
  · rw [List.length_append]
    omega
  · rw [List.length_append, nmeaSentenceMaxLength]
    omega

/-! ### The satellites of both kinds -/

/-- Groups of four are as many as are needed. -/
theorem inFours_groups (svs : List SvInfo) :
    InFours svs (Lists.groups 4 ((svs.length + 3) / 4) svs) where
  flatten := Lists.flatten_groups (by omega)
  length := Lists.length_groups 4 _ svs
  full _ hgroup := Lists.length_of_mem_dropLast_groups (by omega) hgroup

/-- What is sent for groups of satellites. -/
theorem map_fst_sendGsv (hkind : kind.TwoDigits) (htalker : kind.talker.length = 7)
    {sentenceCount count : ℕ} (hsentences : sentenceCount < 10) (hcount : count < 100)
    {groups : List (List SvInfo)} (hnumber : groups.length < 10)
    (hgroups : ∀ svs ∈ groups, svs.length ≤ 4 ∧ ∀ sv ∈ svs, kind.has sv = true) :
    (groups.mapIdx fun i svs => sendSentence (headerText kind sentenceCount (1 + i) count ++
        svs.flatMap entryText)).map Prod.fst =
      groups.mapIdx fun i svs => gsvText kind sentenceCount (i + 1) count svs := by
  refine List.ext_getElem (by simp) fun i hi _ => ?_
  have hi' : i < groups.length := by simpa using hi
  obtain ⟨hfour, hhas⟩ := hgroups _ (List.getElem_mem hi')
  rw [List.getElem_map, List.getElem_mapIdx, List.getElem_mapIdx,
    sendGsv_fst hkind htalker hsentences (by omega) hcount hhas hfour, Nat.add_comm 1]

theorem length_blank (htalker : kind.talker.length = 7) :
    (kind.talker ++ text "1,1,0,").length = 13 := by
  rw [List.length_append, htalker]
  rfl

/-- The blank sentence is not cut off. -/
theorem strlcpy_blank (htalker : kind.talker.length = 7) :
    strlcpy nmeaSentenceMaxLength (kind.talker ++ text "1,1,0,") = kind.talker ++ text "1,1,0," :=
  List.take_of_length_le (by rw [length_blank htalker]; decide)

/-- What is sent where there are no satellites of a kind. -/
theorem sendGsv_blank_fst (htalker : kind.talker.length = 7) :
    (sendSentence (strlcpy nmeaSentenceMaxLength (kind.talker ++ text "1,1,0,"))).1 =
      withChecksum (kind.talker ++ text "1,1,0,") := by
  have hlength := length_blank htalker
  rw [strlcpy_blank htalker]
  exact locEngNmeaPutChecksum_eq (by omega) (by rw [hlength]; decide)

/-- **A block sends all satellites of its kind, in fours.** -/
theorem gsvBlock_eq (hkind : kind.TwoDigits) (htalker : kind.talker.length = 7)
    (h : svList.length ≤ gpsMaxSvs) :
    ∃ groups, InFours (kind.svs svList) groups ∧
      (gsvBlock kind (kind.svs svList).length svList).2 = true ∧
      (gsvBlock kind (kind.svs svList).length svList).1.map Prod.fst =
        gsvTexts kind (kind.svs svList).length groups := by
  have hcount : (kind.svs svList).length ≤ 32 := (List.length_filter_le _ _).trans h
  have hfours := inFours_groups (kind.svs svList)
  refine ⟨_, hfours, ?_⟩
  by_cases hzero : (kind.svs svList).length = 0
  · have hgroups : Lists.groups 4 (((kind.svs svList).length + 3) / 4) (kind.svs svList) = [] := by
      rw [hzero]
      rfl
    rw [hgroups, gsvBlock, if_pos hzero, gsvTexts, if_pos rfl]
    exact ⟨rfl, congrArg (· :: []) (sendGsv_blank_fst htalker)⟩
  · generalize hcard : (kind.svs svList).length = count at hcount hzero hfours ⊢
    have hsentences : (count / 4 + if count % 4 ≠ 0 then 1 else 0) = (count + 3) / 4 := by
      split <;> omega
    have hten : (count + 3) / 4 < 10 := by omega
    have hturns : 1 + (count + 3) / 4 ≤ 10 := by omega
    have hlength : (Lists.groups 4 ((count + 3) / 4) (kind.svs svList)).length = (count + 3) / 4 :=
      Lists.length_groups ..
    have hgroups : Lists.groups 4 ((count + 3) / 4) (kind.svs svList) ≠ [] := by
      intro hnil
      rw [hnil, List.length_nil] at hlength
      omega
    rw [gsvBlock, if_neg hzero, hsentences,
      gsvLoop_eq hkind htalker hten (by omega) ((count + 3) / 4) hturns]
    refine ⟨rfl, ?_⟩
    rw [gsvTexts, if_neg hgroups, hlength]
    refine map_fst_sendGsv hkind htalker hten (by omega) (by omega) fun group hgroup => ?_
    refine ⟨Lists.length_le_of_mem_groups hgroup, fun sv hsv => ?_⟩
    have hflat := List.mem_flatten_of_mem hgroup hsv
    rw [hfours.flatten] at hflat
    exact (List.mem_filter.mp hflat).2

/-- A satellite of the second kind is not of the first. -/
theorem not_gps_has {sv : SvInfo} (h : glonass.has sv = true) : gps.has sv = false := by
  obtain ⟨hstart, _⟩ := of_decide_eq_true h
  refine decide_eq_false fun hgps => ?_
  have hend : sv.prn ≤ 32 := hgps.2
  have hlt : (65 : Int32) ≤ 32 := Int32.le_trans hstart hend
  exact absurd hlt (by decide)

/-- The count of the second kind. -/
theorem countP_glonass (svList : List SvInfo) :
    (svList.countP fun sv => !gps.has sv && glonass.has sv) = (glonass.svs svList).length := by
  rw [SvKind.svs, ← List.countP_eq_length_filter]
  refine List.countP_congr fun sv _ => ?_
  cases hhas : glonass.has sv with
  | false => simp
  | true => simp [not_gps_has hhas]

/-- **The sentences hold all satellites of each kind, in fours**: nothing is cut off, the function
comes to its end, and what it sends is told by the two lists of satellites alone. -/
theorem generateSv_partition (svList : List SvInfo) (h : svList.length ≤ gpsMaxSvs) :
    ∃ gpsGroups glnGroups, InFours (gps.svs svList) gpsGroups ∧
      InFours (glonass.svs svList) glnGroups ∧ (locEngNmeaGenerateSv svList).2 = true ∧
      (locEngNmeaGenerateSv svList).1.map Prod.fst =
        gsvTexts gps (gps.svs svList).length gpsGroups ++
          gsvTexts glonass (glonass.svs svList).length glnGroups := by
  have hgps : gps.TwoDigits := by decide
  have hgln : glonass.TwoDigits := by decide
  obtain ⟨gpsGroups, hgpsFours, hgpsEnd, hgpsTexts⟩ := gsvBlock_eq hgps rfl h
  obtain ⟨glnGroups, hglnFours, hglnEnd, hglnTexts⟩ := gsvBlock_eq hgln rfl h
  refine ⟨gpsGroups, glnGroups, hgpsFours, hglnFours, ?_⟩
  have hcount : svList.countP gps.has = (gps.svs svList).length := List.countP_eq_length_filter
  rw [locEngNmeaGenerateSv]
  dsimp only
  rw [hcount, countP_glonass, if_pos hgpsEnd, List.map_append, hgpsTexts, hglnTexts]
  exact ⟨hglnEnd, rfl⟩

/-- Five satellites of one kind, one of the other and one of none. -/
def mixedReport : List SvInfo :=
  [⟨3, 10, 20, 30, true⟩, ⟨70, -5, 359, 0, false⟩, ⟨32, 90, 0, 7, true⟩, ⟨120, 1, 1, 1, true⟩,
    ⟨1, 45, 100, 50, true⟩, ⟨2, 46, 101, 51, true⟩, ⟨4, 47, 102, 52, true⟩]

theorem generateSv_partition_mixedReport : mixedReport.length ≤ gpsMaxSvs ∧
    ∃ gpsGroups glnGroups, InFours (gps.svs mixedReport) gpsGroups ∧
      InFours (glonass.svs mixedReport) glnGroups ∧ (locEngNmeaGenerateSv mixedReport).2 = true ∧
      (locEngNmeaGenerateSv mixedReport).1.map Prod.fst =
        gsvTexts gps (gps.svs mixedReport).length gpsGroups ++
          gsvTexts glonass (glonass.svs mixedReport).length glnGroups :=
  ⟨by decide, generateSv_partition mixedReport (by decide)⟩

end Eng
end Nx507j
