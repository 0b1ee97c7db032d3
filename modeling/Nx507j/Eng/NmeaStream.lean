import Nx507j.Eng.NmeaRead
import Nx507j.Lib.Trace

/-!
# The sentences of a run

The reports come one after the other.  A report of satellites keeps the mask of those that are used
and its dilutions for the next fix, and a position report uses them up.  So what a fix says of the
satellites is what the last report of satellites said, if no fix has come since.

## Main definitions

* `NmeaCall`, `generate` — a call of a generator: what is sent, and what is kept.
* `maskGiven`, `dopGiven` — what a call leaves for the next fix.
* `FixReads` — what the sentences of a fix say.

## Main results

* `fixReads_exec` — a fix says what the last report of satellites said.
* `shaped_sentTexts` — every sentence is read back, with a number of fields of its kind.
-/

namespace Nx507j
namespace Eng

open CText Fields Run Trace

/-! ### Calls -/

/-- What calls the generators, or changes the position mode. -/
inductive NmeaCall
  | sv (status : SvStatus) (extended : GpsLocationExtended)
  | pos (tm : Option Tm) (location : GpsLocation) (extended : GpsLocationExtended)
    (generateNmea : Bool)
  | positionMode (mode : Int32)

/-- The dilutions of a report. -/
def GpsLocationExtended.dop (extended : GpsLocationExtended) : Option Dop :=
  if extended.hasDop then some ⟨extended.pdop, extended.hdop, extended.vdop⟩ else none

/-- The end of `loc_eng_nmea_generate_sv`: the mask is kept, and the dilutions. -/
def NmeaData.keepSv (data : NmeaData) (status : SvStatus) (extended : GpsLocationExtended) :
    NmeaData :=
  let data := { data with svUsedMask := status.gpsUsedInFixMask }
  if extended.hasDop then
    { data with pdop := extended.pdop, hdop := extended.hdop, vdop := extended.vdop }
  else data.clearDop

/-- What is sent, and what is kept. -/
def generate (data : NmeaData) : NmeaCall → List (Text × ℕ) × NmeaData
  | .sv status extended =>
    let sent := locEngNmeaGenerateSv status.svList
    (sent.1, if sent.2 then data.keepSv status extended else data)
  | .pos tm location extended generateNmea =>
    locEngNmeaGeneratePos tm data location extended generateNmea
  | .positionMode mode => ([], { data with mode })

/-- What is kept. -/
def NmeaData.step (data : NmeaData) (call : NmeaCall) : NmeaData := (generate data call).2

/-- The texts that are sent. -/
def sentTexts (data : NmeaData) (call : NmeaCall) : List Text := (generate data call).1.map Prod.fst

/-- What is kept before the first report. -/
def NmeaData.fresh (mode : Int32) : NmeaData := ⟨0, Single.zero, Single.zero, Single.zero, mode⟩

/-! ### What is kept -/

/-- The mask that a call leaves for the next fix: a final fix leaves none. -/
def maskGiven : NmeaCall → Option UInt32
  | .sv status _ => some status.gpsUsedInFixMask
  | .pos (some _) _ _ true => some 0
  | _ => none

def Dop.zero : Dop := ⟨Single.zero, Single.zero, Single.zero⟩

/-- The dilutions that a call leaves for the next fix: a position report leaves none. -/
def dopGiven : NmeaCall → Option Dop
  | .sv _ extended => some (extended.dop.getD Dop.zero)
  | .pos (some _) _ _ _ => some Dop.zero
  | _ => none

/-- The position mode that was set last. -/
def modeGiven : NmeaCall → Option Int32
  | .positionMode mode => some mode
  | _ => none

/-- The dilutions as they are kept. -/
def NmeaData.keptDop (data : NmeaData) : Dop := ⟨data.pdop, data.hdop, data.vdop⟩

theorem step_sv (data : NmeaData) (status : SvStatus) (extended : GpsLocationExtended) :
    data.step (.sv status extended) = data.keepSv status extended := by
  obtain ⟨_, _, _, _, hend, _⟩ := generateSv_partition status.svList status.fits
  exact if_pos hend

theorem step_pos_final (data : NmeaData) (tm : Tm) (location : GpsLocation)
    (extended : GpsLocationExtended) :
    data.step (.pos (some tm) location extended true) = { data with svUsedMask := 0 }.clearDop := by
  obtain ⟨_, _, _, _, _, _, _, _, hpos⟩ := generatePos_eq tm data location extended
  exact congrArg Prod.snd hpos

/-- **What a call keeps**: what it gives, or what was kept before. -/
theorem step_eq (data : NmeaData) (call : NmeaCall) :
    data.step call =
      ⟨(maskGiven call).getD data.svUsedMask, ((dopGiven call).getD data.keptDop).pdop,
        ((dopGiven call).getD data.keptDop).hdop, ((dopGiven call).getD data.keptDop).vdop,
        (modeGiven call).getD data.mode⟩ := by
  cases call with
  | sv status extended =>
    rw [step_sv, NmeaData.keepSv, dopGiven, GpsLocationExtended.dop]
    cases extended.hasDop <;> rfl
  | pos tm location extended generateNmea =>
    cases tm with
    | none => rfl
    | some tm =>
      cases generateNmea with
      | false => rfl
      | true =>
        rw [step_pos_final]
        rfl
  | positionMode mode => rfl

theorem svUsedMask_exec (data : NmeaData) (before : List NmeaCall) :
    (exec NmeaData.step data before).svUsedMask = (latest maskGiven before).getD data.svUsedMask :=
  exec_latest (fun data call => congrArg NmeaData.svUsedMask (step_eq data call)) before data

theorem keptDop_exec (data : NmeaData) (before : List NmeaCall) :
    (exec NmeaData.step data before).keptDop = (latest dopGiven before).getD data.keptDop :=
  exec_latest (fun data call => congrArg NmeaData.keptDop (step_eq data call)) before data

theorem mode_exec (data : NmeaData) (before : List NmeaCall) :
    (exec NmeaData.step data before).mode = (latest modeGiven before).getD data.mode :=
  exec_latest (fun data call => congrArg NmeaData.mode (step_eq data call)) before data

/-! ### The satellites that are used -/

/-- The satellites whose bits are set. -/
def usedSvs (mask : UInt32) : List ℕ :=
  ((List.range 32).filter mask.toNat.testBit).map (· + 1)

theorem svUsedFrom_eq (turns i : ℕ) (mask : UInt32) : svUsedFrom turns i mask =
    ((List.range turns).filter mask.toNat.testBit).map (· + i) := by
  induction turns generalizing i mask with
  | zero => rfl
  | succ turns ih =>
    have hbit : ∀ j, (mask >>> 1).toNat.testBit j = mask.toNat.testBit (j + 1) := by
      intro j
      rw [UInt32.toNat_shiftRight, Nat.testBit_shiftRight, Nat.add_comm]
      rfl
    have hlow : mask &&& 1 = 1 ↔ mask.toNat.testBit 0 = true := by
      rw [← UInt32.toNat_inj, UInt32.toNat_and, Nat.testBit_zero, decide_eq_true_eq]
      exact iff_of_eq (congrArg (· = 1) (Nat.and_one_is_mod _))
    have hshift : (((List.range turns).map Nat.succ).filter mask.toNat.testBit).map (· + i) =
        svUsedFrom turns (i + 1) (mask >>> 1) := by
      rw [ih, List.filter_map, List.map_map]
      congr 1
      · funext j
        exact Nat.succ_add_eq_add_succ j i
      · congr 1
        funext j
        exact (hbit j).symm
    rw [svUsedFrom, List.range_succ_eq_map]
    by_cases hmask : mask > 0
    · rw [if_pos hmask, ← hshift]
      by_cases hone : mask &&& 1 = 1
      · rw [if_pos hone, List.filter_cons_of_pos (hlow.mp hone), List.map_cons, Nat.zero_add]
      · rw [if_neg hone, List.filter_cons_of_neg (mt hlow.mpr hone)]
    · have hzero : mask = 0 := by
        rw [← UInt32.toNat_inj]
        exact Nat.eq_zero_of_not_pos fun h => hmask (UInt32.lt_iff_toNat_lt.mpr h)
      have hnone : ∀ j ∈ 0 :: (List.range turns).map Nat.succ, ¬mask.toNat.testBit j = true := by
        intro j _
        rw [hzero]
        exact Bool.not_eq_true _ ▸ Nat.zero_testBit j
      rw [if_neg hmask, List.filter_eq_nil_iff.mpr hnone]
      rfl

theorem svUsedList_eq (data : NmeaData) : svUsedList data = usedSvs data.svUsedMask :=
  svUsedFrom_eq 32 1 data.svUsedMask

/-- The satellites in GPGSA. -/
def readUsed (gsa : List Text) : List ℕ :=
  (((gsa.drop 3).take 12).filter (· ≠ [])).map (number 10)

theorem read_usedFields (used : List ℕ) (n : ℕ) :
    (((List.range n).map (usedField used)).filter (· ≠ [])).map (number 10) = used.take n := by
  induction n with
  | zero => rfl
  | succ n ih =>
    rw [List.range_succ, List.map_append, List.filter_append, List.map_append, ih,
      List.take_add_one, List.map_singleton, usedField]
    congr 1
    cases used[n]? with
    | none => rfl
    | some sv =>
      have hfilter : [printD 2 (sv : ℤ)].filter (· ≠ []) = [printD 2 (sv : ℤ)] :=
        List.filter_eq_self.mpr fun field hfield =>
          decide_eq_true (List.mem_singleton.mp hfield ▸ printD_ne_nil 2 sv)
      dsimp only
      rw [hfilter, List.map_singleton, number_printD]
      rfl

/-! ### A fix -/

/-- The mask that a fix finds. -/
def fixMask (before : List NmeaCall) : UInt32 := (latest maskGiven before).getD 0

/-- The dilutions that a fix finds: its own, or the kept ones if none is missing. -/
def fixDop (before : List NmeaCall) (extended : GpsLocationExtended) : Option Dop :=
  let kept := (latest dopGiven before).getD Dop.zero
  extended.dop.or
    (if kept.pdop.value > 0 ∧ kept.hdop.value > 0 ∧ kept.vdop.value > 0 then some kept else none)

/-- What the sentences of a fix say: GPGSA has the first twelve of the satellites that are used, and
the dilutions; GPGGA has the number of satellites; the mode is the one that was set; and the
sentences agree where two of them say the same. -/
structure FixReads (location : GpsLocation) (used : List ℕ) (dop : Option Dop) (data : NmeaData)
    (gsa vtg rmc gga : List Text) : Prop where
  svs : readUsed gsa = used.take 12
  svsFix : gsa[2]? = some [fixType used]
  svsCount : (gga[7]?).map (number 10) = some used.length
  dops : gsa.drop 15 = dopFields dop
  hdop : gga[8]? = gsa[16]?
  mode : rmc[12]? = some (modeText data location) ∧ vtg[9]? = some (modeText data location)
  quality : gga[6]? = some [gpsQuality data location]
  time : gga[1]? = rmc[1]?
  coordinates : (gga.drop 2).take 4 = (rmc.drop 3).take 4
  speed : rmc[7]? = vtg[5]?
  course : rmc[8]? = vtg[1]?

theorem fixReads_fields (tm : Tm) (location : GpsLocation) (extended : GpsLocationExtended)
    (used : List ℕ) (dop : Option Dop) (data : NmeaData) :
    FixReads location used dop data (gsaFields used dop)
      (vtgFields location (modeText data location))
      (rmcFields tm location extended (modeText data location))
      (ggaFields tm location extended used dop (gpsQuality data location)) := by
  obtain ⟨lat, latLetter, lon, lonLetter, hlatLong⟩ : ∃ lat latLetter lon lonLetter,
      latLongFields location = [lat, latLetter, lon, lonLetter] := by
    unfold latLongFields
    split <;> exact ⟨_, _, _, _, rfl⟩
  obtain ⟨variation, direction, hvariation⟩ : ∃ variation direction,
      variationFields extended = [variation, direction] := by
    unfold variationFields
    split <;> exact ⟨_, _, rfl⟩
  have hsvs : ((List.range 12).map (usedField used)).length = 12 := by
    rw [List.length_map, List.length_range]
  have hdrop : (gsaFields used dop).drop 3 =
      (List.range 12).map (usedField used) ++ dopFields dop := rfl
  constructor
  · rw [readUsed, hdrop, List.take_append_of_le_length hsvs.ge, List.take_of_length_le hsvs.le]
    exact read_usedFields used 12
  · rfl
  · rw [ggaFields, hlatLong]
    exact congrArg some (number_printD 2 used.length)
  · have hfifteen : (gsaFields used dop).drop 15 = ((gsaFields used dop).drop 3).drop 12 := by
      rw [List.drop_drop]
    rw [hfifteen, hdrop]
    exact List.drop_left' hsvs
  · have hgsa : (gsaFields used dop)[16]? = (dopFields dop)[1]? := rfl
    rw [hgsa, ggaFields, hlatLong]
    cases dop <;> rfl
  · rw [rmcFields, hlatLong, hvariation]
    exact ⟨rfl, rfl⟩
  · rw [ggaFields, hlatLong]
    rfl
  · -- both are the time
    refine Eq.trans (b := some (timeText tm)) ?_ ?_
    · rw [ggaFields, hlatLong]
      rfl
    · rw [rmcFields, hlatLong]
      rfl
  · refine Eq.trans (b := [lat, latLetter, lon, lonLetter]) ?_ ?_
    · rw [ggaFields, hlatLong]
      rfl
    · rw [rmcFields, hlatLong]
      rfl
  · rw [rmcFields, hlatLong]
    rfl
  · rw [rmcFields, hlatLong]
    rfl

theorem dopOf_exec (mode : Int32) (before : List NmeaCall) (extended : GpsLocationExtended) :
    dopOf (exec NmeaData.step (.fresh mode) before) extended = fixDop before extended := by
  have hkept : (exec NmeaData.step (.fresh mode) before).keptDop =
      (latest dopGiven before).getD Dop.zero := keptDop_exec (.fresh mode) before
  rw [fixDop, ← hkept, dopOf, GpsLocationExtended.dop]
  cases extended.hasDop <;> rfl

/-- **A fix says what the last report of satellites said**: the satellites that are used, if no final
fix has come since, and the dilutions unless it has its own, if no position report has.  The numbers
are printed as exact arithmetic has them, and the altitude is in reach. -/
theorem fixReads_exec (mode : Int32) (before : List NmeaCall) (tm : Tm) (location : GpsLocation)
    (extended : GpsLocationExtended) (h : location.InReach) :
    ∃ gsa vtg rmc gga,
      (sentTexts (exec NmeaData.step (.fresh mode) before)
        (.pos (some tm) location extended true)).map readSentence =
          [some gsa, some vtg, some rmc, some gga] ∧
      FixReads location (usedSvs (fixMask before)) (fixDop before extended)
        (.fresh ((latest modeGiven before).getD mode)) gsa vtg rmc gga := by
  have hused : svUsedList (exec NmeaData.step (.fresh mode) before) = usedSvs (fixMask before) := by
    rw [svUsedList_eq, svUsedMask_exec]
    rfl
  have hmode : (exec NmeaData.step (.fresh mode) before).mode =
      (latest modeGiven before).getD mode := mode_exec (.fresh mode) before
  have hmodeText : modeText (exec NmeaData.step (.fresh mode) before) location =
      modeText (.fresh ((latest modeGiven before).getD mode)) location := by
    rw [modeText, modeText, hmode]
    rfl
  have hquality : gpsQuality (exec NmeaData.step (.fresh mode) before) location =
      gpsQuality (.fresh ((latest modeGiven before).getD mode)) location := by
    rw [gpsQuality, gpsQuality, hmode]
    rfl
  have hread := read_generatePos (exec NmeaData.step (.fresh mode) before) tm extended h
  rw [hused, dopOf_exec, hmodeText, hquality] at hread
  refine ⟨_, _, _, _, ?_, fixReads_fields tm location extended _ _ _⟩
  rw [sentTexts, List.map_map]
  exact hread

/-- A report of satellites, of which four are used. -/
def mixedStatus : SvStatus := ⟨mixedReport, by decide, 0x8000000D⟩

theorem place_inReach : (place 48 (-11)).InReach := by
  norm_num [GpsLocation.InReach, place]

theorem fixReads_exec_place : (place 48 (-11)).InReach ∧
    usedSvs (fixMask [.sv mixedStatus (deviation Single.zero)]) = [1, 3, 4, 32] ∧
    ∃ gsa vtg rmc gga,
      (sentTexts (exec NmeaData.step (.fresh 0) [.sv mixedStatus (deviation Single.zero)])
        (.pos (some noon) (place 48 (-11)) (deviation Single.zero) true)).map readSentence =
          [some gsa, some vtg, some rmc, some gga] ∧
      FixReads (place 48 (-11)) (usedSvs (fixMask [.sv mixedStatus (deviation Single.zero)]))
        (fixDop [.sv mixedStatus (deviation Single.zero)] (deviation Single.zero))
        (.fresh ((latest modeGiven [.sv mixedStatus (deviation Single.zero)]).getD 0))
        gsa vtg rmc gga :=
  ⟨place_inReach, by decide +kernel,
    fixReads_exec 0 [.sv mixedStatus (deviation Single.zero)] noon (place 48 (-11))
      (deviation Single.zero) place_inReach⟩

/-! ### Every sentence -/

/-- The numbers of fields that a kind of sentences has. -/
def fieldCounts : List (Text × List ℕ) :=
  [(text "GPGSA", [18]), (text "GPVTG", [10]), (text "GPRMC", [13]), (text "GPGGA", [15]),
    (text "GPGSV", [5, 8, 12, 16, 20]), (text "GLGSV", [5, 8, 12, 16, 20])]

/-- The record has a number of fields of its kind. -/
def Shaped (record : List Text) : Prop :=
  ∃ kind ∈ fieldCounts, record.head? = some kind.1 ∧ record.length ∈ kind.2

instance (record : List Text) : Decidable (Shaped record) := List.decidableBEx ..

/-- The altitude of a final fix is in reach. -/
def NmeaCall.InReach : NmeaCall → Prop
  | .pos _ location _ true => location.InReach
  | _ => True

/-- A group has one to four satellites. -/
theorem InFours.length_mem {svs group : List SvInfo} {groups : List (List SvInfo)}
    (h : InFours svs groups) (hgroup : group ∈ groups) : 1 ≤ group.length ∧ group.length ≤ 4 := by
  have hne : groups ≠ [] := List.ne_nil_of_mem hgroup
  have hsplit : groups.dropLast ++ [groups.getLast hne] = groups :=
    List.dropLast_concat_getLast hne
  have hfull : groups.dropLast.flatten.length = 4 * groups.dropLast.length := by
    rw [List.length_flatten, List.map_eq_replicate_iff.mpr h.full, List.sum_replicate, Nat.mul_comm]
    rfl
  have htotal : svs.length = 4 * groups.dropLast.length + (groups.getLast hne).length := by
    rw [← h.flatten, ← hfull, ← List.length_append, ← List.flatten_concat, hsplit]
  have hcount : groups.dropLast.length + 1 = (svs.length + 3) / 4 := by
    rw [← h.length, ← hsplit, List.length_append, hsplit, List.length_singleton]
  rw [← hsplit, List.mem_append, List.mem_singleton] at hgroup
  rcases hgroup with hgroup | rfl
  · have hfour := h.full group hgroup
    omega
  · omega

theorem length_flatMap_entryFields (svs : List SvInfo) :
    (svs.flatMap entryFields).length = 4 * svs.length := by
  induction svs with
  | nil => rfl
  | cons sv svs ih =>
    have hentry : (entryFields sv).length = 4 := rfl
    rw [List.flatMap_cons, List.length_append, ih, hentry, List.length_cons]
    omega

/-- The sentences of a kind of satellites. -/
theorem shaped_gsvTexts {kind : SvKind} {name : Text} (htalker : kind.talker = 36 :: (name ++ [44]))
    (hname : Plain name) (hcounts : (name, [5, 8, 12, 16, 20]) ∈ fieldCounts)
    {svs : List SvInfo} {groups : List (List SvInfo)} (h : InFours svs groups) (count : ℕ) :
    ∀ sent ∈ gsvTexts kind count groups,
      ∃ record, readSentence sent = some record ∧ Shaped record := by
  intro sent hsent
  rw [gsvTexts] at hsent
  split at hsent
  · rw [List.mem_singleton.mp hsent]
    refine ⟨_, read_blank htalker hname, _, hcounts, rfl, ?_⟩
    exact List.mem_cons_self
  · obtain ⟨i, hi, rfl⟩ := List.mem_mapIdx.mp hsent
    refine ⟨_, read_gsvText htalker hname _ _ _ _, _, hcounts, rfl, ?_⟩
    have hlength := h.length_mem (List.getElem_mem hi)
    rw [gsvFields, List.length_append, length_flatMap_entryFields]
    generalize groups[i].length = n at hlength ⊢
    change 4 + 4 * n ∈ [5, 8, 12, 16, 20]
    obtain rfl | rfl | rfl | rfl : n = 1 ∨ n = 2 ∨ n = 3 ∨ n = 4 := by omega
    all_goals decide

/-- The blank sentences. -/
theorem read_blankSentences :
    blankSentences.map
        (fun blank => readSentence (sendSentence (strlcpy nmeaSentenceMaxLength blank)).1) =
      [some ([text "GPGSA", text "A", text "1"] ++ List.replicate 15 []),
        some [text "GPVTG", [], text "T", [], text "M", [], text "N", [], text "K", text "N"],
        some ([text "GPRMC", [], text "V"] ++ List.replicate 9 [] ++ [text "N"]),
        some ([text "GPGGA"] ++ List.replicate 5 [] ++ [text "0"] ++ List.replicate 8 [])] := by
  decide +kernel

theorem shaped_fields (tm : Tm) (location : GpsLocation) (extended : GpsLocationExtended)
    (used : List ℕ) (dop : Option Dop) (mode : Text) (quality : UInt8) :
    ∀ record ∈ [gsaFields used dop, vtgFields location mode, rmcFields tm location extended mode,
      ggaFields tm location extended used dop quality], Shaped record := by
  have hdop : (dopFields dop).length = 3 := by
    cases dop <;> rfl
  have hlatLong : (latLongFields location).length = 4 := by
    unfold latLongFields
    split <;> rfl
  have hvariation : (variationFields extended).length = 2 := by
    unfold variationFields
    split <;> rfl
  have haltitude : (altitudeFields extended).length = 2 := by
    unfold altitudeFields
    split <;> rfl
  have hseparation : (separationFields location extended).length = 4 := by
    unfold separationFields
    split <;> rfl
  simp only [List.forall_mem_cons]
  refine ⟨⟨(text "GPGSA", [18]), by decide, rfl, ?_⟩, ⟨(text "GPVTG", [10]), by decide, rfl, ?_⟩,
    ⟨(text "GPRMC", [13]), by decide, rfl, ?_⟩, ⟨(text "GPGGA", [15]), by decide, rfl, ?_⟩, nofun⟩
  · simp [gsaFields, hdop]
  · simp [vtgFields]
  · simp [rmcFields, hlatLong, hvariation]
  · simp [ggaFields, hlatLong, haltitude, hseparation]

/-- **Every sentence is read back**, whatever is kept and whatever is reported, with an altitude in
reach: its checksum is valid, and it has a number of fields of its kind. -/
theorem shaped_sentTexts (data : NmeaData) (call : NmeaCall) (h : call.InReach) :
    ∀ sent ∈ sentTexts data call, ∃ record, readSentence sent = some record ∧ Shaped record := by
  have hmapped : ∀ (sents : List Text) (records : List (List Text)),
      sents.map readSentence = records.map some → (∀ record ∈ records, Shaped record) →
        ∀ sent ∈ sents, ∃ record, readSentence sent = some record ∧ Shaped record := by
    intro sents records hmap hshaped sent hsent
    have hmem : readSentence sent ∈ records.map some := hmap ▸ List.mem_map_of_mem hsent
    obtain ⟨record, hrecord, heq⟩ := List.mem_map.mp hmem
    exact ⟨record, heq.symm, hshaped record hrecord⟩
  cases call with
  | sv status extended =>
    obtain ⟨gpsGroups, glnGroups, hgps, hgln, -, hsents⟩ :=
      generateSv_partition status.svList status.fits
    have hplain : Plain (text "GPGSV") ∧ Plain (text "GLGSV") := by decide
    have hcounts : (text "GPGSV", [5, 8, 12, 16, 20]) ∈ fieldCounts ∧
        (text "GLGSV", [5, 8, 12, 16, 20]) ∈ fieldCounts := by decide
    change ∀ sent ∈ (locEngNmeaGenerateSv status.svList).1.map Prod.fst, _
    rw [hsents, List.forall_mem_append]
    exact ⟨shaped_gsvTexts rfl hplain.1 hcounts.1 hgps _,
      shaped_gsvTexts rfl hplain.2 hcounts.2 hgln _⟩
  | pos tm location extended generateNmea =>
    cases tm with
    | none => exact nofun
    | some tm =>
      cases generateNmea with
      | false =>
        refine hmapped _ [_, _, _, _] ((List.map_map ..).trans
          ((List.map_map ..).trans read_blankSentences)) ?_
        decide
      | true =>
        refine hmapped _ [_, _, _, _]
          ((List.map_map ..).trans (read_generatePos data tm extended h)) ?_
        exact shaped_fields tm location extended _ _ _ _
  | positionMode mode => exact nofun

theorem shaped_sentTexts_place :
    (NmeaCall.pos (some noon) (place 48 (-11)) (deviation Single.zero) true).InReach ∧
    ∀ sent ∈ sentTexts standalone (.pos (some noon) (place 48 (-11)) (deviation Single.zero) true),
      ∃ record, readSentence sent = some record ∧ Shaped record :=
  ⟨place_inReach, shaped_sentTexts standalone
    (.pos (some noon) (place 48 (-11)) (deviation Single.zero) true) place_inReach⟩

end Eng
end Nx507j
