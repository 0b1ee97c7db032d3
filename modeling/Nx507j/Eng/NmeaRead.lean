import Nx507j.Eng.NmeaFields
import Nx507j.Eng.NmeaSv
import Nx507j.Lib.Fields

/-!
# Sentences that are read

A sentence is read back: its checksum is looked at, and what stands between the `$` and the `*` is
split at the commas.  What the generators send reads back as records of fields, with the same number
of fields whatever is known.

## Main definitions

* `readSentence` — the fields of a sentence with a valid checksum.
* `gsaFields`, `vtgFields`, `rmcFields`, `ggaFields`, `gsvFields` — the records.

## Main results

* `read_generatePos` — the four sentences of a final fix.
* `readSvs_generateSv` — the satellites of a report are read back.
-/

namespace Nx507j
namespace Eng

open CText Fields

/-! ### Reading -/

/-- The fields of a sentence, if its checksum is valid. -/
def readSentence (sent : Text) : Option (List Text) :=
  let body := (sent.drop 1).takeWhile (· ≠ 42)
  if sent = 36 :: (body ++ checksumText body) then some (fields body) else none

/-- The characters of a field: digits, letters, a sign and a point. -/
def Plain (field : Text) : Prop :=
  ∀ c ∈ field, 48 ≤ c ∧ c ≤ 57 ∨ 65 ≤ c ∧ c ≤ 90 ∨ c = 45 ∨ c = 46

instance (field : Text) : Decidable (Plain field) := List.decidableBAll ..

theorem isDigit_ten {c : UInt8} (h : IsDigit 10 c) : 48 ≤ c ∧ c ≤ 57 := by
  have hall : ∀ n : Fin 256, IsDigit 10 (UInt8.ofFin n) → 48 ≤ UInt8.ofFin n ∧
      UInt8.ofFin n ≤ 57 := by decide +kernel
  exact hall c.toFin h

theorem plain_nil : Plain [] := nofun

theorem Plain.append {field field' : Text} (h : Plain field) (h' : Plain field') :
    Plain (field ++ field') :=
  List.forall_mem_append.mpr ⟨h, h'⟩

theorem plain_printD (width : ℕ) (n : ℤ) : Plain (printD width n) := by
  intro c hc
  rcases mem_printD hc with h | rfl
  · exact .inl (isDigit_ten h)
  · exact .inr (.inr (.inl rfl))

theorem plain_printF (width digits : ℕ) (x : ℚ) : Plain (printF width digits x) := by
  intro c hc
  rcases mem_printF hc with h | rfl | rfl
  · exact .inl (isDigit_ten h)
  · exact .inr (.inr (.inl rfl))
  · exact .inr (.inr (.inr rfl))

theorem plain_printTenths (x : ℚ) : Plain (printTenths x) := plain_printF 0 1 x

theorem plain_twoDigits (n : ℤ) : Plain (twoDigits n) := by
  refine Plain.append (fun c hc => ?_) (plain_printD 2 _)
  rw [sign] at hc
  split at hc
  · exact .inr (.inr (.inl (List.mem_singleton.mp hc)))
  · cases hc

theorem plain_timeText (tm : Tm) : Plain (timeText tm) :=
  ((plain_printD 2 _).append (plain_printD 2 _)).append (plain_printD 2 _)

/-- A character of a plain field is neither a comma nor the end of the fields. -/
theorem Plain.ne {field : Text} (h : Plain field) {c : UInt8} (hc : c ∈ field) :
    c ≠ 42 ∧ c ≠ 44 := by
  have hplain := h c hc
  constructor
  · rintro rfl
    exact absurd hplain (by decide)
  · rintro rfl
    exact absurd hplain (by decide)

variable {record : List Text}

/-- **A record with its checksum is read back.** -/
theorem readSentence_withChecksum (hne : record ≠ []) (h : ∀ field ∈ record, Plain field) :
    readSentence (withChecksum (36 :: joined 44 record)) = some record := by
  have hstar : ∀ c ∈ joined 44 record, decide (c ≠ 42) = true := by
    intro c hc
    refine decide_eq_true ?_
    rcases eq_or_mem_of_mem_joined hc with rfl | ⟨field, hfield, hc⟩
    · decide
    · exact ((h field hfield).ne hc).1
  have hbody : (joined 44 record ++ checksumText (joined 44 record)).takeWhile (· ≠ 42) =
      joined 44 record := by
    rw [List.takeWhile_append_of_pos hstar, checksumText, List.cons_append,
      List.takeWhile_cons_of_neg (by decide), List.append_nil]
  have hsent : withChecksum (36 :: joined 44 record) =
      36 :: (joined 44 record ++ checksumText (joined 44 record)) := rfl
  have hfields : fields (joined 44 record) = record :=
    splitOnP_joined hne fun field hfield hmem => ((h field hfield).ne hmem).2 rfl
  rw [readSentence, hsent, List.drop_one, List.tail_cons, hbody, if_pos rfl, hfields]

/-- A record that leaves room for its checksum is read back as it is sent. -/
theorem readSentence_sendSentence (hne : record ≠ []) (h : ∀ field ∈ record, Plain field)
    {sentence : Text} (hsentence : sentence = 36 :: joined 44 record)
    (hroom : sentence.length + 6 ≤ nmeaSentenceMaxLength) :
    readSentence (sendSentence sentence).1 = some record := by
  have hpos : 0 < sentence.length := by
    rw [hsentence]
    exact Nat.succ_pos _
  rw [sendSentence, locEngNmeaPutChecksum_eq hpos hroom, hsentence]
  exact readSentence_withChecksum hne h

/-! ### The records of a fix -/

/-- The three dilutions. -/
structure Dop where
  pdop : Single
  hdop : Single
  vdop : Single
  deriving DecidableEq

/-- The dilutions that are sent: those of the report, or those that are kept. -/
def dopOf (data : NmeaData) (extended : GpsLocationExtended) : Option Dop :=
  if extended.hasDop then some ⟨extended.pdop, extended.hdop, extended.vdop⟩
  else if data.pdop.value > 0 ∧ data.hdop.value > 0 ∧ data.vdop.value > 0 then
    some ⟨data.pdop, data.hdop, data.vdop⟩
  else none

def dopFields : Option Dop → List Text
  | some dop => [printTenths dop.pdop.value, printTenths dop.hdop.value, printTenths dop.vdop.value]
  | none => [[], [], []]

/-- The field of the `i`-th satellite that is used. -/
def usedField (used : List ℕ) (i : ℕ) : Text :=
  match used[i]? with
  | some sv => printD 2 sv
  | none => []

def gsaFields (used : List ℕ) (dop : Option Dop) : List Text :=
  [text "GPGSA", text "A", [fixType used]] ++ (List.range 12).map (usedField used) ++ dopFields dop

def courseField (location : GpsLocation) : Text :=
  if location.hasBearing then printTenths location.bearing.value else []

def knotsField (location : GpsLocation) : Text :=
  if location.hasSpeed then printTenths (speedKnots location) else []

def kmPerHourField (location : GpsLocation) : Text :=
  if location.hasSpeed then printTenths (speedKmPerHour location) else []

def vtgFields (location : GpsLocation) (mode : Text) : List Text :=
  [text "GPVTG", courseField location, text "T", courseField location, text "M",
    knotsField location, text "N", kmPerHourField location, text "K", mode]

/-- The degrees and the minutes, and the hemisphere. -/
def latLongFields (location : GpsLocation) : List Text :=
  if location.hasLatLong then
    [coordinateField 2 (latHemisphere location.latitude).2, [(latHemisphere location.latitude).1],
      coordinateField 3 (lonHemisphere location.longitude).2,
      [(lonHemisphere location.longitude).1]]
  else [[], [], [], []]

def dateField (tm : Tm) : Text :=
  twoDigits tm.tmMday.val ++ twoDigits (tm.tmMon.val + 1 : ℕ) ++
    twoDigits (tm.tmYear.toInt.tmod 100)

def variationFields (extended : GpsLocationExtended) : List Text :=
  if extended.hasMagDev then
    [printTenths (magneticVariation extended).1, [(magneticVariation extended).2]]
  else [[], []]

def rmcFields (tm : Tm) (location : GpsLocation) (extended : GpsLocationExtended) (mode : Text) :
    List Text :=
  [text "GPRMC", timeText tm, text "A"] ++ latLongFields location ++
    [knotsField location, courseField location, dateField tm] ++ variationFields extended ++ [mode]

def hdopField : Option Dop → Text
  | some dop => printTenths dop.hdop.value
  | none => []

def altitudeFields (extended : GpsLocationExtended) : List Text :=
  if extended.hasAltitudeMeanSeaLevel then
    [printTenths extended.altitudeMeanSeaLevel.value, text "M"]
  else [[], []]

def separationFields (location : GpsLocation) (extended : GpsLocationExtended) : List Text :=
  if location.hasAltitude && extended.hasAltitudeMeanSeaLevel then
    [printTenths (location.altitude - extended.altitudeMeanSeaLevel.value), text "M", [], []]
  else [[], [], [], []]

def ggaFields (tm : Tm) (location : GpsLocation) (extended : GpsLocationExtended) (used : List ℕ)
    (dop : Option Dop) (quality : UInt8) : List Text :=
  [text "GPGGA", timeText tm] ++ latLongFields location ++
    [[quality], printD 2 used.length, hdopField dop] ++ altitudeFields extended ++
    separationFields location extended

/-! ### The sentences of a fix are read back -/

/-- A sentence that is printed piece by piece and leaves room for its checksum is read back. -/
theorem read_printed {pieces : List Text} {last : Text} (hne : record ≠ [])
    (hplain : ∀ field ∈ record, Plain field)
    (htext : pieces.flatten ++ last = 36 :: joined 44 record)
    (hroom : pieces.flatten.length + last.length + 6 ≤ nmeaSentenceMaxLength) :
    ∃ s, (do let s ← Sentence.empty.printAll pieces; return s.put last) = some s ∧
      readSentence (sendSentence s.text).1 = some record := by
  have hempty : Sentence.empty.text = [] := rfl
  obtain ⟨s, hs, hpieces⟩ := printAll_eq pieces (s := Sentence.empty) (by
    rw [hempty, List.length_nil]
    omega)
  rw [hempty, List.nil_append] at hpieces
  have hlast : last.length ≤ s.lengthRemaining - 1 := by
    rw [Sentence.lengthRemaining, hpieces]
    omega
  have hput : (s.put last).text = pieces.flatten ++ last := by
    change s.text ++ last.take (s.lengthRemaining - 1) = _
    rw [List.take_of_length_le hlast, hpieces]
  rw [hs]
  refine ⟨s.put last, rfl, readSentence_sendSentence hne hplain (hput.trans htext) ?_⟩
  rw [hput, List.length_append]
  exact hroom

variable (data : NmeaData) (tm : Tm) (location : GpsLocation) (extended : GpsLocationExtended)

theorem dopText_eq : dopText data extended = joined 44 (dopFields (dopOf data extended)) := by
  unfold dopText dopOf
  split_ifs
  · simp [dopFields, joined_cons]
  · simp [dopFields, joined_cons]
  · rfl

theorem plain_dopFields (dop : Option Dop) : ∀ field ∈ dopFields dop, Plain field := by
  cases dop with
  | none => decide
  | some dop =>
    simp only [dopFields, List.forall_mem_cons, plain_printTenths, true_and]
    exact nofun

theorem length_dopText_le : (dopText data extended).length ≤ 131 := by
  have hlength : ∀ dop : Dop, (joined 44 (dopFields (some dop))).length ≤ 131 := by
    intro dop
    have hpdop := length_printTenths_single_le dop.pdop
    have hhdop := length_printTenths_single_le dop.hdop
    have hvdop := length_printTenths_single_le dop.vdop
    simp only [dopFields, joined_cons (List.cons_ne_nil _ _), joined_singleton, List.length_append,
      List.length_cons]
    omega
  rw [dopText_eq]
  cases dopOf data extended with
  | none => decide
  | some dop => exact hlength dop

theorem usedText_eq (used : List ℕ) (i : ℕ) : usedText used i = usedField used i ++ [44] := by
  unfold usedText usedField
  cases used[i]? with
  | none => rfl
  | some sv => rfl

theorem plain_usedField (used : List ℕ) (i : ℕ) : Plain (usedField used i) := by
  unfold usedField
  cases used[i]? with
  | none => exact plain_nil
  | some sv => exact plain_printD 2 sv

theorem plain_fixType (used : List ℕ) : Plain [fixType used] := by
  unfold fixType
  split_ifs <;> decide

/-- **GPGSA is read back.** -/
theorem read_gpgsa : ∃ s, gpgsa data extended = some s ∧
    readSentence (sendSentence s.text).1 =
      some (gsaFields (svUsedList data) (dopOf data extended)) := by
  have hhead : text "$GPGSA,A," ++ [fixType (svUsedList data), 44] =
      36 :: ended 44 [text "GPGSA", text "A", [fixType (svUsedList data)]] := rfl
  have hused : ((List.range 12).map (usedText (svUsedList data))).flatten =
      ended 44 ((List.range 12).map (usedField (svUsedList data))) := by
    rw [ended, List.flatMap_map, List.flatMap_def, funext (usedText_eq (svUsedList data))]
  have hdopFields : dopFields (dopOf data extended) ≠ [] := by
    cases dopOf data extended <;> exact List.cons_ne_nil _ _
  have hlengthHead : (text "$GPGSA,A," ++ [fixType (svUsedList data), 44]).length = 11 := rfl
  have hlengthUsed :
      ((List.range 12).map (usedText (svUsedList data))).flatten.length ≤ 12 * 3 := by
    rw [← List.flatMap_def]
    exact Lists.length_flatMap_le fun i _ => length_usedText_le data i
  have hlengthDop := length_dopText_le data extended
  refine read_printed ?_ ?_ ?_ ?_
  · exact List.cons_ne_nil _ _
  · intro field hfield
    rw [gsaFields, List.mem_append, List.mem_append, List.mem_map] at hfield
    rcases hfield with (hfield | ⟨i, -, rfl⟩) | hfield
    · simp only [List.mem_cons, List.not_mem_nil, or_false] at hfield
      rcases hfield with rfl | rfl | rfl
      · decide
      · decide
      · exact plain_fixType _
    · exact plain_usedField _ i
    · exact plain_dopFields _ field hfield
  · rw [List.flatten_cons, hhead, hused, dopText_eq, gsaFields, List.cons_append, List.cons_append,
      ← ended_append, ended_append_joined hdopFields]
  · rw [List.flatten_cons, List.length_append, hlengthHead, nmeaSentenceMaxLength]
    omega

theorem trackText_eq : trackText location extended =
    36 :: ended 44 [text "GPVTG", courseField location, text "T", courseField location,
      text "M"] := by
  unfold trackText gpvtgTracks courseField
  cases location.hasBearing with
  | false => rfl
  | true =>
    have htalker : text "$GPVTG," = 36 :: (text "GPVTG" ++ [44]) := rfl
    have htrue : text ",T," = 44 :: (text "T" ++ [44]) := rfl
    have hmagnetic : text ",M," = 44 :: (text "M" ++ [44]) := rfl
    rw [if_pos rfl, if_pos rfl, htalker, htrue, hmagnetic, magTrack_eq]
    simp

theorem speedText_eq : speedText location =
    ended 44 [knotsField location, text "N", kmPerHourField location, text "K"] := by
  unfold speedText knotsField kmPerHourField
  cases location.hasSpeed with
  | false => rfl
  | true =>
    have hknots : text ",N," = 44 :: (text "N" ++ [44]) := rfl
    have hkm : text ",K," = 44 :: (text "K" ++ [44]) := rfl
    rw [if_pos rfl, if_pos rfl, if_pos rfl, hknots, hkm]
    simp

theorem plain_courseField : Plain (courseField location) := by
  unfold courseField
  split
  · exact plain_printTenths _
  · exact plain_nil

theorem plain_knotsField : Plain (knotsField location) := by
  unfold knotsField
  split
  · exact plain_printTenths _
  · exact plain_nil

theorem plain_kmPerHourField : Plain (kmPerHourField location) := by
  unfold kmPerHourField
  split
  · exact plain_printTenths _
  · exact plain_nil

theorem modeText_spec : Plain (modeText data location) ∧ (modeText data location).length = 1 := by
  unfold modeText
  split_ifs <;> decide

/-- **GPVTG is read back.** -/
theorem read_gpvtg : ∃ s, gpvtg data location extended = some s ∧
    readSentence (sendSentence s.text).1 =
      some (vtgFields location (modeText data location)) := by
  obtain ⟨hmode, hlengthMode⟩ := modeText_spec data location
  have hlengthTrack := length_trackText_le location extended
  have hlengthSpeed := length_speedText_le location
  have hcourse := plain_courseField location
  have hT : Plain (text "T") := by decide
  have hM : Plain (text "M") := by decide
  have hN : Plain (text "N") := by decide
  have hK : Plain (text "K") := by decide
  refine read_printed ?_ ?_ ?_ ?_
  · exact List.cons_ne_nil _ _
  · simp only [vtgFields, List.forall_mem_cons, hcourse, hT, hM, hN, hK, hmode,
      plain_knotsField location, plain_kmPerHourField location, true_and]
    exact ⟨by decide, nofun⟩
  · have hlast : modeText data location = joined 44 [modeText data location] :=
      (joined_singleton _ _).symm
    rw [List.flatten_cons, List.flatten_singleton, trackText_eq, speedText_eq, List.cons_append,
      List.cons_append, ← ended_append, hlast, ended_append_joined (List.cons_ne_nil _ _),
      joined_singleton]
    rfl
  · rw [List.flatten_cons, List.flatten_singleton, List.length_append, hlengthMode,
      nmeaSentenceMaxLength]
    omega

theorem coordinateText_eq (width : ℕ) (hemisphere : UInt8 × ℚ) : coordinateText width hemisphere =
    ended 44 [coordinateField width hemisphere.2, [hemisphere.1]] := by
  simp [coordinateText, coordinateField]

theorem latLongText_eq : latLongText location = ended 44 (latLongFields location) := by
  unfold latLongText latLongFields
  split
  · rw [coordinateText_eq, coordinateText_eq, ← ended_append]
    rfl
  · rfl

theorem plain_latLongFields : ∀ field ∈ latLongFields location, Plain field := by
  have hdegrees : ∀ width x, Plain (coordinateField width x) :=
    fun width x => (plain_printD width _).append (plain_printF 9 6 _)
  have hlat : Plain [(latHemisphere location.latitude).1] := by
    unfold latHemisphere
    split
    · exact (by decide : Plain [78])
    · exact (by decide : Plain [83])
  have hlon : Plain [(lonHemisphere location.longitude).1] := by
    unfold lonHemisphere
    split
    · exact (by decide : Plain [87])
    · exact (by decide : Plain [69])
  unfold latLongFields
  split
  · simp only [List.forall_mem_cons, hdegrees, hlat, hlon, true_and]
    exact nofun
  · decide

theorem variationText_eq : variationText extended = ended 44 (variationFields extended) := by
  unfold variationText gprmcVariation variationFields
  cases extended.hasMagDev with
  | false => rfl
  | true =>
    rw [if_pos rfl, if_pos rfl]
    simp

theorem plain_variationFields : ∀ field ∈ variationFields extended, Plain field := by
  have hdirection : Plain [(magneticVariation extended).2] := by
    unfold magneticVariation
    dsimp only
    split
    · exact (by decide : Plain [87])
    · exact (by decide : Plain [69])
  unfold variationFields
  split
  · simp only [List.forall_mem_cons, plain_printTenths, hdirection, true_and]
    exact nofun
  · decide

theorem dateText_eq : dateText tm = ended 44 [dateField tm] := by
  simp [dateText, dateField]

/-- Only the year may have a sign. -/
theorem length_dateText_lt : (dateText tm).length < 9 := by
  have hdigits : ∀ n : ℕ, n < 100 → (twoDigits n).length = 2 := by
    intro n hn
    have hsign : sign (n : ℤ) = [] := if_neg (by omega)
    rw [twoDigits, hsign, List.nil_append, Int.natAbs_natCast]
    exact length_printD_natCast (by decide) hn
  have hday := hdigits tm.tmMday.val (by omega)
  have hmonth := hdigits (tm.tmMon.val + 1) (by omega)
  have hyear : (twoDigits (tm.tmYear.toInt.tmod 100)).length ≤ 3 :=
    length_twoDigits_le (by rw [Int.natAbs_tmod]; exact Nat.mod_lt _ (by decide))
  rw [dateText_eq, ended_cons, ended_nil, dateField, List.length_append, List.length_append,
    List.length_append, hday, hmonth, List.length_singleton]
  omega

/-- **GPRMC is read back.** -/
theorem read_gprmc : ∃ s, gprmc tm data location extended = some s ∧
    readSentence (sendSentence s.text).1 =
      some (rmcFields tm location extended (modeText data location)) := by
  obtain ⟨hmode, hlengthMode⟩ := modeText_spec data location
  have hhead : text "$GPRMC," ++ timeText tm ++ text ",A," =
      36 :: ended 44 [text "GPRMC", timeText tm, text "A"] := by
    have htalker : text "$GPRMC," = 36 :: (text "GPRMC" ++ [44]) := rfl
    have hvalid : text ",A," = 44 :: (text "A" ++ [44]) := rfl
    rw [htalker, hvalid]
    simp
  have hknots : knotsText location = ended 44 [knotsField location] := by
    unfold knotsText knotsField
    split <;> simp
  have hbearing : bearingText location = ended 44 [courseField location] := by
    unfold bearingText courseField
    split <;> simp
  have hlast : modeText data location = joined 44 [modeText data location] :=
    (joined_singleton _ _).symm
  have hlengthHead : (text "$GPRMC," ++ timeText tm ++ text ",A,").length = 16 := by
    rw [List.length_append, List.length_append, length_timeText]
    rfl
  have hlengthLatLong := length_latLongText_le location
  have hlengthKnots := length_knotsText_le location
  have hlengthBearing := length_bearingText_le location
  have hlengthDate := length_dateText_lt tm
  have hlengthVariation := length_variationText_le extended
  refine read_printed ?_ ?_ ?_ ?_
  · exact List.cons_ne_nil _ _
  · have hdate : Plain (dateField tm) :=
      ((plain_twoDigits _).append (plain_twoDigits _)).append (plain_twoDigits _)
    simp only [rmcFields, List.forall_mem_append, List.forall_mem_cons, hmode, hdate,
      plain_timeText, plain_knotsField location, plain_courseField location, true_and]
    refine ⟨⟨⟨⟨?_, plain_latLongFields location⟩, nofun⟩, plain_variationFields extended⟩, nofun⟩
    exact ⟨by decide, by decide, nofun⟩
  · simp only [List.flatten_cons, List.flatten_nil, List.append_nil]
    rw [hhead, latLongText_eq, hknots, hbearing, dateText_eq, variationText_eq, List.cons_append,
      List.cons_append, hlast, ← ended_append, ← ended_append, ← ended_append, ← ended_append,
      ← ended_append, ended_append_joined (List.cons_ne_nil _ _), joined_singleton, rmcFields]
    simp only [List.append_assoc, List.cons_append, List.nil_append]
  · simp only [List.flatten_cons, List.flatten_nil, List.length_append, List.length_nil,
      hlengthMode, nmeaSentenceMaxLength] at hlengthHead ⊢
    omega

theorem qualityText_eq : qualityText data location extended =
    ended 44 [[gpsQuality data location], printD 2 (svUsedList data).length,
      hdopField (dopOf data extended)] := by
  unfold qualityText dopOf
  dsimp only
  split_ifs <;> simp [hdopField]

theorem altitudeText_eq : altitudeText extended = ended 44 (altitudeFields extended) := by
  have hmetres : text ",M," = 44 :: (text "M" ++ [44]) := rfl
  unfold altitudeText altitudeFields
  split
  · rw [hmetres]
    simp
  · rfl

theorem separationText_eq :
    separationText location extended = joined 44 (separationFields location extended) := by
  have hmetres : text ",M,," = 44 :: (text "M" ++ [44, 44]) := rfl
  unfold separationText separationFields
  split
  · rw [hmetres]
    simp [joined_cons]
  · rfl

theorem plain_altitudeFields : ∀ field ∈ altitudeFields extended, Plain field := by
  have hM : Plain (text "M") := by decide
  unfold altitudeFields
  split
  · simp only [List.forall_mem_cons, plain_printTenths, hM, true_and]
    exact nofun
  · decide

theorem plain_separationFields : ∀ field ∈ separationFields location extended, Plain field := by
  have hM : Plain (text "M") := by decide
  unfold separationFields
  split
  · simp only [List.forall_mem_cons, plain_printTenths, plain_nil, hM, true_and]
    exact nofun
  · decide

/-- An altitude that leaves room for the checksum of its sentence. -/
def GpsLocation.InReach (location : GpsLocation) : Prop := |location.altitude| ≤ 10 ^ 42

theorem length_separationText_le {location : GpsLocation} (h : location.InReach) :
    (separationText location extended).length ≤ 51 := by
  have hsea := extended.altitudeMeanSeaLevel.abs_le
  have habs : |location.altitude - extended.altitudeMeanSeaLevel.value| ≤ 10 ^ 43 := by
    refine (abs_sub _ _).trans ?_
    calc |location.altitude| + |extended.altitudeMeanSeaLevel.value|
        ≤ 10 ^ 42 + 10 ^ 39 := add_le_add h hsea
      _ ≤ 10 ^ 43 := by norm_num
  have hprint : (printTenths (location.altitude - extended.altitudeMeanSeaLevel.value)).length ≤
      47 := length_printF_le (by decide) habs
  have hmetres : (text ",M,,").length = 4 := rfl
  unfold separationText
  split
  · rw [List.length_append, hmetres]
    omega
  · decide

/-- **GPGGA is read back**, where the altitude is in reach. -/
theorem read_gpgga {location : GpsLocation} (h : location.InReach) :
    ∃ s, gpgga tm data location extended = some s ∧
      readSentence (sendSentence s.text).1 =
        some (ggaFields tm location extended (svUsedList data) (dopOf data extended)
          (gpsQuality data location)) := by
  have hhead : text "$GPGGA," ++ timeText tm ++ [44] =
      36 :: ended 44 [text "GPGGA", timeText tm] := by
    have htalker : text "$GPGGA," = 36 :: (text "GPGGA" ++ [44]) := rfl
    rw [htalker]
    simp
  have hne : separationFields location extended ≠ [] := by
    unfold separationFields
    split <;> exact List.cons_ne_nil _ _
  have hlengthHead : (text "$GPGGA," ++ timeText tm ++ [44]).length = 14 := by
    rw [List.length_append, List.length_append, length_timeText]
    rfl
  have hlengthLatLong := length_latLongText_le location
  have hlengthQuality := length_qualityText_le data location extended
  have hlengthAltitude := length_altitudeText_le extended
  have hlengthSeparation := length_separationText_le extended h
  refine read_printed ?_ ?_ ?_ ?_
  · exact List.cons_ne_nil _ _
  · have hquality : Plain [gpsQuality data location] := by
      unfold gpsQuality
      split_ifs <;> decide
    have hhdop : Plain (hdopField (dopOf data extended)) := by
      cases dopOf data extended with
      | none => exact plain_nil
      | some dop => exact plain_printTenths _
    simp only [ggaFields, List.forall_mem_append, List.forall_mem_cons, hquality, hhdop,
      plain_timeText, plain_printD, true_and]
    refine ⟨⟨⟨⟨?_, plain_latLongFields location⟩, nofun⟩, plain_altitudeFields extended⟩,
      plain_separationFields location extended⟩
    exact ⟨by decide, nofun⟩
  · simp only [List.flatten_cons, List.flatten_nil, List.append_nil]
    rw [hhead, latLongText_eq, qualityText_eq, altitudeText_eq, separationText_eq, List.cons_append,
      List.cons_append, ← ended_append, ← ended_append, ← ended_append, ended_append_joined hne,
      ggaFields]
    simp only [List.append_assoc, List.cons_append, List.nil_append]
  · simp only [List.flatten_cons, List.flatten_nil, List.length_append, List.length_nil,
      nmeaSentenceMaxLength] at hlengthHead ⊢
    omega

/-- **The four sentences of a final fix are read back.** -/
theorem read_generatePos {location : GpsLocation} (h : location.InReach) :
    (locEngNmeaGeneratePos (some tm) data location extended true).1.map
        (fun sent => readSentence sent.1) =
      [some (gsaFields (svUsedList data) (dopOf data extended)),
        some (vtgFields location (modeText data location)),
        some (rmcFields tm location extended (modeText data location)),
        some (ggaFields tm location extended (svUsedList data) (dopOf data extended)
          (gpsQuality data location))] := by
  obtain ⟨gsa, hgsa, hgsaRead⟩ := read_gpgsa data extended
  obtain ⟨vtg, hvtg, hvtgRead⟩ := read_gpvtg data location extended
  obtain ⟨rmc, hrmc, hrmcRead⟩ := read_gprmc data tm location extended
  obtain ⟨gga, hgga, hggaRead⟩ := read_gpgga data tm extended h
  rw [locEngNmeaGeneratePos]
  dsimp only
  rw [if_pos rfl, hgsa, hvtg, hrmc, hgga]
  simp only [sendWhile, List.map_cons, List.map_nil, hgsaRead, hvtgRead, hrmcRead, hggaRead]

/-! ### The satellites are read back -/

/-- A satellite that is read. -/
structure SvReading where
  prn : ℤ
  elevation : ℤ
  azimuth : ℤ
  snr : Option ℤ
  deriving DecidableEq, Repr

/-- Four fields for each satellite. -/
def readEntries : List Text → List SvReading
  | prn :: elevation :: azimuth :: snr :: record =>
    ⟨signed prn, signed elevation, signed azimuth, if snr = [] then none else some (signed snr)⟩ ::
      readEntries record
  | _ => []

/-- The satellites in a sentence of a kind. -/
def readSv (name : Text) (sent : Text) : List SvReading :=
  match readSentence sent with
  | some record => if record.head? = some name then readEntries (record.drop 4) else []
  | none => []

/-- The satellites in all sentences of a kind. -/
def readSvs (name : Text) (sents : List Text) : List SvReading := sents.flatMap (readSv name)

/-- What is to be read of a satellite. -/
def SvInfo.reading (sv : SvInfo) : SvReading :=
  ⟨sv.prn.toInt, sv.elevation.toInt, sv.azimuth.toInt,
    if sv.hasSnr then some sv.snr.toInt else none⟩

def entryFields (sv : SvInfo) : List Text :=
  [printD 2 sv.prn.toInt, printD 2 sv.elevation.toInt, printD 3 sv.azimuth.toInt,
    if sv.hasSnr then snrText sv else []]

def gsvFields (name : Text) (sentenceCount sentenceNumber count : ℕ) (svs : List SvInfo) :
    List Text :=
  [name, printD 0 sentenceCount, printD 0 sentenceNumber, printD 2 count] ++
    svs.flatMap entryFields

theorem entryText_eq (sv : SvInfo) : entryText sv = 44 :: joined 44 (entryFields sv) := by
  simp [entryText, svText, entryFields, joined_cons]

/-- Entries continue a record. -/
theorem joined_entries (hne : record ≠ []) (svs : List SvInfo) :
    joined 44 record ++ svs.flatMap entryText = joined 44 (record ++ svs.flatMap entryFields) := by
  induction svs generalizing record with
  | nil => simp
  | cons sv svs ih =>
    have hentry : entryFields sv ≠ [] := List.cons_ne_nil _ _
    have hrecord : record ++ entryFields sv ≠ [] := List.append_ne_nil_of_left_ne_nil hne _
    rw [List.flatMap_cons, List.flatMap_cons, entryText_eq, ← List.append_assoc,
      joined_append hne hentry, ih hrecord, List.append_assoc]

theorem plain_entryFields (sv : SvInfo) : ∀ field ∈ entryFields sv, Plain field := by
  have hsnr : Plain (if sv.hasSnr then snrText sv else []) := by
    split
    · exact plain_printD 2 _
    · exact plain_nil
  simp only [entryFields, List.forall_mem_cons, plain_printD, hsnr, true_and]
  exact nofun

theorem printD_ne_nil (width : ℕ) (n : ℤ) : printD width n ≠ [] :=
  List.append_ne_nil_of_right_ne_nil _ (numeral_ne_nil 10 n.natAbs)

theorem readEntries_flatMap (svs : List SvInfo) :
    readEntries (svs.flatMap entryFields) = svs.map SvInfo.reading := by
  induction svs with
  | nil => rfl
  | cons sv svs ih =>
    have hsnr : (if (if sv.hasSnr then snrText sv else []) = [] then none
        else some (signed (if sv.hasSnr then snrText sv else []))) =
          if sv.hasSnr then some sv.snr.toInt else none := by
      cases sv.hasSnr with
      | false => rfl
      | true =>
        simp only [if_true]
        rw [snrText, if_neg (printD_ne_nil 2 _), signed_printD]
    rw [List.flatMap_cons, List.map_cons, ← ih]
    simp only [entryFields, List.cons_append, List.nil_append, readEntries, signed_printD, hsnr]
    rfl

variable {kind : SvKind} {name : Text}

/-- **A sentence with satellites is read back.** -/
theorem read_gsvText (htalker : kind.talker = 36 :: (name ++ [44])) (hname : Plain name)
    (sentenceCount sentenceNumber count : ℕ) (svs : List SvInfo) :
    readSentence (gsvText kind sentenceCount sentenceNumber count svs) =
      some (gsvFields name sentenceCount sentenceNumber count svs) := by
  have hheader : headerText kind sentenceCount sentenceNumber count =
      36 :: joined 44 [name, printD 0 sentenceCount, printD 0 sentenceNumber, printD 2 count] := by
    simp [headerText, htalker, joined_cons]
  have htext : headerText kind sentenceCount sentenceNumber count ++ svs.flatMap entryText =
      36 :: joined 44 (gsvFields name sentenceCount sentenceNumber count svs) := by
    rw [hheader, List.cons_append, joined_entries (List.cons_ne_nil _ _), gsvFields]
  rw [gsvText, htext]
  refine readSentence_withChecksum (List.cons_ne_nil _ _) ?_
  rw [gsvFields, List.forall_mem_append]
  refine ⟨?_, fun field hfield => ?_⟩
  · simp only [List.forall_mem_cons, hname, plain_printD, true_and]
    exact List.forall_mem_nil _
  · obtain ⟨sv, -, hfield⟩ := List.mem_flatMap.mp hfield
    exact plain_entryFields sv field hfield

theorem read_blank (htalker : kind.talker = 36 :: (name ++ [44])) (hname : Plain name) :
    readSentence (withChecksum (kind.talker ++ text "1,1,0,")) =
      some [name, text "1", text "1", text "0", []] := by
  have htext : kind.talker ++ text "1,1,0," =
      36 :: joined 44 [name, text "1", text "1", text "0", []] := by
    have hblank : text "1,1,0," = text "1" ++ 44 :: (text "1" ++ 44 :: (text "0" ++ [44])) := rfl
    rw [htalker, hblank]
    simp [joined_cons]
  rw [htext]
  refine readSentence_withChecksum (List.cons_ne_nil _ _) ?_
  simp only [List.forall_mem_cons, hname, true_and]
  decide

/-- What is read of the sentences of a kind, under its name and under others. -/
theorem readSvs_gsvTexts (htalker : kind.talker = 36 :: (name ++ [44])) (hname : Plain name)
    (other : Text) (count : ℕ) (groups : List (List SvInfo)) :
    readSvs other (gsvTexts kind count groups) =
      if name = other then groups.flatten.map SvInfo.reading else [] := by
  have hhead : ∀ record : List Text, (name :: record).head? = some other ↔ name = other :=
    fun record => Option.some_inj
  rw [gsvTexts]
  split
  · next hgroups =>
    rw [readSvs, List.flatMap_singleton, readSv, read_blank htalker hname, hgroups]
    dsimp only
    rw [if_congr (hhead _) rfl rfl]
    rfl
  · have hread : ∀ i svs, readSv other (gsvText kind groups.length (i + 1) count svs) =
        if name = other then svs.map SvInfo.reading else [] := by
      intro i svs
      rw [readSv, read_gsvText htalker hname]
      dsimp only
      rw [gsvFields, List.cons_append, if_congr (hhead _) rfl rfl]
      simp only [List.drop_succ_cons, List.cons_append, List.nil_append, List.drop_zero,
        readEntries_flatMap]
    rw [readSvs, Lists.flatMap_mapIdx (fun i svs _ => hread i svs)]
    split
    · rw [List.flatten_eq_flatMap, List.map_flatMap]
      rfl
    · exact List.flatMap_eq_nil_iff.mpr fun _ _ => rfl

/-- A report of satellites: the list has room for no more. -/
structure SvStatus where
  svList : List SvInfo
  fits : svList.length ≤ gpsMaxSvs
  gpsUsedInFixMask : UInt32

/-- **The satellites of a report are read back**: every sentence has a valid checksum, and those of
a kind hold all satellites of the kind, in order, with what is known of them. -/
theorem readSvs_generateSv (status : SvStatus) :
    let sents := (locEngNmeaGenerateSv status.svList).1.map Prod.fst
    (∀ sent ∈ sents, readSentence sent ≠ none) ∧
      readSvs (text "GPGSV") sents = (gps.svs status.svList).map SvInfo.reading ∧
      readSvs (text "GLGSV") sents = (glonass.svs status.svList).map SvInfo.reading := by
  intro sents
  obtain ⟨gpsGroups, glnGroups, hgps, hgln, -, htexts⟩ :=
    generateSv_partition status.svList status.fits
  have hsents : sents = gsvTexts gps (gps.svs status.svList).length gpsGroups ++
      gsvTexts glonass (glonass.svs status.svList).length glnGroups := htexts
  have hgpsTalker : gps.talker = 36 :: (text "GPGSV" ++ [44]) := rfl
  have hglnTalker : glonass.talker = 36 :: (text "GLGSV" ++ [44]) := rfl
  have hplain : Plain (text "GPGSV") ∧ Plain (text "GLGSV") := by decide
  have hreads : ∀ {kind : SvKind} {name : Text} {count : ℕ} {groups : List (List SvInfo)},
      kind.talker = 36 :: (name ++ [44]) → Plain name →
        ∀ sent ∈ gsvTexts kind count groups, readSentence sent ≠ none := by
    intro kind name count groups htalker hname sent hsent
    rw [gsvTexts] at hsent
    split at hsent
    · rw [List.mem_singleton.mp hsent, read_blank htalker hname]
      exact Option.some_ne_none _
    · obtain ⟨i, hi, rfl⟩ := List.mem_mapIdx.mp hsent
      rw [read_gsvText htalker hname]
      exact Option.some_ne_none _
  have hreadSvs : ∀ other, readSvs other sents =
      (if text "GPGSV" = other then (gps.svs status.svList).map SvInfo.reading else []) ++
        if text "GLGSV" = other then (glonass.svs status.svList).map SvInfo.reading else [] := by
    intro other
    have happend : readSvs other sents =
        readSvs other (gsvTexts gps (gps.svs status.svList).length gpsGroups) ++
          readSvs other (gsvTexts glonass (glonass.svs status.svList).length glnGroups) := by
      rw [readSvs, hsents, List.flatMap_append]
      rfl
    rw [happend, readSvs_gsvTexts hgpsTalker hplain.1, readSvs_gsvTexts hglnTalker hplain.2,
      hgps.flatten, hgln.flatten]
  refine ⟨?_, ?_, ?_⟩
  · rw [hsents]
    exact List.forall_mem_append.mpr ⟨hreads hgpsTalker hplain.1, hreads hglnTalker hplain.2⟩
  · rw [hreadSvs, if_pos rfl, if_neg (by decide), List.append_nil]
  · rw [hreadSvs, if_neg (by decide), if_pos rfl, List.nil_append]

end Eng
end Nx507j
