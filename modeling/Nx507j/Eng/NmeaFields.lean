import Nx507j.Eng.NmeaPos

/-!
# What the sentences of a position report say

A sentence is read field by field.  GPRMC and GPGGA have the coordinates as degrees and minutes, the
degrees taken down before the minutes are rounded.  GPVTG has a track over ground and a magnetic
one, and GPRMC the magnetic variation between them.

## Main definitions

* `fields`, `readMinutes`, `readCoordinate` — what is read from a sentence.
* `ReadsBack` — the coordinates in a sentence are those of the report.
* `CoursesAgree` — the tracks of GPVTG differ by the variation of GPRMC.

## Main results

* `abs_read_sub_le` — a coordinate is always read back, the minutes may be 60.
* `readsBack_iff` — when the coordinates are as they should be.
* `coursesAgree_iff` — when the courses are.
-/

namespace Nx507j
namespace Eng

open CText

/-! ### Fields -/

/-- The fields of a sentence. -/
def fields (sentence : Text) : List Text := sentence.splitOnP (· == 44)

/-- A field by its number. -/
def field (sentence : Text) (i : ℕ) : Text := (fields sentence)[i]?.getD []

/-- What the letter of a hemisphere makes of a coordinate. -/
def letterSign (letter : Text) : ℚ :=
  if letter = text "N" ∨ letter = text "E" then 1
  else if letter = text "S" ∨ letter = text "W" then -1
  else 0

/-- The degrees of a coordinate, in so many characters. -/
def readDegrees (width : ℕ) (coordinate : Text) : ℕ := number 10 (coordinate.take width)

/-- The minutes behind them. -/
def readMinutes (width : ℕ) (coordinate : Text) : ℚ := decimal (coordinate.drop width)

/-- A coordinate with its hemisphere. -/
def readCoordinate (width : ℕ) (coordinate letter : Text) : ℚ :=
  letterSign letter * (readDegrees width coordinate + readMinutes width coordinate / 60)

/-- Half of a millionth of a minute, in degrees. -/
def halfUnit : ℚ := 1 / 2 / 10 ^ 6 / 60

/-- The fields of a sentence from the `i`-th on are the coordinates of the report. -/
structure ReadsBack (location : GpsLocation) (sentence : Text) (i : ℕ) : Prop where
  latMinutes : readMinutes 2 (field sentence i) < 60
  lonMinutes : readMinutes 3 (field sentence (i + 2)) < 60
  latitude : |readCoordinate 2 (field sentence i) (field sentence (i + 1)) - location.latitude| ≤
    halfUnit
  longitude : |readCoordinate 3 (field sentence (i + 2)) (field sentence (i + 3)) -
    location.longitude| ≤ halfUnit

/-- The number is not in the last half unit before a whole one. -/
def ClearOfWhole (x : ℚ) : Prop := Int.fract |x| < 1 - halfUnit

instance (x : ℚ) : Decidable (ClearOfWhole x) := by unfold ClearOfWhole; infer_instance

variable {s rest : Text}

/-- The first field is what stands before the first comma. -/
theorem fields_append_cons (h : 44 ∉ s) : fields (s ++ 44 :: rest) = s :: fields rest := by
  have hfirst : ∀ c ∈ s, (c == 44) = false := by
    intro c hc
    rw [beq_eq_false_iff_ne]
    exact fun heq => h (heq ▸ hc)
  have hsplit : fields (s ++ 44 :: rest) = fields s ++ fields rest :=
    List.splitOnP_append_cons s rest (beq_self_eq_true (44 : UInt8))
  have hs : fields s = [s] := List.splitOnP_eq_singleton hfirst
  rw [hsplit, hs]
  rfl

theorem comma_notMem_of_isDigit (h : ∀ c ∈ s, IsDigit 10 c) : (44 : UInt8) ∉ s :=
  fun hmem => absurd (h 44 hmem) (by decide)

theorem comma_notMem_printF (width digits : ℕ) (x : ℚ) : (44 : UInt8) ∉ printF width digits x := by
  intro hmem
  rcases mem_printF hmem with h | h | h
  · exact absurd h (by decide)
  · exact absurd h (by decide)
  · exact absurd h (by decide)

theorem comma_notMem_timeText (tm : Tm) : (44 : UInt8) ∉ timeText tm := by
  refine comma_notMem_of_isDigit fun c hc => ?_
  rw [timeText, List.append_assoc] at hc
  rcases List.mem_append.mp hc with hc | hc
  · exact isDigit_of_mem_printD hc
  · rcases List.mem_append.mp hc with hc | hc
    · exact isDigit_of_mem_printD hc
    · exact isDigit_of_mem_printD hc

/-! ### One coordinate -/

variable {width : ℕ} {hemisphere : UInt8 × ℚ}

/-- The first of the two fields that are printed for a coordinate. -/
def coordinateField (width : ℕ) (x : ℚ) : Text :=
  printD width (⌊x⌋₊ % 256 : ℕ) ++ printF 9 6 (fmod (x * 60) 60)

theorem comma_notMem_coordinateField (width : ℕ) (x : ℚ) :
    (44 : UInt8) ∉ coordinateField width x := by
  intro hmem
  rcases List.mem_append.mp hmem with hmem | hmem
  · exact absurd (isDigit_of_mem_printD hmem) (by decide)
  · exact comma_notMem_printF _ _ _ hmem

theorem fields_coordinateText (hletter : hemisphere.1 ≠ 44) (rest : Text) :
    fields (coordinateText width hemisphere ++ rest) =
      coordinateField width hemisphere.2 :: [hemisphere.1] :: fields rest := by
  have htext : coordinateText width hemisphere ++ rest =
      coordinateField width hemisphere.2 ++ 44 :: ([hemisphere.1] ++ 44 :: rest) := by
    simp [coordinateText, coordinateField]
  rw [htext, fields_append_cons (comma_notMem_coordinateField _ _), fields_append_cons]
  exact fun hmem => hletter (List.mem_singleton.mp hmem).symm

variable {x : ℚ}

theorem take_coordinateField (hwidth : 0 < width) (hpow : ⌊x⌋₊ < 10 ^ width)
    (hbyte : ⌊x⌋₊ < 256) : (coordinateField width x).take width = printD width ⌊x⌋₊ ∧
      (coordinateField width x).drop width = printF 9 6 (fmod (x * 60) 60) := by
  have hlength : (printD width ⌊x⌋₊).length = width := length_printD_natCast hwidth hpow
  rw [coordinateField, Nat.mod_eq_of_lt hbyte]
  exact ⟨List.take_left' hlength, List.drop_left' hlength⟩

theorem readDegrees_coordinateField (hwidth : 0 < width) (hpow : ⌊x⌋₊ < 10 ^ width)
    (hbyte : ⌊x⌋₊ < 256) : readDegrees width (coordinateField width x) = ⌊x⌋₊ := by
  rw [readDegrees, (take_coordinateField hwidth hpow hbyte).1, number_printD]

theorem fract_mul_sixty_nonneg (x : ℚ) : 0 ≤ Int.fract x * 60 :=
  mul_nonneg (Int.fract_nonneg x) (by norm_num)

theorem readMinutes_coordinateField (hx : 0 ≤ x) (hwidth : 0 < width)
    (hpow : ⌊x⌋₊ < 10 ^ width) (hbyte : ⌊x⌋₊ < 256) :
    readMinutes width (coordinateField width x) = scaled 6 (Int.fract x * 60) / 10 ^ 6 := by
  rw [readMinutes, (take_coordinateField hwidth hpow hbyte).2, fmod_mul_sixty hx,
    decimal_printF (by decide) (fract_mul_sixty_nonneg x)]

/-- **The minutes that are read are less than 60** where the number is clear of the next whole
one. -/
theorem readMinutes_lt_iff (hx : 0 ≤ x) (hwidth : 0 < width) (hpow : ⌊x⌋₊ < 10 ^ width)
    (hbyte : ⌊x⌋₊ < 256) :
    readMinutes width (coordinateField width x) < 60 ↔ Int.fract x < 1 - halfUnit := by
  have hunits : (scaled 6 (Int.fract x * 60) : ℚ) / 10 ^ 6 < 60 ↔
      scaled 6 (Int.fract x * 60) < 60000000 := by
    rw [div_lt_iff₀ (by norm_num), ← Nat.cast_lt (α := ℚ)]
    norm_num
  have hclear : Int.fract x * 60 * 10 ^ 6 < ((60000000 : ℕ) : ℚ) - 1 / 2 ↔
      Int.fract x < 1 - halfUnit := by
    unfold halfUnit
    constructor
    · intro h
      norm_num at h ⊢
      linarith
    · intro h
      norm_num at h ⊢
      linarith
  rw [readMinutes_coordinateField hx hwidth hpow hbyte, hunits,
    scaled_lt_iff (by decide) (fract_mul_sixty_nonneg x), hclear]

/-- **A coordinate is read back**, whatever its minutes are. -/
theorem abs_read_sub_le (hx : 0 ≤ x) (hwidth : 0 < width) (hpow : ⌊x⌋₊ < 10 ^ width)
    (hbyte : ⌊x⌋₊ < 256) :
    |readDegrees width (coordinateField width x) +
      readMinutes width (coordinateField width x) / 60 - x| ≤ halfUnit := by
  have hclose := abs_scaled_sub_le 6 (Int.fract x * 60)
  rw [abs_of_nonneg (fract_mul_sixty_nonneg x)] at hclose
  have hfloor : (⌊x⌋₊ : ℚ) = x - Int.fract x := by
    rw [natCast_floor_eq_intCast_floor hx, Int.self_sub_fract]
  have hminutes : x - Int.fract x + (scaled 6 (Int.fract x * 60) : ℚ) / 10 ^ 6 / 60 - x =
      ((scaled 6 (Int.fract x * 60) : ℚ) / 10 ^ 6 - Int.fract x * 60) / 60 := by ring
  rw [readDegrees_coordinateField hwidth hpow hbyte,
    readMinutes_coordinateField hx hwidth hpow hbyte, hfloor, hminutes, abs_div,
    abs_of_pos (by norm_num : (0 : ℚ) < 60), halfUnit]
  exact div_le_div_of_nonneg_right hclose (by norm_num)

/-! ### Both coordinates -/

theorem letterSign_latHemisphere (latitude : ℚ) :
    letterSign [(latHemisphere latitude).1] * |latitude| = latitude := by
  unfold latHemisphere
  split
  · next h =>
    have hsign : letterSign [78] = 1 := if_pos (by decide)
    rw [hsign, one_mul, abs_of_pos h]
  · next h =>
    have hsign : letterSign [83] = -1 := (if_neg (by decide)).trans (if_pos (by decide))
    rw [hsign, abs_of_nonpos (not_lt.mp h), neg_one_mul, neg_neg]

theorem letterSign_lonHemisphere (longitude : ℚ) :
    letterSign [(lonHemisphere longitude).1] * |longitude| = longitude := by
  unfold lonHemisphere
  split
  · next h =>
    have hsign : letterSign [87] = -1 := (if_neg (by decide)).trans (if_pos (by decide))
    rw [hsign, abs_of_neg h, neg_one_mul, neg_neg]
  · next h =>
    have hsign : letterSign [69] = 1 := if_pos (by decide)
    rw [hsign, one_mul, abs_of_nonneg (not_lt.mp h)]

theorem latLetter_ne (latitude : ℚ) : (latHemisphere latitude).1 ≠ 44 := by
  unfold latHemisphere
  split
  · exact (by decide : (78 : UInt8) ≠ 44)
  · exact (by decide : (83 : UInt8) ≠ 44)

theorem lonLetter_ne (longitude : ℚ) : (lonHemisphere longitude).1 ≠ 44 := by
  unfold lonHemisphere
  split
  · exact (by decide : (87 : UInt8) ≠ 44)
  · exact (by decide : (69 : UInt8) ≠ 44)

theorem abs_letterSign_le (letter : Text) : |letterSign letter| ≤ 1 := by
  unfold letterSign
  split
  · norm_num
  · split
    · norm_num
    · norm_num

/-- A coordinate is read back with its sign. -/
theorem abs_readCoordinate_sub_le {letter : Text} {value : ℚ}
    (hsign : letterSign letter * x = value)
    (hclose : |readDegrees width (coordinateField width x) +
      readMinutes width (coordinateField width x) / 60 - x| ≤ halfUnit) :
    |readCoordinate width (coordinateField width x) letter - value| ≤ halfUnit := by
  rw [readCoordinate, ← hsign, ← mul_sub, abs_mul]
  exact (mul_le_of_le_one_left (abs_nonneg _) (abs_letterSign_le letter)).trans hclose

variable {location : GpsLocation}

theorem natFloor_lt {bound : ℕ} {value : ℚ} (h : |value| ≤ bound) : ⌊|value|⌋₊ < bound + 1 :=
  Nat.lt_succ_of_le (Nat.floor_le_of_le h)

/-- **The coordinates in a sentence** that has some fields before them: they are as they should be
where both are clear of the next whole number. -/
theorem readsBack_iff_clear (hflag : location.hasLatLong = true) (hlat : |location.latitude| ≤ 90)
    (hlon : |location.longitude| ≤ 180) {sentence : Text} {before : List Text}
    (h : fields sentence = before ++ fields (latLongText location ++ rest)) :
    ReadsBack location sentence before.length ↔
      ClearOfWhole location.latitude ∧ ClearOfWhole location.longitude := by
  have hlat' : ⌊|location.latitude|⌋₊ < 91 := natFloor_lt hlat
  have hlon' : ⌊|location.longitude|⌋₊ < 181 := natFloor_lt hlon
  have hlatMinutes : readMinutes 2 (coordinateField 2 |location.latitude|) < 60 ↔
      ClearOfWhole location.latitude :=
    readMinutes_lt_iff (abs_nonneg _) (by decide) (by omega) (by omega)
  have hlonMinutes : readMinutes 3 (coordinateField 3 |location.longitude|) < 60 ↔
      ClearOfWhole location.longitude :=
    readMinutes_lt_iff (abs_nonneg _) (by decide) (by omega) (by omega)
  rw [latLongText, if_pos hflag, List.append_assoc, fields_coordinateText (latLetter_ne _),
    fields_coordinateText (lonLetter_ne _), latHemisphere_snd, lonHemisphere_snd] at h
  have hfield : ∀ k, field sentence (before.length + k) =
      (coordinateField 2 |location.latitude| :: [(latHemisphere location.latitude).1] ::
        coordinateField 3 |location.longitude| :: [(lonHemisphere location.longitude).1] ::
          fields rest)[k]?.getD [] := by
    intro k
    rw [field, h, List.getElem?_append_right (Nat.le_add_right _ _), Nat.add_sub_cancel_left]
  have h₀ := hfield 0
  have h₁ := hfield 1
  have h₂ := hfield 2
  have h₃ := hfield 3
  rw [Nat.add_zero] at h₀
  constructor
  · intro hback
    have hlatLt := hback.latMinutes
    have hlonLt := hback.lonMinutes
    rw [h₀] at hlatLt
    rw [h₂] at hlonLt
    exact ⟨hlatMinutes.mp hlatLt, hlonMinutes.mp hlonLt⟩
  · rintro ⟨hlatClear, hlonClear⟩
    refine ⟨?_, ?_, ?_, ?_⟩
    · rw [h₀]
      exact hlatMinutes.mpr hlatClear
    · rw [h₂]
      exact hlonMinutes.mpr hlonClear
    · rw [h₀, h₁]
      refine abs_readCoordinate_sub_le (letterSign_latHemisphere _) ?_
      exact abs_read_sub_le (abs_nonneg _) (by decide) (by omega) (by omega)
    · rw [h₂, h₃]
      refine abs_readCoordinate_sub_le (letterSign_lonHemisphere _) ?_
      exact abs_read_sub_le (abs_nonneg _) (by decide) (by omega) (by omega)

/-! ### The sentences that are sent -/

/-- The coordinates in GPRMC, the third sentence of a fix, and in GPGGA, the fourth. -/
def CoordinatesReadBack (location : GpsLocation) (sent : List Text) : Prop :=
  ∃ gsa vtg rmc gga, sent = [gsa, vtg, rmc, gga] ∧ ReadsBack location rmc 3 ∧
    ReadsBack location gga 2

/-- What is sent begins with the sentence. -/
theorem prefix_sendSentence (s : Text) : s <+: (sendSentence s).1 := List.prefix_append _ _

theorem fields_gprmc (tm : Tm) (location : GpsLocation) {pieces sent : Text}
    (h : text "$GPRMC," ++ timeText tm ++ text ",A," ++ (latLongText location ++ pieces) <+: sent) :
    ∃ rest, fields sent = [text "$GPRMC", timeText tm, text "A"] ++
      fields (latLongText location ++ rest) := by
  obtain ⟨tail, rfl⟩ := h
  have htalker : (44 : UInt8) ∉ text "$GPRMC" := by decide
  have hvalid : (44 : UInt8) ∉ text "A" := by decide
  have htext : text "$GPRMC," ++ timeText tm ++ text ",A," ++ (latLongText location ++ pieces) ++
      tail = text "$GPRMC" ++ 44 :: (timeText tm ++ 44 :: (text "A" ++ 44 ::
        (latLongText location ++ (pieces ++ tail)))) := by
    have htalkerComma : text "$GPRMC," = text "$GPRMC" ++ [44] := rfl
    have hvalidComma : text ",A," = 44 :: (text "A" ++ [44]) := rfl
    rw [htalkerComma, hvalidComma]
    simp only [List.append_assoc, List.cons_append, List.nil_append]
  rw [htext, fields_append_cons htalker, fields_append_cons (comma_notMem_timeText tm),
    fields_append_cons hvalid]
  exact ⟨pieces ++ tail, rfl⟩

theorem fields_gpgga (tm : Tm) (location : GpsLocation) {pieces sent : Text}
    (h : text "$GPGGA," ++ timeText tm ++ [44] ++ (latLongText location ++ pieces) <+: sent) :
    ∃ rest, fields sent = [text "$GPGGA", timeText tm] ++
      fields (latLongText location ++ rest) := by
  obtain ⟨tail, rfl⟩ := h
  have htalker : (44 : UInt8) ∉ text "$GPGGA" := by decide
  have htext : text "$GPGGA," ++ timeText tm ++ [44] ++ (latLongText location ++ pieces) ++ tail =
      text "$GPGGA" ++ 44 :: (timeText tm ++ 44 :: (latLongText location ++ (pieces ++ tail))) := by
    have htalkerComma : text "$GPGGA," = text "$GPGGA" ++ [44] := rfl
    rw [htalkerComma]
    simp only [List.append_assoc, List.cons_append, List.nil_append]
  rw [htext, fields_append_cons htalker, fields_append_cons (comma_notMem_timeText tm)]
  exact ⟨pieces ++ tail, rfl⟩

/-- The coordinates in GPRMC as it is sent. -/
theorem readsBack_gprmc (hflag : location.hasLatLong = true) (hlat : |location.latitude| ≤ 90)
    (hlon : |location.longitude| ≤ 180) {tm : Tm} {data : NmeaData} {extended : GpsLocationExtended}
    {rmc : Sentence} (hrmc : gprmc tm data location extended = some rmc) :
    ReadsBack location (sendSentence rmc.text).1 3 ↔
      ClearOfWhole location.latitude ∧ ClearOfWhole location.longitude := by
  obtain ⟨rmc', hrmc', hpieces⟩ := gprmc_eq tm data location extended
  rw [hrmc, Option.some_inj] at hrmc'
  subst hrmc'
  obtain ⟨rest, hfields⟩ := fields_gprmc tm location (hpieces.trans (prefix_sendSentence rmc.text))
  exact readsBack_iff_clear hflag hlat hlon hfields

/-- The coordinates in GPGGA as it is sent. -/
theorem readsBack_gpgga (hflag : location.hasLatLong = true) (hlat : |location.latitude| ≤ 90)
    (hlon : |location.longitude| ≤ 180) {tm : Tm} {data : NmeaData} {extended : GpsLocationExtended}
    {gga : Sentence} (hgga : gpgga tm data location extended = some gga) :
    ReadsBack location (sendSentence gga.text).1 2 ↔
      ClearOfWhole location.latitude ∧ ClearOfWhole location.longitude := by
  obtain ⟨gga', hgga', hpieces⟩ := gpgga_eq tm data location extended
  rw [hgga, Option.some_inj] at hgga'
  subst hgga'
  obtain ⟨rest, hfields⟩ := fields_gpgga tm location (hpieces.trans (prefix_sendSentence gga.text))
  exact readsBack_iff_clear hflag hlat hlon hfields

/-- **When the coordinates of a fix are as they should be**: where neither is in the last half unit
before a whole degree.  There the minutes are rounded up to 60. -/
theorem readsBack_iff (tm : Tm) (data : NmeaData) (location : GpsLocation)
    (extended : GpsLocationExtended) (hflag : location.hasLatLong = true)
    (hlat : |location.latitude| ≤ 90) (hlon : |location.longitude| ≤ 180) :
    CoordinatesReadBack location
        ((locEngNmeaGeneratePos (some tm) data location extended true).1.map Prod.fst) ↔
      ClearOfWhole location.latitude ∧ ClearOfWhole location.longitude := by
  obtain ⟨gsa, vtg, rmc, gga, -, -, hrmc, hgga, hsent⟩ := generatePos_eq tm data location extended
  have hrmcBack := readsBack_gprmc hflag hlat hlon hrmc
  have hggaBack := readsBack_gpgga hflag hlat hlon hgga
  rw [hsent]
  constructor
  · rintro ⟨_, _, rmc', _, hlist, hback, -⟩
    have hthird : (sendSentence rmc.text).1 = rmc' := by
      have hget := congrArg (fun sent => sent[2]?) hlist
      exact Option.some_inj.mp hget
    exact hrmcBack.mp (hthird ▸ hback)
  · intro hclear
    exact ⟨_, _, _, _, rfl, hrmcBack.mpr hclear, hggaBack.mpr hclear⟩

/-- Noon on the first of June. -/
def noon : Tm := ⟨0, 0, 12, 1, 5, 124⟩

/-- Nothing is kept, the position mode is standalone. -/
def standalone : NmeaData :=
  ⟨0, Single.zero, Single.zero, Single.zero, locPositionModeStandalone⟩

/-- A place with a bearing of ninety degrees. -/
def place (latitude longitude : ℚ) : GpsLocation :=
  ⟨true, false, false, true, latitude, longitude, 0, Single.zero, Single.ofNat 90 (by decide)⟩

/-- A magnetic deviation, and nothing else. -/
def deviation (single : Single) : GpsLocationExtended :=
  ⟨false, false, true, Single.zero, Single.zero, Single.zero, Single.zero, single⟩

theorem readsBack_iff_place : (place 48 (-11)).hasLatLong = true ∧
    |(place 48 (-11)).latitude| ≤ 90 ∧ |(place 48 (-11)).longitude| ≤ 180 ∧
    (CoordinatesReadBack (place 48 (-11))
        ((locEngNmeaGeneratePos (some noon) standalone (place 48 (-11))
          (deviation Single.zero) true).1.map Prod.fst) ↔
      ClearOfWhole (place 48 (-11)).latitude ∧ ClearOfWhole (place 48 (-11)).longitude) :=
  ⟨rfl, by norm_num [place], by norm_num [place],
    readsBack_iff noon standalone (place 48 (-11)) (deviation Single.zero) rfl
      (by norm_num [place]) (by norm_num [place])⟩

/-- A latitude just below eleven degrees is printed as ten degrees and sixty minutes. -/
theorem minutes_belowEleven :
    let location := place (109999999999 / 10 ^ 10) 0
    let sent := (locEngNmeaGeneratePos (some noon) standalone location
      (deviation Single.zero) true).1.map Prod.fst
    field (sent[2]?.getD []) 3 = text "1060.000000" ∧ ¬CoordinatesReadBack location sent := by
  intro location sent
  have hfield : field (sent[2]?.getD []) 3 = text "1060.000000" := by decide +kernel
  refine ⟨hfield, ?_⟩
  rintro ⟨gsa, vtg, rmc, gga, hsent, hback, -⟩
  have hminutes := hback.latMinutes
  have hthird : sent[2]?.getD [] = rmc := by
    rw [hsent]
    rfl
  rw [← hthird, hfield] at hminutes
  exact absurd hminutes (by decide +kernel)

/-! ### Courses -/

/-- The variation as a number, east is positive. -/
def signedVariation (variation : ℚ × UInt8) : ℚ :=
  if variation.2 = 69 then variation.1 else -variation.1

/-- The magnetic track of GPVTG is a course, and the track over ground less the variation of GPRMC,
up to whole turns. -/
def CoursesAgree (location : GpsLocation) (extended : GpsLocationExtended) : Prop :=
  ∃ tracks variation, gpvtgTracks location extended = some tracks ∧
    gprmcVariation extended = some variation ∧ 0 ≤ tracks.2 ∧ tracks.2 ≤ 360 ∧
    ∃ turns : ℤ, tracks.2 - (tracks.1 - signedVariation variation) = 360 * turns

variable {extended : GpsLocationExtended}

theorem signedVariation_magneticVariation (extended : GpsLocationExtended) :
    signedVariation (magneticVariation extended) = extended.magneticDeviation.value := by
  unfold magneticVariation
  dsimp only
  split
  · have hwest : ¬(87 : UInt8) = 69 := by decide
    rw [signedVariation, if_neg hwest]
    ring
  · rw [signedVariation, if_pos rfl]

/-- The track of the inner block is what it should be. -/
theorem correctedTrack_spec (hbearing : 0 ≤ location.bearing.value)
    (hlt : location.bearing.value < 360) (hwest : -180 < extended.magneticDeviation.value)
    (heast : extended.magneticDeviation.value < 180) :
    0 ≤ correctedTrack location extended ∧ correctedTrack location extended ≤ 360 ∧
      ∃ turns : ℤ, correctedTrack location extended -
        (location.bearing.value - extended.magneticDeviation.value) = 360 * turns := by
  unfold correctedTrack
  dsimp only
  split
  · next h => exact ⟨by linarith, by linarith, 1, by push_cast; ring⟩
  · split
    · next h => exact ⟨by linarith, by linarith, -1, by push_cast; ring⟩
    · next hpos hle => exact ⟨not_lt.mp hpos, not_lt.mp hle, 0, by push_cast; ring⟩

/-- Less than half a turn is none. -/
theorem eq_zero_of_turns {turns : ℤ} (hturns : x = 360 * turns) (hwest : -180 < x)
    (heast : x < 180) : x = 0 := by
  have hlow : ((-1 : ℤ) : ℚ) < turns := by
    rw [Int.cast_neg, Int.cast_one]
    linarith
  have hhigh : (turns : ℚ) < (1 : ℤ) := by
    rw [Int.cast_one]
    linarith
  have hnone : turns = 0 := by
    have hlow' := Int.cast_lt.mp hlow
    have hhigh' := Int.cast_lt.mp hhigh
    omega
  rw [hturns, hnone, Int.cast_zero, mul_zero]

/-- **When the courses agree**: only without a deviation, as the magnetic track is the one over
ground. -/
theorem coursesAgree_iff (location : GpsLocation) (extended : GpsLocationExtended)
    (hbearing : location.hasBearing = true) (hmagDev : extended.hasMagDev = true)
    (hpos : 0 ≤ location.bearing.value) (hlt : location.bearing.value < 360)
    (hwest : -180 < extended.magneticDeviation.value)
    (heast : extended.magneticDeviation.value < 180) :
    CoursesAgree location extended ↔ extended.magneticDeviation.value = 0 := by
  have htracks : gpvtgTracks location extended =
      some (location.bearing.value, location.bearing.value) := by
    rw [gpvtgTracks, if_pos hbearing, magTrack_eq]
  have hvariation : gprmcVariation extended = some (magneticVariation extended) := if_pos hmagDev
  constructor
  · rintro ⟨tracks, variation, htracks', hvariation', -, -, turns, hturns⟩
    rw [htracks, Option.some_inj] at htracks'
    rw [hvariation, Option.some_inj] at hvariation'
    subst htracks' hvariation'
    rw [signedVariation_magneticVariation, sub_sub_cancel] at hturns
    exact eq_zero_of_turns hturns hwest heast
  · intro hzero
    refine ⟨_, _, htracks, hvariation, hpos, hlt.le, 0, ?_⟩
    rw [signedVariation_magneticVariation, hzero]
    simp

theorem coursesAgree_iff_noDeviation :
    (place 48 11).hasBearing = true ∧ (deviation Single.zero).hasMagDev = true ∧
      (CoursesAgree (place 48 11) (deviation Single.zero) ↔
        (deviation Single.zero).magneticDeviation.value = 0) :=
  ⟨rfl, rfl, coursesAgree_iff (place 48 11) (deviation Single.zero) rfl rfl
    (by norm_num [place]) (by norm_num [place]) (by norm_num [deviation])
    (by norm_num [deviation])⟩

/-- With a deviation of ten degrees to the east, the track of ninety degrees is also the magnetic
one. -/
theorem courses_tenEast :
    gpvtgTracks (place 48 11) (deviation (Single.ofNat 10 (by decide))) = some (90, 90) ∧
      gprmcVariation (deviation (Single.ofNat 10 (by decide))) = some (10, 69) ∧
      ¬CoursesAgree (place 48 11) (deviation (Single.ofNat 10 (by decide))) := by
  refine ⟨rfl, by decide +kernel, ?_⟩
  rintro ⟨tracks, variation, htracks, hvariation, -, -, turns, hturns⟩
  have htracks' : tracks = (90, 90) := (Option.some_inj.mp htracks).symm
  have hvariation' : gprmcVariation (deviation (Single.ofNat 10 (by decide))) = some (10, 69) := by
    decide +kernel
  rw [hvariation', Option.some_inj] at hvariation
  subst htracks' hvariation
  rw [signedVariation, if_pos rfl, sub_sub_cancel] at hturns
  have hrat : (10 : ℚ) = 360 * turns := hturns
  have hten : (10 : ℤ) = 360 * turns := by exact_mod_cast hrat
  omega

end Eng
end Nx507j
