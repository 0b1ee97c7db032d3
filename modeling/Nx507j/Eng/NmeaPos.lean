import Nx507j.Eng.Nmea
import Nx507j.Lib.Decimal
import Nx507j.Lib.Lists

/-!
# The sentences of a position report

`loc_eng_nmea_generate_pos` sends four sentences for a position report, blank ones where the fix is
not final.  A sentence is printed in pieces.  The function leaves where a piece does not fit, only
the last piece of a sentence is cut off without a check.

Numbers are rationals, and the arithmetic on them is exact.  Those that the source keeps as `float`
have the range of a `float`, so that no piece is too long.

## Main definitions

* `GpsLocation`, `GpsLocationExtended`, `NmeaData` — the report, and what is kept for the sentences.
* `gpgsa`, `gpvtg`, `gprmc`, `gpgga` — the sentences.
* `locEngNmeaGeneratePos` — what is sent for a report.

## Main results

* `generatePos_eq` — all four sentences of a final fix are sent.
-/

namespace Nx507j
namespace Eng

open CText

/-! ### The report -/

/-- A number in a `float`. -/
structure Single where
  value : ℚ
  finite : |value| < 2 ^ 128
  deriving DecidableEq

theorem abs_natCast_lt {n : ℕ} (h : n < 2 ^ 128) : |(n : ℚ)| < 2 ^ 128 := by
  rw [Nat.abs_cast]
  exact_mod_cast h

/-- A natural number in a `float`. -/
def Single.ofNat (n : ℕ) (h : n < 2 ^ 128) : Single := ⟨n, abs_natCast_lt h⟩

def Single.zero : Single := Single.ofNat 0 (by decide)

@[simp] theorem Single.value_ofNat (n : ℕ) (h : n < 2 ^ 128) : (Single.ofNat n h).value = n := rfl

@[simp] theorem Single.value_zero : Single.zero.value = 0 := Nat.cast_zero

/-- `GpsLocation`: four bits of its flags, and the values. -/
structure GpsLocation where
  hasLatLong : Bool
  hasAltitude : Bool
  hasSpeed : Bool
  hasBearing : Bool
  latitude : ℚ
  longitude : ℚ
  altitude : ℚ
  speed : Single
  bearing : Single
  deriving DecidableEq

/-- `GpsLocationExtended`: three bits of its flags, and the values. -/
structure GpsLocationExtended where
  hasDop : Bool
  hasAltitudeMeanSeaLevel : Bool
  hasMagDev : Bool
  altitudeMeanSeaLevel : Single
  pdop : Single
  hdop : Single
  vdop : Single
  magneticDeviation : Single
  deriving DecidableEq

/-- `tm`, as `gmtime` fills it. -/
structure Tm where
  tmSec : Fin 61
  tmMin : Fin 60
  tmHour : Fin 24
  tmMday : Fin 32
  tmMon : Fin 12
  tmYear : Int32
  deriving DecidableEq, Repr

/-- `LOC_POSITION_MODE_STANDALONE`. -/
def locPositionModeStandalone : Int32 := 0

/-- What `loc_eng_data_s_type` keeps for the sentences, with the position mode of the adapter. -/
structure NmeaData where
  svUsedMask : UInt32
  pdop : Single
  hdop : Single
  vdop : Single
  mode : Int32
  deriving DecidableEq

/-! ### Pieces -/

/-- `%2.2d`. -/
def twoDigits (n : ℤ) : Text := sign n ++ printD 2 n.natAbs

/-- `%.1f`. -/
def printTenths (x : ℚ) : Text := printF 0 1 x

/-- `fmod`. -/
def fmod (x y : ℚ) : ℚ := x - y * if 0 ≤ x / y then ⌊x / y⌋ else ⌈x / y⌉

/-- `"%02d%02d%02d"`. -/
def timeText (tm : Tm) : Text := printD 2 tm.tmHour.val ++ printD 2 tm.tmMin.val ++
  printD 2 tm.tmSec.val

/-- The day, the month and two digits of the year. -/
def dateText (tm : Tm) : Text :=
  let utcYear := tm.tmYear.toInt.tmod 100
  let utcMonth := tm.tmMon.val + 1
  twoDigits tm.tmMday.val ++ twoDigits utcMonth ++ twoDigits utcYear ++ [44]

/-- The mode indicator. -/
def modeText (data : NmeaData) (location : GpsLocation) : Text :=
  if !location.hasLatLong then text "N"
  else if data.mode = locPositionModeStandalone then text "A"
  else text "D"

/-- The hemisphere of a latitude, and the degrees from the equator. -/
def latHemisphere (latitude : ℚ) : UInt8 × ℚ :=
  if latitude > 0 then (78, latitude) else (83, latitude * -1)

/-- The hemisphere of a longitude, and the degrees from the meridian. -/
def lonHemisphere (longitude : ℚ) : UInt8 × ℚ :=
  if longitude < 0 then (87, longitude * -1) else (69, longitude)

/-- Degrees with a width, `"%09.6lf,%c,"` of the minutes and the hemisphere. -/
def coordinateText (width : ℕ) (hemisphere : UInt8 × ℚ) : Text :=
  printD width (⌊hemisphere.2⌋₊ % 256 : ℕ) ++ printF 9 6 (fmod (hemisphere.2 * 60) 60) ++
    44 :: [hemisphere.1, 44]

/-- The latitude and the longitude, the same in two sentences. -/
def latLongText (location : GpsLocation) : Text :=
  if location.hasLatLong then
    coordinateText 2 (latHemisphere location.latitude) ++
      coordinateText 3 (lonHemisphere location.longitude)
  else text ",,,,"

/-- The three dilutions: those of the report, those that are kept, or none. -/
def dopText (data : NmeaData) (extended : GpsLocationExtended) : Text :=
  if extended.hasDop then
    printTenths extended.pdop.value ++ 44 :: printTenths extended.hdop.value ++
      44 :: printTenths extended.vdop.value
  else if data.pdop.value > 0 ∧ data.hdop.value > 0 ∧ data.vdop.value > 0 then
    printTenths data.pdop.value ++ 44 :: printTenths data.hdop.value ++
      44 :: printTenths data.vdop.value
  else text ",,"

/-! ### Courses -/

/-- The track that the inner block computes for the magnetic one. -/
def correctedTrack (location : GpsLocation) (extended : GpsLocationExtended) : ℚ :=
  let magTrack := location.bearing.value - extended.magneticDeviation.value
  if magTrack < 0 then magTrack + 360
  else if magTrack > 360 then magTrack - 360
  else magTrack

/-- The magnetic track that GPVTG prints: the inner block has a variable of its own for
`correctedTrack`, under the same name. -/
def magTrack (location : GpsLocation) (extended : GpsLocationExtended) : ℚ :=
  let magTrack := location.bearing.value
  if extended.hasMagDev then
    let _magTrack := correctedTrack location extended
    magTrack
  else magTrack

/-- The magnetic variation without its sign, and its direction. -/
def magneticVariation (extended : GpsLocationExtended) : ℚ × UInt8 :=
  let magneticVariation := extended.magneticDeviation.value
  if magneticVariation < 0 then (magneticVariation * -1, 87) else (magneticVariation, 69)

/-- The tracks that GPVTG prints: over ground, and magnetic. -/
def gpvtgTracks (location : GpsLocation) (extended : GpsLocationExtended) : Option (ℚ × ℚ) :=
  if location.hasBearing then some (location.bearing.value, magTrack location extended) else none

def trackText (location : GpsLocation) (extended : GpsLocationExtended) : Text :=
  match gpvtgTracks location extended with
  | some tracks =>
    text "$GPVTG," ++ printTenths tracks.1 ++ text ",T," ++ printTenths tracks.2 ++ text ",M,"
  | none => text "$GPVTG,,T,,M,"

/-- The magnetic variation that GPRMC prints, with its direction. -/
def gprmcVariation (extended : GpsLocationExtended) : Option (ℚ × UInt8) :=
  if extended.hasMagDev then some (magneticVariation extended) else none

def variationText (extended : GpsLocationExtended) : Text :=
  match gprmcVariation extended with
  | some variation => printTenths variation.1 ++ 44 :: [variation.2, 44]
  | none => text ",,"

/-! ### Speeds -/

def speedKnots (location : GpsLocation) : ℚ := location.speed.value * (3600 / 1852)

def speedKmPerHour (location : GpsLocation) : ℚ := location.speed.value * (36 / 10)

/-- The speed in two units. -/
def speedText (location : GpsLocation) : Text :=
  if location.hasSpeed then
    printTenths (speedKnots location) ++ text ",N," ++ printTenths (speedKmPerHour location) ++
      text ",K,"
  else text ",N,,K,"

/-! ### The satellites that are used -/

/-- The loop over the mask, with as many turns as it has bits. -/
def svUsedFrom : ℕ → ℕ → UInt32 → List ℕ
  | 0, _, _ => []
  | turns + 1, i, mask =>
    if mask > 0 then
      if mask &&& 1 = 1 then i :: svUsedFrom turns (i + 1) (mask >>> 1)
      else svUsedFrom turns (i + 1) (mask >>> 1)
    else []

/-- `svUsedList`: the satellites whose bits are set. -/
def svUsedList (data : NmeaData) : List ℕ := svUsedFrom 32 1 data.svUsedMask

/-- `fixType`. -/
def fixType (used : List ℕ) : UInt8 :=
  if used.length = 0 then 49 else if used.length ≤ 3 then 50 else 51

/-- The entry of the `i`-th satellite that is used. -/
def usedText (used : List ℕ) (i : ℕ) : Text :=
  match used[i]? with
  | some sv => printD 2 sv ++ [44]
  | none => [44]

/-! ### The sentences -/

/-- Only the first twelve satellites go in the sentence. -/
def gpgsa (data : NmeaData) (extended : GpsLocationExtended) : Option Sentence := do
  let used := svUsedList data
  let s ← Sentence.empty.printAll ((text "$GPGSA,A," ++ [fixType used, 44]) ::
    (List.range 12).map (usedText used))
  return s.put (dopText data extended)

def gpvtg (data : NmeaData) (location : GpsLocation) (extended : GpsLocationExtended) :
    Option Sentence := do
  let s ← Sentence.empty.printAll [trackText location extended, speedText location]
  return s.put (modeText data location)

/-- `"%.1lf,"` of the speed and of the bearing. -/
def knotsText (location : GpsLocation) : Text :=
  if location.hasSpeed then printTenths (speedKnots location) ++ [44] else [44]

def bearingText (location : GpsLocation) : Text :=
  if location.hasBearing then printTenths location.bearing.value ++ [44] else [44]

def gprmc (tm : Tm) (data : NmeaData) (location : GpsLocation) (extended : GpsLocationExtended) :
    Option Sentence := do
  let s ← Sentence.empty.printAll [text "$GPRMC," ++ timeText tm ++ text ",A,",
    latLongText location, knotsText location, bearingText location, dateText tm,
    variationText extended]
  return s.put (modeText data location)

/-- `gpsQuality`. -/
def gpsQuality (data : NmeaData) (location : GpsLocation) : UInt8 :=
  if !location.hasLatLong then 48
  else if data.mode = locPositionModeStandalone then 49
  else 50

/-- The quality, the number of satellites and the horizontal dilution. -/
def qualityText (data : NmeaData) (location : GpsLocation) (extended : GpsLocationExtended) :
    Text :=
  let quality := gpsQuality data location :: 44 :: printD 2 (svUsedList data).length ++ [44]
  if extended.hasDop then quality ++ printTenths extended.hdop.value ++ [44]
  else if data.pdop.value > 0 ∧ data.hdop.value > 0 ∧ data.vdop.value > 0 then
    quality ++ printTenths data.hdop.value ++ [44]
  else quality ++ [44]

/-- The altitude. -/
def altitudeText (extended : GpsLocationExtended) : Text :=
  if extended.hasAltitudeMeanSeaLevel then
    printTenths extended.altitudeMeanSeaLevel.value ++ text ",M,"
  else text ",,"

/-- The height of the sea above the ellipsoid. -/
def separationText (location : GpsLocation) (extended : GpsLocationExtended) : Text :=
  if location.hasAltitude && extended.hasAltitudeMeanSeaLevel then
    printTenths (location.altitude - extended.altitudeMeanSeaLevel.value) ++ text ",M,,"
  else text ",,,"

def gpgga (tm : Tm) (data : NmeaData) (location : GpsLocation) (extended : GpsLocationExtended) :
    Option Sentence := do
  let s ← Sentence.empty.printAll [text "$GPGGA," ++ timeText tm ++ [44], latLongText location,
    qualityText data location extended, altitudeText extended]
  return s.put (separationText location extended)

/-- Sentences are sent as long as they could be printed; whether all of them could. -/
def sendWhile : List (Option Sentence) → List (Text × ℕ) × Bool
  | [] => ([], true)
  | none :: _ => ([], false)
  | some s :: sentences => (sendSentence s.text :: (sendWhile sentences).1, (sendWhile sentences).2)

/-- The blank sentences. -/
def blankSentences : List Text :=
  [text "$GPGSA,A,1,,,,,,,,,,,,,,,", text "$GPVTG,,T,,M,,N,,K,N", text "$GPRMC,,V,,,,,,,,,,N",
    text "$GPGGA,,,,,,0,,,,,,,,"]

/-- The dilutions that are kept are not used again. -/
def NmeaData.clearDop (data : NmeaData) : NmeaData :=
  { data with pdop := Single.zero, hdop := Single.zero, vdop := Single.zero }

/-- `loc_eng_nmea_generate_pos`: what is sent, and what is kept.  Without a time it leaves at
once. -/
def locEngNmeaGeneratePos (tm : Option Tm) (data : NmeaData) (location : GpsLocation)
    (extended : GpsLocationExtended) (generateNmea : Bool) : List (Text × ℕ) × NmeaData :=
  match tm with
  | none => ([], data)
  | some tm =>
    if generateNmea then
      let cleared := { data with svUsedMask := 0 }
      let sent := sendWhile
        [gpgsa data extended, gpvtg data location extended, gprmc tm data location extended,
          gpgga tm data location extended]
      (sent.1, if sent.2 then cleared.clearDop else cleared)
    else
      (blankSentences.map fun blank => sendSentence (strlcpy nmeaSentenceMaxLength blank),
        data.clearDop)

/-! ### The length of the pieces -/

variable {x : ℚ}

theorem Single.abs_le (single : Single) : |single.value| ≤ 10 ^ 39 :=
  single.finite.le.trans (by norm_num)

theorem length_printTenths_le (h : |x| ≤ 10 ^ 39) : (printTenths x).length ≤ 43 :=
  length_printF_le (by decide) h

theorem length_printTenths_single_le (single : Single) : (printTenths single.value).length ≤ 43 :=
  length_printTenths_le single.abs_le

theorem length_twoDigits_le {n : ℤ} (h : n.natAbs < 100) : (twoDigits n).length ≤ 3 := by
  have hsign := length_sign_le n
  have hdigits : (printD 2 (n.natAbs : ℕ)).length = 2 := length_printD_natCast (by decide) h
  rw [twoDigits, List.length_append]
  omega

theorem length_timeText (tm : Tm) : (timeText tm).length = 6 := by
  have hhour : (printD 2 tm.tmHour.val).length = 2 := length_printD_natCast (by decide) (by omega)
  have hmin : (printD 2 tm.tmMin.val).length = 2 := length_printD_natCast (by decide) (by omega)
  have hsec : (printD 2 tm.tmSec.val).length = 2 := length_printD_natCast (by decide) (by omega)
  rw [timeText, List.length_append, List.length_append, hhour, hmin, hsec]

theorem length_dateText_le (tm : Tm) : (dateText tm).length ≤ 10 := by
  have hday : (twoDigits tm.tmMday.val).length ≤ 3 := length_twoDigits_le (by omega)
  have hmonth : (twoDigits (tm.tmMon.val + 1 : ℕ)).length ≤ 3 := length_twoDigits_le (by omega)
  have hyear : (twoDigits (tm.tmYear.toInt.tmod 100)).length ≤ 3 :=
    length_twoDigits_le (by rw [Int.natAbs_tmod]; exact Nat.mod_lt _ (by decide))
  unfold dateText
  simp only [List.length_append, List.length_singleton]
  omega

theorem fmod_mul_sixty {x : ℚ} (h : 0 ≤ x) : fmod (x * 60) 60 = Int.fract x * 60 := by
  have hquotient : x * 60 / 60 = x := by ring
  rw [fmod, hquotient, if_pos h, Int.fract]
  ring

theorem latHemisphere_snd (latitude : ℚ) : (latHemisphere latitude).2 = |latitude| := by
  unfold latHemisphere
  split
  · next h => exact (abs_of_pos h).symm
  · next h => rw [mul_neg_one, abs_of_nonpos (not_lt.mp h)]

theorem lonHemisphere_snd (longitude : ℚ) : (lonHemisphere longitude).2 = |longitude| := by
  unfold lonHemisphere
  split
  · next h => rw [mul_neg_one, abs_of_neg h]
  · next h => exact (abs_of_nonneg (not_lt.mp h)).symm

theorem length_coordinateText_le {width : ℕ} (hwidth : width ≤ 3) {hemisphere : UInt8 × ℚ}
    (h : 0 ≤ hemisphere.2) : (coordinateText width hemisphere).length ≤ 17 := by
  have hdegrees : (printD width (⌊hemisphere.2⌋₊ % 256 : ℕ)).length ≤ max width 3 :=
    length_printD_natCast_le (by decide) (by omega)
  have hsmall : |fmod (hemisphere.2 * 60) 60| ≤ 10 ^ 2 := by
    have hpos := Int.fract_nonneg hemisphere.2
    have hlt := Int.fract_lt_one hemisphere.2
    rw [fmod_mul_sixty h, abs_of_nonneg (by positivity)]
    linarith
  have hminutes : (printF 9 6 (fmod (hemisphere.2 * 60) 60)).length ≤ max 9 (2 + 6 + 3) :=
    length_printF_le (by decide) hsmall
  unfold coordinateText
  simp only [List.length_append, List.length_cons, List.length_nil]
  omega

theorem length_latLongText_le (location : GpsLocation) : (latLongText location).length ≤ 34 := by
  unfold latLongText
  split
  · have hlat := length_coordinateText_le (show 2 ≤ 3 by decide)
      (latHemisphere_snd location.latitude ▸ abs_nonneg location.latitude)
    have hlong := length_coordinateText_le (show 3 ≤ 3 by decide)
      (lonHemisphere_snd location.longitude ▸ abs_nonneg location.longitude)
    rw [List.length_append]
    omega
  · decide

/-- The magnetic track is not corrected. -/
theorem magTrack_eq (location : GpsLocation) (extended : GpsLocationExtended) :
    magTrack location extended = location.bearing.value := by
  unfold magTrack
  split <;> rfl

theorem length_trackText_le (location : GpsLocation) (extended : GpsLocationExtended) :
    (trackText location extended).length ≤ 99 := by
  have htrue := length_printTenths_single_le location.bearing
  unfold trackText gpvtgTracks
  rw [magTrack_eq]
  cases location.hasBearing with
  | true =>
    have hhead : (text "$GPVTG,").length = 7 := rfl
    have htrueMark : (text ",T,").length = 3 := rfl
    have hmagMark : (text ",M,").length = 3 := rfl
    simp only [if_true, List.length_append, hhead, htrueMark, hmagMark]
    omega
  | false =>
    have hblank : (text "$GPVTG,,T,,M,").length ≤ 99 := by decide
    exact hblank

theorem length_speedKnots_le (location : GpsLocation) :
    (printTenths (speedKnots location)).length ≤ 43 := by
  have habs := location.speed.finite
  refine length_printTenths_le ?_
  rw [speedKnots, abs_mul, abs_of_pos (by norm_num : (0 : ℚ) < 3600 / 1852)]
  linarith

theorem length_speedText_le (location : GpsLocation) : (speedText location).length ≤ 93 := by
  have habs := location.speed.finite
  have hknotsText := length_speedKnots_le location
  have hkm : |speedKmPerHour location| ≤ 10 ^ 40 := by
    rw [speedKmPerHour, abs_mul, abs_of_pos (by norm_num : (0 : ℚ) < 36 / 10)]
    linarith
  have hkmText : (printTenths (speedKmPerHour location)).length ≤ 44 :=
    length_printF_le (by decide) hkm
  unfold speedText
  split
  · have hknotsMark : (text ",N,").length = 3 := rfl
    have hkmMark : (text ",K,").length = 3 := rfl
    simp only [List.length_append, hknotsMark, hkmMark]
    omega
  · decide

theorem length_knotsText_le (location : GpsLocation) : (knotsText location).length ≤ 44 := by
  have hknotsText := length_speedKnots_le location
  unfold knotsText
  split
  · rw [List.length_append, List.length_singleton]
    omega
  · decide

theorem length_bearingText_le (location : GpsLocation) : (bearingText location).length ≤ 44 := by
  have hbearing := length_printTenths_single_le location.bearing
  unfold bearingText
  split
  · rw [List.length_append, List.length_singleton]
    omega
  · decide

theorem magneticVariation_fst (extended : GpsLocationExtended) :
    (magneticVariation extended).1 = |extended.magneticDeviation.value| := by
  unfold magneticVariation
  dsimp only
  split
  · next h => rw [mul_neg_one, abs_of_neg h]
  · next h => exact (abs_of_nonneg (not_lt.mp h)).symm

theorem length_variationText_le (extended : GpsLocationExtended) :
    (variationText extended).length ≤ 46 := by
  have hvariation : |(magneticVariation extended).1| ≤ 10 ^ 39 := by
    rw [magneticVariation_fst, abs_abs]
    exact extended.magneticDeviation.abs_le
  have hprint := length_printTenths_le hvariation
  unfold variationText gprmcVariation
  cases extended.hasMagDev with
  | true =>
    simp only [if_true, List.length_append, List.length_cons, List.length_nil]
    omega
  | false =>
    have hblank : (text ",,").length ≤ 46 := by decide
    exact hblank

/-- There are no more satellites than bits. -/
theorem length_svUsedFrom_le : ∀ (turns i : ℕ) (mask : UInt32),
    (svUsedFrom turns i mask).length ≤ turns := by
  intro turns
  induction turns with
  | zero => exact fun _ _ => Nat.le_refl 0
  | succ turns ih =>
    intro i mask
    have hnext := ih (i + 1) (mask >>> 1)
    unfold svUsedFrom
    split
    · split
      · exact Nat.succ_le_succ hnext
      · exact Nat.le_succ_of_le hnext
    · exact Nat.zero_le _

theorem lt_of_mem_svUsedFrom : ∀ (turns i : ℕ) (mask : UInt32), ∀ sv ∈ svUsedFrom turns i mask,
    sv < i + turns := by
  intro turns
  induction turns with
  | zero => exact fun _ _ _ hsv => nomatch hsv
  | succ turns ih =>
    intro i mask sv hsv
    have hnext := ih (i + 1) (mask >>> 1) sv
    unfold svUsedFrom at hsv
    split at hsv
    · split at hsv
      · rcases List.mem_cons.mp hsv with rfl | hsv
        · omega
        · have hlt := hnext hsv
          omega
      · have hlt := hnext hsv
        omega
    · cases hsv

theorem length_usedText_le (data : NmeaData) (i : ℕ) :
    (usedText (svUsedList data) i).length ≤ 3 := by
  unfold usedText
  split
  · next sv hsv =>
    have hlt := lt_of_mem_svUsedFrom 32 1 data.svUsedMask sv (List.mem_of_getElem? hsv)
    have hprint : (printD 2 sv).length = 2 := length_printD_natCast (by decide) (by omega)
    rw [List.length_append, hprint]
    decide
  · decide

theorem length_qualityText_le (data : NmeaData) (location : GpsLocation)
    (extended : GpsLocationExtended) : (qualityText data location extended).length ≤ 49 := by
  have hused : (printD 2 (svUsedList data).length).length = 2 := by
    have hle := length_svUsedFrom_le 32 1 data.svUsedMask
    exact length_printD_natCast (by decide) (Nat.lt_of_le_of_lt hle (by decide))
  have hext := length_printTenths_single_le extended.hdop
  have hdata := length_printTenths_single_le data.hdop
  unfold qualityText
  dsimp only
  split
  · simp only [List.length_append, List.length_cons, List.length_nil]
    omega
  · split
    · simp only [List.length_append, List.length_cons, List.length_nil]
      omega
    · simp only [List.length_append, List.length_cons, List.length_nil]
      omega

theorem length_altitudeText_le (extended : GpsLocationExtended) :
    (altitudeText extended).length ≤ 46 := by
  have haltitude := length_printTenths_single_le extended.altitudeMeanSeaLevel
  unfold altitudeText
  split
  · have hmark : (text ",M,").length = 3 := rfl
    rw [List.length_append, hmark]
    omega
  · decide

/-! ### All sentences are sent -/

/-- A sentence whose pieces fit begins with them, whatever is left of the last one. -/
theorem printAll_put (pieces : List Text) (last : Text)
    (h : pieces.flatten.length < nmeaSentenceMaxLength) :
    ∃ s, (do let s ← Sentence.empty.printAll pieces; return s.put last) = some s ∧
      pieces.flatten <+: s.text := by
  have hempty : Sentence.empty.text = [] := rfl
  obtain ⟨s, hs, htext⟩ := printAll_eq pieces (s := Sentence.empty) (by
    rw [hempty, List.length_nil, Nat.zero_add]
    exact h)
  rw [hempty, List.nil_append] at htext
  rw [hs]
  exact ⟨s.put last, rfl, htext ▸ List.prefix_append _ _⟩

theorem gpgsa_eq (data : NmeaData) (extended : GpsLocationExtended) :
    ∃ s, gpgsa data extended = some s := by
  have hhead : (text "$GPGSA,A," ++ [fixType (svUsedList data), 44]).length = 11 := rfl
  have hused : ((List.range 12).map (usedText (svUsedList data))).flatten.length ≤ 12 * 3 := by
    rw [← List.flatMap_def]
    exact Lists.length_flatMap_le fun i _ => length_usedText_le data i
  obtain ⟨s, hs, -⟩ := printAll_put ((text "$GPGSA,A," ++ [fixType (svUsedList data), 44]) ::
    (List.range 12).map (usedText (svUsedList data))) (dopText data extended) (by
      rw [List.flatten_cons, List.length_append, hhead, nmeaSentenceMaxLength]
      omega)
  exact ⟨s, hs⟩

theorem gpvtg_eq (data : NmeaData) (location : GpsLocation) (extended : GpsLocationExtended) :
    ∃ s, gpvtg data location extended = some s ∧
      [trackText location extended, speedText location].flatten <+: s.text := by
  have htrack := length_trackText_le location extended
  have hspeed := length_speedText_le location
  refine printAll_put _ _ ?_
  simp only [List.flatten_cons, List.flatten_nil, List.length_append, List.length_nil,
    nmeaSentenceMaxLength]
  omega

theorem gprmc_eq (tm : Tm) (data : NmeaData) (location : GpsLocation)
    (extended : GpsLocationExtended) : ∃ s, gprmc tm data location extended = some s ∧
      [text "$GPRMC," ++ timeText tm ++ text ",A,", latLongText location, knotsText location,
        bearingText location, dateText tm, variationText extended].flatten <+: s.text := by
  have hhead : (text "$GPRMC,").length = 7 := rfl
  have htime := length_timeText tm
  have hvalid : (text ",A,").length = 3 := rfl
  have hlatLong := length_latLongText_le location
  have hknots := length_knotsText_le location
  have hbearing := length_bearingText_le location
  have hdate := length_dateText_le tm
  have hvariation := length_variationText_le extended
  refine printAll_put _ _ ?_
  simp only [List.flatten_cons, List.flatten_nil, List.length_append, List.length_nil, hhead,
    htime, hvalid, nmeaSentenceMaxLength]
  omega

theorem gpgga_eq (tm : Tm) (data : NmeaData) (location : GpsLocation)
    (extended : GpsLocationExtended) : ∃ s, gpgga tm data location extended = some s ∧
      [text "$GPGGA," ++ timeText tm ++ [44], latLongText location,
        qualityText data location extended, altitudeText extended].flatten <+: s.text := by
  have hhead : (text "$GPGGA,").length = 7 := rfl
  have htime := length_timeText tm
  have hlatLong := length_latLongText_le location
  have hquality := length_qualityText_le data location extended
  have haltitude := length_altitudeText_le extended
  refine printAll_put _ _ ?_
  simp only [List.flatten_cons, List.flatten_nil, List.length_append, List.length_nil,
    List.length_singleton, hhead, htime, nmeaSentenceMaxLength]
  omega

/-- **All four sentences of a final fix are sent.** -/
theorem generatePos_eq (tm : Tm) (data : NmeaData) (location : GpsLocation)
    (extended : GpsLocationExtended) :
    ∃ gsa vtg rmc gga, gpgsa data extended = some gsa ∧ gpvtg data location extended = some vtg ∧
      gprmc tm data location extended = some rmc ∧ gpgga tm data location extended = some gga ∧
      locEngNmeaGeneratePos (some tm) data location extended true =
        ([gsa, vtg, rmc, gga].map (sendSentence ·.text),
          { data with svUsedMask := 0 }.clearDop) := by
  obtain ⟨gsa, hgsa⟩ := gpgsa_eq data extended
  obtain ⟨vtg, hvtg, -⟩ := gpvtg_eq data location extended
  obtain ⟨rmc, hrmc, -⟩ := gprmc_eq tm data location extended
  obtain ⟨gga, hgga, -⟩ := gpgga_eq tm data location extended
  refine ⟨gsa, vtg, rmc, gga, hgsa, hvtg, hrmc, hgga, ?_⟩
  rw [locEngNmeaGeneratePos]
  dsimp only
  rw [if_pos rfl, hgsa, hvtg, hrmc, hgga]
  rfl

end Eng
end Nx507j
