import Nx507j.Lib.CText
import Nx507j.Lib.Run
import Nx507j.Lib.Tokens

/-!
# The target

`loc_get_target` of `loc_target.cpp` finds out on which kind of device it runs, from properties and
from files of the system, and keeps what it has found.  A file is read into a line of 100 bytes, and
its beginning is compared with the names that are known.

One device has no answer: where the platform is known but `/dev/mdm` cannot be opened nothing is
kept, and the next call looks again.

## Main definitions

* `Device` — what a call can read.
* `readALine`, `isQca1530`, `locGetTarget` — the functions of the source.
* `Names` — the first line of a file is a name.

## Main results

* `isLine_readALine` — what a comparison of the line says of the file.
* `getTarget_exec` — the target after any calls.
-/

namespace Nx507j
namespace Target

open CText Tokens Run

/-! ### Targets -/

/-- `GNSS_TARGET`. -/
inductive GnssTarget
  | none
  | msm
  | gss
  | mdm
  | qca1530
  | auto
  | unknown
  deriving DecidableEq, Repr

/-- The number of the enumerator. -/
def GnssTarget.index : GnssTarget → UInt32
  | none => 0
  | msm => 1
  | gss => 2
  | mdm => 3
  | qca1530 => 4
  | auto => 5
  | unknown => 6

def noSsc : UInt32 := 0

def hasSsc : UInt32 := 1

/-- `TARGET_SET`. -/
def targetSet (gnss : GnssTarget) (ssc : UInt32) : UInt32 := gnss.index <<< 1 ||| ssc

def targetDefault : UInt32 := targetSet .msm hasSsc
def targetMdm : UInt32 := targetSet .mdm hasSsc
def targetApqSa : UInt32 := targetSet .gss noSsc
def targetMpq : UInt32 := targetSet .none noSsc
def targetMsmNoSsc : UInt32 := targetSet .msm noSsc
def targetQca1530 : UInt32 := targetSet .qca1530 noSsc
def targetAuto : UInt32 := targetSet .auto noSsc
def targetUnknown : UInt32 := targetSet .unknown noSsc

/-- `getTargetGnssType`. -/
def getTargetGnssType (target : UInt32) : UInt32 := target >>> 1

/-- What `gTarget` is before a target has been found. -/
def notFound : UInt32 := 0xFFFFFFFF

/-! ### Files and properties -/

/-- `LINE_LEN`. -/
def lineLen : ℕ := 100

/-- A file of the system: whether `access` finds it, and what is read from it, if it can be
opened. -/
structure SysFile where
  present : Bool
  content : Option (List UInt8)
  deriving DecidableEq, Repr

/-- What a call can read.  The property `sys.qca1530` is read again and again, and may not be
accessible. -/
structure Device where
  qca1530 : ℕ → Option Text
  baseband : Text
  hwPlatform : SysFile
  hwPlatformDep : Option (List UInt8)
  id : SysFile
  idDep : Option (List UInt8)
  mdm : Option (List UInt8)

/-- `read_a_line`, with its result. -/
def readALine (file : Option (List UInt8)) (lineSize : ℕ) : Int32 × Text :=
  match file with
  | none => (-1, [])
  | some content =>
    match fgets 10 lineSize content with
    | none => (0, [])
    | some (line, _) => (0, (untilNul line).take (lineSize - 1))

/-- `QCA1530_DETECT_TIMEOUT`. -/
def qca1530DetectTimeout : ℕ := 15

/-- The loop of `is_qca1530` from `i` on, for `turns` turns. -/
def detectFrom (property : ℕ → Option Text) : ℕ → ℕ → Bool
  | 0, _ => false
  | turns + 1, i =>
    match property i with
    | none => false
    | some buf =>
      if buf = text "yes" then true
      else if buf = text "detect" then detectFrom property turns (i + 1)
      else false

/-- `is_qca1530`. -/
def isQca1530 (property : ℕ → Option Text) : Bool := detectFrom property qca1530DetectTimeout 0

/-- `IS_STR_END`, at the end of a text or in it. -/
def isStrEnd : Text → Bool
  | [] => true
  | c :: _ => c == 0 || c == 10 || c == 13

/-- `!memcmp(line, name, LENGTH(name)) && IS_STR_END(line[LENGTH(name)])`. -/
def isLine (name line : Text) : Bool := name.isPrefixOf line && isStrEnd (line.drop name.length)

/-! ### The target of a device -/

/-- What `loc_get_target` looks for where none has been found: `notFound`, if it leaves `gTarget` as
it is. -/
def detect (device : Device) : UInt32 :=
  if isQca1530 device.qca1530 then targetQca1530
  else
    let baseband := device.baseband
    let rdHwPlatform :=
      if device.hwPlatform.present then (readALine device.hwPlatform.content lineLen).2
      else (readALine device.hwPlatformDep lineLen).2
    let rdId :=
      if device.id.present then (readALine device.id.content lineLen).2
      else (readALine device.idDep lineLen).2
    if (text "auto").isPrefixOf baseband then targetAuto
    else if (text "apq").isPrefixOf baseband then
      if isLine (text "130") rdId then targetMpq else targetApqSa
    else if isLine (text "Liquid") rdHwPlatform || isLine (text "Surf") rdHwPlatform ||
        isLine (text "MTP") rdHwPlatform then
      if (readALine device.mdm lineLen).1 = 0 then targetMdm else notFound
    else if isLine (text "142") rdId || isLine (text "116") rdId then targetMsmNoSsc
    else targetUnknown

/-- `loc_get_target`: what is returned is `gTarget` after the call. -/
def locGetTarget (gTarget : UInt32) (device : Device) : UInt32 :=
  if gTarget ≠ notFound then gTarget else detect device

/-! ### The line that is read -/

/-- The first line of the file is the name; it ends as `IS_STR_END` has it. -/
def Names (name : Text) (file : Option (List UInt8)) : Prop :=
  ∃ content, file = some content ∧ ∃ rest, content = name ++ rest ∧ isStrEnd rest = true

variable {name line : Text}

theorem isLine_iff :
    isLine name line = true ↔ ∃ rest, line = name ++ rest ∧ isStrEnd rest = true := by
  rw [isLine, Bool.and_eq_true, List.isPrefixOf_iff_prefix]
  constructor
  · rintro ⟨⟨rest, rfl⟩, hend⟩
    rw [List.drop_left] at hend
    exact ⟨rest, rfl, hend⟩
  · rintro ⟨rest, rfl, hend⟩
    rw [List.drop_left]
    exact ⟨List.prefix_append name rest, hend⟩

/-- What is cut off does not matter where it is not reached, where the part that is kept has a
character of its own, or where it begins with an end that the name does not have. -/
theorem isLine_append {kept tail : Text}
    (h : name.length < kept.length ∨ (∃ c ∈ kept, c ∉ name) ∨
      isStrEnd tail = true ∧ ∀ c ∈ tail.head?, c ∉ name) :
    isLine name (kept ++ tail) = isLine name kept := by
  rw [Bool.eq_iff_iff, isLine_iff, isLine_iff]
  constructor
  · rintro ⟨rest, heq, hend⟩
    rcases List.append_eq_append_iff.mp heq with ⟨more, rfl, rfl⟩ | ⟨rest', rfl, rfl⟩
    · -- the name goes on where the text has been cut
      cases more with
      | nil => exact ⟨[], by simp, rfl⟩
      | cons c more =>
        exfalso
        rcases h with hlt | ⟨d, hd, hnot⟩ | ⟨-, hhead⟩
        · rw [List.length_append] at hlt
          omega
        · exact hnot (List.mem_append_left _ hd)
        · exact hhead c rfl (List.mem_append_right _ List.mem_cons_self)
    · refine ⟨rest', rfl, ?_⟩
      cases rest' with
      | nil => rfl
      | cons c rest' => exact hend
  · rintro ⟨rest, rfl, hend⟩
    refine ⟨rest ++ tail, List.append_assoc .., ?_⟩
    cases rest with
    | cons c rest => exact hend
    | nil =>
      rw [List.append_nil] at h
      rcases h with hlt | ⟨d, hd, hnot⟩ | ⟨htail, -⟩
      · exact absurd hlt (lt_irrefl _)
      · exact absurd hd hnot
      · exact htail

theorem isLine_untilNul (hnul : 0 ∉ name) : isLine name (untilNul line) = isLine name line := by
  have hline : untilNul line ++ line.dropWhile (· ≠ 0) = line := List.takeWhile_append_dropWhile
  conv_rhs => rw [← hline]
  refine (isLine_append (.inr (.inr ?_))).symm
  cases hdrop : line.dropWhile (· ≠ 0) with
  | nil => exact ⟨rfl, nofun⟩
  | cons c rest =>
    have hzero : c = 0 := by
      have hhead := List.head?_dropWhile_not (fun c : UInt8 => decide (c ≠ 0)) line
      rw [hdrop] at hhead
      simpa using hhead
    subst hzero
    refine ⟨rfl, fun d hd => ?_⟩
    obtain rfl := Option.some.inj hd
    exact hnul

theorem isLine_take {n : ℕ} (hn : name.length < n) :
    isLine name (line.take n) = isLine name line := by
  rcases le_or_gt line.length n with hle | hlt
  · rw [List.take_of_length_le hle]
  · conv_rhs => rw [← List.take_append_drop n line]
    refine (isLine_append (.inl ?_)).symm
    rw [List.length_take]
    omega

theorem isLine_upTo (hnewline : 10 ∉ name) : isLine name (upTo 10 line) = isLine name line := by
  by_cases hmem : (10 : UInt8) ∈ line
  · obtain ⟨l, l', rfl, hl⟩ := List.eq_append_cons_of_mem hmem
    have hmem' : (10 : UInt8) ∈ l ++ [10] := List.mem_append_right l List.mem_cons_self
    rw [upTo_append_cons hl, List.append_cons l 10 l']
    exact (isLine_append (.inr (.inl ⟨10, hmem', hnewline⟩))).symm
  · rw [upTo_of_not_mem hmem]

/-- **What a comparison of the line says of the file**: its first line is the name. -/
theorem isLine_readALine {file : Option (List UInt8)} (hnul : 0 ∉ name) (hnewline : 10 ∉ name)
    (hne : name ≠ []) (hlength : name.length < lineLen - 1) :
    isLine name (readALine file lineLen).2 = true ↔ Names name file := by
  have hempty : isLine name [] = false := by
    cases name with
    | nil => exact absurd rfl hne
    | cons c name => rfl
  cases file with
  | none =>
    refine iff_of_false ?_ (by rintro ⟨content, hcontent, -⟩; cases hcontent)
    rw [readALine, hempty]
    exact Bool.false_ne_true
  | some content =>
    have hcontent : Names name (some content) ↔ isLine name content = true := by
      rw [isLine_iff]
      constructor
      · rintro ⟨content', heq, h⟩
        obtain rfl := Option.some.inj heq
        exact h
      · intro h
        exact ⟨content, rfl, h⟩
    rw [hcontent]
    by_cases hnil : content = []
    · subst hnil
      rfl
    · have hfgets : fgets 10 lineLen content =
          some (upTo 10 (content.take (lineLen - 1)),
            content.drop (upTo 10 (content.take (lineLen - 1))).length) := by
        rw [fgets, if_neg]
        rintro (h | h)
        · exact hnil h
        · exact absurd h (by decide)
      rw [readALine, hfgets]
      dsimp only
      rw [isLine_take hlength, isLine_untilNul hnul, isLine_upTo hnewline, isLine_take hlength]

/-! ### The target after any calls -/

/-- The file with the name of the platform, and the one with the number of the chip. -/
def Device.platformFile (device : Device) : Option (List UInt8) :=
  if device.hwPlatform.present then device.hwPlatform.content else device.hwPlatformDep

def Device.idFile (device : Device) : Option (List UInt8) :=
  if device.id.present then device.id.content else device.idDep

/-- Nothing is found on the device: its platform is known by its first line, its baseband is no
answer, and `/dev/mdm` cannot be opened. -/
structure Device.Unsettled (device : Device) : Prop where
  noQca1530 : isQca1530 device.qca1530 = false
  notAuto : ¬ text "auto" <+: device.baseband
  notApq : ¬ text "apq" <+: device.baseband
  platform : Names (text "Liquid") device.platformFile ∨ Names (text "Surf") device.platformFile ∨
    Names (text "MTP") device.platformFile
  noMdm : device.mdm = none

/-- The file that is found is read, or the other one. -/
theorem line_eq (file : SysFile) (fileDep : Option (List UInt8)) :
    (if file.present then (readALine file.content lineLen).2 else (readALine fileDep lineLen).2) =
      (readALine (if file.present then file.content else fileDep) lineLen).2 := by
  split <;> rfl

theorem readALine_fst (file : Option (List UInt8)) :
    (readALine file lineLen).1 = 0 ↔ file ≠ none := by
  unfold readALine
  cases file with
  | none => exact iff_of_false (by decide) (fun h => h rfl)
  | some content =>
    refine iff_of_true ?_ (Option.some_ne_none content)
    dsimp only
    split <;> rfl

/-- **Where nothing is found.** -/
theorem detect_eq_notFound_iff (device : Device) : detect device = notFound ↔ device.Unsettled := by
  have hline : ∀ name : Text, 0 ∉ name → 10 ∉ name → name ≠ [] → name.length < lineLen - 1 →
      (isLine name (readALine device.platformFile lineLen).2 = true ↔
        Names name device.platformFile) :=
    fun name => isLine_readALine
  have hliquid := hline (text "Liquid") (by decide) (by decide) (by decide) (by decide)
  have hsurf := hline (text "Surf") (by decide) (by decide) (by decide) (by decide)
  have hmtp := hline (text "MTP") (by decide) (by decide) (by decide) (by decide)
  have hfound : targetQca1530 ≠ notFound ∧ targetAuto ≠ notFound ∧ targetMpq ≠ notFound ∧
      targetApqSa ≠ notFound ∧ targetMdm ≠ notFound ∧ targetMsmNoSsc ≠ notFound ∧
      targetUnknown ≠ notFound := by decide
  obtain ⟨hqca, hauto, hmpq, hapq, hmdm, hmsm, hunknown⟩ := hfound
  rw [detect]
  dsimp only
  rw [line_eq, line_eq, ← Device.platformFile, ← Device.idFile]
  constructor
  · intro h
    split at h
    · exact absurd h hqca
    next hnoQca =>
    split at h
    · exact absurd h hauto
    next hnoAuto =>
    split at h
    · split at h
      · exact absurd h hmpq
      · exact absurd h hapq
    next hnoApq =>
    split at h
    · next hplatform =>
      split at h
      · exact absurd h hmdm
      next hnoMdm =>
      rw [Bool.or_eq_true, Bool.or_eq_true, hliquid, hsurf, hmtp, or_assoc] at hplatform
      refine ⟨Bool.eq_false_iff.mpr hnoQca, ?_, ?_, hplatform, ?_⟩
      · rwa [List.isPrefixOf_iff_prefix] at hnoAuto
      · rwa [List.isPrefixOf_iff_prefix] at hnoApq
      · rwa [readALine_fst, ne_eq, not_not] at hnoMdm
    · split at h
      · exact absurd h hmsm
      · exact absurd h hunknown
  · rintro ⟨hnoQca, hnoAuto, hnoApq, hplatform, hnoMdm⟩
    rw [← hliquid, ← hsurf, ← hmtp, ← or_assoc, ← Bool.or_eq_true, ← Bool.or_eq_true] at hplatform
    rw [if_neg (Bool.eq_false_iff.mp hnoQca), if_neg, if_neg, if_pos hplatform, if_neg]
    · rw [readALine_fst, hnoMdm]
      exact fun h => h rfl
    · rwa [List.isPrefixOf_iff_prefix]
    · rwa [List.isPrefixOf_iff_prefix]

theorem exec_of_found {gTarget : UInt32} (h : gTarget ≠ notFound) (devices : List Device) :
    exec locGetTarget gTarget devices = gTarget := by
  induction devices with
  | nil => rfl
  | cons device devices ih => rw [exec_cons, locGetTarget, if_pos h, ih]

/-- **The target is found once.**  After any calls it is that of the first device that had an
answer, whatever the later ones say, and there is none just when no device had an answer. -/
theorem getTarget_exec (devices : List Device) :
    (exec locGetTarget notFound devices = notFound ↔ ∀ device ∈ devices, device.Unsettled) ∧
    ∀ before device later, devices = before ++ device :: later →
      (∀ d ∈ before, d.Unsettled) → ¬ device.Unsettled →
        exec locGetTarget notFound devices = detect device := by
  have hstep : ∀ device, locGetTarget notFound device = detect device := fun device =>
    if_neg fun h => h rfl
  have hiff : ∀ devices : List Device, exec locGetTarget notFound devices = notFound ↔
      ∀ device ∈ devices, device.Unsettled := by
    intro devices
    induction devices with
    | nil => exact iff_of_true rfl nofun
    | cons device devices ih =>
      rw [exec_cons, hstep, List.forall_mem_cons, ← detect_eq_notFound_iff]
      by_cases hdevice : detect device = notFound
      · rw [hdevice, ih, and_iff_right rfl]
      · rw [exec_of_found hdevice]
        exact ⟨fun h => absurd h hdevice, fun h => absurd h.1 hdevice⟩
  refine ⟨hiff devices, ?_⟩
  rintro before device later rfl hbefore hdevice
  have hfound : detect device ≠ notFound := fun h => hdevice ((detect_eq_notFound_iff device).mp h)
  rw [exec_append, (hiff before).mpr hbefore, exec_cons, hstep, exec_of_found hfound]

end Target
end Nx507j
