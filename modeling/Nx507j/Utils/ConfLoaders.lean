import Nx507j.Utils.ConfFile

/-!
# The two loaders

`loc_read_conf_r` fills in lines that still have their newline, `loc_update_conf` lines without.
Where a name has an equals sign but no value behind it, the newline is taken for the value, so that
a file stores something for a line that a buffer skips.

## Main definitions

* `lineName`, `lastLine` — the name of a line, and the last line with a name.
* `LoadersAgree` — what is asked of the last line with the name of an entry.

## Main results

* `loaders_agree_iff` — when a file and a buffer with one text leave the same values.
-/

namespace Nx507j
namespace LocCfg

open CText Tokens

/-- The name of a line: the first segment, if an equals sign stands behind it. -/
def lineName (line : Text) : Option Text := (firstSegments line).head?.map locUtilTrimSpace

/-- The line has nothing behind its name and the equals sign. -/
def MissingValue (line : Text) : Prop := (firstSegments line).length = 1 ∧ lastPart line = []

/-- The line has nothing but blanks there. -/
def BlankValue (line : Text) : Prop :=
  (firstSegments line).length = 1 ∧ lastPart line ≠ [] ∧ Blank (lastPart line)

instance (line : Text) : Decidable (MissingValue line) := by unfold MissingValue; infer_instance

instance (line : Text) : Decidable (BlankValue line) := by unfold BlankValue; infer_instance

/-- The last line with a name. -/
def lastLine (all : List Text) (name : Text) : Option Text :=
  all.reverse.find? fun line => lineName line = some name

section

variable {F : Type*}

/-- The lines whose names are in the table. -/
def namedLines (table : List (LocParam F)) (all : List Text) : List Text :=
  all.filter fun line => table.any fun entry => lineName line = some entry.paramName

/-- The entry is a text. -/
def LocParam.IsText (entry : LocParam F) : Prop := ∃ value, entry.paramPtr = some (.s value)

variable [Zero F] (atof : Text → F)

/-- What is asked of the last line with the name of an entry: if it has no value, a newline is to
store what the last line with a value stores or, where there is none, what the entry has held
before; and if its value is blank and the entry a text, the value is to fill the place. -/
def LoadersAgree (all : List Text) (entry : LocParam F) : Prop :=
  ∀ line, lastLine all entry.paramName = some line →
    (MissingValue line →
      (store atof entry [10]).paramPtr =
        match lastValue (all.filterMap operands) entry.paramName with
        | some value => (store atof entry value).paramPtr
        | none => entry.paramPtr) ∧
    (BlankValue line → entry.IsText → locMaxParamString ≤ (lastPart line).length)

end

/-! ### The last line with a name -/

/-- A search for the last value stops at the last line that it may come from. -/
theorem findSome?_of_find? {α β : Type*} {g : α → Option β} {p : α → Bool}
    (hg : ∀ a, p a = false → g a = none) {all : List α} {a : α} {b : β}
    (hfind : all.find? p = some a) (hb : g a = some b) : all.findSome? g = some b := by
  induction all with
  | nil => cases hfind
  | cons c all ih =>
    cases hc : p c with
    | true =>
      rw [List.find?_cons_of_pos hc] at hfind
      cases hfind
      rw [List.findSome?_cons, hb]
    | false =>
      rw [List.find?_cons_of_neg (by simp [hc])] at hfind
      rw [List.findSome?_cons, hg c hc]
      exact ih hfind

/-- The value that a line gives a name, read by `read`. -/
def valueOf (read : Text → Option (Text × Text)) (name line : Text) : Option Text :=
  (read line).bind fun a => if a.1 = name then some a.2 else none

theorem lastValue_filterMap (read : Text → Option (Text × Text)) (all : List Text) (name : Text) :
    lastValue (all.filterMap read) name = all.reverse.findSome? (valueOf read name) := by
  rw [lastValue, List.filterMap_filterMap, List.getLast?_filterMap]
  rfl

/-- Where a line has operands, its name is the first of them. -/
theorem operands_fst {line : Text} {a : Text × Text} (h : operands line = some a) :
    lineName line = some a.1 := by
  rw [operands_line] at h
  unfold lineName
  match hfirst : firstSegments line with
  | [] => rw [hfirst] at h; cases h
  | [name] =>
    rw [hfirst] at h
    dsimp only at h
    split at h
    · cases h
    · cases h; rfl
  | name :: value :: rest => rw [hfirst] at h; cases h; rfl

theorem operands_newline_fst {line : Text} {a : Text × Text}
    (h : operands (line ++ [10]) = some a) : lineName line = some a.1 := by
  rw [operands_newline] at h
  unfold lineName
  match hfirst : firstSegments line with
  | [] => rw [hfirst] at h; cases h
  | [name] => rw [hfirst] at h; cases h; rfl
  | name :: value :: rest => rw [hfirst] at h; cases h; rfl

theorem valueOf_eq_none {read : Text → Option (Text × Text)} {name line : Text}
    (hread : ∀ {a}, read line = some a → lineName line = some a.1)
    (h : decide (lineName line = some name) = false) : valueOf read name line = none := by
  unfold valueOf
  cases hline : read line with
  | none => rfl
  | some a =>
    refine if_neg fun hname => ?_
    exact of_decide_eq_false h ((hread hline).trans (congrArg some hname))

theorem lineName_of_lastLine {name line : Text} {all : List Text}
    (h : lastLine all name = some line) : lineName line = some name := by
  unfold lastLine at h
  simpa using List.find?_some h

theorem lastValue_of_lastLine {read : Text → Option (Text × Text)} {name line value : Text}
    {all : List Text} (hread : ∀ {line a}, read line = some a → lineName line = some a.1)
    (hlast : lastLine all name = some line) (hline : read line = some (name, value)) :
    lastValue (all.filterMap read) name = some value := by
  rw [lastValue_filterMap]
  refine findSome?_of_find? (fun a ha => valueOf_eq_none hread ha) hlast ?_
  rw [valueOf, hline]
  exact if_pos rfl

theorem lastValue_of_no_line {read : Text → Option (Text × Text)} {name : Text} {all : List Text}
    (hread : ∀ {line a}, read line = some a → lineName line = some a.1)
    (hlast : lastLine all name = none) : lastValue (all.filterMap read) name = none := by
  rw [lastValue_filterMap, List.findSome?_eq_none_iff]
  intro line hline
  refine valueOf_eq_none hread ?_
  simpa using List.find?_eq_none.mp hlast line hline

/-- What a line with a name says, with its newline and without: the value is missing, it is blank,
or it does not depend on the newline. -/
theorem named_line_cases {name line : Text} (h : lineName line = some name) :
    MissingValue line ∧ operands line = none ∧ operands (line ++ [10]) = some (name, [10]) ∨
      BlankValue line ∧ operands line = some (name, lastPart line) ∧
        operands (line ++ [10]) = some (name, lastPart line ++ [10]) ∨
      ¬MissingValue line ∧ ¬BlankValue line ∧
        ∃ value, operands line = some (name, value) ∧
          operands (line ++ [10]) = some (name, value) := by
  have hself : ∀ {s : Text}, Blank s → locUtilTrimSpace s = s := fun hs => if_pos hs
  rw [operands_line, operands_newline]
  unfold lineName at h
  unfold MissingValue BlankValue
  match hfirst : firstSegments line with
  | [] =>
    rw [hfirst] at h
    cases h
  | [first] =>
    rw [hfirst] at h
    cases h
    by_cases hnil : lastPart line = []
    · refine Or.inl ⟨⟨rfl, hnil⟩, if_pos hnil, ?_⟩
      rw [hnil]
      rfl
    · by_cases hblank : Blank (lastPart line)
      · have hnewline : Blank (lastPart line ++ [10]) := blank_append.mpr ⟨hblank, by decide⟩
        refine Or.inr (Or.inl ⟨⟨rfl, hnil, hblank⟩, ?_, ?_⟩)
        · dsimp only
          rw [if_neg hnil, hself hblank]
        · dsimp only
          rw [hself hnewline]
      · refine Or.inr (Or.inr ⟨fun h => hnil h.2, fun h => hblank h.2.2,
          locUtilTrimSpace (lastPart line), if_neg hnil, ?_⟩)
        dsimp only
        rw [locUtilTrimSpace_newline hblank]
  | first :: value :: rest =>
    -- the newline is behind the value, in another segment
    rw [hfirst] at h
    cases h
    exact Or.inr (Or.inr ⟨by simp, by simp, locUtilTrimSpace value, rfl, rfl⟩)

/-! ### Blank values -/

/-- The assignments to names that can be set are no more than the lines with names of the table. -/
theorem length_filter_recognised_le {F : Type*} (table : List (LocParam F)) {read : Text → Option (Text × Text)}
    (hread : ∀ {line a}, read line = some a → lineName line = some a.1) (all : List Text) :
    ((all.filterMap read).filter fun a => recognised table a.1).length ≤
      (namedLines table all).length := by
  rw [List.filter_filterMap, List.length_filterMap_eq_countP, namedLines,
    ← List.countP_eq_length_filter]
  refine List.countP_mono_left fun line _ hsome => ?_
  cases hline : read line with
  | none => simp [hline] at hsome
  | some a =>
    have hrec : recognised table a.1 = true := by
      by_contra hnot
      simp [hline, hnot] at hsome
    obtain ⟨entry, hentry, hname⟩ := List.any_eq_true.mp hrec
    have heq : entry.paramName = a.1 := (of_decide_eq_true hname).1
    refine List.any_eq_true.mpr ⟨entry, hentry, decide_eq_true ?_⟩
    rw [hread hline, heq]

section Values

variable {F : Type*} [Zero F] {atof : Text → F} {entry : LocParam F} {table : List (LocParam F)}

theorem store_paramPtr (value : Text) :
    (store atof entry value).paramPtr =
      (entry.paramPtr.bind (·.take (configValue atof entry.paramName value))).or
        entry.paramPtr := by
  by_cases h : entry.Settable
  · obtain ⟨stored, hstored⟩ := (settable_iff (configValue atof entry.paramName value)).mp h
    rw [store, store_of_take atof hstored, hstored]
    rfl
  · rw [store, store_of_not_settable atof h]
    cases hbind : entry.paramPtr.bind (·.take (configValue atof entry.paramName value)) with
    | none => rfl
    | some stored => exact absurd ((settable_iff _).mpr ⟨stored, hbind⟩) h

theorem isHex_of_blank {s : Text} (h : Blank s) : isHex s = false := by
  unfold isHex
  split
  · exact absurd (h 48 List.mem_cons_self) (by decide)
  · rfl

/-- What a blank value stores: zero, or the blanks. -/
theorem configValue_of_blank (hatof : ∀ s, Blank s → atof s = 0) (name : Text) {value : Text}
    (h : Blank value) : configValue atof name value = ⟨name, value, 0, 0⟩ := by
  have hzero : atoi value = 0 := strtol_blank h
  rw [configValue, isHex_of_blank h, hzero, hatof value h]
  rfl

/-- A newline behind a blank value is stored in a text that is not full yet, and nowhere else. -/
theorem store_blank_newline_iff (hatof : ∀ s, Blank s → atof s = 0) {value : Text}
    (h : Blank value) :
    (store atof entry (value ++ [10])).paramPtr = (store atof entry value).paramPtr ↔
      (entry.IsText → locMaxParamString ≤ value.length) := by
  have hnewline : Blank (value ++ [10]) := blank_append.mpr ⟨h, by decide⟩
  have hnull : ∀ {s : Text}, Blank s → s ≠ text "NULL" := by
    rintro s hs rfl
    revert hs
    decide
  rw [store_paramPtr, store_paramPtr, configValue_of_blank hatof _ h,
    configValue_of_blank hatof _ hnewline]
  unfold LocParam.IsText
  cases entry.paramPtr with
  | none => exact iff_of_true rfl fun ⟨_, hnone⟩ => nomatch hnone
  | some place =>
    cases place with
    | s old =>
      have hfull : (value ++ [10]).take locMaxParamString = value.take locMaxParamString ↔
          locMaxParamString ≤ value.length := by
        constructor
        · intro heq
          have hlength := congrArg List.length heq
          rw [List.length_take, List.length_take, List.length_append, List.length_singleton]
            at hlength
          omega
        · exact fun hle => List.take_append_of_le_length hle
      rw [imp_iff_right ⟨old, rfl⟩, ← hfull]
      unfold Storage.take
      dsimp only [Option.bind_some]
      rw [if_neg (hnull h), if_neg (hnull hnewline)]
      simp [strlcpy]
    | n old => exact iff_of_true rfl fun ⟨_, hn⟩ => nomatch hn
    | f old => exact iff_of_true rfl fun ⟨_, hf⟩ => nomatch hf
    | other => exact iff_of_true rfl fun ⟨_, hother⟩ => nomatch hother

theorem honour_paramPtr (all : List (Text × Text)) :
    (honour atof all entry).paramPtr =
      match lastValue all entry.paramName with
      | some value => (store atof entry value).paramPtr
      | none => entry.paramPtr := by
  unfold honour
  cases lastValue all entry.paramName <;> rfl

/-- The validity byte has nothing to do with the value. -/
theorem honour_clear_paramPtr (all : List (Text × Text)) :
    (honour atof all entry.clear).paramPtr = (honour atof all entry).paramPtr := by
  rw [honour_paramPtr, honour_paramPtr, clear_paramName]
  cases lastValue all entry.paramName with
  | none => rfl
  | some value =>
    dsimp only
    rw [store_paramPtr, store_paramPtr]
    rfl

/-- **One entry.**  The lines with their newlines leave the value that those without leave. -/
theorem honour_newline_iff (hatof : ∀ s, Blank s → atof s = 0) (all : List Text) :
    (honour atof (all.filterMap fun line => operands (line ++ [10])) entry).paramPtr =
        (honour atof (all.filterMap operands) entry).paramPtr ↔
      LoadersAgree atof all entry := by
  rw [honour_paramPtr, honour_paramPtr]
  unfold LoadersAgree
  cases hlast : lastLine all entry.paramName with
  | none =>
    rw [lastValue_of_no_line operands_newline_fst hlast, lastValue_of_no_line operands_fst hlast]
    exact iff_of_true rfl fun line hline => nomatch hline
  | some line =>
    have hfile : ∀ value, operands (line ++ [10]) = some (entry.paramName, value) →
        lastValue (all.filterMap fun line => operands (line ++ [10])) entry.paramName =
          some value := fun _ => lastValue_of_lastLine operands_newline_fst hlast
    have hbuffer : ∀ value, operands line = some (entry.paramName, value) →
        lastValue (all.filterMap operands) entry.paramName = some value := fun _ =>
      lastValue_of_lastLine operands_fst hlast
    have honly : ∀ {P : Text → Prop}, (∀ other, some line = some other → P other) ↔ P line :=
      ⟨fun h => h line rfl, fun h other hother => Option.some.inj hother ▸ h⟩
    rw [honly]
    rcases named_line_cases (lineName_of_lastLine hlast) with
      ⟨hmissing, -, hnewline⟩ | ⟨hblank, hoperands, hnewline⟩ |
      ⟨hmissing, hblank, value, hoperands, hnewline⟩
    · have hnot : ¬BlankValue line := fun h => h.2.1 hmissing.2
      rw [hfile _ hnewline, imp_iff_right hmissing, and_iff_left fun h => absurd h hnot]
    · have hnot : ¬MissingValue line := fun h => hblank.2.1 h.2
      rw [hfile _ hnewline, hbuffer _ hoperands, imp_iff_right hblank,
        and_iff_right fun h => absurd h hnot]
      exact store_blank_newline_iff hatof hblank.2.2
    · rw [hfile _ hnewline, hbuffer _ hoperands]
      exact iff_of_true rfl ⟨fun h => absurd h hmissing, fun h => absurd h hblank⟩

/-! ### A text -/

variable {all : List Text}

theorem fgetsLines_flatMap
    (hall : ∀ line ∈ all, 10 ∉ line ∧ 0 ∉ line ∧ line.length < locMaxParamLine - 1) :
    fgetsLines (all.flatMap (· ++ [10])) = all.map (· ++ [10]) := by
  have hlines := lines_flatMap fun line hline => (hall line hline).1
  have hsize : ∀ line ∈ lines 10 (all.flatMap (· ++ [10])), line.length + 1 < locMaxParamLine := by
    rw [hlines]
    intro line hline
    rcases List.mem_append.mp hline with hline | hline
    · exact Nat.add_lt_of_lt_sub (hall line hline).2.2
    · rw [List.mem_singleton.mp hline]
      decide
  rw [fgetsLines, all_fgets hsize, hlines, terminated_concat, List.map_map]
  refine List.map_congr_left fun line hline => untilNul_eq_self fun hmem => ?_
  rcases List.mem_append.mp hmem with hmem | hmem
  · exact (hall line hline).2.1 hmem
  · exact absurd (List.mem_singleton.mp hmem) (by decide)

/-- What is filled in from a file, if there are not more lines with names than entries. -/
theorem locReadConfR_flatMap (hnames : NamesDistinct table) (hsize : table.length < 2 ^ 32)
    (hall : ∀ line ∈ all, 10 ∉ line ∧ 0 ∉ line ∧ line.length < locMaxParamLine - 1)
    (hfew : (namedLines table all).length ≤ table.length) :
    locReadConfR atof (all.flatMap (· ++ [10])) table =
      table.map fun entry =>
        honour atof (all.filterMap fun line => operands (line ++ [10])) entry.clear := by
  have hlimit : (UInt32.ofNat table.length).toNat = table.length := by
    rw [UInt32.toNat_ofNat']
    omega
  have hnamed : namedLines (table.map LocParam.clear) all = namedLines table all := by
    unfold namedLines
    simp only [List.any_map]
    rfl
  have hshort : ((settings (table.map LocParam.clear) (all.map (· ++ [10]))).take table.length) =
      settings (table.map LocParam.clear) (all.map (· ++ [10])) := by
    have hle := length_filter_recognised_le (table.map LocParam.clear) operands_newline_fst all
    rw [hnamed] at hle
    refine List.take_of_length_le ?_
    rw [settings, List.filterMap_map]
    exact Nat.le_trans hle hfew
  rw [locReadConfR, fillWhile_eq hnames.clear, hlimit, fgetsLines_flatMap hall, hshort, List.map_map]
  refine List.map_congr_left fun entry hentry => ?_
  rw [Function.comp_apply, settings, List.filterMap_map,
    honour_filter_recognised _ (List.mem_map_of_mem hentry)]
  rfl

/-- What is filled in from a buffer, if there are fewer of them. -/
theorem locUpdateConf_flatMap (hnames : NamesDistinct table) (hsize : table.length < 2 ^ 32)
    (hall : ∀ line ∈ all, 10 ∉ line ∧ 0 ∉ line)
    (hlength : (all.flatMap (· ++ [10])).length < 2 ^ 31)
    (hfew : (namedLines table all).length ≤ table.length - 1) :
    (locUpdateConf atof (some (all.flatMap (· ++ [10])))
        (Int32.ofNat (all.flatMap (· ++ [10])).length) true table).1 =
      table.map (honour atof (all.filterMap operands)) := by
  have hnul : 0 ∉ all.flatMap (· ++ [10]) := fun hmem => by
    obtain ⟨line, hline, hzero⟩ := List.mem_flatMap.mp hmem
    rcases List.mem_append.mp hzero with hzero | hzero
    · exact (hall line hline).2 hzero
    · exact absurd (List.mem_singleton.mp hzero) (by decide)
  have hsettings : settings table (segments isNewline (all.flatMap (· ++ [10]))) =
      (all.filterMap operands).filter fun a => recognised table a.1 := by
    rw [settings, filterMap_segments, lines_flatMap fun line hline => (hall line hline).1,
      List.filterMap_append, List.filterMap_cons_none rfl, List.filterMap_nil, List.append_nil]
  have hle := length_filter_recognised_le table operands_fst all
  rw [locUpdateConf_settings atof hnames hsize hlength hnul, hsettings,
    List.take_of_length_le (Nat.le_trans hle hfew)]
  exact List.map_congr_left fun entry hentry => honour_filter_recognised _ hentry

/-- **When a file and a buffer leave the same values.** -/
theorem loaders_agree_iff (hatof : ∀ s, Blank s → atof s = 0) (hnames : NamesDistinct table)
    (hsize : table.length < 2 ^ 32)
    (hall : ∀ line ∈ all, 10 ∉ line ∧ 0 ∉ line ∧ line.length < locMaxParamLine - 1)
    (hlength : (all.flatMap (· ++ [10])).length < 2 ^ 31)
    (hfew : (namedLines table all).length < table.length - 1) :
    (locReadConfR atof (all.flatMap (· ++ [10])) table).map LocParam.paramPtr =
        (locUpdateConf atof (some (all.flatMap (· ++ [10])))
          (Int32.ofNat (all.flatMap (· ++ [10])).length) true table).1.map LocParam.paramPtr ↔
      ∀ entry ∈ table, LoadersAgree atof all entry := by
  have hbuffer : ∀ line ∈ all, 10 ∉ line ∧ 0 ∉ line := fun line hline =>
    ⟨(hall line hline).1, (hall line hline).2.1⟩
  rw [locReadConfR_flatMap hnames hsize hall (by omega),
    locUpdateConf_flatMap hnames hsize hbuffer hlength (by omega), List.map_map, List.map_map,
    List.map_inj_left]
  refine forall₂_congr fun entry _ => ?_
  rw [← honour_newline_iff hatof, Function.comp_apply, Function.comp_apply, honour_clear_paramPtr]

theorem atofWhole_blank (s : Text) (h : Blank s) : atofWhole s = 0 := by
  rw [atofWhole, atoi, strtol_blank h]
  rfl

/-- A number and a text with room. -/
def threeEntries : List (LocParam ℤ) :=
  [⟨text "CAPABILITIES", some (.n 7), none⟩, ⟨text "XTRA_SERVER_1", some (.s (text "a")), none⟩,
    ⟨text "SUPL_VER", some (.n 0), none⟩]

theorem loaders_agree_iff_threeEntries :
    (locReadConfR atofWhole ([text "SUPL_VER = 1 "].flatMap (· ++ [10]))
        threeEntries).map LocParam.paramPtr =
        (locUpdateConf atofWhole (some ([text "SUPL_VER = 1 "].flatMap (· ++ [10])))
          (Int32.ofNat ([text "SUPL_VER = 1 "].flatMap (· ++ [10])).length) true
          threeEntries).1.map LocParam.paramPtr ↔
      ∀ entry ∈ threeEntries, LoadersAgree atofWhole [text "SUPL_VER = 1 "] entry :=
  loaders_agree_iff atofWhole_blank (by decide) (by decide) (by decide) (by decide) (by decide)

/-- A name with nothing behind its equals sign: the file sets it to zero. -/
theorem loaders_disagree_threeEntries :
    NamesDistinct threeEntries ∧
      (namedLines threeEntries [text "CAPABILITIES="]).length < threeEntries.length - 1 ∧
      (locReadConfR atofWhole ([text "CAPABILITIES="].flatMap (· ++ [10]))
        threeEntries).map LocParam.paramPtr ≠
        (locUpdateConf atofWhole (some ([text "CAPABILITIES="].flatMap (· ++ [10])))
          (Int32.ofNat ([text "CAPABILITIES="].flatMap (· ++ [10])).length) true
          threeEntries).1.map LocParam.paramPtr := by
  refine ⟨by decide, by decide, ?_⟩
  rw [locReadConfR_flatMap (by decide) (by decide) (by decide) (by decide),
    locUpdateConf_flatMap (by decide) (by decide) (by decide) (by decide) (by decide)]
  decide

end Values

end LocCfg
end Nx507j
