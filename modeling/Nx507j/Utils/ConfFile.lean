import Nx507j.Utils.ConfLines

/-!
# Configuration files

`loc_read_conf` clears the validity bytes of the table, takes the lines from the file and stops when
as many of them have set something as the table has entries.

## Main definitions

* `FileHonoured` — what a file says of an entry.

## Main results

* `locReadConf_eq` — the lines of a file that are honoured.
* `fileHonoursAll_iff` — when a file is honoured to its last line.
-/

namespace Nx507j
namespace LocCfg

open CText Tokens

variable {F : Type*} {entry : LocParam F} {table : List (LocParam F)}

/-- What the file says of an entry: the last assignment to it is stored, and its validity byte is
set, or it keeps its value, and the byte is cleared. -/
def FileHonoured [Zero F] (atof : Text → F) (all : List (Text × Text)) (entry after : LocParam F) : Prop :=
  match lastValue all entry.paramName with
  | some value =>
    after.paramPtr = (store atof entry value).paramPtr ∧ ∀ byte ∈ after.paramSet, byte = 1
  | none => after.paramPtr = entry.paramPtr ∧ ∀ byte ∈ after.paramSet, byte = 0

theorem settings_fgetsLines {file : Text} (hnul : 0 ∉ file)
    (hlines : ∀ line ∈ lines 10 file, line.length < locMaxParamLine - 1 ∧ Complete line) :
    settings table (fgetsLines file) = effective table file := by
  have hsize : ∀ line ∈ lines 10 file, line.length + 1 < locMaxParamLine := fun line hline =>
    Nat.add_lt_of_lt_sub (hlines line hline).1
  have hnone : ∀ line ∈ lines 10 file, 0 ∉ line := fun line hline hmem =>
    hnul (subset_of_mem_lines hline hmem)
  have hread : ∀ line ∈ lines 10 file,
      operands (untilNul (line ++ [10])) = operands (untilNul line) := fun line hline => by
    have hpiece : 0 ∉ line ++ [10] := fun hmem => by
      rcases List.mem_append.mp hmem with hmem | hmem
      · exact hnone line hline hmem
      · exact absurd (List.mem_singleton.mp hmem) (by decide)
    rw [untilNul_eq_self (hnone line hline), untilNul_eq_self hpiece,
      (hlines line hline).2.operands_newline]
  rw [settings, fgetsLines, all_fgets hsize, List.filterMap_map, effective, assignments]
  congr 1
  rw [filterMap_terminated (operands ∘ untilNul) rfl _ hread]
  refine List.filterMap_congr fun line hline => ?_
  rw [Function.comp_apply, untilNul_eq_self (hnone line hline), (hlines line hline).2.tidy.operands]

/-! ### What is cleared -/

@[simp] theorem clear_paramName : entry.clear.paramName = entry.paramName := rfl

theorem settable_clear : entry.clear.Settable ↔ entry.Settable := Iff.rfl

theorem effective_clear (file : Text) :
    effective (table.map LocParam.clear) file = effective table file := by
  have hrec : ∀ name, recognised (table.map LocParam.clear) name = recognised table name :=
    fun name => by rw [recognised, List.any_map]; rfl
  unfold effective
  simp only [hrec]

variable [Zero F] (atof : Text → F)

/-- What is stored in an entry that can be set marks it as set, whatever the byte was before. -/
theorem store_clear (h : entry.Settable) (value : Text) :
    store atof entry.clear value = store atof entry value ∧
      (store atof entry value).paramSet = entry.paramSet.map fun _ => 1 := by
  obtain ⟨stored, hstored⟩ := (settable_iff (configValue atof entry.paramName value)).mp h
  have hput : store atof entry value = entry.put stored :=
    congrArg Prod.fst (store_of_take atof hstored)
  have htake : entry.clear.paramPtr.bind
      (·.take (configValue atof entry.clear.paramName value)) = some stored := hstored
  have hclear : store atof entry.clear value = entry.clear.put stored :=
    congrArg Prod.fst (store_of_take atof htake)
  refine ⟨?_, hput ▸ rfl⟩
  rw [hput, hclear, LocParam.put, LocParam.put, LocParam.clear]
  cases entry.paramSet <;> rfl

/-- The entry has a validity byte after assignments just when it had one before. -/
theorem isSome_honour (entry : LocParam F) (all : List (Text × Text)) :
    (honour atof all entry.clear).paramSet.isSome = entry.paramSet.isSome := by
  unfold honour
  split
  · simp [LocParam.clear]
  · next value _ =>
    by_cases h : entry.Settable
    · rw [(store_clear atof h value).1, (store_clear atof h value).2, Option.isSome_map]
    · have hsame : store atof entry.clear value = entry.clear :=
        congrArg Prod.fst (store_of_not_settable atof (settable_clear.not.mpr h) value)
      rw [hsame]
      simp [LocParam.clear]

/-- What it says of a byte that there may be that it has a value. -/
theorem forall_mem_iff_eq_map {byte byte' : Option UInt8} (h : byte.isSome = byte'.isSome)
    (value : UInt8) : (∀ b ∈ byte, b = value) ↔ byte = byte'.map fun _ => value := by
  cases byte with
  | none =>
    cases byte' with
    | none => simp
    | some b' => cases h
  | some b =>
    cases byte' with
    | none => cases h
    | some b' => simp

theorem lastValue_take_of_none {all : List (Text × Text)} {name : Text}
    (h : lastValue all name = none) (limit : ℕ) : lastValue (all.take limit) name = none := by
  rw [lastValue, List.getLast?_eq_none_iff, List.filterMap_eq_nil_iff] at h ⊢
  exact fun a ha => h a (List.mem_of_mem_take ha)

/-- An entry that can be set. -/
theorem fileHonoured_iff_of_settable {file : Text} (hentry : entry ∈ table) (h : entry.Settable)
    (limit : ℕ) :
    FileHonoured atof (assignments file) entry
        (honour atof ((effective table file).take limit) entry.clear) ↔
      LateLinesRepeat atof limit (effective table file) entry.clear := by
  have hlastValue : lastValue (effective table file) entry.paramName =
      lastValue (assignments file) entry.paramName := lastValue_filter_recognised _ hentry h
  rw [← honour_take_eq_iff, FileHonoured, ← hlastValue]
  cases hlast : lastValue (effective table file) entry.paramName with
  | none =>
    have hall : honour atof (effective table file) entry.clear = entry.clear := by
      rw [honour, clear_paramName, hlast]
    have hearly : honour atof ((effective table file).take limit) entry.clear = entry.clear := by
      rw [honour, clear_paramName, lastValue_take_of_none hlast]
    rw [hall, hearly]
    have hsome : entry.clear.paramSet.isSome = entry.paramSet.isSome := Option.isSome_map ..
    exact iff_of_true ⟨rfl, (forall_mem_iff_eq_map hsome 0).mpr rfl⟩ rfl
  | some value =>
    have hall : honour atof (effective table file) entry.clear = store atof entry value := by
      rw [honour, clear_paramName, hlast]
      exact (store_clear atof h value).1
    have hsome := isSome_honour atof entry ((effective table file).take limit)
    have hname : (honour atof ((effective table file).take limit) entry.clear).paramName =
        entry.paramName := honour_paramName _
    rw [hall]
    generalize honour atof ((effective table file).take limit) entry.clear = after at *
    dsimp only
    rw [forall_mem_iff_eq_map hsome, ← (store_clear atof h value).2]
    constructor
    · rintro ⟨hptr, hset⟩
      exact LocParam.ext (hname.trans (store_paramName atof value).symm) hptr hset
    · rintro rfl
      exact ⟨rfl, rfl⟩

/-- An entry for whose value there is no place. -/
theorem fileHonoured_iff_of_not_settable {all some : List (Text × Text)} (h : ¬entry.Settable) :
    FileHonoured atof all entry (honour atof some entry.clear) ↔
      (lastValue all entry.paramName ≠ none → entry.paramSet = none) := by
  rw [honour_of_not_settable (settable_clear.not.mpr h), FileHonoured]
  have hbyte : entry.clear.paramSet.isSome = entry.paramSet.isSome := Option.isSome_map ..
  cases lastValue all entry.paramName with
  | none =>
    refine iff_of_true ⟨rfl, ?_⟩ fun hne => absurd rfl hne
    exact (forall_mem_iff_eq_map hbyte 0).mpr rfl
  | some value =>
    have hsame : store atof entry value = entry :=
      congrArg Prod.fst (store_of_not_settable atof h value)
    dsimp only
    rw [hsame, forall_mem_iff_eq_map hbyte, and_iff_right (by rfl), imp_iff_right (by simp)]
    unfold LocParam.clear
    cases entry.paramSet with
    | none => exact iff_of_true rfl rfl
    | some byte => exact iff_of_false (by simp) (by simp)

/-! ### A file -/

/-- **The lines of a file that are honoured**: those that set something, as long as there are no
more of them than entries. -/
theorem locReadConf_eq (hnames : NamesDistinct table) (hsize : table.length < 2 ^ 32)
    (paramTable : List (LocParam F)) {file : Text} (hnul : 0 ∉ file)
    (hlines : ∀ line ∈ lines 10 file, line.length < locMaxParamLine - 1 ∧ Complete line) :
    (locReadConf atof (some file) table paramTable).1 =
      table.map fun entry =>
        honour atof ((effective table file).take table.length) entry.clear := by
  have hlimit : (UInt32.ofNat table.length).toNat = table.length := by
    rw [UInt32.toNat_ofNat']
    omega
  unfold locReadConf
  dsimp only
  split
  · next hempty =>
    rw [List.isEmpty_iff.mp hempty]
    rfl
  · rw [locReadConfR, fillWhile_eq hnames.clear, hlimit, settings_fgetsLines hnul hlines, effective_clear,
      List.map_map]
    rfl

/-- **When a file is honoured to its last line.** -/
theorem fileHonoursAll_iff (hnames : NamesDistinct table) (hsize : table.length < 2 ^ 32)
    (paramTable : List (LocParam F)) {file : Text} (hnul : 0 ∉ file)
    (hlines : ∀ line ∈ lines 10 file, line.length < locMaxParamLine - 1 ∧ Complete line) :
    List.Forall₂ (FileHonoured atof (assignments file)) table
        (locReadConf atof (some file) table paramTable).1 ↔
      ∀ entry ∈ table,
        LateLinesRepeat atof table.length (effective table file) entry.clear ∧
          (lastValue (assignments file) entry.paramName ≠ none → entry.paramSet ≠ none →
            entry.Settable) := by
  rw [locReadConf_eq atof hnames hsize paramTable hnul hlines, List.forall₂_map_right_iff,
    List.forall₂_same]
  refine forall₂_congr fun entry hentry => ?_
  by_cases h : entry.Settable
  · rw [fileHonoured_iff_of_settable atof hentry h, and_iff_left fun _ _ => h]
  · have hnot : ¬entry.clear.Settable := settable_clear.not.mpr h
    have hrepeat : LateLinesRepeat atof table.length (effective table file) entry.clear := by
      rw [← honour_take_eq_iff, honour_of_not_settable hnot, honour_of_not_settable hnot]
    rw [fileHonoured_iff_of_not_settable atof h, and_iff_right hrepeat]
    refine imp_congr_right fun _ => ?_
    exact ⟨fun hnone hne => absurd hnone hne, fun himp => not_not.mp fun hne => h (himp hne)⟩

/-- A number with a validity byte, and one without. -/
def withByte : List (LocParam ℤ) :=
  [⟨text "BIAS", some (.n 0), some 0⟩, ⟨text "BATCHES", some (.n 0), none⟩]

theorem fileHonoursAll_iff_withByte :
    List.Forall₂ (FileHonoured atofWhole (assignments (text "BIAS = 1\nBATCHES = 2")))
        withByte (locReadConf atofWhole (some (text "BIAS = 1\nBATCHES = 2")) withByte []).1 ↔
      ∀ entry ∈ withByte,
        LateLinesRepeat atofWhole withByte.length
            (effective withByte (text "BIAS = 1\nBATCHES = 2")) entry.clear ∧
          (lastValue (assignments (text "BIAS = 1\nBATCHES = 2")) entry.paramName ≠ none →
            entry.paramSet ≠ none → entry.Settable) :=
  fileHonoursAll_iff atofWhole (by decide) (by decide) [] (by decide) (by decide)

/-- A name is assigned twice before the other: the other is not read. -/
theorem file_not_honoured_withByte :
    NamesDistinct withByte ∧ 0 ∉ text "BIAS=1\nBIAS=2\nBATCHES=3\n" ∧
      (∀ line ∈ lines 10 (text "BIAS=1\nBIAS=2\nBATCHES=3\n"),
        line.length < locMaxParamLine - 1 ∧ Complete line) ∧
      ¬List.Forall₂ (FileHonoured atofWhole (assignments (text "BIAS=1\nBIAS=2\nBATCHES=3\n")))
        withByte
        (locReadConf atofWhole (some (text "BIAS=1\nBIAS=2\nBATCHES=3\n")) withByte []).1 := by
  refine ⟨by decide, by decide, by decide, fun h => ?_⟩
  rw [locReadConf_eq atofWhole (by decide) (by decide) [] (by decide) (by decide)] at h
  obtain ⟨-, h⟩ := List.forall₂_cons.mp h
  obtain ⟨hbatches, -⟩ := List.forall₂_cons.mp h
  have hptr := hbatches.1
  revert hptr
  decide

end LocCfg
end Nx507j
