import Mathlib.Algebra.Notation.Defs
import Mathlib.Data.List.DropRight
import Mathlib.Data.List.Nodup
import Nx507j.Lib.CText
import Nx507j.Lib.Tokens

/-!
# Configuration files and buffers

`loc_cfg.cpp` sets parameters from lines `NAME = VALUE`.  A table says, for each name, where the
value goes and of which type it is.  `loc_read_conf` takes the lines from a file, `loc_update_conf`
from a buffer; both stop after a number of lines that have set something.

The table's pointers are modelled by what they point to, each entry with a place of its own.
`double` is any type with a zero, and `atof` any function to it.

## Main definitions

* `LocParam`, `LocParamV` — an entry of a table, and a parameter that has been read.
* `locUpdateConf`, `locReadConfR`, `locReadConf` — the loaders.
* `operands` — the name and the value of a line.
* `honour` — an entry after assignments have been made to it.

## Main results

* `locFillConfItem_eq` — a line assigns its value to the entry with its name.
* `fillWhile_eq` — the assignments that a loader makes before it stops.
-/

namespace Nx507j
namespace LocCfg

open CText Tokens

/-! ### Parameters -/

def locMaxParamName : ℕ := 80

def locMaxParamString : ℕ := 80

def locMaxParamLine : ℕ := locMaxParamName + locMaxParamString

/-- What `param_ptr` points to, by `param_type`; any type but 's', 'n' and 'f' is `other`. -/
inductive Storage (F : Type*)
  | s (value : Text)
  | n (value : Int32)
  | f (value : F)
  | other
  deriving DecidableEq, Repr

/-- `loc_param_s_type`, with what its pointers point to, if they do. -/
@[ext]
structure LocParam (F : Type*) where
  paramName : Text
  paramPtr : Option (Storage F)
  paramSet : Option UInt8
  deriving DecidableEq, Repr

/-- `loc_param_v_type`. -/
structure LocParamV (F : Type*) where
  paramName : Text
  paramStrValue : Text
  paramIntValue : Int32
  paramDoubleValue : F
  deriving DecidableEq, Repr

variable {F : Type*}

/-- The entry with another value, which is marked as set. -/
def LocParam.put (entry : LocParam F) (value : Storage F) : LocParam F :=
  { entry with paramPtr := some value, paramSet := entry.paramSet.map fun _ => 1 }

/-- What is stored in a place, by its type. -/
def Storage.take (place : Storage F) (value : LocParamV F) : Option (Storage F) :=
  match place with
  | .s _ =>
    if value.paramStrValue = text "NULL" then some (.s [])
    else some (.s (strlcpy (locMaxParamString + 1) value.paramStrValue))
  | .n _ => some (.n value.paramIntValue)
  | .f _ => some (.f value.paramDoubleValue)
  | .other => none

/-- `loc_set_config_entry`, with its result. -/
def locSetConfigEntry (entry : LocParam F) (value : LocParamV F) : LocParam F × Int32 :=
  if entry.paramName = value.paramName then
    match entry.paramPtr.bind (·.take value) with
    | some stored => (entry.put stored, 0)
    | none => (entry, -1)
  else (entry, -1)

/-! ### A line -/

/-- `loc_util_trim_space`: a text of blanks is left as it is. -/
def locUtilTrimSpace (s : Text) : Text :=
  if Blank s then s else (s.dropWhile isSpace).rdropWhile isSpace

/-- The value is hexadecimal. -/
def isHex : Text → Bool
  | 48 :: c :: _ :: _ => toLower c == 120
  | _ => false

def isEquals (c : UInt8) : Bool := c == 61

section Fill

variable [Zero F] (atof : Text → F)

/-- The parameter that a name and a value stand for. -/
def configValue (name value : Text) : LocParamV F where
  paramName := name
  paramStrValue := value
  paramIntValue := if isHex value then strtol 16 (value.drop 2) else atoi value
  paramDoubleValue := if isHex value then 0 else atof value

/-- The table after all its entries have been tried, and how many have been set. -/
def setEntries (value : LocParamV F) (table : List (LocParam F)) : List (LocParam F) × UInt32 :=
  (table.map fun entry => (locSetConfigEntry entry value).1,
    UInt32.ofNat (table.countP fun entry => (locSetConfigEntry entry value).2 = 0))

/-- `loc_fill_conf_item`, with its result. -/
def locFillConfItem (inputBuf : Text) (table : List (LocParam F)) :
    List (LocParam F) × UInt32 :=
  match strtok isEquals inputBuf with
  | none => (table, 0)
  | some (name, lasts) =>
    match strtok isEquals lasts with
    | none => (table, 0)
    | some (value, _) =>
      setEntries (configValue atof (locUtilTrimSpace name) (locUtilTrimSpace value)) table

/-! ### The loaders -/

/-- The loop of the loaders, over the lines that are found one after another: the table in the end,
and how many lines have been filled in. -/
def fillWhile : List Text → UInt32 → List (LocParam F) → List (LocParam F) × Int32
  | [], _, table => (table, 0)
  | inputBuf :: rest, numParams, table =>
    if numParams = 0 then (table, 0)
    else
      let filled := locFillConfItem atof inputBuf table
      let done := fillWhile rest (numParams - filled.2) filled.1
      (done.1, done.2 + 1)

def isNewline (c : UInt8) : Bool := c == 10

/-- `loc_update_conf`, with its result; `malloc` may fail. -/
def locUpdateConf (confData : Option (List UInt8)) (length : Int32) (malloc : Bool)
    (table : List (LocParam F)) : List (LocParam F) × Int32 :=
  match confData with
  | none => (table, -1)
  | some data =>
    if length = 0 ∨ table.isEmpty ∨ malloc = false then (table, -1)
    else
      let confCopy := untilNul (data.take length.toNatClampNeg)
      -- start with one record off
      fillWhile atof ((strtokReader isNewline).all confCopy) (UInt32.ofNat table.length - 1) table

/-- The entry with its validity byte cleared. -/
def LocParam.clear (entry : LocParam F) : LocParam F :=
  { entry with paramSet := entry.paramSet.map fun _ => 0 }

/-- The contents of `input_buf`, one `fgets` after another. -/
def fgetsLines (file : List UInt8) : List Text :=
  ((fgetsReader 10 locMaxParamLine).all file).map untilNul

/-- `loc_read_conf_r`, from the start of a file. -/
def locReadConfR (file : List UInt8) (table : List (LocParam F)) : List (LocParam F) :=
  (fillWhile atof (fgetsLines file) (UInt32.ofNat table.length) (table.map LocParam.clear)).1

/-- `loc_param_table`, with the values of `DEBUG_LEVEL` and `TIMESTAMP`. -/
def locParamTable (debugLevel timestamp : Int32) : List (LocParam F) :=
  [⟨text "DEBUG_LEVEL", some (.n debugLevel), none⟩, ⟨text "TIMESTAMP", some (.n timestamp), none⟩]

/-- `loc_read_conf`, with both tables; the file may be missing. -/
def locReadConf (file : Option (List UInt8)) (table paramTable : List (LocParam F)) :
    List (LocParam F) × List (LocParam F) :=
  match file with
  | none => (table, paramTable)
  | some file =>
    (if table.isEmpty then table else locReadConfR atof file table,
      locReadConfR atof file paramTable)

end Fill

/-! ### What a line says -/

/-- The name and the value of a line, blanks trimmed. -/
def operands (line : Text) : Option (Text × Text) :=
  match segments isEquals line with
  | name :: value :: _ => some (locUtilTrimSpace name, locUtilTrimSpace value)
  | _ => none

/-- There is a place for the value of the entry. -/
def LocParam.Settable (entry : LocParam F) : Prop :=
  match entry.paramPtr with
  | some (.s _) | some (.n _) | some (.f _) => True
  | some .other | none => False

instance (entry : LocParam F) : Decidable entry.Settable := by
  unfold LocParam.Settable; split <;> infer_instance

/-- The last value that the name has been assigned. -/
def lastValue (assignments : List (Text × Text)) (name : Text) : Option Text :=
  (assignments.filterMap fun a => if a.1 = name then some a.2 else none).getLast?

section Spec

variable [Zero F] (atof : Text → F)

/-- What `loc_set_config_entry` makes of an entry for a value. -/
def store (entry : LocParam F) (value : Text) : LocParam F :=
  (locSetConfigEntry entry (configValue atof entry.paramName value)).1

/-- The entry after the assignments: the last one of its name counts. -/
def honour (assignments : List (Text × Text)) (entry : LocParam F) : LocParam F :=
  match lastValue assignments entry.paramName with
  | none => entry
  | some value => store atof entry value

end Spec

/-- The names that can be set. -/
def recognised (table : List (LocParam F)) (name : Text) : Bool :=
  table.any fun entry => entry.paramName = name ∧ entry.Settable

/-- No two entries have one name. -/
def NamesDistinct (table : List (LocParam F)) : Prop := (table.map LocParam.paramName).Nodup

instance (table : List (LocParam F)) : Decidable (NamesDistinct table) := by
  unfold NamesDistinct; infer_instance

theorem NamesDistinct.clear {table : List (LocParam F)} (hnames : NamesDistinct table) :
    NamesDistinct (table.map LocParam.clear) := by
  rw [NamesDistinct, List.map_map]
  exact hnames

/-! ### One entry -/

section Entry

variable {entry : LocParam F}

@[simp] theorem put_paramName (stored : Storage F) :
    (entry.put stored).paramName = entry.paramName := rfl

@[simp] theorem put_paramPtr (stored : Storage F) : (entry.put stored).paramPtr = some stored := rfl

theorem put_put (stored stored' : Storage F) :
    (entry.put stored).put stored' = entry.put stored' := by
  unfold LocParam.put
  cases entry.paramSet <;> rfl

/-- What is stored does not depend on what was there, but on the type. -/
theorem take_take {place stored : Storage F} {value : LocParamV F}
    (h : place.take value = some stored) (value' : LocParamV F) :
    stored.take value' = place.take value' := by
  cases place with
  | s old =>
    unfold Storage.take at h
    dsimp only at h
    split at h <;> cases h <;> rfl
  | n old => cases h; rfl
  | f old => cases h; rfl
  | other => cases h

theorem settable_iff (value : LocParamV F) :
    entry.Settable ↔ ∃ stored, entry.paramPtr.bind (·.take value) = some stored := by
  unfold LocParam.Settable
  cases entry.paramPtr with
  | none => exact iff_of_false id fun ⟨_, h⟩ => nomatch h
  | some place =>
    cases place with
    | s old =>
      refine iff_of_true trivial ?_
      by_cases hnull : value.paramStrValue = text "NULL"
      · exact ⟨_, if_pos hnull⟩
      · exact ⟨_, if_neg hnull⟩
    | n old => exact iff_of_true trivial ⟨_, rfl⟩
    | f old => exact iff_of_true trivial ⟨_, rfl⟩
    | other => exact iff_of_false id fun ⟨_, h⟩ => nomatch h

theorem locSetConfigEntry_of_ne {value : LocParamV F} (h : entry.paramName ≠ value.paramName) :
    locSetConfigEntry entry value = (entry, -1) := if_neg h

variable [Zero F] (atof : Text → F)

theorem store_of_take {value : Text} {stored : Storage F}
    (h : entry.paramPtr.bind (·.take (configValue atof entry.paramName value)) = some stored) :
    locSetConfigEntry entry (configValue atof entry.paramName value) = (entry.put stored, 0) := by
  have hname : entry.paramName = (configValue atof entry.paramName value).paramName := rfl
  rw [locSetConfigEntry, if_pos hname, h]

theorem store_of_not_settable (h : ¬entry.Settable) (value : Text) :
    locSetConfigEntry entry (configValue atof entry.paramName value) = (entry, -1) := by
  have hnone : entry.paramPtr.bind (·.take (configValue atof entry.paramName value)) = none := by
    by_contra hsome
    exact h ((settable_iff _).mpr (Option.ne_none_iff_exists'.mp hsome))
  have hname : entry.paramName = (configValue atof entry.paramName value).paramName := rfl
  rw [locSetConfigEntry, if_pos hname, hnone]

@[simp] theorem store_paramName (value : Text) :
    (store atof entry value).paramName = entry.paramName := by
  unfold store
  by_cases h : entry.Settable
  · obtain ⟨stored, hstored⟩ := (settable_iff (configValue atof entry.paramName value)).mp h
    rw [store_of_take atof hstored, put_paramName]
  · rw [store_of_not_settable atof h]

/-- What is stored last counts. -/
theorem store_store (value value' : Text) :
    store atof (store atof entry value) value' = store atof entry value' := by
  by_cases h : entry.Settable
  · obtain ⟨stored, hstored⟩ := (settable_iff (configValue atof entry.paramName value)).mp h
    obtain ⟨stored', hstored'⟩ := (settable_iff (configValue atof entry.paramName value')).mp h
    have hput : store atof entry value = entry.put stored :=
      congrArg Prod.fst (store_of_take atof hstored)
    have hput' : store atof entry value' = entry.put stored' :=
      congrArg Prod.fst (store_of_take atof hstored')
    have hagain : (entry.put stored).paramPtr.bind
        (·.take (configValue atof entry.paramName value')) = some stored' := by
      cases hplace : entry.paramPtr with
      | none => rw [hplace] at hstored; cases hstored
      | some place =>
        rw [hplace] at hstored hstored'
        exact (take_take hstored _).trans hstored'
    have hstore : store atof (entry.put stored) value' = (entry.put stored).put stored' :=
      congrArg Prod.fst (store_of_take atof hagain)
    rw [hput, hput', hstore, put_put]
  · have hsame : store atof entry value = entry :=
      congrArg Prod.fst (store_of_not_settable atof h value)
    rw [hsame]

theorem settable_store (value : Text) : (store atof entry value).Settable ↔ entry.Settable := by
  by_cases h : entry.Settable
  · obtain ⟨stored, hstored⟩ := (settable_iff (configValue atof entry.paramName value)).mp h
    have hput : store atof entry value = entry.put stored :=
      congrArg Prod.fst (store_of_take atof hstored)
    refine iff_of_true ?_ h
    rw [hput, settable_iff (configValue atof entry.paramName value)]
    cases hplace : entry.paramPtr with
    | none => rw [hplace] at hstored; cases hstored
    | some place =>
      rw [hplace] at hstored
      exact ⟨stored, (take_take hstored _).trans hstored⟩
  · have hsame : store atof entry value = entry :=
      congrArg Prod.fst (store_of_not_settable atof h value)
    rw [hsame]

/-! ### Assignments -/

variable {atof}

/-- An assignment in front of the others. -/
theorem honour_cons (name value : Text) (rest : List (Text × Text)) :
    honour atof ((name, value) :: rest) entry =
      honour atof rest (if entry.paramName = name then store atof entry value else entry) := by
  unfold honour lastValue
  by_cases hname : entry.paramName = name
  · rw [if_pos hname, store_paramName, List.filterMap_cons, if_pos hname.symm, List.getLast?_cons]
    cases (rest.filterMap _).getLast? with
    | none => rfl
    | some last => exact (store_store atof value last).symm
  · rw [if_neg hname, List.filterMap_cons, if_neg (Ne.symm hname)]

theorem honour_nil : honour atof [] entry = entry := rfl

/-- Assignments after others. -/
theorem honour_append (first rest : List (Text × Text)) :
    honour atof (first ++ rest) entry = honour atof rest (honour atof first entry) := by
  induction first generalizing entry with
  | nil => rfl
  | cons a first ih => rw [List.cons_append, honour_cons, ih, ← honour_cons]

@[simp] theorem honour_paramName (assignments : List (Text × Text)) :
    (honour atof assignments entry).paramName = entry.paramName := by
  unfold honour
  split
  · rfl
  · exact store_paramName atof _

theorem settable_honour (assignments : List (Text × Text)) :
    (honour atof assignments entry).Settable ↔ entry.Settable := by
  unfold honour
  split
  · exact Iff.rfl
  · exact settable_store atof _

end Entry

/-! ### The assignments of a text -/

section Settings

variable {table : List (LocParam F)}

/-- The assignments of the lines that set something. -/
def settings (table : List (LocParam F)) (lines : List Text) : List (Text × Text) :=
  (lines.filterMap operands).filter fun a => recognised table a.1

theorem settings_cons_of_none {line : Text} (h : operands line = none) (rest : List Text) :
    settings table (line :: rest) = settings table rest := by
  rw [settings, List.filterMap_cons_none h]
  rfl

theorem settings_cons_of_some {line : Text} {a : Text × Text} (h : operands line = some a)
    (rest : List Text) :
    settings table (line :: rest) =
      if recognised table a.1 then a :: settings table rest else settings table rest := by
  rw [settings, List.filterMap_cons_some h, List.filter_cons]
  rfl

end Settings

/-! ### A line -/

section Line

variable [Zero F] {atof : Text → F} {table : List (LocParam F)}

/-- **What `loc_fill_conf_item` does with a line**: each entry with the name of the line gets its
value. -/
theorem locFillConfItem_eq (line : Text) (table : List (LocParam F)) :
    locFillConfItem atof line table =
      match operands line with
      | none => (table, 0)
      | some (name, value) => setEntries (configValue atof name value) table := by
  unfold locFillConfItem operands
  cases hname : strtok isEquals line with
  | none => rw [strtok_eq_none hname]
  | some first =>
    obtain ⟨name, lasts⟩ := first
    rw [strtok_eq_some hname]
    dsimp only
    cases hvalue : strtok isEquals lasts with
    | none => rw [strtok_eq_none hvalue]
    | some second => rw [strtok_eq_some hvalue]

/-- Each entry of the table that the assignment is made to. -/
theorem setEntries_fst (name value : Text) :
    (setEntries (configValue atof name value) table).1 = table.map (honour atof [(name, value)]) := by
  refine List.map_congr_left fun entry _ => ?_
  rw [honour_cons, honour_nil]
  split
  · next hname =>
    subst hname
    rfl
  · next hname => rw [locSetConfigEntry_of_ne hname]

/-- With distinct names at most one entry is set. -/
theorem setEntries_snd (hnames : NamesDistinct table) (name value : Text) :
    (setEntries (configValue atof name value) table).2 =
      if recognised table name then 1 else 0 := by
  have hset : ∀ entry : LocParam F,
      decide ((locSetConfigEntry entry (configValue atof name value)).2 = 0) =
        decide (entry.paramName = name ∧ entry.Settable) := by
    intro entry
    by_cases hname : entry.paramName = name
    · subst hname
      by_cases h : entry.Settable
      · obtain ⟨stored, hstored⟩ := (settable_iff (configValue atof entry.paramName value)).mp h
        simp [store_of_take atof hstored, h]
      · simp [store_of_not_settable atof h, h]
    · have hnot : (locSetConfigEntry entry (configValue atof name value)).2 = -1 :=
        congrArg Prod.snd (locSetConfigEntry_of_ne hname)
      simp [hnot, hname]
  have hle : table.countP (fun entry => entry.paramName = name ∧ entry.Settable) ≤ 1 := by
    have hcount : (table.map LocParam.paramName).count name ≤ 1 :=
      List.nodup_iff_count_le_one.mp hnames name
    rw [List.count, List.countP_map] at hcount
    refine Nat.le_trans (List.countP_mono_left fun entry _ h => ?_) hcount
    simpa using (of_decide_eq_true h).1
  have hany : recognised table name = true ↔
      0 < table.countP (fun entry => entry.paramName = name ∧ entry.Settable) := by
    rw [recognised, List.any_eq_true, List.countP_pos_iff]
  rw [setEntries, List.countP_congr fun entry _ => by rw [hset entry]]
  by_cases hrec : recognised table name
  · rw [if_pos hrec, Nat.le_antisymm hle (hany.mp hrec)]
    rfl
  · rw [if_neg hrec, Nat.eq_zero_of_not_pos fun hpos => hrec (hany.mpr hpos)]
    rfl

/-- An assignment to a name that cannot be set changes nothing. -/
theorem map_honour_of_not_recognised {name : Text} (h : recognised table name = false)
    (value : Text) : table.map (honour atof [(name, value)]) = table := by
  refine (List.map_congr_left fun entry hentry => ?_).trans (List.map_id table)
  rw [honour_cons, honour_nil]
  split
  · next hname =>
    have hnot : ¬entry.Settable := fun hset => by
      rw [recognised, List.any_eq_false] at h
      exact h entry hentry (decide_eq_true ⟨hname, hset⟩)
    exact congrArg Prod.fst (store_of_not_settable atof hnot value)
  · rfl

theorem recognised_map_honour (assignments : List (Text × Text)) (name : Text) :
    recognised (table.map (honour atof assignments)) name = recognised table name := by
  rw [recognised, recognised, List.any_map]
  congr 1
  funext entry
  simp [settable_honour]

theorem namesDistinct_map_honour (hnames : NamesDistinct table)
    (assignments : List (Text × Text)) :
    NamesDistinct (table.map (honour atof assignments)) := by
  rw [NamesDistinct, List.map_map]
  have hsame : (LocParam.paramName ∘ honour atof assignments : LocParam F → Text) =
      LocParam.paramName := funext fun entry => honour_paramName assignments
  rw [hsame]
  exact hnames

/-! ### The loop of the loaders -/

theorem settings_map_honour (assignments : List (Text × Text)) (lines : List Text) :
    settings (table.map (honour atof assignments)) lines = settings table lines := by
  unfold settings
  congr 1
  funext a
  rw [recognised_map_honour]

theorem map_honour_nil : table.map (honour atof []) = table := List.map_id table

theorem toNat_eq_succ {n : UInt32} (h : n ≠ 0) : n.toNat = (n - 1).toNat + 1 := by
  have hpos : n.toNat ≠ 0 := fun hzero => h (UInt32.toNat_inj.mp hzero)
  have hlt := n.toNat_lt
  rw [UInt32.toNat_sub, UInt32.toNat_one]
  omega

/-- **What a loader does.**  It makes the assignments of the lines that set something, as many as it
is told to. -/
theorem fillWhile_eq (hnames : NamesDistinct table) (lines : List Text) (numParams : UInt32) :
    (fillWhile atof lines numParams table).1 =
      table.map (honour atof ((settings table lines).take numParams.toNat)) := by
  induction lines generalizing numParams table with
  | nil =>
    rw [settings, List.filterMap_nil, List.filter_nil, List.take_nil, map_honour_nil, fillWhile]
  | cons line rest ih =>
    rw [fillWhile]
    by_cases hzero : numParams = 0
    · rw [if_pos hzero, hzero, UInt32.toNat_zero, List.take_zero, map_honour_nil]
    · rw [if_neg hzero, locFillConfItem_eq]
      dsimp only
      cases hoperands : operands line with
      | none =>
        rw [settings_cons_of_none hoperands]
        dsimp only
        rw [UInt32.sub_zero, ih hnames]
      | some a =>
        obtain ⟨name, value⟩ := a
        dsimp only
        rw [setEntries_fst, setEntries_snd hnames, settings_cons_of_some hoperands,
          ih (namesDistinct_map_honour hnames _), settings_map_honour, List.map_map]
        by_cases hrec : recognised table name
        · rw [if_pos hrec, if_pos hrec, toNat_eq_succ hzero, List.take_succ_cons]
          refine List.map_congr_left fun entry _ => ?_
          exact (honour_append [(name, value)] _).symm
        · rw [if_neg hrec, if_neg hrec, UInt32.sub_zero, ← List.map_map,
            map_honour_of_not_recognised (Bool.eq_false_iff.mpr hrec)]

end Line

end LocCfg
end Nx507j
