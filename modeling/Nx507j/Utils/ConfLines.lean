import Nx507j.Utils.LocCfg

/-!
# The lines of a configuration

Both loaders stop when a number of lines have set something: `loc_update_conf` after one less than
the table has entries, `loc_read_conf` after as many.  What stands after that is not read, so that a
name that is assigned twice may cost another its value.  Here are the lines, and what becomes of
those of a buffer.

## Main definitions

* `assignment`, `assignments` — what the lines of a text assign.
* `Tidy` — a line that is no assignment has no second operand.
* `LateLinesRepeat` — the lines that are not read would change nothing.

## Main results

* `locUpdateConf_eq` — the lines of a buffer that are honoured.
* `updateHonoursAll_iff` — when a buffer is honoured to its last line.
-/

namespace Nx507j
namespace LocCfg

open CText Tokens

/-- The name and the value of an assignment line: neither is blank. -/
def assignment (line : Text) : Option (Text × Text) :=
  match segments isEquals line with
  | name :: value :: _ =>
    if Blank name ∨ Blank value then none
    else some (locUtilTrimSpace name, locUtilTrimSpace value)
  | _ => none

/-- The assignments of a text. -/
def assignments (text : Text) : List (Text × Text) := (lines 10 text).filterMap assignment

/-- A line with an equals sign is an assignment line or has no second segment. -/
def Tidy (line : Text) : Prop :=
  61 ∈ line → assignment line ≠ none ∨ (segments isEquals line).length ≤ 1

instance (line : Text) : Decidable (Tidy line) := by unfold Tidy; infer_instance

/-- A line with an equals sign is an assignment line. -/
def Complete (line : Text) : Prop := 61 ∈ line → assignment line ≠ none

instance (line : Text) : Decidable (Complete line) := by unfold Complete; infer_instance

section

variable {F : Type*}

/-- The assignments to names that can be set. -/
def effective (table : List (LocParam F)) (text : Text) : List (Text × Text) :=
  (assignments text).filter fun a => recognised table a.1

variable [Zero F] (atof : Text → F)

/-- For the entry, the assignments after the first `limit` repeat what the last of these has stored
or, where none of these is to it, what it has held before. -/
def LateLinesRepeat (limit : ℕ) (all : List (Text × Text)) (entry : LocParam F) : Prop :=
  ∀ value, lastValue (all.drop limit) entry.paramName = some value →
    store atof entry value =
      match lastValue (all.take limit) entry.paramName with
      | some early => store atof entry early
      | none => entry

end

/-! ### Lines -/

theorem segments_of_no_equals {line : Text} (h : 61 ∉ line) :
    (segments isEquals line).length ≤ 1 := by
  by_cases hne : line = []
  · rw [hne]
    exact Nat.zero_le 1
  · have hall : ∀ c ∈ line, isEquals c = false := fun c hc => by
      unfold isEquals
      exact beq_false_of_ne fun heq => h (heq ▸ hc)
    rw [segments_of_forall hne hall]
    exact Nat.le_refl 1

theorem operands_of_length_le {line : Text} (h : (segments isEquals line).length ≤ 1) :
    operands line = none := by
  unfold operands
  split
  · next hsegments =>
    rw [hsegments] at h
    simp at h
  · rfl

theorem operands_of_assignment {line : Text} {a : Text × Text} (h : assignment line = some a) :
    operands line = some a := by
  unfold assignment at h
  split at h
  · next name value _ hsegments =>
    split at h
    · cases h
    · rw [operands, hsegments]
      exact h
  · cases h

/-- The operands of a tidy line are what it assigns. -/
theorem Tidy.operands {line : Text} (h : Tidy line) : operands line = assignment line := by
  cases ha : assignment line with
  | some a => exact operands_of_assignment ha
  | none =>
    by_cases hmem : 61 ∈ line
    · rcases h hmem with hnone | hlen
      · exact absurd ha hnone
      · exact operands_of_length_le hlen
    · exact operands_of_length_le (segments_of_no_equals hmem)

theorem Complete.tidy {line : Text} (h : Complete line) : Tidy line := fun hmem => Or.inl (h hmem)

/-- Empty lines assign nothing. -/
theorem filterMap_segments (text : Text) :
    (segments isNewline text).filterMap operands = (lines 10 text).filterMap operands := by
  have hsplit : segments isNewline text = (lines 10 text).filter fun t => !t.isEmpty := rfl
  rw [hsplit, List.filterMap_filter]
  refine List.filterMap_congr fun line _ => ?_
  cases line with
  | nil => rfl
  | cons c line => rfl

/-! ### The newline in the line -/

theorem blank_append {s t : Text} : Blank (s ++ t) ↔ Blank s ∧ Blank t := List.forall_mem_append

/-- The newline is trimmed with the other blanks. -/
theorem locUtilTrimSpace_newline {s : Text} (h : ¬Blank s) :
    locUtilTrimSpace (s ++ [10]) = locUtilTrimSpace s := by
  have hne : s.dropWhile isSpace ≠ [] := fun hnil => h (List.dropWhile_eq_nil_iff.mp hnil)
  have hdrop : (s ++ [10]).dropWhile isSpace = s.dropWhile isSpace ++ [10] := by
    rw [List.dropWhile_append, if_neg (by simpa using hne)]
  rw [locUtilTrimSpace, locUtilTrimSpace, if_neg h, if_neg fun hs => h (blank_append.mp hs).1,
    hdrop, List.rdropWhile_concat_pos _ _ _ rfl]

/-- A line without an equals sign has no operands, with its newline or without. -/
theorem operands_newline_of_no_equals {line : Text} (h : 61 ∉ line) :
    operands (line ++ [10]) = none := by
  refine operands_of_length_le (segments_of_no_equals fun hmem => ?_)
  rcases List.mem_append.mp hmem with hmem | hmem
  · exact h hmem
  · exact absurd (List.mem_singleton.mp hmem) (by decide)

/-- What stands after the last equals sign of a line. -/
def lastPart (line : Text) : Text := line.rtakeWhile (!isEquals ·)

/-- The segments of what stands before it. -/
def firstSegments (line : Text) : List Text :=
  segments isEquals (line.rdropWhile (!isEquals ·))

theorem not_isEquals_of_mem_lastPart {line : Text} : ∀ c ∈ lastPart line, isEquals c = false :=
  fun c hc => by simpa using List.mem_rtakeWhile_imp hc

theorem segments_line (line : Text) :
    segments isEquals line =
      firstSegments line ++ if lastPart line = [] then [] else [lastPart line] := by
  have happend := segments_append isEquals line []
  rw [List.append_nil, List.append_nil] at happend
  refine happend.trans (congrArg (firstSegments line ++ ·) ?_)
  by_cases hnil : lastPart line = []
  · rw [if_pos hnil]
    exact congrArg (segments isEquals) hnil
  · rw [if_neg hnil]
    exact segments_of_forall hnil not_isEquals_of_mem_lastPart

theorem segments_newline (line : Text) :
    segments isEquals (line ++ [10]) = firstSegments line ++ [lastPart line ++ [10]] := by
  refine (segments_append isEquals line [10]).trans (congrArg (firstSegments line ++ ·) ?_)
  refine segments_of_forall (by simp) fun c hc => ?_
  rcases List.mem_append.mp hc with hc | hc
  · exact not_isEquals_of_mem_lastPart c hc
  · rw [List.mem_singleton.mp hc]
    rfl

/-- The operands by what stands before the last equals sign. -/
theorem operands_line (line : Text) :
    operands line =
      match firstSegments line with
      | [] => none
      | [name] =>
        if lastPart line = [] then none
        else some (locUtilTrimSpace name, locUtilTrimSpace (lastPart line))
      | name :: value :: _ => some (locUtilTrimSpace name, locUtilTrimSpace value) := by
  rw [operands, segments_line]
  match firstSegments line with
  | [] => by_cases hnil : lastPart line = [] <;> simp [hnil]
  | [name] => by_cases hnil : lastPart line = [] <;> simp [hnil]
  | name :: value :: rest => rfl

/-- The same with the newline, which is a second operand where there is no other. -/
theorem operands_newline (line : Text) :
    operands (line ++ [10]) =
      match firstSegments line with
      | [] => none
      | [name] => some (locUtilTrimSpace name, locUtilTrimSpace (lastPart line ++ [10]))
      | name :: value :: _ => some (locUtilTrimSpace name, locUtilTrimSpace value) := by
  rw [operands, segments_newline]
  match firstSegments line with
  | [] => rfl
  | [name] => rfl
  | name :: value :: rest => rfl

/-- A line says the same with its newline, unless its value is missing or blank. -/
theorem operands_newline_of_last {line : Text}
    (h : (∃ name, firstSegments line = [name]) → ¬Blank (lastPart line)) :
    operands (line ++ [10]) = operands line := by
  rw [operands_newline, operands_line]
  match hfirst : firstSegments line with
  | [] => rfl
  | [name] =>
    have hblank := h ⟨name, hfirst⟩
    have hne : lastPart line ≠ [] := fun hnil => hblank (hnil ▸ fun c hc => nomatch hc)
    dsimp only
    rw [if_neg hne, locUtilTrimSpace_newline hblank]
  | name :: value :: rest => rfl

theorem Complete.operands_newline {line : Text} (h : Complete line) :
    operands (line ++ [10]) = operands line := by
  by_cases hmem : 61 ∈ line
  · refine operands_newline_of_last fun ⟨name, hfirst⟩ hblank => h hmem ?_
    rw [assignment, segments_line, hfirst]
    by_cases hnil : lastPart line = []
    · rw [if_pos hnil]
      rfl
    · rw [if_neg hnil]
      exact if_pos (Or.inr hblank)
  · rw [operands_newline_of_no_equals hmem,
      operands_of_length_le (segments_of_no_equals hmem)]

section Loaders

variable {F : Type*} {entry : LocParam F} {table : List (LocParam F)}

theorem settings_segments {text : Text} (htidy : ∀ line ∈ lines 10 text, Tidy line) :
    settings table (segments isNewline text) = effective table text := by
  rw [settings, filterMap_segments, effective, assignments]
  congr 1
  exact List.filterMap_congr fun line hline => (htidy line hline).operands

/-! ### Which assignments matter -/

theorem lastValue_filter_recognised (all : List (Text × Text)) (hentry : entry ∈ table)
    (hset : entry.Settable) :
    lastValue (all.filter fun a => recognised table a.1) entry.paramName =
      lastValue all entry.paramName := by
  have hrec : recognised table entry.paramName = true :=
    List.any_eq_true.mpr ⟨entry, hentry, decide_eq_true ⟨rfl, hset⟩⟩
  rw [lastValue, lastValue, List.filterMap_filter]
  congr 1
  refine List.filterMap_congr fun a _ => ?_
  split
  · rfl
  · next hnot =>
    have hne : a.1 ≠ entry.paramName := fun hname => hnot (by rw [hname]; exact hrec)
    rw [if_neg hne]

variable [Zero F] {atof : Text → F}

theorem honour_of_not_settable (h : ¬entry.Settable) (all : List (Text × Text)) :
    honour atof all entry = entry := by
  unfold honour
  split
  · rfl
  · exact congrArg Prod.fst (store_of_not_settable atof h _)

/-- Assignments to names that cannot be set do not matter. -/
theorem honour_filter_recognised (all : List (Text × Text)) (hentry : entry ∈ table) :
    honour atof (all.filter fun a => recognised table a.1) entry = honour atof all entry := by
  by_cases hset : entry.Settable
  · rw [honour, honour, lastValue_filter_recognised all hentry hset]
  · rw [honour_of_not_settable hset, honour_of_not_settable hset]

theorem store_honour (all : List (Text × Text)) (value : Text) :
    store atof (honour atof all entry) value = store atof entry value := by
  unfold honour
  split
  · rfl
  · exact store_store atof _ value

/-- The assignments after the first `limit` change nothing just when they repeat. -/
theorem honour_take_eq_iff (limit : ℕ) (all : List (Text × Text)) :
    honour atof (all.take limit) entry = honour atof all entry ↔
      LateLinesRepeat atof limit all entry := by
  have hearly : (match lastValue (all.take limit) entry.paramName with
      | some early => store atof entry early
      | none => entry) = honour atof (all.take limit) entry := by
    unfold honour
    cases lastValue (all.take limit) entry.paramName <;> rfl
  have hall : honour atof all entry =
      honour atof (all.drop limit) (honour atof (all.take limit) entry) := by
    rw [← honour_append, List.take_append_drop]
  have hname : (honour atof (all.take limit) entry).paramName = entry.paramName :=
    honour_paramName _
  have hstore : ∀ value, store atof (honour atof (all.take limit) entry) value =
      store atof entry value := store_honour _
  rw [LateLinesRepeat, hearly, hall]
  generalize honour atof (all.take limit) entry = early at *
  rw [honour, hname]
  cases lastValue (all.drop limit) entry.paramName with
  | none => exact iff_of_true rfl fun value h => nomatch h
  | some value =>
    dsimp only
    rw [hstore]
    exact ⟨fun h value' hvalue' => by cases hvalue'; exact h.symm, fun h => (h value rfl).symm⟩

/-! ### A buffer -/

variable (atof)

/-- The lines of a buffer that are filled in. -/
theorem locUpdateConf_settings (hnames : NamesDistinct table) (hsize : table.length < 2 ^ 32)
    {text : Text} (hlength : text.length < 2 ^ 31) (hnul : 0 ∉ text) :
    (locUpdateConf atof (some text) (Int32.ofNat text.length) true table).1 =
      table.map (honour atof
        ((settings table (segments isNewline text)).take (table.length - 1))) := by
  have hclamp := Int32.toNatClampNeg_ofNat_of_lt hlength
  unfold locUpdateConf
  dsimp only
  split
  · next hnothing =>
    rcases hnothing with hzero | hempty | hmalloc
    · rw [hzero] at hclamp
      have hnil : text = [] := List.eq_nil_of_length_eq_zero hclamp.symm
      have hsettings : settings table (segments isNewline []) = [] := rfl
      rw [hnil, hsettings, List.take_nil, map_honour_nil]
    · rw [List.isEmpty_iff.mp hempty]
      rfl
    · cases hmalloc
  · next hnot =>
    have hpos : 0 < table.length := List.length_pos_of_ne_nil fun hnil => hnot (by simp [hnil])
    have hlimit : (UInt32.ofNat table.length - 1).toNat = table.length - 1 := by
      rw [UInt32.toNat_sub, UInt32.toNat_ofNat', UInt32.toNat_one]
      omega
    rw [hclamp, List.take_length, untilNul_eq_self hnul, all_strtok, fillWhile_eq hnames, hlimit]

/-- **The lines of a buffer that are honoured**: those that set something, as long as there are fewer
of them than entries. -/
theorem locUpdateConf_eq (hnames : NamesDistinct table) (hsize : table.length < 2 ^ 32)
    {text : Text} (hlength : text.length < 2 ^ 31) (hnul : 0 ∉ text)
    (htidy : ∀ line ∈ lines 10 text, Tidy line) :
    (locUpdateConf atof (some text) (Int32.ofNat text.length) true table).1 =
      table.map (honour atof ((effective table text).take (table.length - 1))) := by
  rw [locUpdateConf_settings atof hnames hsize hlength hnul, settings_segments htidy]

/-- **When a buffer is honoured to its last line.** -/
theorem updateHonoursAll_iff (hnames : NamesDistinct table) (hsize : table.length < 2 ^ 32)
    {text : Text} (hlength : text.length < 2 ^ 31) (hnul : 0 ∉ text)
    (htidy : ∀ line ∈ lines 10 text, Tidy line) :
    (locUpdateConf atof (some text) (Int32.ofNat text.length) true table).1 =
        table.map (honour atof (assignments text)) ↔
      ∀ entry ∈ table,
        LateLinesRepeat atof (table.length - 1) (effective table text) entry := by
  rw [locUpdateConf_eq atof hnames hsize hlength hnul htidy, List.map_inj_left]
  refine forall₂_congr fun entry hentry => ?_
  have heffective : honour atof (effective table text) entry = honour atof (assignments text) entry :=
    honour_filter_recognised _ hentry
  rw [← heffective]
  exact honour_take_eq_iff _ _

/-- What `atof` makes of a whole number. -/
def atofWhole (s : Text) : ℤ := (atoi s).toInt

/-- Two numbers, both zero. -/
def twoEntries : List (LocParam ℤ) :=
  [⟨text "SUPL_VER", some (.n 0), none⟩, ⟨text "LPP_PROFILE", some (.n 0), none⟩]

theorem updateHonoursAll_iff_twoEntries :
    (locUpdateConf atofWhole (some (text "SUPL_VER=1\nSUPL_VER=1\n"))
        (Int32.ofNat (text "SUPL_VER=1\nSUPL_VER=1\n").length) true twoEntries).1 =
        twoEntries.map (honour atofWhole (assignments (text "SUPL_VER=1\nSUPL_VER=1\n"))) ↔
      ∀ entry ∈ twoEntries, LateLinesRepeat atofWhole (twoEntries.length - 1)
        (effective twoEntries (text "SUPL_VER=1\nSUPL_VER=1\n")) entry :=
  updateHonoursAll_iff atofWhole (by decide) (by decide) (by decide) (by decide) (by decide)

/-- A line for each entry: the second is not read. -/
theorem update_not_honoured_twoEntries :
    NamesDistinct twoEntries ∧ 0 ∉ text "SUPL_VER=1\nLPP_PROFILE=2\n" ∧
      (∀ line ∈ lines 10 (text "SUPL_VER=1\nLPP_PROFILE=2\n"), Tidy line) ∧
      (locUpdateConf atofWhole (some (text "SUPL_VER=1\nLPP_PROFILE=2\n"))
        (Int32.ofNat (text "SUPL_VER=1\nLPP_PROFILE=2\n").length) true twoEntries).1 ≠
        twoEntries.map (honour atofWhole (assignments (text "SUPL_VER=1\nLPP_PROFILE=2\n"))) := by
  refine ⟨by decide, by decide, by decide, ?_⟩
  rw [locUpdateConf_eq atofWhole (by decide) (by decide) (by decide) (by decide) (by decide)]
  decide

end Loaders

end LocCfg
end Nx507j
