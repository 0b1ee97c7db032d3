import Mathlib.Data.List.DropRight
import Mathlib.Data.List.TakeWhile

/-!
# Texts read piece by piece

Programs take a text apart from the front: each call of a reader gives one piece and leaves the rest
of the text to the next call.  Two readers of the C library are here, the tokeniser `strtok_r` and
the line reader `fgets`, over any alphabet, each with what it reads in the end.

## Main definitions

* `Reader`, `Reader.all` — a function that takes pieces off a text, and all the pieces.
* `segments` — the maximal non-empty segments of a text without separators.
* `strtok`, `fgets` — the two readers.

## Main results

* `all_strtok` — the tokens are the segments.
* `all_fgets` — where no line is too long, `fgets` reads the lines, each with its newline.
* `mem_all_fgets` — a line that is not too long is read in one piece.
-/

namespace Nx507j
namespace Tokens

variable {α : Type*}

/-! ### Readers -/

/-- A function that takes one piece after another off a text: what it leaves is shorter. -/
structure Reader (α : Type*) where
  next : List α → Option (List α × List α)
  shorter : ∀ {l piece rest}, next l = some (piece, rest) → rest.length < l.length

namespace Reader

/-- The pieces that are read from a text, until the reader finds no more. -/
def all (r : Reader α) (l : List α) : List (List α) :=
  match _h : r.next l with
  | none => []
  | some (piece, rest) => piece :: r.all rest
termination_by l.length
decreasing_by exact r.shorter _h

variable {r : Reader α} {l piece rest : List α}

theorem all_of_none (h : r.next l = none) : r.all l = [] := by
  rw [all]
  split
  · rfl
  · next hnext => rw [h] at hnext; cases hnext

theorem all_of_some (h : r.next l = some (piece, rest)) : r.all l = piece :: r.all rest := by
  rw [all]
  split
  · next hnext => rw [h] at hnext; cases hnext
  · next hnext =>
    rw [h] at hnext
    cases hnext
    rfl

/-- A function that takes the same pieces off the text as the reader gives the pieces. -/
theorem all_eq (f : List α → List (List α)) (hnone : ∀ l, r.next l = none → f l = [])
    (hsome : ∀ l piece rest, r.next l = some (piece, rest) → f l = piece :: f rest) :
    ∀ l, r.all l = f l := by
  intro l
  induction hn : l.length using Nat.strong_induction_on generalizing l with
  | _ n ih =>
    cases hnext : r.next l with
    | none => rw [all_of_none hnext, hnone l hnext]
    | some p =>
      obtain ⟨piece, rest⟩ := p
      rw [all_of_some hnext, hsome l piece rest hnext,
        ih rest.length (hn ▸ r.shorter hnext) rest rfl]

end Reader

/-! ### Segments -/

section Segments

variable (sep : α → Bool)

/-- The maximal non-empty segments of the text that have no separator. -/
def segments (l : List α) : List (List α) := (l.splitOnP sep).filter fun t => !t.isEmpty

@[simp] theorem segments_nil : segments sep [] = [] := rfl

variable {sep} {a : α} {l l' : List α}

/-- A separator ends a segment. -/
theorem segments_append_cons (ha : sep a = true) :
    segments sep (l ++ a :: l') = segments sep l ++ segments sep l' := by
  rw [segments, List.splitOnP_append_cons l l' ha, List.filter_append]
  rfl

theorem segments_cons (ha : sep a = true) : segments sep (a :: l) = segments sep l :=
  segments_append_cons (l := []) ha

theorem segments_concat (ha : sep a = true) : segments sep (l ++ [a]) = segments sep l := by
  rw [segments_append_cons ha, segments_nil, List.append_nil]

/-- A text without a separator is a segment. -/
theorem segments_of_forall (hne : l ≠ []) (h : ∀ b ∈ l, sep b = false) : segments sep l = [l] := by
  rw [segments, List.splitOnP_eq_singleton h, List.filter_singleton]
  cases l with
  | nil => exact absurd rfl hne
  | cons b l => rfl

theorem segments_dropWhile (l : List α) : segments sep (l.dropWhile sep) = segments sep l := by
  induction l with
  | nil => rfl
  | cons b l ih =>
    cases hb : sep b with
    | false => rw [List.dropWhile_cons_of_neg (by simp [hb])]
    | true => rw [List.dropWhile_cons_of_pos hb, ih, segments_cons hb]

/-- A text that starts with no separator starts with a segment. -/
theorem segments_cons_of_not (ha : sep a = false) :
    segments sep (a :: l) = (a :: l).takeWhile (!sep ·) ::
      segments sep (((a :: l).dropWhile (!sep ·)).drop 1) := by
  have htoken : ∀ b ∈ (a :: l).takeWhile (!sep ·), sep b = false := fun b hb => by
    simpa using List.mem_takeWhile_imp hb
  have hne : (a :: l).takeWhile (!sep ·) ≠ [] := by
    rw [List.takeWhile_cons_of_pos (by simp [ha])]
    exact List.cons_ne_nil _ _
  have hsplit : (a :: l).takeWhile (!sep ·) ++ (a :: l).dropWhile (!sep ·) = a :: l :=
    List.takeWhile_append_dropWhile
  have hhead := List.head?_dropWhile_not (!sep ·) (a :: l)
  -- the segment ends at the end of the text or at a separator
  generalize (a :: l).takeWhile (!sep ·) = token at *
  generalize (a :: l).dropWhile (!sep ·) = rest at *
  rw [← hsplit]
  cases rest with
  | nil => rw [List.append_nil, segments_of_forall hne htoken, List.drop_nil, segments_nil]
  | cons b rest =>
    rw [segments_append_cons (by simpa using hhead), segments_of_forall hne htoken]
    rfl

/-- What is put behind a text goes on with the part after the last separator. -/
theorem segments_append (sep : α → Bool) (l l' : List α) :
    segments sep (l ++ l') =
      segments sep (l.rdropWhile (!sep ·)) ++ segments sep (l.rtakeWhile (!sep ·) ++ l') := by
  have hsplit : l.rdropWhile (!sep ·) ++ l.rtakeWhile (!sep ·) = l :=
    List.rdropWhile_append_rtakeWhile
  have hlast := fun hne => List.rdropWhile_last_not (!sep ·) l hne
  conv_lhs => rw [← hsplit, List.append_assoc]
  generalize l.rdropWhile (!sep ·) = front at *
  generalize l.rtakeWhile (!sep ·) ++ l' = back at *
  cases front using List.reverseRecOn with
  | nil => rfl
  | append_singleton front a =>
    have ha : sep a = true := by simpa using hlast (by simp)
    rw [List.append_assoc, List.singleton_append, segments_append_cons ha, segments_concat ha]

end Segments

/-! ### `strtok_r` -/

section Strtok

variable (sep : α → Bool)

/-- `strtok_r`: separators are skipped, and a token goes to the next one, which is overwritten. -/
def strtok (l : List α) : Option (List α × List α) :=
  match l.dropWhile sep with
  | [] => none
  | a :: l' => some ((a :: l').takeWhile (!sep ·), ((a :: l').dropWhile (!sep ·)).drop 1)

variable {sep} {l t rest : List α}

theorem strtok_eq_none (h : strtok sep l = none) : segments sep l = [] := by
  unfold strtok at h
  split at h
  · next hdrop => rw [← segments_dropWhile, hdrop, segments_nil]
  · cases h

theorem strtok_eq_some (h : strtok sep l = some (t, rest)) :
    segments sep l = t :: segments sep rest := by
  unfold strtok at h
  split at h
  · cases h
  · next a l' hdrop =>
    cases h
    have ha : sep a = false := by
      have hhead := List.head?_dropWhile_not sep l
      rw [hdrop] at hhead
      simpa using hhead
    rw [← segments_dropWhile, hdrop, segments_cons_of_not ha]

theorem length_lt_of_strtok (h : strtok sep l = some (t, rest)) : rest.length < l.length := by
  unfold strtok at h
  split at h
  · cases h
  · next a l' hdrop =>
    cases h
    have hle : (a :: l').length ≤ l.length := hdrop ▸ (List.dropWhile_sublist sep).length_le
    have hdropped : ((a :: l').dropWhile (!sep ·)).length ≤ (a :: l').length :=
      (List.dropWhile_sublist _).length_le
    rw [List.length_drop]
    rw [List.length_cons] at hle hdropped
    omega

variable (sep)

/-- `strtok_r` with its separators. -/
def strtokReader : Reader α where
  next := strtok sep
  shorter := length_lt_of_strtok

/-- **The tokens of a text are its segments.** -/
theorem all_strtok (l : List α) : (strtokReader sep).all l = segments sep l :=
  Reader.all_eq (segments sep) (fun _ h => strtok_eq_none h) (fun _ _ _ h => strtok_eq_some h) l

end Strtok

/-! ### `fgets` -/

section Terminated

variable (newline : α)

/-- The lines as they stand in the text: each with its newline but the last, which may be missing. -/
def terminated : List (List α) → List (List α)
  | [] => []
  | [last] => if last = [] then [] else [last]
  | line :: next :: rest => (line ++ [newline]) :: terminated (next :: rest)

variable {newline}

theorem terminated_cons (line : List α) {rest : List (List α)} (hne : rest ≠ []) :
    terminated newline (line :: rest) = (line ++ [newline]) :: terminated newline rest := by
  cases rest with
  | nil => exact absurd rfl hne
  | cons next rest => rfl

theorem terminated_concat (rest : List (List α)) :
    terminated newline (rest ++ [[]]) = rest.map (· ++ [newline]) := by
  induction rest with
  | nil => rfl
  | cons line rest ih =>
    rw [List.cons_append, terminated_cons line (by simp), ih]
    rfl

/-- What is read of lines that mean the same with a newline as without one. -/
theorem filterMap_terminated {β : Type*} (f : List α → Option β) (hnil : f [] = none) :
    ∀ (rest : List (List α)), (∀ line ∈ rest, f (line ++ [newline]) = f line) →
      (terminated newline rest).filterMap f = rest.filterMap f := by
  intro rest
  induction rest with
  | nil => exact fun _ => rfl
  | cons line rest ih =>
    intro hsame
    cases rest with
    | nil =>
      unfold terminated
      split
      · next hline => rw [hline, List.filterMap_cons_none hnil]
      · rfl
    | cons next rest =>
      have hrest := ih fun l hl => hsame l (List.mem_cons_of_mem line hl)
      rw [terminated, List.filterMap_cons, List.filterMap_cons, hsame line List.mem_cons_self,
        hrest]

end Terminated

section Fgets

variable [DecidableEq α] (newline : α) (size : ℕ)

/-- The text up to the first newline, which is part of it. -/
def upTo (l : List α) : List α :=
  l.takeWhile (· ≠ newline) ++ (l.dropWhile (· ≠ newline)).take 1

/-- `fgets` with a buffer of `size`: at most `size - 1` characters, up to the newline. -/
def fgets (l : List α) : Option (List α × List α) :=
  if l = [] ∨ size ≤ 1 then none
  else some (upTo newline (l.take (size - 1)), l.drop (upTo newline (l.take (size - 1))).length)

/-- The lines of a text, the one after the last newline included. -/
def lines (l : List α) : List (List α) := l.splitOnP (· = newline)

variable {newline size} {l l' : List α}

theorem upTo_ne_nil (newline : α) (hne : l ≠ []) : upTo newline l ≠ [] := by
  cases l with
  | nil => exact absurd rfl hne
  | cons a l =>
    unfold upTo
    by_cases ha : a = newline
    · rw [List.dropWhile_cons_of_neg (by simp [ha])]
      simp
    · rw [List.takeWhile_cons_of_pos (by simp [ha])]
      simp

theorem length_lt_of_fgets {piece rest : List α}
    (h : fgets newline size l = some (piece, rest)) : rest.length < l.length := by
  unfold fgets at h
  split at h
  · cases h
  · next hnot =>
    push Not at hnot
    cases h
    have htake : l.take (size - 1) ≠ [] := by
      rw [Ne, List.take_eq_nil_iff]
      rintro (hzero | hnil)
      · omega
      · exact hnot.1 hnil
    have hpos := List.length_pos_of_ne_nil (upTo_ne_nil newline htake)
    have hlen := List.length_pos_of_ne_nil hnot.1
    rw [List.length_drop]
    omega

theorem upTo_append_cons (h : newline ∉ l) : upTo newline (l ++ newline :: l') = l ++ [newline] := by
  have hall : ∀ a ∈ l, decide (a ≠ newline) = true := fun a ha =>
    decide_eq_true fun heq => h (heq ▸ ha)
  unfold upTo
  rw [List.takeWhile_append_of_pos hall, List.dropWhile_append_of_pos hall]
  simp

theorem upTo_of_not_mem (h : newline ∉ l) : upTo newline l = l := by
  have hall : ∀ a ∈ l, decide (a ≠ newline) = true := fun a ha =>
    decide_eq_true fun heq => h (heq ▸ ha)
  unfold upTo
  rw [List.takeWhile_eq_self_iff.mpr hall, List.dropWhile_eq_nil_iff.mpr hall, List.take_nil,
    List.append_nil]

/-- A line that fits is read with its newline. -/
theorem fgets_append_cons (h : newline ∉ l) (hsize : l.length + 1 < size) :
    fgets newline size (l ++ newline :: l') = some (l ++ [newline], l') := by
  have htake : (l ++ newline :: l').take (size - 1) =
      l ++ newline :: l'.take (size - 1 - (l.length + 1)) := by
    rw [List.take_append, List.take_of_length_le (by omega)]
    rw [show size - 1 - l.length = size - 1 - (l.length + 1) + 1 by omega, List.take_succ_cons]
  rw [fgets, if_neg (by simp; omega), htake, upTo_append_cons h, List.length_append,
    List.length_singleton, List.drop_length_add_append]
  rfl

/-- A last line that fits is read as it is. -/
theorem fgets_of_not_mem (h : newline ∉ l) (hne : l ≠ []) (hsize : l.length < size) :
    fgets newline size l = some (l, []) := by
  have hpos := List.length_pos_of_ne_nil hne
  rw [fgets, if_neg (by simp [hne]; omega), List.take_of_length_le (by omega), upTo_of_not_mem h,
    List.drop_length]

variable (newline size)

/-- `fgets` with its buffer. -/
def fgetsReader : Reader α where
  next := fgets newline size
  shorter := length_lt_of_fgets

theorem lines_append_cons (h : newline ∉ l) :
    lines newline (l ++ newline :: l') = l :: lines newline l' := by
  have hall : ∀ a ∈ l, decide (a = newline) = false := fun a ha =>
    decide_eq_false fun heq => h (heq ▸ ha)
  exact List.splitOnP_append_cons_of_forall_mem hall newline (decide_eq_true rfl) l'

theorem lines_of_not_mem (h : newline ∉ l) : lines newline l = [l] :=
  List.splitOnP_eq_singleton fun _ ha => decide_eq_false fun heq => h (heq ▸ ha)

variable {newline size}

theorem fgetsReader_nil : (fgetsReader newline size).next [] = none := by
  show fgets newline size [] = none
  rw [fgets, if_pos (Or.inl rfl)]

/-- A text line by line. -/
theorem line_induction (newline : α) {P : List α → Prop} (last : ∀ l, newline ∉ l → P l)
    (step : ∀ l l', newline ∉ l → P l' → P (l ++ newline :: l')) : ∀ l, P l := by
  intro l
  induction hn : l.length using Nat.strong_induction_on generalizing l with
  | _ n ih =>
    by_cases hmem : newline ∈ l
    · obtain ⟨l₁, l₂, rfl, hl₁⟩ := List.eq_append_cons_of_mem hmem
      rw [List.length_append, List.length_cons] at hn
      exact step l₁ l₂ hl₁ (ih l₂.length (by omega) l₂ rfl)
    · exact last l hmem

theorem subset_of_mem_lines {line : List α} : line ∈ lines newline l → line ⊆ l := by
  induction l using line_induction newline with
  | last l hl =>
    intro h
    rw [lines_of_not_mem newline hl, List.mem_singleton] at h
    exact h ▸ List.Subset.refl l
  | step l l' hl ih =>
    intro h
    rw [lines_append_cons newline hl, List.mem_cons] at h
    rcases h with rfl | h
    · exact List.subset_append_left line _
    · exact fun a ha => List.mem_append_right l (List.mem_cons_of_mem newline (ih h ha))

/-- The lines of a text that is made of lines. -/
theorem lines_flatMap {rest : List (List α)} (h : ∀ line ∈ rest, newline ∉ line) :
    lines newline (rest.flatMap (· ++ [newline])) = rest ++ [[]] := by
  induction rest with
  | nil => rfl
  | cons line rest ih =>
    rw [List.flatMap_cons, List.append_assoc, List.singleton_append,
      lines_append_cons newline (h line List.mem_cons_self),
      ih fun l hl => h l (List.mem_cons_of_mem line hl)]
    rfl

/-- **Where all lines fit, `fgets` reads the lines as they stand in the text.** -/
theorem all_fgets (hsize : ∀ line ∈ lines newline l, line.length + 1 < size) :
    (fgetsReader newline size).all l = terminated newline (lines newline l) := by
  induction l using line_induction newline with
  | last l hl =>
    rw [lines_of_not_mem newline hl] at hsize ⊢
    by_cases hne : l = []
    · subst hne
      exact Reader.all_of_none fgetsReader_nil
    · have hnext : (fgetsReader newline size).next l = some (l, []) :=
        fgets_of_not_mem hl hne (Nat.lt_of_succ_lt (hsize l List.mem_cons_self))
      rw [Reader.all_of_some hnext, Reader.all_of_none fgetsReader_nil, terminated, if_neg hne]
  | step l l' hl ih =>
    rw [lines_append_cons newline hl] at hsize ⊢
    have hnext : (fgetsReader newline size).next (l ++ newline :: l') =
        some (l ++ [newline], l') := fgets_append_cons hl (hsize l List.mem_cons_self)
    have hne : lines newline l' ≠ [] := List.splitOnP_ne_nil _ l'
    rw [Reader.all_of_some hnext, terminated_cons l hne,
      ih fun line hline => hsize line (List.mem_cons_of_mem l hline)]

theorem isPrefix_upTo (newline : α) (l : List α) : upTo newline l <+: l := by
  have hsplit : l.takeWhile (· ≠ newline) ++ l.dropWhile (· ≠ newline) = l :=
    List.takeWhile_append_dropWhile
  conv_rhs => rw [← hsplit]
  exact (List.prefix_append_right_inj _).mpr (List.take_prefix ..)

theorem append_of_fgets {piece rest : List α}
    (h : fgets newline size l = some (piece, rest)) : piece ++ rest = l := by
  unfold fgets at h
  split at h
  · cases h
  · cases h
    apply List.prefix_iff_eq_append.mp
    exact (isPrefix_upTo newline _).trans (List.take_prefix (size - 1) l)

/-- The pieces make up the text. -/
theorem flatten_all_fgets (hsize : 1 < size) :
    ∀ l : List α, ((fgetsReader newline size).all l).flatten = l := by
  intro l
  induction hn : l.length using Nat.strong_induction_on generalizing l with
  | _ n ih =>
    cases hnext : (fgetsReader newline size).next l with
    | none =>
      have hnil : l = [] := by
        have hfgets : fgets newline size l = none := hnext
        unfold fgets at hfgets
        split at hfgets
        · next h => exact h.resolve_right (by omega)
        · cases hfgets
      rw [Reader.all_of_none hnext, hnil]
      rfl
    | some p =>
      obtain ⟨piece, rest⟩ := p
      have hshorter : rest.length < n := hn ▸ (fgetsReader newline size).shorter hnext
      rw [Reader.all_of_some hnext, List.flatten_cons, ih rest.length hshorter rest rfl]
      exact append_of_fgets hnext

/-- A line is read to its end, in however many pieces, and the text behind it as if it stood
alone. -/
theorem all_fgets_append_cons (hsize : 1 < size) (l' : List α) :
    ∀ l : List α, newline ∉ l → ∃ front,
      (fgetsReader newline size).all (l ++ newline :: l') =
        front ++ (fgetsReader newline size).all l' ∧
      (l.length + 1 < size → front = [l ++ [newline]]) := by
  intro l
  induction hn : l.length using Nat.strong_induction_on generalizing l with
  | _ n ih =>
    intro hl
    by_cases hfit : l.length + 1 < size
    · have hnext : (fgetsReader newline size).next (l ++ newline :: l') =
          some (l ++ [newline], l') := fgets_append_cons hl hfit
      exact ⟨[l ++ [newline]], by rw [Reader.all_of_some hnext]; rfl, fun _ => rfl⟩
    · -- the buffer is full before the end of the line
      have htake : (l ++ newline :: l').take (size - 1) = l.take (size - 1) :=
        List.take_append_of_le_length (by omega)
      have hlength : (l.take (size - 1)).length = size - 1 := List.length_take_of_le (by omega)
      have hpiece : upTo newline (l.take (size - 1)) = l.take (size - 1) :=
        upTo_of_not_mem fun hmem => hl (List.mem_of_mem_take hmem)
      have hnext : (fgetsReader newline size).next (l ++ newline :: l') =
          some (l.take (size - 1), l.drop (size - 1) ++ newline :: l') := by
        show fgets newline size (l ++ newline :: l') = _
        rw [fgets, if_neg (by simp; omega), htake, hpiece, hlength,
          List.drop_append_of_le_length (by omega)]
      have hrest : newline ∉ l.drop (size - 1) := fun hmem => hl (List.mem_of_mem_drop hmem)
      obtain ⟨front, hall, -⟩ := ih (l.drop (size - 1)).length (by rw [List.length_drop]; omega)
        (l.drop (size - 1)) rfl hrest
      refine ⟨l.take (size - 1) :: front, ?_, fun h => absurd h (hn ▸ hfit)⟩
      rw [Reader.all_of_some hnext, hall, List.cons_append]

/-- A line that fits is read in one piece, however long the lines before it are. -/
theorem mem_all_fgets (hsize : 1 < size) {line : List α}
    (hline : line ∈ terminated newline (lines newline l)) (hfit : line.length < size) :
    line ∈ (fgetsReader newline size).all l := by
  induction l using line_induction newline with
  | last l hl =>
    rw [lines_of_not_mem newline hl, terminated] at hline
    split at hline
    · cases hline
    · next hne =>
      obtain rfl := List.mem_singleton.mp hline
      have hnext : (fgetsReader newline size).next line = some (line, []) :=
        fgets_of_not_mem hl hne hfit
      rw [Reader.all_of_some hnext]
      exact List.mem_cons_self
  | step l l' hl ih =>
    obtain ⟨front, hall, hfront⟩ := all_fgets_append_cons hsize l' l hl
    have hne : lines newline l' ≠ [] := List.splitOnP_ne_nil _ l'
    rw [lines_append_cons newline hl, terminated_cons l hne, List.mem_cons] at hline
    rw [hall]
    rcases hline with rfl | hlater
    · rw [List.length_append, List.length_singleton] at hfit
      apply List.mem_append_left
      rw [hfront hfit]
      exact List.mem_singleton_self _
    · exact List.mem_append_right front (ih hlater)

end Fgets

end Tokens
end Nx507j
