import Nx507j.Lib.Decimal

/-!
# Fields between separators

A record is printed with a separator between its fields, and is split at the separators when it is
read.  A field that is a number with a sign is read as the number.

## Main definitions

* `joined`, `ended` — fields with a separator between them, or behind each.
* `signed` — a number with a sign.

## Main results

* `splitOnP_joined` — the fields are found again.
* `signed_printD` — the number is found again.
-/

namespace Nx507j
namespace Fields

open CText

variable {α : Type*}

/-! ### Fields -/

/-- Fields with separators between them. -/
def joined (sep : α) (fields : List (List α)) : List α := [sep].intercalate fields

variable {sep : α} {field : List α} {fields : List (List α)}

@[simp] theorem joined_singleton (sep : α) (field : List α) : joined sep [field] = field :=
  List.intercalate_singleton

theorem joined_cons (hne : fields ≠ []) :
    joined sep (field :: fields) = field ++ sep :: joined sep fields := by
  rw [joined, List.intercalate_cons_of_ne_nil hne, List.append_assoc]
  rfl

/-- Fields with a separator behind each. -/
def ended (sep : α) (fields : List (List α)) : List α := fields.flatMap (· ++ [sep])

@[simp] theorem ended_nil (sep : α) : ended sep [] = [] := rfl

@[simp] theorem ended_cons (sep : α) (field : List α) (fields : List (List α)) :
    ended sep (field :: fields) = field ++ sep :: ended sep fields := by
  rw [ended, List.flatMap_cons, List.append_assoc]
  rfl

theorem ended_append (fields fields' : List (List α)) :
    ended sep (fields ++ fields') = ended sep fields ++ ended sep fields' :=
  List.flatMap_append

variable {fields' : List (List α)}

/-- The last fields of a record are not ended. -/
theorem ended_append_joined (hne : fields' ≠ []) :
    ended sep fields ++ joined sep fields' = joined sep (fields ++ fields') := by
  induction fields with
  | nil => rfl
  | cons field fields ih =>
    rw [ended_cons, List.cons_append, joined_cons (List.append_ne_nil_of_right_ne_nil _ hne), ← ih,
      List.append_assoc, List.cons_append]

/-- A separator stands between two records that are joined. -/
theorem joined_append (hne : fields ≠ []) (hne' : fields' ≠ []) :
    joined sep fields ++ sep :: joined sep fields' = joined sep (fields ++ fields') := by
  induction fields with
  | nil => exact absurd rfl hne
  | cons field fields ih =>
    cases fields with
    | nil => rw [List.singleton_append, joined_cons hne', joined_singleton]
    | cons next fields =>
      have hnext : next :: fields ≠ [] := List.cons_ne_nil _ _
      rw [joined_cons hnext, List.append_assoc, List.cons_append, ih hnext, ← joined_cons]
      · rfl
      · exact List.append_ne_nil_of_left_ne_nil hnext _

theorem eq_or_mem_of_mem_joined {c : α} (h : c ∈ joined sep fields) :
    c = sep ∨ ∃ field ∈ fields, c ∈ field := by
  induction fields with
  | nil => cases h
  | cons field fields ih =>
    cases fields with
    | nil =>
      rw [joined_singleton] at h
      exact .inr ⟨field, List.mem_cons_self, h⟩
    | cons next fields =>
      rw [joined_cons (List.cons_ne_nil _ _), List.mem_append, List.mem_cons] at h
      rcases h with h | rfl | h
      · exact .inr ⟨field, List.mem_cons_self, h⟩
      · exact .inl rfl
      · rcases ih h with rfl | ⟨field', hmem, hc⟩
        · exact .inl rfl
        · exact .inr ⟨field', List.mem_cons_of_mem _ hmem, hc⟩

/-- **The fields are found again** where none has a separator. -/
theorem splitOnP_joined [BEq α] [LawfulBEq α] (hne : fields ≠ [])
    (h : ∀ field ∈ fields, sep ∉ field) : (joined sep fields).splitOnP (· == sep) = fields :=
  List.splitOn_intercalate sep h hne

/-! ### Numbers with a sign -/

/-- A number with a sign that is read. -/
def signed (s : Text) : ℤ :=
  match s with
  | [] => 0
  | c :: digits => if c = 45 then -(number 10 digits : ℤ) else number 10 (c :: digits)

/-- The characters of a number that is printed. -/
theorem mem_printD {width : ℕ} {n : ℤ} {c : UInt8} (h : c ∈ printD width n) :
    IsDigit 10 c ∨ c = 45 := by
  rw [printD, List.mem_append, List.mem_append] at h
  rcases h with (h | h) | h
  · rw [sign] at h
    split at h
    · exact .inr (List.mem_singleton.mp h)
    · cases h
  · rw [List.eq_of_mem_replicate h]
    exact .inl (by decide)
  · exact .inl ((numeral_spec 10 (by decide) (by decide) _).1 c h)

/-- **The number is found again.** -/
theorem signed_printD (width : ℕ) (n : ℤ) : signed (printD width n) = n := by
  have hnumeral := numeral_spec 10 (by decide) (by decide) n.natAbs
  rcases lt_or_ge n 0 with hneg | hpos
  · rw [printD, sign, if_pos hneg, List.append_assoc, List.singleton_append, signed, if_pos rfl,
      number_replicate_append, hnumeral.2]
    omega
  · obtain ⟨m, rfl⟩ := Int.eq_ofNat_of_zero_le hpos
    have hdigit : ∀ c ∈ printD width m, c ≠ 45 := fun c hc =>
      isDigit_ne (isDigit_of_mem_printD hc) (by decide)
    have hvalue := number_printD width m
    cases hprint : printD width m with
    | nil =>
      rw [hprint] at hvalue
      rw [← hvalue]
      rfl
    | cons c digits =>
      rw [hprint] at hvalue hdigit
      rw [signed, if_neg (hdigit c List.mem_cons_self), hvalue]

end Fields
end Nx507j
