import Nx507j.Utils.ConfLines

/-!
# Numbers in a configuration

The fields of type 'n' are masks of 32 bits.  Their values go through `strtol` and `atoi`, whose
range ends at the largest signed number, so that a mask with its highest bit set is not stored.

## Main definitions

* `Denotes` — the decimal and the hexadecimal numerals of a value.
* `IsName` — a name that a line can have.

## Main results

* `operands_padded` — a line is read without the blanks around its name and its value.
* `numberStored_iff` — the values that are stored as they are written.
-/

namespace Nx507j
namespace LocCfg

open CText Tokens

/-- A numeral of the value: in base 10 or, behind `0x`, in base 16, with leading zeros and with
letters of either case. -/
inductive Denotes : Text → ℤ → Prop
  | decimal (v : ℤ) : Denotes (sign v ++ numeral 10 v.natAbs) v
  | hex (n : ℕ) {x : UInt8} (hx : toLower x = 120) (zeros : ℕ) {digits : Text}
      (hdigits : digits.map toLower = numeral 16 n) :
      Denotes (48 :: x :: (List.replicate zeros 48 ++ digits)) n

/-- A name that a line can have: there is no equals sign in it, and no blank at its ends. -/
structure IsName (name : Text) : Prop where
  noEquals : 61 ∉ name
  notBlank : ¬Blank name
  trimmed : locUtilTrimSpace name = name

/-! ### Blanks -/

theorem no_equals_of_blank {s : Text} (h : Blank s) : 61 ∉ s := fun hmem => by
  have hspace := h 61 hmem
  revert hspace
  decide

/-- Blanks around a text are trimmed. -/
theorem locUtilTrimSpace_padded {before s after : Text} (hbefore : Blank before) (hs : ¬Blank s)
    (hafter : Blank after) :
    locUtilTrimSpace (before ++ s ++ after) = locUtilTrimSpace s := by
  have hnot : ¬Blank (before ++ s ++ after) := fun h =>
    hs (blank_append.mp (blank_append.mp h).1).2
  have hne : s.dropWhile isSpace ≠ [] := fun hnil => hs (List.dropWhile_eq_nil_iff.mp hnil)
  have hdrop : (before ++ s ++ after).dropWhile isSpace = s.dropWhile isSpace ++ after := by
    rw [List.append_assoc, List.dropWhile_append_of_pos hbefore, List.dropWhile_append,
      if_neg (by simpa using hne)]
  have hafter' : ∀ c ∈ after.reverse, isSpace c = true := fun c hc =>
    hafter c (List.mem_reverse.mp hc)
  rw [locUtilTrimSpace, locUtilTrimSpace, if_neg hnot, if_neg hs, hdrop, List.rdropWhile,
    List.reverse_append, List.dropWhile_append_of_pos hafter', List.rdropWhile]

/-- A text without blanks is left as it is. -/
theorem locUtilTrimSpace_of_no_space {s : Text} (h : ∀ c ∈ s, isSpace c = false) :
    locUtilTrimSpace s = s := by
  unfold locUtilTrimSpace
  split
  · rfl
  · have hdrop : s.dropWhile isSpace = s := by
      cases s with
      | nil => rfl
      | cons c s => exact List.dropWhile_cons_of_neg (by simp [h c List.mem_cons_self])
    rw [hdrop, List.rdropWhile_eq_self_iff]
    exact fun hne => by simp [h _ (List.getLast_mem hne)]

/-- **A line is read without the blanks** around its name and its value. -/
theorem operands_padded {name value b₁ b₂ b₃ b₄ : Text} (hname : IsName name)
    (hvalue : 61 ∉ value) (hnot : ¬Blank value) (h₁ : Blank b₁) (h₂ : Blank b₂) (h₃ : Blank b₃)
    (h₄ : Blank b₄) :
    operands (b₁ ++ name ++ b₂ ++ 61 :: (b₃ ++ value ++ b₄)) =
      some (name, locUtilTrimSpace value) := by
  have hsegment : ∀ {b s b' : Text}, Blank b → Blank b' → 61 ∉ s → ¬Blank s →
      segments isEquals (b ++ s ++ b') = [b ++ s ++ b'] := by
    intro b s b' hb hb' hs hnot
    have hne : b ++ s ++ b' ≠ [] := fun hnil => hnot fun c hc => by
      have hmem : c ∈ b ++ s ++ b' := by simp [hc]
      rw [hnil] at hmem
      cases hmem
    refine segments_of_forall hne fun c hc => ?_
    unfold isEquals
    refine beq_false_of_ne ?_
    rintro rfl
    rcases List.mem_append.mp hc with hc | hc
    · rcases List.mem_append.mp hc with hc | hc
      · exact no_equals_of_blank hb hc
      · exact hs hc
    · exact no_equals_of_blank hb' hc
  rw [operands, segments_append_cons rfl, hsegment h₁ h₂ hname.noEquals hname.notBlank,
    hsegment h₃ h₄ hvalue hnot]
  dsimp only [List.singleton_append]
  rw [locUtilTrimSpace_padded h₁ hname.notBlank h₂, hname.trimmed,
    locUtilTrimSpace_padded h₃ hnot h₄]

/-! ### Numerals -/

theorem not_space_of_isDigit {base : ℕ} (hbase : base ≤ 16) {c : UInt8} (h : IsDigit base c) :
    isSpace c = false ∧ c ≠ 61 := by
  have hsmall : digitValue c < base := h
  refine ⟨Bool.eq_false_iff.mpr fun hspace => ?_, ?_⟩
  · have hlarge := not_isDigit (Or.inl hspace)
    omega
  · rintro rfl
    have hlarge : digitValue 61 = 36 := by decide
    omega

/-- The letter of the prefix. -/
theorem not_space_of_toLower {x : UInt8} (hx : toLower x = 120) : isSpace x = false ∧ x ≠ 61 := by
  have hall : ∀ n : Fin 256, toLower (UInt8.ofFin n) = 120 →
      isSpace (UInt8.ofFin n) = false ∧ UInt8.ofFin n ≠ 61 := by decide +kernel
  exact hall x.toFin hx

/-- What is read of a numeral. -/
def intValue (value : Text) : Int32 :=
  if isHex value then strtol 16 (value.drop 2) else atoi value

/-- The text is read as a number without its blanks. -/
structure ReadsAs (s : Text) (v : ℤ) : Prop where
  noSpace : ∀ c ∈ s, isSpace c = false ∧ c ≠ 61
  ne_nil : s ≠ []
  value : intValue s = Int32.ofIntClamp v

theorem readsAs_decimal (v : ℤ) : ReadsAs (sign v ++ numeral 10 v.natAbs) v := by
  obtain ⟨hdigits, hnumber⟩ := numeral_spec 10 (by decide) (by decide) v.natAbs
  have hspace := fun c hc => not_space_of_isDigit (by decide) (hdigits c hc)
  have hnil := numeral_ne_nil 10 v.natAbs
  unfold sign
  split
  · next hneg =>
    refine ⟨fun c hc => ?_, by simp, ?_⟩
    · rcases List.mem_cons.mp hc with rfl | hc
      · decide
      · exact hspace c hc
    · show strtol 10 (45 :: numeral 10 v.natAbs) = _
      rw [strtol_minus_digits hdigits, hnumber]
      congr 1
      omega
  · next hnonneg =>
    refine ⟨fun c hc => hspace c hc, hnil, ?_⟩
    have hnot : isHex (numeral 10 v.natAbs) = false := by
      unfold isHex
      split
      · next c _ _ heq =>
        refine beq_false_of_ne fun hx => ?_
        have hlarge := not_isDigit (Or.inr (Or.inr (Or.inr hx)))
        have hsmall : digitValue c < 10 := hdigits c (by rw [heq]; simp)
        omega
      · rfl
    rw [List.nil_append, intValue, hnot]
    show strtol 10 (numeral 10 v.natAbs) = _
    rw [strtol_digits (by decide) hdigits, hnumber]
    congr 1
    omega

theorem readsAs_hex (n : ℕ) {x : UInt8} (hx : toLower x = 120) (zeros : ℕ) {digits : Text}
    (hlower : digits.map toLower = numeral 16 n) :
    ReadsAs (48 :: x :: (List.replicate zeros 48 ++ digits)) n := by
  obtain ⟨hnumeral, hnumber⟩ := numeral_spec 16 (by decide) (by decide) n
  have hdigits : ∀ c ∈ List.replicate zeros 48 ++ digits, IsDigit 16 c := by
    intro c hc
    rcases List.mem_append.mp hc with hc | hc
    · rw [List.eq_of_mem_replicate hc]
      decide
    · have hmem := hnumeral (toLower c) (hlower ▸ List.mem_map_of_mem hc)
      rwa [IsDigit, digitValue_toLower] at hmem
  have hvalue : number 16 (List.replicate zeros 48 ++ digits) = n := by
    rw [number_replicate_append, ← number_map_toLower, hlower, hnumber]
  have hne : List.replicate zeros 48 ++ digits ≠ [] := fun hnil => by
    rw [(List.append_eq_nil_iff.mp hnil).2] at hlower
    exact numeral_ne_nil 16 n hlower.symm
  refine ⟨fun c hc => ?_, by simp, ?_⟩
  · rcases List.mem_cons.mp hc with rfl | hc
    · decide
    · rcases List.mem_cons.mp hc with rfl | hc
      · exact not_space_of_toLower hx
      · exact not_space_of_isDigit (by decide) (hdigits c hc)
  · have hhex : isHex (48 :: x :: (List.replicate zeros 48 ++ digits)) = true := by
      cases hrest : List.replicate zeros 48 ++ digits with
      | nil => exact absurd hrest hne
      | cons c rest => exact beq_iff_eq.mpr hx
    rw [intValue, hhex]
    show strtol 16 (List.replicate zeros 48 ++ digits) = _
    rw [strtol_digits (by decide) hdigits, hvalue]

theorem Denotes.readsAs {s : Text} {v : ℤ} (h : Denotes s v) : ReadsAs s v := by
  cases h with
  | decimal v => exact readsAs_decimal v
  | hex n hx zeros hdigits => exact readsAs_hex n hx zeros hdigits

/-- Of the values of 32 bits, those survive that are no larger than the largest signed one. -/
theorem ofIntClamp_eq_ofInt_iff {v : ℤ} (hlower : -2 ^ 31 ≤ v) (hupper : v < 2 ^ 32) :
    Int32.ofIntClamp v = Int32.ofInt v ↔ v < 2 ^ 31 := by
  have hmin : Int32.minValue.toInt ≤ v := hlower
  constructor
  · intro h
    by_contra hnot
    have hmax : ¬v ≤ Int32.maxValue.toInt := by
      show ¬v ≤ 2 ^ 31 - 1
      omega
    have hclamp : (Int32.ofIntClamp v).toInt = 2 ^ 31 - 1 := by
      rw [Int32.ofIntClamp, dif_pos hmin, dif_neg hmax]
      rfl
    have hwrap : (Int32.ofInt v).toInt = v - 2 ^ 32 := by
      rw [Int32.toInt_ofInt, Int.bmod]
      have hsize : (Int32.size : ℤ) = 2 ^ 32 := rfl
      rw [hsize]
      omega
    rw [h, hwrap] at hclamp
    omega
  · intro h
    have hmax : v ≤ Int32.maxValue.toInt := by
      show v ≤ 2 ^ 31 - 1
      omega
    rw [Int32.ofIntClamp, dif_pos hmin, dif_pos hmax]
    rfl

/-! ### What is stored -/

section

variable {F : Type*} [Zero F] (atof : Text → F) {table : List (LocParam F)}

/-- **The values that are stored as they are written**: of all values of 32 bits, those that are no
larger than the largest signed one. -/
theorem numberStored_iff {name s b₁ b₂ b₃ b₄ : Text} {v : ℤ} (hs : Denotes s v)
    (hlower : -2 ^ 31 ≤ v) (hupper : v < 2 ^ 32) (hname : IsName name) (h₁ : Blank b₁)
    (h₂ : Blank b₂) (h₃ : Blank b₃) (h₄ : Blank b₄) {i : ℕ} {byte : Option UInt8} {old : Int32}
    (hentry : table[i]? = some ⟨name, some (.n old), byte⟩) :
    ((locFillConfItem atof (b₁ ++ name ++ b₂ ++ 61 :: (b₃ ++ s ++ b₄)) table).1[i]?).bind
        LocParam.paramPtr = some (.n (Int32.ofInt v)) ↔
      v < 2 ^ 31 := by
  obtain ⟨hspace, hne, hvalue⟩ := hs.readsAs
  have hequals : 61 ∉ s := fun hmem => (hspace 61 hmem).2 rfl
  have hblank : ¬Blank s := fun h => by
    obtain ⟨c, hc⟩ := List.exists_mem_of_ne_nil s hne
    have hnot := (hspace c hc).1
    rw [h c hc] at hnot
    cases hnot
  have hline := operands_padded hname hequals hblank h₁ h₂ h₃ h₄
  have hstored : (configValue atof name s).paramIntValue = Int32.ofIntClamp v := hvalue
  rw [locUtilTrimSpace_of_no_space fun c hc => (hspace c hc).1] at hline
  rw [locFillConfItem_eq, hline]
  dsimp only
  have hset : locSetConfigEntry ⟨name, some (.n old), byte⟩ (configValue atof name s) =
      (LocParam.put ⟨name, some (.n old), byte⟩ (.n (configValue atof name s).paramIntValue), 0) :=
    store_of_take atof rfl
  rw [setEntries, List.getElem?_map, hentry, Option.map_some, hset, hstored, Option.bind_some,
    put_paramPtr, Option.some_inj, Storage.n.injEq, ofIntClamp_eq_ofInt_iff hlower hupper]

/-- A mask. -/
def maskEntry : List (LocParam ℤ) := [⟨text "AGPS_CERT_WRITABLE_MASK", some (.n 0), none⟩]

theorem numberStored_iff_maskEntry :
    ((locFillConfItem atofWhole ([] ++ text "AGPS_CERT_WRITABLE_MASK" ++ text " " ++
        61 :: (text " " ++ (48 :: 120 :: (List.replicate 1 48 ++ text "fF")) ++ text "\n"))
        maskEntry).1[0]?).bind LocParam.paramPtr = some (.n (Int32.ofInt (255 : ℕ))) ↔
      ((255 : ℕ) : ℤ) < 2 ^ 31 :=
  numberStored_iff atofWhole (Denotes.hex 255 rfl 1 (by decide)) (by decide) (by decide)
    ⟨by decide, by decide, by decide⟩ (by decide) (by decide) (by decide) (by decide)
    (show maskEntry[0]? = some ⟨_, some (.n 0), none⟩ from rfl)

/-- All bits of a mask: the highest is lost. -/
theorem mask_not_stored :
    Denotes (text "0xFFFFFFFF") (2 ^ 32 - 1) ∧
      ((locFillConfItem atofWhole (text "AGPS_CERT_WRITABLE_MASK=0xFFFFFFFF") maskEntry).1[0]?).bind
        LocParam.paramPtr ≠ some (.n (Int32.ofInt (2 ^ 32 - 1))) := by
  have hdigits : (text "FFFFFFFF").map toLower = numeral 16 (2 ^ 32 - 1) := by decide
  exact ⟨Denotes.hex (2 ^ 32 - 1) (x := 120) rfl 0 hdigits, by decide⟩

end

end LocCfg
end Nx507j
