import Mathlib.Data.List.FinRange
import Mathlib.Logic.Function.Basic
import Nx507j.Lib.CText
import Nx507j.Lib.Tokens

/-!
# The address of the WLAN chip

`libwcnss_qmi.c`: the address stands in a file of settings, on a line of its own.  The file is read
in pieces of at most 255 bytes; the first piece that starts with the key and is 29 bytes long is
taken, and its digits are read two by two, whatever they are.  The function reports success whenever
the file can be opened.

The texts that are logged are left out.

## Main definitions

* `sscanf2hhx` — the conversion of two digits.
* `wcnssQmiGetWlanAddress` — the function.
* `IsAddressLine`, `decode` — an address in the file, and what it says.
* `Truthful` — what the function is to report.
* `Spells` — a text that starts with a byte.

## Main results

* `sscanf2hhx_eq_some_iff` — a conversion gives the byte that the text starts with.
* `getWlanAddress_of_isAddressLine` — an address line that is taken is decoded.
* `truthful_iff` — when the function tells the truth.
-/

namespace Nx507j
namespace Wcnss

open CText Tokens

/-! ### The function -/

/-- `sscanf(pos, "%2hhx", ..)`: blanks are skipped, and two characters are read, one of which may be
a sign; what follows the digits is left, the `x` of a prefix without digits as well. -/
def sscanf2hhx : Text → Option UInt8
  | [] => none
  | [c] => if IsDigit 16 c then some (UInt8.ofNat (number 16 [c])) else none
  | c :: d :: s =>
    if isSpace c then sscanf2hhx (d :: s)
    else if IsDigit 16 c then
      if IsDigit 16 d then some (UInt8.ofNat (number 16 [c, d]))
      else some (UInt8.ofNat (number 16 [c]))
    else if c = 43 ∧ IsDigit 16 d then some (UInt8.ofNat (number 16 [d]))
    else if c = 45 ∧ IsDigit 16 d then some (-UInt8.ofNat (number 16 [d]))
    else none

/-- The six bytes of an address. -/
abbrev Address := Fin 6 → UInt8

/-- The six conversions; where one fails the byte stays as it is. -/
def convert (buf : Text) (pBdAddr : Address) : Address :=
  (List.finRange 6).foldl (fun pBdAddr i =>
    Function.update pBdAddr i ((sscanf2hhx (buf.drop (16 + 2 * i))).getD (pBdAddr i))) pBdAddr

def intf0MacAddress : Text := text "Intf0MacAddress="

/-- The piece that is looked for. -/
def isAddressPiece (buf : Text) : Bool := buf.take 16 == intf0MacAddress && buf.length == 29

/-- The pieces that `fgets` reads. -/
def pieces (content : Text) : List Text := ((fgetsReader 10 256).all content).map untilNul

/-- The value that is returned, and the address; there is no content if the file cannot be
opened. -/
def wcnssQmiGetWlanAddress (file : Option Text) (pBdAddr : Address) : Int32 × Address :=
  match file with
  | none => (-1, pBdAddr)
  | some content =>
    match (pieces content).find? isAddressPiece with
    | some buf => (0, convert buf pBdAddr)
    | none => (0, pBdAddr)

/-! ### What the file says -/

/-- The line is the key, twelve hexadecimal digits and a newline. -/
def IsAddressLine (line : Text) : Prop :=
  ∃ digits : Text, digits.length = 12 ∧ (∀ c ∈ digits, IsDigit 16 c) ∧
    line = intf0MacAddress ++ digits ++ [10]

theorem length_intf0MacAddress : intf0MacAddress.length = 16 := by decide

theorem isAddressLine_iff (line : Text) :
    ((line.drop 16).take 12).length = 12 ∧ (∀ c ∈ (line.drop 16).take 12, IsDigit 16 c) ∧
      line = intf0MacAddress ++ (line.drop 16).take 12 ++ [10] ↔ IsAddressLine line := by
  constructor
  · exact fun h => ⟨_, h⟩
  · rintro ⟨digits, hlength, hdigits, rfl⟩
    have hdrop : ((intf0MacAddress ++ digits ++ [10]).drop 16).take 12 = digits := by
      rw [List.append_assoc, List.drop_left' length_intf0MacAddress, List.take_left' hlength]
    rw [hdrop]
    exact ⟨hlength, hdigits, rfl⟩

instance (line : Text) : Decidable (IsAddressLine line) :=
  have : Decidable (∀ c ∈ (line.drop 16).take 12, IsDigit 16 c) := List.decidableBAll ..
  decidable_of_iff _ (isAddressLine_iff line)

/-- The address on a line. -/
def decode (line : Text) : Address := fun i =>
  UInt8.ofNat (number 16 ((line.drop (16 + 2 * i)).take 2))

/-- The lines of the file, each with its newline. -/
def fileLines (content : Text) : List Text := terminated 10 (lines 10 content)

/-- What the function is to report: the address on the first line that has one, or a failure that
leaves the bytes alone. -/
def Truthful (content : Text) (pBdAddr : Address) (result : Int32 × Address) : Prop :=
  match (fileLines content).find? fun line => decide (IsAddressLine line) with
  | some line => result = (0, decode line)
  | none => result.1 ≠ 0 ∧ result.2 = pBdAddr

/-- A text that starts with the number, after blanks: two hexadecimal digits, or one where no other
follows, or a sign and one. -/
inductive Spells : Text → UInt8 → Prop
  | blank {c : UInt8} {s : Text} {byte : UInt8} :
      isSpace c = true → Spells s byte → Spells (c :: s) byte
  | two {c d : UInt8} {s : Text} :
      IsDigit 16 c → IsDigit 16 d → Spells (c :: d :: s) (UInt8.ofNat (number 16 [c, d]))
  | one {c : UInt8} {s : Text} :
      IsDigit 16 c → (∀ d ∈ s.head?, ¬IsDigit 16 d) →
      Spells (c :: s) (UInt8.ofNat (number 16 [c]))
  | plus {d : UInt8} {s : Text} :
      IsDigit 16 d → Spells (43 :: d :: s) (UInt8.ofNat (number 16 [d]))
  | minus {d : UInt8} {s : Text} :
      IsDigit 16 d → Spells (45 :: d :: s) (-UInt8.ofNat (number 16 [d]))

/-! ### The conversions -/

/-- What a loop over different positions makes of each of them. -/
theorem foldl_update {ι β : Type*} [DecidableEq ι] (f : ι → β → β) :
    ∀ (is : List ι) (a : ι → β), is.Nodup →
      is.foldl (fun a i => Function.update a i (f i (a i))) a =
        fun i => if i ∈ is then f i (a i) else a i := by
  intro is
  induction is with
  | nil => exact fun a _ => rfl
  | cons i is ih =>
    intro a hnodup
    obtain ⟨hnot, hrest⟩ := List.nodup_cons.mp hnodup
    rw [List.foldl_cons, ih _ hrest]
    funext j
    by_cases hj : j = i
    · subst hj
      rw [if_neg hnot, if_pos List.mem_cons_self, Function.update_self]
    · rw [Function.update_of_ne hj]
      simp [hj]

theorem convert_eq (buf : Text) (pBdAddr : Address) :
    convert buf pBdAddr = fun i : Fin 6 =>
      (sscanf2hhx (buf.drop (16 + 2 * i))).getD (pBdAddr i) := by
  have hloop := foldl_update
    (fun (i : Fin 6) (byte : UInt8) => (sscanf2hhx (buf.drop (16 + 2 * i))).getD byte)
    (List.finRange 6) pBdAddr (List.nodup_finRange 6)
  refine hloop.trans ?_
  funext i
  rw [if_pos (List.mem_finRange i)]

/-- What stands before a number is no digit. -/
theorem not_isDigit_16 {c : UInt8} (h : isSpace c = true ∨ c = 43 ∨ c = 45) : ¬IsDigit 16 c := by
  intro hdigit
  have hlarge : 33 ≤ digitValue c := not_isDigit <| h.imp_right (Or.imp_right Or.inl)
  have hsmall : digitValue c < 16 := hdigit
  omega

/-- **A conversion gives the number that the text starts with.** -/
theorem sscanf2hhx_eq_some_iff {s : Text} {byte : UInt8} :
    sscanf2hhx s = some byte ↔ Spells s byte := by
  fun_induction sscanf2hhx s with
  | case1 => exact ⟨fun h => (nomatch h), fun h => (nomatch h)⟩
  | case2 c hc =>
    constructor
    · rintro ⟨⟩
      exact .one hc (by simp)
    · intro h
      cases h with
      | blank _ h => cases h
      | one _ _ => rfl
  | case3 c hc =>
    refine ⟨fun h => (nomatch h), fun h => ?_⟩
    cases h with
    | blank _ h => cases h
    | one h _ => exact absurd h hc
  | case4 c d s hspace ih =>
    have hc : ¬IsDigit 16 c := not_isDigit_16 (.inl hspace)
    rw [ih]
    refine ⟨.blank hspace, fun h => ?_⟩
    cases h with
    | blank _ h => exact h
    | two h _ => exact absurd h hc
    | one h _ => exact absurd h hc
    | plus _ => cases hspace
    | minus _ => cases hspace
  | case5 c d s hspace hc hd =>
    constructor
    · rintro ⟨⟩
      exact .two hc hd
    · intro h
      cases h with
      | blank h _ => exact absurd h hspace
      | two _ _ => rfl
      | one _ h => exact absurd hd (h d rfl)
      | plus _ => exact absurd hc (by decide)
      | minus _ => exact absurd hc (by decide)
  | case6 c d s hspace hc hd =>
    constructor
    · rintro ⟨⟩
      exact .one hc (by simpa using hd)
    · intro h
      cases h with
      | blank h _ => exact absurd h hspace
      | two _ h => exact absurd h hd
      | one _ _ => rfl
      | plus h => exact absurd h hd
      | minus h => exact absurd h hd
  | case7 c d s hspace hc hplus =>
    obtain ⟨rfl, hd⟩ := hplus
    constructor
    · rintro ⟨⟩
      exact .plus hd
    · intro h
      cases h with
      | blank h _ => exact absurd h hspace
      | two h _ => exact absurd h hc
      | one h _ => exact absurd h hc
      | plus _ => rfl
  | case8 c d s hspace hc hplus hminus =>
    obtain ⟨rfl, hd⟩ := hminus
    constructor
    · rintro ⟨⟩
      exact .minus hd
    · intro h
      cases h with
      | blank h _ => exact absurd h hspace
      | two h _ => exact absurd h hc
      | one h _ => exact absurd h hc
      | minus _ => rfl
  | case9 c d s hspace hc hplus hminus =>
    refine ⟨fun h => (nomatch h), fun h => ?_⟩
    cases h with
    | blank h _ => exact absurd h hspace
    | two h _ => exact absurd h hc
    | one h _ => exact absurd h hc
    | plus h => exact absurd ⟨rfl, h⟩ hplus
    | minus h => exact absurd ⟨rfl, h⟩ hminus

theorem getD_sscanf2hhx_eq_iff {s : Text} {old byte : UInt8} :
    (sscanf2hhx s).getD old = byte ↔
      Spells s byte ∨ (∀ byte', ¬Spells s byte') ∧ old = byte := by
  cases hscan : sscanf2hhx s with
  | none =>
    have hnot : ∀ byte', ¬Spells s byte' := by
      intro byte' h
      rw [sscanf2hhx_eq_some_iff.mpr h] at hscan
      cases hscan
    rw [Option.getD_none, or_iff_right (hnot byte), and_iff_right hnot]
  | some byte' =>
    have hspells : Spells s byte' := sscanf2hhx_eq_some_iff.mp hscan
    rw [Option.getD_some, ← sscanf2hhx_eq_some_iff, hscan, Option.some.injEq]
    exact (or_iff_left fun h => h.1 byte' hspells).symm

/-- Two digits are converted to their number. -/
theorem sscanf2hhx_digits {c d : UInt8} (hc : IsDigit 16 c) (hd : IsDigit 16 d) (rest : Text) :
    sscanf2hhx (c :: d :: rest) = some (UInt8.ofNat (number 16 [c, d])) :=
  sscanf2hhx_eq_some_iff.mpr (.two hc hd)

/-- The digits of an address line give the address. -/
theorem convert_of_isAddressLine {line : Text} (h : IsAddressLine line) (pBdAddr : Address) :
    convert line pBdAddr = decode line := by
  obtain ⟨digits, hlength, hdigits, rfl⟩ := h
  rw [convert_eq]
  funext i
  have hdrop : (intf0MacAddress ++ digits ++ [10]).drop (16 + 2 * i) =
      digits.drop (2 * i) ++ [10] := by
    rw [List.append_assoc, ← length_intf0MacAddress, List.drop_length_add_append,
      List.drop_append_of_le_length (by omega)]
  unfold decode
  rw [hdrop]
  -- two digits are left at least
  rcases hrest : digits.drop (2 * i) with _ | ⟨c, _ | ⟨d, rest⟩⟩
  · have := congrArg List.length hrest
    rw [List.length_drop, List.length_nil] at this
    omega
  · have := congrArg List.length hrest
    rw [List.length_drop, List.length_singleton] at this
    omega
  · have hmem : ∀ b ∈ c :: d :: rest, IsDigit 16 b := fun b hb =>
      hdigits b (List.mem_of_mem_drop (hrest ▸ hb))
    have hc := hmem c List.mem_cons_self
    have hd := hmem d (List.mem_cons_of_mem c List.mem_cons_self)
    rw [List.cons_append, List.cons_append, sscanf2hhx_digits hc hd]
    rfl

/-! ### The pieces -/

theorem isAddressPiece_of_isAddressLine {line : Text} (h : IsAddressLine line) :
    isAddressPiece line = true := by
  obtain ⟨digits, hlength, -, rfl⟩ := h
  unfold isAddressPiece
  rw [List.append_assoc, List.take_left' length_intf0MacAddress]
  simp [length_intf0MacAddress, hlength]

/-- Without a NUL in the file the pieces are those that are read. -/
theorem pieces_eq {content : Text} (hnul : 0 ∉ content) :
    pieces content = (fgetsReader 10 256).all content := by
  unfold pieces
  rw [List.map_congr_left, List.map_id]
  intro piece hpiece
  apply untilNul_eq_self
  intro hmem
  have hflatten : 0 ∈ ((fgetsReader 10 256).all content).flatten :=
    List.mem_flatten.mpr ⟨piece, hpiece, hmem⟩
  rw [flatten_all_fgets (by decide)] at hflatten
  exact hnul hflatten

/-- An address line is looked for, and no piece before it has been cut off its line. -/
theorem isSome_find?_pieces {content line : Text} (hnul : 0 ∉ content)
    (hline : (fileLines content).find? (fun line => decide (IsAddressLine line)) = some line) :
    ∃ buf, (pieces content).find? isAddressPiece = some buf := by
  have haddress : IsAddressLine line := by simpa using List.find?_some hline
  have hpiece := isAddressPiece_of_isAddressLine haddress
  have hlength : line.length < 256 := by
    obtain ⟨digits, hdigits, -, rfl⟩ := haddress
    simp [length_intf0MacAddress, hdigits]
  have hmem : line ∈ pieces content := by
    rw [pieces_eq hnul]
    exact mem_all_fgets (by decide) (List.mem_of_find?_eq_some hline) hlength
  rw [← Option.isSome_iff_exists, List.find?_isSome]
  exact ⟨line, hmem, hpiece⟩

/-- Success is reported whatever is in the file. -/
theorem getWlanAddress_some (content : Text) (pBdAddr : Address) :
    (wcnssQmiGetWlanAddress (some content) pBdAddr).1 = 0 := by
  unfold wcnssQmiGetWlanAddress
  dsimp only
  split <;> rfl

/-- Where the piece that is taken is an address line the bytes are its address. -/
theorem getWlanAddress_of_isAddressLine {content buf : Text}
    (hbuf : (pieces content).find? isAddressPiece = some buf) (h : IsAddressLine buf)
    (pBdAddr : Address) :
    wcnssQmiGetWlanAddress (some content) pBdAddr = (0, decode buf) := by
  unfold wcnssQmiGetWlanAddress
  dsimp only
  rw [hbuf]
  exact congrArg (Prod.mk 0) (convert_of_isAddressLine h pBdAddr)

/-- **When the function tells the truth**: there is an address line, and the first piece with the
key and the length of one spells the address of the first such line, but for bytes that it does not
spell and that have been there before. -/
theorem truthful_iff (content : Text) (hnul : 0 ∉ content) (pBdAddr : Address) :
    Truthful content pBdAddr (wcnssQmiGetWlanAddress (some content) pBdAddr) ↔
      ∃ line buf, (fileLines content).find? (fun line => decide (IsAddressLine line)) = some line ∧
        (pieces content).find? isAddressPiece = some buf ∧
        ∀ i : Fin 6, Spells (buf.drop (16 + 2 * i)) (decode line i) ∨
          (∀ byte, ¬Spells (buf.drop (16 + 2 * i)) byte) ∧ pBdAddr i = decode line i := by
  unfold Truthful
  cases hline : (fileLines content).find? fun line => decide (IsAddressLine line) with
  | none =>
    have hzero := getWlanAddress_some content pBdAddr
    simp [hzero]
  | some line =>
    obtain ⟨buf, hbuf⟩ := isSome_find?_pieces hnul hline
    have hresult : wcnssQmiGetWlanAddress (some content) pBdAddr = (0, convert buf pBdAddr) := by
      unfold wcnssQmiGetWlanAddress
      dsimp only
      rw [hbuf]
    rw [hresult, convert_eq, hbuf]
    simp only [← getD_sscanf2hhx_eq_iff]
    simp [funext_iff]

/-- An empty file is reported as an address. -/
theorem emptyFile_reported :
    ¬ Truthful [] (fun _ => 0) (wcnssQmiGetWlanAddress (some []) fun _ => 0) := by
  rintro ⟨hfailed, -⟩
  exact hfailed (getWlanAddress_some [] fun _ => 0)

/-- An address behind other lines. -/
theorem truthful_iff_someLines :
    let line := text "Intf0MacAddress=000AF58989FF\n"
    let content := text "# Wlan\nIntf1MacAddress=000AF58989FE\n" ++ line
    Truthful content (fun _ => 0) (wcnssQmiGetWlanAddress (some content) fun _ => 0) := by
  intro line content
  refine (truthful_iff content (by decide) fun _ => 0).mpr ⟨line, line, by decide, ?_, ?_⟩
  · rw [pieces_eq (by decide), all_fgets (by decide)]
    decide
  · intro i
    apply getD_sscanf2hhx_eq_iff.mp
    revert i
    decide

end Wcnss
end Nx507j
