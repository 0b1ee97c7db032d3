import Nx507j.Lib.Buffer
import Nx507j.Utils.LocCfg

/-!
# Strings in place

`loc_misc_utils.cpp` splits a string at a delimiter and trims a string, each in the array of its
caller: the pieces of a split string are pointers into it.

## Main definitions

* `trimSpaceLoop`, `locUtilTrimSpaceIn` — the string is shifted to the left over its leading spaces,
  and ended behind the last character that is no space.
* `splitLoop`, `locUtilSplitString` — a NUL takes the place of each delimiter.

## Main results

* `locUtilTrimSpaceIn_eq`, `locUtilTrimSpaceIn_blank` — what is in the array in the end.
* `untilNul_locUtilTrimSpaceIn` — the text in it is that of `LocCfg.locUtilTrimSpace`.
* `locUtilTrimSpaceIn_iff` — the string is stripped unless it is made of spaces.
* `locUtilSplitString_pieces` — the pieces are those of the string that is split.
-/

namespace Nx507j

open Buffer CText

/-! ### Trimming -/

/-- The pointers of `loc_util_trim_space`, as offsets; none for `NULL`. -/
structure TrimPtrs where
  scanPtr : ℕ
  writePtr : ℕ
  firstNonspace : Option ℕ
  lastNonspace : Option ℕ
  deriving DecidableEq, Repr

/-- The first test of a turn: the first character that is no space is remembered. -/
def TrimPtrs.setFirst (ptrs : TrimPtrs) (c : UInt8) : TrimPtrs :=
  if isSpace c = false ∧ ptrs.firstNonspace = none then
    { ptrs with firstNonspace := some ptrs.scanPtr }
  else ptrs

/-- The last test of a turn: the end of the last character that is no space is remembered. -/
def TrimPtrs.setLast (ptrs : TrimPtrs) (c : UInt8) : TrimPtrs :=
  if isSpace c = false then { ptrs with lastNonspace := some ptrs.writePtr } else ptrs

/-- The loop of `loc_util_trim_space`, with the number of bytes of the array from `scanPtr` on. -/
def trimSpaceLoop : ℕ → List UInt8 → TrimPtrs → Except Outside (List UInt8 × TrimPtrs)
  | 0, _, ptrs => .error ⟨ptrs.scanPtr⟩
  | left + 1, string, ptrs => do
    let c ← read string ptrs.scanPtr
    if c = 0 then .ok (string, ptrs)
    else
      let ptrs := ptrs.setFirst c
      if ptrs.firstNonspace = none then
        trimSpaceLoop left string { ptrs with scanPtr := ptrs.scanPtr + 1 }
      else
        let string ← write string ptrs.writePtr c
        let ptrs := { ptrs with writePtr := ptrs.writePtr + 1 }
        let ptrs := ptrs.setLast (← read string ptrs.scanPtr)
        trimSpaceLoop left string { ptrs with scanPtr := ptrs.scanPtr + 1 }

/-- `loc_util_trim_space` on the array of the string. -/
def locUtilTrimSpaceIn (orgString : Option (List UInt8)) :
    Except Outside (Option (List UInt8)) :=
  match orgString with
  | none => .ok none
  | some orgString => do
    let (string, ptrs) ← trimSpaceLoop orgString.length orgString ⟨0, 0, none, none⟩
    match ptrs.lastNonspace with
    | some last => return some (← write string last 0)
    | none => return some string

variable {s behind : List UInt8}

/-- Leading spaces are left where they are. -/
theorem trimSpaceLoop_lead (rest : List UInt8) (left : ℕ) :
    ∀ (lead : Text) (front : List UInt8) {scan : ℕ}, Blank lead → scan = front.length →
      trimSpaceLoop (lead.length + left) (front ++ (lead ++ rest)) ⟨scan, 0, none, none⟩ =
        trimSpaceLoop left (front ++ (lead ++ rest)) ⟨scan + lead.length, 0, none, none⟩ := by
  intro lead
  induction lead with
  | nil =>
    intro front scan _ _
    rw [List.length_nil, Nat.zero_add]
    rfl
  | cons c lead ih =>
    intro front scan hblank hscan
    have hc : isSpace c = true := hblank c List.mem_cons_self
    have hzero : c ≠ 0 := by
      rintro rfl
      exact absurd hc (by decide)
    have hfirst : (TrimPtrs.mk scan 0 none none).setFirst c = ⟨scan, 0, none, none⟩ :=
      if_neg fun h => by rw [hc] at h; exact Bool.noConfusion h.1
    have hrest := ih (front ++ [c]) (fun d hd => hblank d (List.mem_cons_of_mem c hd))
      (succ_eq_length_concat hscan c)
    rw [List.append_assoc, List.singleton_append] at hrest
    rw [List.length_cons, Nat.add_right_comm, trimSpaceLoop, List.cons_append, read_append hscan,
      ok_bind, if_neg hzero, hfirst]
    dsimp only
    rw [if_pos rfl, hrest, Nat.add_assoc, Nat.add_comm 1]

/-- A turn behind the leading spaces shifts a character to the left. -/
theorem trimSpaceLoop_cons (left : ℕ) (out mid rest : List UInt8) (first last : Option ℕ)
    {c : UInt8} {scan write : ℕ} (hc : c ≠ 0) (hscan : scan = (out ++ mid).length)
    (hwrite : write = out.length) (hfirst : first ≠ none ∨ isSpace c = false) :
    ∃ f mid', mid'.length = mid.length ∧
      trimSpaceLoop (left + 1) (out ++ (mid ++ c :: rest)) ⟨scan, write, first, last⟩ =
        trimSpaceLoop left (out ++ [c] ++ (mid' ++ rest))
          ⟨scan + 1, write + 1, some f, if isSpace c = false then some (write + 1) else last⟩ := by
  obtain ⟨f, hf⟩ : ∃ f, (TrimPtrs.mk scan write first last).setFirst c =
      ⟨scan, write, some f, last⟩ := by
    unfold TrimPtrs.setFirst
    split
    · exact ⟨scan, rfl⟩
    · next hnot =>
      cases first with
      | none => exact absurd ⟨hfirst.resolve_left fun h => h rfl, rfl⟩ hnot
      | some f => exact ⟨f, rfl⟩
  -- the write is to the place that is read, or to one in front of it
  obtain ⟨mid', hlen, hput, hread⟩ : ∃ mid', mid'.length = mid.length ∧
      Buffer.write (out ++ (mid ++ c :: rest)) write c = .ok (out ++ [c] ++ (mid' ++ rest)) ∧
      read (out ++ [c] ++ (mid' ++ rest)) scan = .ok c := by
    cases mid with
    | nil =>
      refine ⟨[], rfl, ?_, ?_⟩
      · rw [List.nil_append, write_append hwrite, List.append_assoc]
        rfl
      · rw [List.append_nil] at hscan
        rw [List.append_assoc]
        exact read_append hscan
    | cons d mid =>
      refine ⟨mid ++ [c], by rw [List.length_append]; rfl, ?_, ?_⟩
      · rw [List.cons_append, write_append hwrite, List.append_assoc, List.append_assoc]
        rfl
      · have hscan' : scan = (out ++ [c] ++ mid).length := by
          rw [hscan, List.length_append, List.length_append, List.length_append, List.length_cons,
            List.length_singleton, Nat.add_right_comm, Nat.add_assoc]
        rw [List.append_assoc mid, ← List.append_assoc]
        exact read_append hscan'
  refine ⟨f, mid', hlen, ?_⟩
  have hread' : read (out ++ (mid ++ c :: rest)) scan = .ok c := by
    rw [← List.append_assoc]
    exact read_append hscan
  rw [trimSpaceLoop, hread', ok_bind, if_neg hc, hf]
  dsimp only
  rw [if_neg (Option.some_ne_none f), hput, ok_bind, hread, ok_bind]
  unfold TrimPtrs.setLast
  split <;> rfl

/-- **The rest of the string is shifted**, and its end without spaces is remembered. -/
theorem trimSpaceLoop_append (behind : List UInt8) (left : ℕ) :
    ∀ (rest out mid : List UInt8) (scan write f : ℕ), 0 ∉ rest → scan = (out ++ mid).length →
      write = out.length →
      ∃ mid' ptrs, mid'.length = mid.length ∧
        ptrs.lastNonspace = some ((out ++ rest).rdropWhile isSpace).length ∧
        trimSpaceLoop (rest.length + (left + 1)) (out ++ (mid ++ (rest ++ 0 :: behind)))
            ⟨scan, write, some f, some (out.rdropWhile isSpace).length⟩ =
          .ok (out ++ rest ++ (mid' ++ 0 :: behind), ptrs) := by
  intro rest
  induction rest with
  | nil =>
    intro out mid scan write f _ hscan _
    refine ⟨mid, ⟨scan, write, some f, some (out.rdropWhile isSpace).length⟩, rfl, ?_, ?_⟩
    · rw [List.append_nil]
    · rw [List.length_nil, Nat.zero_add, List.nil_append, ← List.append_assoc, trimSpaceLoop,
        read_append hscan, ok_bind, if_pos rfl, List.append_nil, List.append_assoc]
  | cons c rest ih =>
    intro out mid scan write f hrest hscan hwrite
    have hc : c ≠ 0 := fun hzero => hrest (hzero ▸ List.mem_cons_self)
    obtain ⟨f', mid', hlen, hturn⟩ := trimSpaceLoop_cons (rest.length + (left + 1)) out mid
      (rest ++ 0 :: behind) (some f) (some (out.rdropWhile isSpace).length) hc hscan hwrite
      (.inl (Option.some_ne_none f))
    have hlast : (if isSpace c = false then some (write + 1)
        else some (out.rdropWhile isSpace).length) =
        some ((out ++ [c]).rdropWhile isSpace).length := by
      rw [List.rdropWhile_concat]
      cases isSpace c with
      | false => rw [if_pos rfl, if_neg Bool.false_ne_true, List.length_append, hwrite]; rfl
      | true => rfl
    have hscan' : scan + 1 = (out ++ [c] ++ mid').length := by
      rw [hscan, List.length_append, List.length_append, List.length_append, hlen,
        List.length_singleton, Nat.add_right_comm]
    obtain ⟨mid'', ptrs, hlen', hptrs, hloop⟩ := ih (out ++ [c]) mid' (scan + 1) (write + 1) f'
      (fun hmem => hrest (List.mem_cons_of_mem c hmem)) hscan' (succ_eq_length_concat hwrite c)
    have hsplit : out ++ [c] ++ rest = out ++ c :: rest := by
      rw [List.append_assoc, List.singleton_append]
    rw [hsplit] at hptrs hloop
    refine ⟨mid'', ptrs, hlen'.trans hlen, hptrs, ?_⟩
    rw [List.length_cons, Nat.add_right_comm, List.cons_append, hturn, hlast, hloop]

/-- The whole loop, on leading spaces, the first character that is none, and the rest. -/
theorem trimSpaceLoop_eq (behind : List UInt8) {lead rest : List UInt8} {c : UInt8}
    (hlead : Blank lead) (hc : isSpace c = false) (hrest : 0 ∉ c :: rest) :
    ∃ mid ptrs, mid.length = lead.length ∧
      ptrs.lastNonspace = some ((c :: rest).rdropWhile isSpace).length ∧
      trimSpaceLoop (lead ++ (c :: rest ++ 0 :: behind)).length
          (lead ++ (c :: rest ++ 0 :: behind)) ⟨0, 0, none, none⟩ =
        .ok (c :: rest ++ (mid ++ 0 :: behind), ptrs) := by
  have hzero : c ≠ 0 := fun hzero => hrest (hzero ▸ List.mem_cons_self)
  have hskip := trimSpaceLoop_lead (c :: rest ++ 0 :: behind)
    (rest.length + (behind.length + 1) + 1) lead [] hlead rfl
  obtain ⟨f, mid, hlen, hturn⟩ := trimSpaceLoop_cons (rest.length + (behind.length + 1)) [] lead
    (rest ++ 0 :: behind) none none hzero rfl rfl (.inr hc)
  have hscan : lead.length + 1 = ([c] ++ mid).length := by
    rw [List.length_append, List.length_singleton, hlen, Nat.add_comm]
  have hlast : some 1 = some (([c] : Text).rdropWhile isSpace).length := by
    rw [List.rdropWhile_singleton, hc]
    rfl
  obtain ⟨mid', ptrs, hlen', hptrs, hloop⟩ := trimSpaceLoop_append behind behind.length rest [c] mid
    (lead.length + 1) 1 f (fun hmem => hrest (List.mem_cons_of_mem c hmem)) hscan rfl
  refine ⟨mid', ptrs, hlen'.trans hlen, hptrs, ?_⟩
  have hleft : (lead ++ (c :: rest ++ 0 :: behind)).length =
      lead.length + (rest.length + (behind.length + 1) + 1) := by
    rw [List.length_append, List.length_append, List.length_cons, List.length_cons,
      Nat.add_right_comm]
  rw [List.nil_append, List.length_nil, Nat.zero_add] at hskip
  rw [List.nil_append, List.nil_append, List.nil_append, if_pos hc, List.length_nil, Nat.zero_add,
    hlast] at hturn
  rw [hleft, hskip]
  exact hturn.trans hloop

/-- The NUL is written behind a part of the text, and what is left of it stays there. -/
theorem write_nul (front trail mid behind : List UInt8) :
    ∃ junk, junk.length = trail.length + mid.length ∧
      Buffer.write (front ++ trail ++ (mid ++ 0 :: behind)) front.length 0 =
        .ok (front ++ 0 :: junk ++ behind) := by
  have hall :
      front ++ trail ++ (mid ++ 0 :: behind) = front ++ (trail ++ mid ++ [0] ++ behind) := by
    simp only [List.append_assoc, List.singleton_append]
  obtain ⟨d, junk, hjunk⟩ := List.exists_cons_of_ne_nil (l := trail ++ mid ++ [0])
    (List.append_ne_nil_of_right_ne_nil _ (List.cons_ne_nil 0 []))
  have hlen := congrArg List.length hjunk
  rw [List.length_append, List.length_append, List.length_cons] at hlen
  refine ⟨junk, (Nat.succ_inj.mp hlen).symm, ?_⟩
  rw [hall, hjunk, List.cons_append, write_append rfl, List.append_assoc, List.cons_append]

/-- The string without the spaces at its ends. -/
def strip (s : Text) : Text := (s.dropWhile isSpace).rdropWhile isSpace

/-- The array holds the string without the spaces at its ends. -/
theorem locUtilTrimSpaceIn_eq (behind : List UInt8) (hs : 0 ∉ s)
    (hspace : ∃ c ∈ s, isSpace c = false) :
    ∃ junk, (strip s ++ junk).length = s.length ∧
      locUtilTrimSpaceIn (some (s ++ 0 :: behind)) =
        .ok (some (strip s ++ 0 :: junk ++ behind)) := by
  -- the leading spaces, the first character that is none, and the rest
  obtain ⟨c, rest, hdrop, hc⟩ := exists_dropWhile_isSpace hspace
  have hsplit : s.takeWhile isSpace ++ c :: rest = s := by
    rw [← hdrop, List.takeWhile_append_dropWhile]
  have hlead : Blank (s.takeWhile isSpace) := fun d hd => List.mem_takeWhile_imp hd
  have hrest : 0 ∉ c :: rest := fun hmem => hs (hsplit ▸ List.mem_append_right _ hmem)
  obtain ⟨mid, ptrs, hmid, hlast, hloop⟩ := trimSpaceLoop_eq behind hlead hc hrest
  -- the trailing spaces
  have htrail : (c :: rest).rdropWhile isSpace ++ (c :: rest).rtakeWhile isSpace = c :: rest :=
    List.rdropWhile_append_rtakeWhile
  obtain ⟨junk, hjunk, hwrite⟩ :=
    write_nul ((c :: rest).rdropWhile isSpace) ((c :: rest).rtakeWhile isSpace) mid behind
  rw [htrail] at hwrite
  rw [strip, hdrop]
  refine ⟨junk, ?_, ?_⟩
  · have hlen := congrArg List.length htrail
    have hall := congrArg List.length hsplit
    rw [List.length_append] at hlen hall
    rw [List.length_append]
    omega
  · rw [← List.append_assoc, hsplit] at hloop
    rw [locUtilTrimSpaceIn]
    dsimp only
    rw [hloop, ok_bind]
    dsimp only
    rw [hlast]
    dsimp only
    rw [hwrite, ok_bind]
    rfl

/-- A string of spaces is left as it is. -/
theorem locUtilTrimSpaceIn_blank (behind : List UInt8) (hblank : Blank s) :
    locUtilTrimSpaceIn (some (s ++ 0 :: behind)) = .ok (some (s ++ 0 :: behind)) := by
  have hskip := trimSpaceLoop_lead (0 :: behind) (behind.length + 1) s [] hblank rfl
  rw [List.nil_append, List.length_nil, Nat.zero_add] at hskip
  rw [locUtilTrimSpaceIn]
  dsimp only
  rw [List.length_append, List.length_cons, hskip, trimSpaceLoop, read_append rfl, ok_bind,
    if_pos rfl, ok_bind]
  rfl

/-- A string that is not made of spaces begins, without them, with a character that is none. -/
theorem strip_eq_cons (hspace : ∃ c ∈ s, isSpace c = false) :
    ∃ c t, strip s = c :: t ∧ isSpace c = false := by
  obtain ⟨c, rest, hdrop, hc⟩ := exists_dropWhile_isSpace hspace
  have hne : (c :: rest).rdropWhile isSpace ≠ [] := by
    intro hnil
    rw [List.rdropWhile_eq_nil_iff.mp hnil c List.mem_cons_self] at hc
    cases hc
  obtain ⟨e, t, ht⟩ := List.exists_cons_of_ne_nil hne
  have hprefix : e :: t <+: c :: rest := ht ▸ List.rdropWhile_prefix isSpace (c :: rest)
  refine ⟨e, t, ?_, ?_⟩
  · rw [strip, hdrop, ht]
  · rw [(List.cons_prefix_cons.mp hprefix).1, hc]

theorem zero_notMem_strip (hs : 0 ∉ s) : 0 ∉ strip s := fun hmem =>
  hs ((List.dropWhile_suffix isSpace).subset ((List.rdropWhile_prefix isSpace _).subset hmem))

theorem strip_strip (hspace : ∃ c ∈ s, isSpace c = false) : strip (strip s) = strip s := by
  obtain ⟨c, t, hstrip, hc⟩ := strip_eq_cons hspace
  have hdrop : (strip s).dropWhile isSpace = strip s := by
    rw [hstrip]
    exact List.dropWhile_cons_of_neg (by rw [hc]; exact Bool.false_ne_true)
  rw [strip, hdrop, strip]
  exact List.rdropWhile_idempotent isSpace _

/-- The text in the array is the one that the configuration is read with. -/
theorem untilNul_locUtilTrimSpaceIn (behind : List UInt8) (hs : 0 ∉ s) :
    ∃ string, locUtilTrimSpaceIn (some (s ++ 0 :: behind)) = .ok (some string) ∧
      untilNul string = LocCfg.locUtilTrimSpace s := by
  by_cases hblank : Blank s
  · refine ⟨_, locUtilTrimSpaceIn_blank behind hblank, ?_⟩
    rw [untilNul_append hs, LocCfg.locUtilTrimSpace, if_pos hblank]
  · obtain ⟨junk, -, htrim⟩ := locUtilTrimSpaceIn_eq behind hs (not_blank_iff.mp hblank)
    refine ⟨_, htrim, ?_⟩
    rw [List.append_assoc, List.cons_append, untilNul_append (zero_notMem_strip hs),
      LocCfg.locUtilTrimSpace, if_neg hblank]
    rfl

/-- **Trimming is stripping**, within the string and once for all, if and only if the string is
empty or has a character that is no space. -/
theorem locUtilTrimSpaceIn_iff (hs : 0 ∉ s) :
    (∃ junk, (strip s ++ junk).length = s.length ∧
      locUtilTrimSpaceIn (some (s ++ 0 :: behind)) =
        .ok (some (strip s ++ 0 :: junk ++ behind)) ∧
      locUtilTrimSpaceIn (some (strip s ++ 0 :: junk ++ behind)) =
        .ok (some (strip s ++ 0 :: junk ++ behind))) ↔
    (s = [] ∨ ∃ c ∈ s, isSpace c = false) := by
  constructor
  · rintro ⟨junk, -, htrim, -⟩
    by_contra hnone
    rw [not_or, ← not_blank_iff, not_not] at hnone
    have hblank := hnone.2
    obtain ⟨c, t, rfl⟩ := List.exists_cons_of_ne_nil hnone.1
    have hstrip : strip (c :: t) = [] := by
      rw [strip, List.dropWhile_eq_nil_iff.mpr hblank]
      rfl
    -- the first character is still a space, and not a NUL
    rw [locUtilTrimSpaceIn_blank behind hblank, hstrip] at htrim
    injection htrim with hsome
    injection hsome with harray
    exact hs ((List.cons.inj harray).1 ▸ List.mem_cons_self)
  · rintro (rfl | hspace)
    · have hempty := locUtilTrimSpaceIn_blank (s := []) behind fun c hc =>
        absurd hc List.not_mem_nil
      exact ⟨[], rfl, hempty, hempty⟩
    · obtain ⟨junk, hlen, htrim⟩ := locUtilTrimSpaceIn_eq behind hs hspace
      obtain ⟨c, t, hstrip, hc⟩ := strip_eq_cons hspace
      obtain ⟨junk', hlen', htrim'⟩ := locUtilTrimSpaceIn_eq (junk ++ behind)
        (zero_notMem_strip hs) ⟨c, hstrip ▸ List.mem_cons_self, hc⟩
      rw [strip_strip hspace] at hlen' htrim'
      have hnil : junk' = [] := by
        rw [List.length_append] at hlen'
        exact List.length_eq_zero_iff.mp (by omega)
      rw [hnil] at htrim'
      refine ⟨junk, hlen, htrim, ?_⟩
      rw [List.append_assoc, List.cons_append, htrim', List.append_assoc]
      rfl

theorem locUtilTrimSpaceIn_iff_name :
    (∃ junk, (strip (text " a b ") ++ junk).length = (text " a b ").length ∧
      locUtilTrimSpaceIn (some (text " a b " ++ 0 :: [7])) =
        .ok (some (strip (text " a b ") ++ 0 :: junk ++ [7])) ∧
      locUtilTrimSpaceIn (some (strip (text " a b ") ++ 0 :: junk ++ [7])) =
        .ok (some (strip (text " a b ") ++ 0 :: junk ++ [7]))) ↔
    (text " a b " = [] ∨ ∃ c ∈ text " a b ", isSpace c = false) :=
  locUtilTrimSpaceIn_iff (by decide)

/-- A string of one space keeps it. -/
theorem locUtilTrimSpaceIn_space :
    0 ∉ text " " ∧ ¬ ∃ junk, (strip (text " ") ++ junk).length = (text " ").length ∧
      locUtilTrimSpaceIn (some (text " " ++ 0 :: [])) =
        .ok (some (strip (text " ") ++ 0 :: junk ++ [])) ∧
      locUtilTrimSpaceIn (some (strip (text " ") ++ 0 :: junk ++ [])) =
        .ok (some (strip (text " ") ++ 0 :: junk ++ [])) := by
  refine ⟨by decide, ?_⟩
  rintro ⟨junk, -, htrim, -⟩
  have hkept : locUtilTrimSpaceIn (some (text " " ++ 0 :: [])) = .ok (some [32, 0]) := by decide
  rw [hkept] at htrim
  cases htrim

/-! ### Splitting -/

/-- The loop of `loc_util_split_string`, with the number of turns that are left and the number of
substrings so far.  A pointer into the string is an offset. -/
def splitLoop (rawStringLength : ℕ) (maxNumSubstrings : ℤ) (delimiter : UInt8) :
    ℕ → ℕ → List UInt8 → List (Option ℕ) → ℕ →
      Except Outside (List UInt8 × List (Option ℕ) × ℕ)
  | 0, _, raw, ptrs, num => .ok (raw, ptrs, num)
  | left + 1, index, raw, ptrs, num => do
    let c ← read raw index
    if c = delimiter ∨ c = 0 then
      let raw ← write raw index 0
      let num := num + 1
      if index + 1 < rawStringLength ∧ (num : ℤ) < maxNumSubstrings then
        let ptrs ← write ptrs num (some (index + 1))
        -- `end_string`
        if c = 0 then .ok (raw, ptrs, num)
        else splitLoop rawStringLength maxNumSubstrings delimiter left (index + 1) raw ptrs num
      else .ok (raw, ptrs, num)
    else splitLoop rawStringLength maxNumSubstrings delimiter left (index + 1) raw ptrs num

/-- `loc_util_split_string`, with its result. -/
def locUtilSplitString (rawString : Option (List UInt8))
    (splitStringsPtr : Option (List (Option ℕ))) (maxNumSubstrings : ℤ) (delimiter : UInt8) :
    Except Outside (Option (List UInt8) × Option (List (Option ℕ)) × ℤ) :=
  match rawString, splitStringsPtr with
  | some raw, some ptrs => do
    let rawStringLength := (← strlen raw) + 1
    let ptrs ← write ptrs 0 (some 0)
    let (raw, ptrs, num) ←
      splitLoop rawStringLength maxNumSubstrings delimiter rawStringLength 0 raw ptrs 0
    .ok (some raw, some ptrs, num)
  | _, _ => .ok (rawString, splitStringsPtr, -1)

/-- The strings at some offsets of an array. -/
def substrings (raw : List UInt8) (starts : List ℕ) : List Text :=
  starts.map fun start => untilNul (raw.drop start)

theorem length_splitOn (d : UInt8) (s : Text) : (s.splitOn d).length = s.count d + 1 := by
  induction s with
  | nil => rfl
  | cons c s ih =>
    rw [List.splitOn_cons_eq_if_modifyHead, List.count_cons]
    split
    · rw [List.length_cons, ih]
    · rw [List.length_modifyHead, ih, Nat.add_zero]

variable {d : UInt8}

/-- The loop cuts the rest of the string, which begins in the middle of a piece: `pre` and the part
`cur` of the piece have been read, and the slots `front` are written. -/
def Cuts (d : UInt8) (behind rest pre cur : List UInt8) (front old : List (Option ℕ))
    (index num : ℕ) : Prop :=
  ∃ tail starts, tail.length = (cur ++ rest).length ∧
    starts.length + 1 = min (old.length + 1) (rest.count d + 1) ∧
    (∀ start ∈ starts, start ≤ index + rest.length) ∧
    splitLoop (index + rest.length + 1) (front ++ old).length d (rest.length + 1) index
        (pre ++ cur ++ (rest ++ 0 :: behind)) (front ++ old) num =
      .ok (pre ++ (tail ++ 0 :: behind),
        front ++ (starts.map some ++ old.drop starts.length), num + (starts.length + 1)) ∧
    substrings (pre ++ (tail ++ 0 :: behind)) (pre.length :: starts) =
      ((cur ++ rest).splitOn d).take (starts.length + 1)

section Cuts

variable {behind rest pre cur : List UInt8} {front old : List (Option ℕ)} {index num : ℕ}

theorem untilNul_piece (pre : List UInt8) (hcur : 0 ∉ cur) (tail : List UInt8) :
    untilNul ((pre ++ (cur ++ 0 :: tail)).drop pre.length) = cur := by
  rw [List.drop_left, untilNul_append hcur]

/-- The string ends, and its NUL is written once more. -/
theorem cuts_nil (hcur : 0 ∉ cur) (hdcur : d ∉ cur) (hindex : index = (pre ++ cur).length) :
    Cuts d behind [] pre cur front old index num := by
  refine ⟨cur, [], ?_, ?_, fun start hstart => absurd hstart List.not_mem_nil, ?_, ?_⟩
  · rw [List.append_nil]
  · rw [List.count_nil, List.length_nil]
    omega
  · rw [List.nil_append, splitLoop, read_append hindex, ok_bind, if_pos (.inr rfl),
      write_append hindex, ok_bind, if_neg fun h => Nat.lt_irrefl _ h.1, List.append_assoc]
    rfl
  · rw [List.append_nil, List.splitOn_eq_singleton hdcur, substrings, List.map_singleton,
      untilNul_piece pre hcur]
    rfl

/-- The piece ends, and there is no slot for another one. -/
theorem cuts_full (hcur : 0 ∉ cur) (hdcur : d ∉ cur) (hindex : index = (pre ++ cur).length)
    (hfront : front.length = num + 1) :
    Cuts d behind (d :: rest) pre cur front [] index num := by
  refine ⟨cur ++ 0 :: rest, [], ?_, ?_, fun start hstart => absurd hstart List.not_mem_nil, ?_, ?_⟩
  · rw [List.length_append, List.length_append, List.length_cons, List.length_cons]
  · simp only [List.length_nil]
    omega
  · have hlimit : ¬ ((num + 1 : ℕ) : ℤ) < ((front ++ ([] : List (Option ℕ))).length : ℕ) := by
      rw [List.append_nil, hfront]
      omega
    rw [List.length_cons, splitLoop, List.cons_append, read_append hindex, ok_bind,
      if_pos (.inl rfl), write_append hindex, ok_bind]
    dsimp only
    rw [if_neg fun h => hlimit h.2]
    simp only [List.append_assoc, List.cons_append]
    rfl
  · rw [List.splitOn_append_cons_self_of_not_mem hdcur rest, substrings, List.map_singleton,
      List.append_assoc, List.cons_append, untilNul_piece pre hcur]
    rfl

/-- The piece ends, and the next one gets a slot. -/
theorem Cuts.piece {o : Option ℕ} (hd : d ≠ 0) (hcur : 0 ∉ cur) (hdcur : d ∉ cur)
    (hindex : index = (pre ++ cur).length) (hfront : front.length = num + 1)
    (h : Cuts d behind rest (pre ++ cur ++ [0]) [] (front ++ [some (index + 1)]) old (index + 1)
      (num + 1)) :
    Cuts d behind (d :: rest) pre cur front (o :: old) index num := by
  obtain ⟨tail, starts, htail, hstarts, hle, hloop, hsub⟩ := h
  have hptrs : (front ++ o :: old).length = (front ++ [some (index + 1)] ++ old).length := by
    rw [List.append_assoc, List.length_append, List.length_append]
    rfl
  have hturns : index + (d :: rest).length + 1 = index + 1 + rest.length + 1 := by
    rw [List.length_cons, Nat.add_comm rest.length, ← Nat.add_assoc]
  have hroom : index + 1 < index + 1 + rest.length + 1 ∧
      ((num + 1 : ℕ) : ℤ) < (front ++ [some (index + 1)] ++ old).length := by
    rw [← hptrs, List.length_append, List.length_cons, hfront]
    omega
  rw [List.append_nil] at hloop
  rw [← succ_eq_length_concat hindex 0, List.nil_append] at hsub
  refine ⟨cur ++ 0 :: tail, (index + 1) :: starts, ?_, ?_, fun start hstart => ?_, ?_, ?_⟩
  · rw [List.length_append, List.length_cons, htail, List.nil_append, List.length_append,
      List.length_cons]
  · rw [List.length_cons, hstarts, List.length_cons, List.count_cons_self]
    omega
  · rw [List.length_cons]
    rcases List.mem_cons.mp hstart with rfl | hstart
    · omega
    · have hbound := hle start hstart
      omega
  · rw [hturns, hptrs, List.length_cons, splitLoop, List.cons_append, read_append hindex,
      ok_bind, if_pos (.inl rfl), write_append hindex, ok_bind]
    dsimp only
    rw [if_pos hroom, write_append hfront.symm, ok_bind, if_neg hd]
    simp only [List.append_assoc, List.cons_append, List.nil_append] at hloop ⊢
    rw [hloop, List.map_cons, List.length_cons, List.drop_succ_cons, List.cons_append,
      Nat.add_assoc, Nat.add_comm 1]
  · simp only [List.append_assoc, List.cons_append, List.nil_append] at hsub ⊢
    rw [List.splitOn_append_cons_self_of_not_mem hdcur rest, List.length_cons,
      List.take_succ_cons, ← hsub, substrings, List.map_cons, untilNul_piece pre hcur]
    rfl

/-- The piece goes on. -/
theorem Cuts.char {c : UInt8} (hc : c ≠ 0) (hcd : c ≠ d) (hindex : index = (pre ++ cur).length)
    (h : Cuts d behind rest pre (cur ++ [c]) front old (index + 1) num) :
    Cuts d behind (c :: rest) pre cur front old index num := by
  obtain ⟨tail, starts, htail, hstarts, hle, hloop, hsub⟩ := h
  have hwhole : cur ++ [c] ++ rest = cur ++ c :: rest := by
    rw [List.append_assoc, List.singleton_append]
  rw [hwhole] at htail hsub
  refine ⟨tail, starts, htail, ?_, fun start hstart => ?_, ?_, hsub⟩
  · rw [hstarts, List.count_cons_of_ne hcd]
  · have hbound := hle start hstart
    rw [List.length_cons]
    omega
  · have hturns : index + (c :: rest).length + 1 = index + 1 + rest.length + 1 := by
      rw [List.length_cons, Nat.add_comm rest.length, ← Nat.add_assoc]
    have hnot : ¬ (c = d ∨ c = 0) := not_or.mpr ⟨hcd, hc⟩
    rw [hturns, List.length_cons, splitLoop, List.cons_append, read_append hindex, ok_bind,
      if_neg hnot, ← hloop]
    simp only [List.append_assoc, List.singleton_append]

end Cuts

/-- **The loop cuts the rest of the string.** -/
theorem splitLoop_append (hd : d ≠ 0) (behind : List UInt8) :
    ∀ (rest pre cur : List UInt8) (front old : List (Option ℕ)) (index num : ℕ),
      0 ∉ rest → 0 ∉ cur → d ∉ cur → index = (pre ++ cur).length → front.length = num + 1 →
        Cuts d behind rest pre cur front old index num := by
  intro rest
  induction rest with
  | nil =>
    intro pre cur front old index num _ hcur hdcur hindex _
    exact cuts_nil hcur hdcur hindex
  | cons c rest ih =>
    intro pre cur front old index num hrest hcur hdcur hindex hfront
    have hc : c ≠ 0 := fun hzero => hrest (hzero ▸ List.mem_cons_self)
    have hrest' : 0 ∉ rest := fun hmem => hrest (List.mem_cons_of_mem c hmem)
    by_cases hcd : c = d
    · subst hcd
      cases old with
      | nil => exact cuts_full hcur hdcur hindex hfront
      | cons o old =>
        have hindex' : index + 1 = (pre ++ cur ++ [0] ++ []).length := by
          rw [List.append_nil]
          exact succ_eq_length_concat hindex 0
        have hfront' := (succ_eq_length_concat hfront.symm (some (index + 1))).symm
        exact (ih (pre ++ cur ++ [0]) [] (front ++ [some (index + 1)]) old (index + 1) (num + 1)
          hrest' List.not_mem_nil List.not_mem_nil hindex' hfront').piece hd hcur hdcur hindex
          hfront
    · have hindex' : index + 1 = (pre ++ (cur ++ [c])).length := by
        rw [← List.append_assoc]
        exact succ_eq_length_concat hindex c
      have hcur' : 0 ∉ cur ++ [c] := by
        apply List.not_mem_append hcur
        exact fun hmem => hc (List.mem_singleton.mp hmem).symm
      have hdcur' : d ∉ cur ++ [c] := by
        apply List.not_mem_append hdcur
        exact fun hmem => hcd (List.mem_singleton.mp hmem).symm
      exact (ih pre (cur ++ [c]) front old (index + 1) num hrest' hcur' hdcur' hindex'
        hfront).char hc hcd hindex

/-- **Splitting is the inverse of joining**: the pointers are those of the first pieces, as many as
there are slots for, and nothing is written behind the string or behind the slots. -/
theorem locUtilSplitString_pieces (behind : List UInt8) (ptrs : List (Option ℕ)) (hs : 0 ∉ s)
    (hd : d ≠ 0) (hptrs : 1 ≤ ptrs.length) :
    ∃ tail starts,
      locUtilSplitString (some (s ++ 0 :: behind)) (some ptrs) ptrs.length d =
        .ok (some (tail ++ 0 :: behind), some (starts.map some ++ ptrs.drop starts.length),
          starts.length) ∧
      tail.length = s.length ∧
      starts.length = min ptrs.length (s.count d + 1) ∧
      (∀ start ∈ starts, start ≤ s.length) ∧
      substrings (tail ++ 0 :: behind) starts = (s.splitOn d).take starts.length ∧
      (starts.length = s.count d + 1 →
        [d].intercalate (substrings (tail ++ 0 :: behind) starts) = s) := by
  obtain ⟨o, old, rfl⟩ := List.exists_cons_of_length_pos hptrs
  obtain ⟨tail, starts, htail, hstarts, hle, hloop, hsub⟩ :=
    splitLoop_append hd behind s [] [] [some 0] old 0 0 hs List.not_mem_nil List.not_mem_nil rfl rfl
  simp only [List.nil_append, List.singleton_append, Nat.zero_add] at htail hle hloop hsub
  refine ⟨tail, 0 :: starts, ?_, htail, hstarts, fun start hstart => ?_, hsub, fun hall => ?_⟩
  · have hslot : write (o :: old) 0 (some 0) = .ok (some 0 :: old) := rfl
    rw [locUtilSplitString]
    dsimp only
    rw [strlen_append hs, ok_bind, hslot, ok_bind, List.length_cons]
    rw [List.length_cons] at hloop
    rw [hloop]
    rfl
  · rcases List.mem_cons.mp hstart with rfl | hstart
    · exact Nat.zero_le _
    · exact hle start hstart
  · rw [List.length_nil] at hsub
    rw [hsub, List.take_of_length_le (by rw [length_splitOn, ← hall]; rfl),
      List.intercalate_splitOn]

theorem locUtilSplitString_pieces_limit :
    ∃ tail starts,
      locUtilSplitString (some (text "a b " ++ 0 :: [7])) (some [none, none])
          ([none, none] : List (Option ℕ)).length 32 =
        .ok (some (tail ++ 0 :: [7]), some (starts.map some ++ [none, none].drop starts.length),
          starts.length) ∧
      tail.length = (text "a b ").length ∧
      starts.length = min ([none, none] : List (Option ℕ)).length ((text "a b ").count 32 + 1) ∧
      (∀ start ∈ starts, start ≤ (text "a b ").length) ∧
      substrings (tail ++ 0 :: [7]) starts = ((text "a b ").splitOn 32).take starts.length ∧
      (starts.length = (text "a b ").count 32 + 1 →
        [32].intercalate (substrings (tail ++ 0 :: [7]) starts) = text "a b ") :=
  locUtilSplitString_pieces [7] [none, none] (by decide) (by decide) (by decide)

end Nx507j
