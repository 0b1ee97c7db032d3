import Nx507j.Eng.XtraUserAgent
import Nx507j.Lib.Fields

/-!
# The user agent

`LocSetXtraUserAgent` of `LocEngAdapter.cpp` joins the parts of the user agent with slashes, prints
spaces as `#`, and keeps the text in a file for the XTRA client.  The properties of the device have
codes for the slashes in them; the serial number of the chipset has not, and may have slashes of its
own.  It is the only part that may, so that the parts are found again from both ends.

## Main definitions

* `Property`, `AgentDevice` — what the device has to say.
* `proc`, `saveUserAgentString` — the functions of the source.
* `Reported`, `readUserAgent` — what a reader finds in the text.

## Main results

* `userAgent_eq` — the text that is put together, or a serial number that cannot be trimmed.
* `readUserAgent_userAgentOf` — the parts are found again.
* `proc_reported` — what becomes of the file.
-/

namespace Nx507j
namespace Eng

open Buffer CText Fields

/-! ### The device -/

/-- `PROPERTY_VALUE_MAX`. -/
def propertyValueMax : ℕ := 92

/-- `CHIPSET_SERIAL_NUMBER_MAX_LEN`. -/
def chipsetSerialNumberMaxLen : ℕ := 16

/-- `USER_AGENT_MAX_LEN`. -/
def userAgentMaxLen : ℕ := 512

/-- `defVal`. -/
def defVal : Text := text "-"

/-- The value of a property, which is empty if the property is not set. -/
structure Property where
  value : Text
  zero_notMem : 0 ∉ value
  length_lt : value.length < propertyValueMax

/-- What the property is taken for. -/
def Property.orDefault (p : Property) : Text := if p.value = [] then defVal else p.value

theorem Property.zero_notMem_orDefault (p : Property) : 0 ∉ p.orDefault := by
  unfold orDefault
  split
  · decide
  · exact p.zero_notMem

theorem Property.length_orDefault_lt (p : Property) : p.orDefault.length < propertyValueMax := by
  unfold orDefault
  split
  · decide
  · exact p.length_lt

/-- One of a kind for each property that is named. -/
structure Parts (α : Type) where
  release : α
  manufacture : α
  model : α
  board : α
  brand : α

/-- The same for each property. -/
def Parts.map {α β : Type} (f : α → β) (parts : Parts α) : Parts β where
  release := f parts.release
  manufacture := f parts.manufacture
  model := f parts.model
  board := f parts.board
  brand := f parts.brand

/-- The properties, the file with the serial number if it can be opened, and what
`getIzatDevId` returns. -/
structure AgentDevice where
  properties : Parts Property
  serialNumber : Option (List UInt8)
  izatDevId : Int32

/-- The bytes that the arrays of a call are not initialised with. -/
structure Stack where
  properties : Parts (ℕ → UInt8)
  buffers : Parts (ℕ → UInt8)
  chipsetsn : ℕ → UInt8
  userAgent : ℕ → UInt8

/-- An array that is not initialised. -/
def uninitialised (size : ℕ) (stack : ℕ → UInt8) : List UInt8 := (List.range size).map stack

@[simp] theorem length_uninitialised (size : ℕ) (stack : ℕ → UInt8) :
    (uninitialised size stack).length = size := by
  rw [uninitialised, List.length_map, List.length_range]

/-- `property_get`. -/
def propertyGet (p : Property) (buf : List UInt8) : Except Outside (List UInt8) :=
  strlcpy buf propertyValueMax p.orDefault

/-! ### The text -/

/-- A property as it is read and encoded. -/
def encodedProperty (stack buffer : ℕ → UInt8) (p : Property) : Except Outside (List UInt8) := do
  encodeInPlace buffer (← propertyGet p (uninitialised propertyValueMax stack)) propertyValueMax

/-- What the format of the user agent makes of its arguments. -/
def format (parts : Parts Text) (izatDevId : UInt32) (chipsetsn : Text) : Text :=
  text "A/" ++ parts.release ++ text "/" ++ parts.manufacture ++ text "/" ++ parts.model ++
    text "/" ++ parts.board ++ text "/-/QCX3/s" ++ numeral 10 izatDevId.toNat ++ text "/-/" ++
    chipsetsn ++ text "/-/" ++ parts.brand ++ text "/-/-/-"

/-- The loop that replaces spaces, from `i` on. -/
def hashSpaces : ℕ → ℕ → List UInt8 → Except Outside (List UInt8)
  | 0, _, userAgent => .ok userAgent
  | turns + 1, i, userAgent => do
    let c ← read userAgent i
    if c = 0 then .ok userAgent
    else if c = 32 then hashSpaces turns (i + 1) (← write userAgent i 35)
    else hashSpaces turns (i + 1) userAgent

/-- The array that `proc` puts the user agent in. -/
def userAgent (stack : Stack) (device : AgentDevice) : Except Outside (List UInt8) := do
  let chipsetsn ← getChipsetSerialNo device.serialNumber
    (uninitialised chipsetSerialNumberMaxLen stack.chipsetsn) chipsetSerialNumberMaxLen defVal
  let ⟨p, s, b⟩ := (device.properties, stack.properties, stack.buffers)
  let release ← encodedProperty s.release b.release p.release
  let manufacture ← encodedProperty s.manufacture b.manufacture p.manufacture
  let model ← encodedProperty s.model b.model p.model
  let board ← encodedProperty s.board b.board p.board
  let brand ← encodedProperty s.brand b.brand p.brand
  let parts := Parts.map untilNul ⟨release, manufacture, model, board, brand⟩
  let printed := format parts device.izatDevId.toUInt32 (untilNul chipsetsn)
  let buf ← snprintf (uninitialised userAgentMaxLen stack.userAgent) 0 userAgentMaxLen printed
  hashSpaces userAgentMaxLen 0 buf

/-! ### The file -/

/-- The folder for XTRA, and the file in it. -/
structure XtraFolder where
  isThere : Bool
  useragent : Option Text
  isThere_of_some : useragent.isSome → isThere

/-- How the calls to the system turn out: whether `stat` has an error other than `ENOENT`, whether
`mkdir` and `fopen` fail, and how much `fwrite` writes. -/
structure SaveOutcome where
  statFails : Bool
  mkdirFails : Bool
  fopenFails : Bool
  written : ℕ
  deriving DecidableEq, Repr

/-- Nothing fails. -/
def SaveOutcome.Good (outcome : SaveOutcome) (len : ℕ) : Prop :=
  outcome.statFails = false ∧ outcome.mkdirFails = false ∧ outcome.fopenFails = false ∧
    len ≤ outcome.written

/-- The part of `saveUserAgentString` that writes the file. -/
def writeUserAgent (outcome : SaveOutcome) (data : Text) (folder : XtraFolder) : XtraFolder :=
  if outcome.fopenFails then folder
  else ⟨true, some (data.take outcome.written), fun _ => rfl⟩

/-- `saveUserAgentString`. -/
def saveUserAgentString (outcome : SaveOutcome) (data : Text) (folder : XtraFolder) : XtraFolder :=
  if data.length < 1 then folder
  else if outcome.statFails then folder
  else if folder.isThere then writeUserAgent outcome data folder
  else if outcome.mkdirFails then folder
  else writeUserAgent outcome data ⟨true, folder.useragent, fun _ => rfl⟩

/-- `LocSetXtraUserAgent::proc`. -/
def proc (stack : Stack) (device : AgentDevice) (outcome : SaveOutcome) (folder : XtraFolder) :
    Except Outside XtraFolder := do
  let buf ← userAgent stack device
  let len ← strlen buf
  return saveUserAgentString outcome (buf.take len) folder

/-! ### Reading -/

/-- What the text says of the device. -/
structure Reported where
  properties : Parts Text
  serialNumber : Text
  izatDevId : Int32

/-- The text is split at the slashes; those that are left over between the parts that are known are
the serial number's. -/
def readUserAgent (agent : Text) : Option Reported :=
  match agent.splitOn 47 with
  | _ :: release :: manufacture :: model :: board :: _ :: _ :: devId :: _ :: rest =>
    match rest.reverse with
    | _ :: _ :: _ :: brand :: _ :: pieces =>
      some {
        properties := Parts.map decode ⟨release, manufacture, model, board, brand⟩
        serialNumber := joined 47 pieces.reverse
        izatDevId := (UInt32.ofNat (number 10 (devId.drop 1))).toInt32 }
    | _ => none
  | _ => none

/-- A space is printed as `#`. -/
def hashed (s : Text) : Text := s.map fun c => if c = 32 then 35 else c

/-- The serial number that is printed, if it can be trimmed. -/
def AgentDevice.chipsetsn (device : AgentDevice) : Option Text :=
  match device.serialNumber with
  | none => some defVal
  | some content =>
    let s := serialNoRead content chipsetSerialNumberMaxLen defVal
    if Blank s then none else some (s.rdropWhile isSpace)

/-- As much of a property as has room with its codes. -/
def Property.kept (p : Property) : Text := fit (propertyValueMax - 1) p.orDefault

/-- What the device is reported to be. -/
def AgentDevice.reported (device : AgentDevice) (chipsetsn : Text) : Reported where
  properties := device.properties.map fun p => hashed p.kept
  serialNumber := hashed chipsetsn
  izatDevId := device.izatDevId

/-- The text for a device. -/
def userAgentOf (device : AgentDevice) (chipsetsn : Text) : Text :=
  hashed (format (device.properties.map fun p => encode p.kept) device.izatDevId.toUInt32 chipsetsn)

/-! ### What is printed -/

variable {size : ℕ} {s : Text} {front rest : List UInt8}

/-- A text is printed to the front of an array. -/
theorem snprintf_zero {buf : List UInt8} (hbuf : buf.length = size + 1) (s : Text) :
    ∃ rest, snprintf buf 0 (size + 1) s = .ok (s.take size ++ 0 :: rest) ∧
      (s.take size ++ 0 :: rest).length = size + 1 := by
  have hle : (s.take size).length ≤ size := List.length_take_le size s
  have hold : (buf.take ((s.take size).length + 1)).length = (s.take size).length + 1 :=
    List.length_take_of_le (by omega)
  have hprint := snprintf_append (buf.drop ((s.take size).length + 1))
    (show 0 = ([] : List UInt8).length from rfl) hold
  rw [List.take_append_drop, List.nil_append, List.nil_append] at hprint
  refine ⟨_, hprint, ?_⟩
  rw [List.length_append, List.length_cons, List.length_drop]
  omega

theorem Property.zero_notMem_encode (p : Property) : 0 ∉ encode p.kept :=
  Eng.zero_notMem_encode fun hmem =>
    p.zero_notMem_orDefault ((isPrefix_fit p.orDefault _).subset hmem)

theorem Property.length_encode_le (p : Property) : (encode p.kept).length ≤ 91 :=
  length_encode_fit p.orDefault 91

/-- An encoded property is the text that has room. -/
theorem encodedProperty_eq (stack buffer : ℕ → UInt8) (p : Property) :
    ∃ buf, encodedProperty stack buffer p = .ok buf ∧ untilNul buf = encode p.kept := by
  obtain ⟨behind, hget, hlen⟩ :=
    snprintf_zero (length_uninitialised (91 + 1) stack) p.orDefault
  have hle : p.orDefault.length ≤ 91 := Nat.le_of_lt_succ p.length_orDefault_lt
  rw [List.take_of_length_le hle] at hget hlen
  obtain ⟨rest, hencode, -⟩ := encodeInPlace_eq buffer p.zero_notMem_orDefault hlen
  refine ⟨encode p.kept ++ 0 :: rest, ?_, untilNul_append p.zero_notMem_encode⟩
  rw [encodedProperty, propertyGet, Buffer.strlcpy, propertyValueMax, hget, ok_bind]
  exact hencode

/-- The serial number is read if it can be trimmed. -/
theorem getChipsetSerialNo_eq (stack : ℕ → UInt8) (device : AgentDevice) :
    (device.chipsetsn = none ∧
      getChipsetSerialNo device.serialNumber (uninitialised chipsetSerialNumberMaxLen stack)
        chipsetSerialNumberMaxLen defVal = .error ⟨sizeMax⟩) ∨
    ∃ buf, device.chipsetsn = some (untilNul buf) ∧
      getChipsetSerialNo device.serialNumber (uninitialised chipsetSerialNumberMaxLen stack)
        chipsetSerialNumberMaxLen defVal = .ok buf := by
  have hbuf := length_uninitialised chipsetSerialNumberMaxLen stack
  cases hfile : device.serialNumber with
  | none =>
    obtain ⟨rest, hprint, -⟩ := snprintf_zero (length_uninitialised (15 + 1) stack) defVal
    refine .inr ⟨_, ?_, hprint⟩
    rw [AgentDevice.chipsetsn, hfile]
    rfl
  | some content =>
    have hdflt : 0 ∉ defVal := by decide
    have htwo : 2 ≤ (uninitialised chipsetSerialNumberMaxLen stack).length := by
      rw [hbuf]
      decide
    rw [AgentDevice.chipsetsn, hfile]
    dsimp only
    split
    · next hblank =>
      obtain ⟨tail, hread, -, hnul⟩ := readSerialNo_eq content hdflt htwo
      rw [hbuf] at hread hnul
      refine .inl ⟨rfl, ?_⟩
      rw [getChipsetSerialNo, hread, ok_bind, strlen_append hnul, ok_bind,
        trimTrailing_blank _ _ hblank]
    · next hblank =>
      rw [← hbuf] at hblank
      have hread := (getChipsetSerialNo_iff hdflt htwo).mpr (not_blank_iff.mp hblank)
      rw [hbuf] at hread
      obtain ⟨buf, hget, -, -, hnul⟩ := hread
      exact .inr ⟨buf, by rw [hnul], hget⟩

/-- Spaces are replaced up to the NUL. -/
theorem hashSpaces_append (s : Text) :
    ∀ {turns i : ℕ} {front : List UInt8}, 0 ∉ s → i = front.length → s.length < turns →
      hashSpaces turns i (front ++ (s ++ 0 :: rest)) = .ok (front ++ (hashed s ++ 0 :: rest)) := by
  induction s with
  | nil =>
    intro turns i front _ hi hturns
    obtain ⟨turns, rfl⟩ := Nat.exists_eq_add_one_of_ne_zero (Nat.ne_of_gt hturns)
    rw [List.nil_append, hashSpaces, read_append hi, ok_bind]
    rfl
  | cons c s ih =>
    intro turns i front hs hi hturns
    rw [List.length_cons] at hturns
    obtain ⟨turns, rfl⟩ :=
      Nat.exists_eq_add_one_of_ne_zero (Nat.ne_of_gt (Nat.zero_lt_of_lt hturns))
    have hc : c ≠ 0 := fun hzero => hs (hzero ▸ List.mem_cons_self)
    have hrest : 0 ∉ s := fun hmem => hs (List.mem_cons_of_mem c hmem)
    -- what is in the array in the place of the character
    have hnext := fun d => ih hrest (succ_eq_length_concat hi d) (by omega : s.length < turns)
    simp only [List.append_assoc, List.singleton_append] at hnext
    rw [List.cons_append, hashSpaces, read_append hi, ok_bind, if_neg hc]
    by_cases hspace : c = 32
    · rw [if_pos hspace, write_append hi, ok_bind, hnext 35, hspace]
      rfl
    · rw [if_neg hspace, hnext c, hashed, hashed, List.map_cons, if_neg hspace]
      rfl

theorem hashed_append (s t : Text) : hashed (s ++ t) = hashed s ++ hashed t := List.map_append

theorem zero_notMem_hashed (hs : 0 ∉ s) : 0 ∉ hashed s := by
  intro hmem
  obtain ⟨c, hc, hzero⟩ := List.mem_map.mp hmem
  split at hzero
  · cases hzero
  · exact hs (hzero ▸ hc)

/-- Neither a space nor `#` has a code, and no code has one of them. -/
theorem hashed_encode (s : Text) : hashed (encode s) = encode (hashed s) := by
  induction s with
  | nil => rfl
  | cons c s ih =>
    have hchar : hashed (encodeChar c) = encodeChar (if c = 32 then 35 else c) := by
      rcases findCode_cases c with ⟨e, he, rfl, -⟩ | ⟨-, hnone⟩
      · have hall : ∀ e ∈ encodings, hashed (encodeChar e.1) =
            encodeChar (if e.1 = 32 then 35 else e.1) := by decide
        exact hall e he
      · by_cases hspace : c = 32
        · subst hspace
          decide
        · rw [if_neg hspace, encodeChar_of_none hnone]
          exact congrArg (· :: []) (if_neg hspace)
    rw [encode_cons, hashed_append, ih, hchar]
    exact (encode_cons _ _).symm

/-- A text with codes has no slash. -/
theorem slash_notMem_encode (s : Text) : 47 ∉ encode s := by
  intro hmem
  obtain ⟨front, rest, hsplit⟩ := List.append_of_mem hmem
  exact (wellEncoded_encode s 47 rest (hsplit ▸ List.suffix_append front _)).1 (by decide)

/-- What is known of the serial number that is printed. -/
theorem chipsetsn_spec {device : AgentDevice} (h : device.chipsetsn = some s) :
    0 ∉ s ∧ s.length ≤ 15 := by
  unfold AgentDevice.chipsetsn at h
  split at h
  · cases h
    decide
  · next content _ =>
    have hread : 0 ∉ serialNoRead content 16 defVal ∧
        (serialNoRead content 16 defVal).length ≤ 15 := by
      unfold serialNoRead
      split
      · decide
      · exact ⟨zero_notMem_untilNul _,
          ((List.takeWhile_prefix _).length_le).trans (List.length_take_le 15 content)⟩
    dsimp only at h
    split at h
    · cases h
    · cases h
      have hbegin := List.rdropWhile_prefix isSpace (serialNoRead content 16 defVal)
      exact ⟨fun hmem => hread.1 (hbegin.subset hmem), hbegin.length_le.trans hread.2⟩

variable {parts : Parts Text} {izatDevId : UInt32} {chipsetsn : Text}

/-- A fact about each part. -/
def Parts.All {α : Type} (P : α → Prop) (parts : Parts α) : Prop :=
  P parts.release ∧ P parts.manufacture ∧ P parts.model ∧ P parts.board ∧ P parts.brand

theorem zero_notMem_numeral (n : ℕ) : 0 ∉ numeral 10 n := fun hmem =>
  absurd ((numeral_spec 10 (by decide) (by decide) n).1 0 hmem) (by decide)

theorem length_format_le (hparts : parts.All fun s => s.length ≤ 91) (h : chipsetsn.length ≤ 15) :
    (format parts izatDevId chipsetsn).length ≤ 506 := by
  obtain ⟨hrelease, hmanufacture, hmodel, hboard, hbrand⟩ := hparts
  have hid : (numeral 10 izatDevId.toNat).length ≤ 10 :=
    length_numeral_le (by decide) (by decide) (izatDevId.toNat_lt.trans (by decide))
  have htext : (text "A/").length = 2 ∧ (text "/").length = 1 ∧ (text "/-/QCX3/s").length = 9 ∧
      (text "/-/").length = 3 ∧ (text "/-/-/-").length = 6 := by decide
  simp only [format, List.length_append]
  omega

theorem zero_notMem_format (hparts : parts.All fun s => 0 ∉ s) (h : 0 ∉ chipsetsn) :
    0 ∉ format parts izatDevId chipsetsn := by
  obtain ⟨hrelease, hmanufacture, hmodel, hboard, hbrand⟩ := hparts
  have hid := zero_notMem_numeral izatDevId.toNat
  have htext : 0 ∉ text "A/" ∧ 0 ∉ text "/" ∧ 0 ∉ text "/-/QCX3/s" ∧ 0 ∉ text "/-/" ∧
      0 ∉ text "/-/-/-" := by decide
  simp only [format, List.mem_append]
  tauto

/-- The parts of a device. -/
theorem AgentDevice.all_encode {P : Text → Prop} (device : AgentDevice)
    (h : ∀ p : Property, P (encode p.kept)) :
    (device.properties.map fun p => encode p.kept).All P :=
  ⟨h _, h _, h _, h _, h _⟩

theorem length_userAgentOf_le {device : AgentDevice} (h : device.chipsetsn = some chipsetsn) :
    (userAgentOf device chipsetsn).length ≤ 506 := by
  rw [userAgentOf, hashed, List.length_map]
  exact length_format_le (device.all_encode Property.length_encode_le) (chipsetsn_spec h).2

theorem zero_notMem_userAgentOf {device : AgentDevice} (h : device.chipsetsn = some chipsetsn) :
    0 ∉ userAgentOf device chipsetsn :=
  zero_notMem_hashed
    (zero_notMem_format (device.all_encode Property.zero_notMem_encode) (chipsetsn_spec h).1)

/-- **The text is whole**, unless the serial number cannot be trimmed. -/
theorem userAgent_eq (stack : Stack) (device : AgentDevice) :
    (device.chipsetsn = none ∧ userAgent stack device = .error ⟨sizeMax⟩) ∨
    ∃ chipsetsn rest, device.chipsetsn = some chipsetsn ∧
      userAgent stack device = .ok (userAgentOf device chipsetsn ++ 0 :: rest) := by
  rcases getChipsetSerialNo_eq stack.chipsetsn device with ⟨hnone, herror⟩ | ⟨buf, hsome, hget⟩
  · refine .inl ⟨hnone, ?_⟩
    rw [userAgent, herror]
    rfl
  obtain ⟨release, hrelease, hrelease'⟩ := encodedProperty_eq stack.properties.release
    stack.buffers.release device.properties.release
  obtain ⟨manufacture, hmanufacture, hmanufacture'⟩ := encodedProperty_eq
    stack.properties.manufacture stack.buffers.manufacture device.properties.manufacture
  obtain ⟨model, hmodel, hmodel'⟩ := encodedProperty_eq stack.properties.model
    stack.buffers.model device.properties.model
  obtain ⟨board, hboard, hboard'⟩ := encodedProperty_eq stack.properties.board
    stack.buffers.board device.properties.board
  obtain ⟨brand, hbrand, hbrand'⟩ := encodedProperty_eq stack.properties.brand
    stack.buffers.brand device.properties.brand
  have hparts : Parts.map untilNul ⟨release, manufacture, model, board, brand⟩ =
      device.properties.map fun p => encode p.kept := by
    rw [Parts.map, Parts.map, hrelease', hmanufacture', hmodel', hboard', hbrand']
  -- the text has room in the array
  generalize hprinted : format (device.properties.map fun p => encode p.kept)
    device.izatDevId.toUInt32 (untilNul buf) = printed
  have hlen : printed.length ≤ 506 := hprinted ▸
    length_format_le (device.all_encode Property.length_encode_le) (chipsetsn_spec hsome).2
  have hzero : 0 ∉ printed := hprinted ▸
    zero_notMem_format (device.all_encode Property.zero_notMem_encode) (chipsetsn_spec hsome).1
  obtain ⟨rest, hprint, -⟩ :=
    snprintf_zero (length_uninitialised (511 + 1) stack.userAgent) printed
  rw [List.take_of_length_le (hlen.trans (by decide))] at hprint
  have hhash : hashSpaces 512 0 ([] ++ (printed ++ 0 :: rest)) =
      .ok ([] ++ (hashed printed ++ 0 :: rest)) :=
    hashSpaces_append printed hzero rfl (Nat.lt_of_le_of_lt hlen (by decide))
  rw [List.nil_append, List.nil_append] at hhash
  refine .inr ⟨untilNul buf, rest, hsome, ?_⟩
  rw [userAgent, hget, ok_bind]
  dsimp only
  rw [hrelease, ok_bind, hmanufacture, ok_bind, hmodel, ok_bind, hboard, ok_bind, hbrand, ok_bind,
    hparts, hprinted, userAgentMaxLen, hprint, ok_bind, hhash, userAgentOf, hprinted]

/-! ### What is read -/

/-- The parts of the text in front of the serial number. -/
def frontFields (parts : Parts Text) (izatDevId : UInt32) : List Text :=
  [text "A", parts.release, parts.manufacture, parts.model, parts.board, text "-", text "QCX3",
    115 :: numeral 10 izatDevId.toNat, text "-"]

/-- The parts of the text behind the serial number. -/
def backFields (parts : Parts Text) : List Text :=
  [text "-", parts.brand, text "-", text "-", text "-"]

/-- The format puts slashes between the parts. -/
theorem format_eq_joined (parts : Parts Text) (izatDevId : UInt32) (chipsetsn : Text) :
    format parts izatDevId chipsetsn =
      joined 47 (frontFields parts izatDevId) ++ 47 :: (chipsetsn ++
        47 :: joined 47 (backFields parts)) := by
  have htext : text "A/" = text "A" ++ [47] ∧ text "/" = [47] ∧
      text "/-/QCX3/s" = 47 :: text "-" ++ 47 :: text "QCX3" ++ [47, 115] ∧
      text "/-/" = 47 :: text "-" ++ [47] ∧
      text "/-/-/-" = 47 :: text "-" ++ 47 :: text "-" ++ 47 :: text "-" := by decide
  simp [format, htext, frontFields, backFields, joined_cons]

/-- **The parts are found again**, and between them the pieces of the serial number. -/
theorem splitOn_format (hparts : parts.All fun s => 47 ∉ s) :
    (format parts izatDevId chipsetsn).splitOn 47 =
      frontFields parts izatDevId ++ (chipsetsn.splitOn 47 ++ backFields parts) := by
  obtain ⟨hrelease, hmanufacture, hmodel, hboard, hbrand⟩ := hparts
  have hid : 47 ∉ numeral 10 izatDevId.toNat := fun hmem =>
    absurd ((numeral_spec 10 (by decide) (by decide) _).1 47 hmem) (by decide)
  have hfront : ∀ field ∈ frontFields parts izatDevId, 47 ∉ field := by
    have htext : 47 ∉ text "A" ∧ 47 ∉ text "-" ∧ 47 ∉ text "QCX3" := by decide
    simp [frontFields, htext, hrelease, hmanufacture, hmodel, hboard, hid]
  have hback : ∀ field ∈ backFields parts, 47 ∉ field := by
    have htext : 47 ∉ text "-" := by decide
    simp [backFields, htext, hbrand]
  have hfront' : (joined 47 (frontFields parts izatDevId)).splitOn 47 = _ :=
    List.splitOn_intercalate 47 hfront (List.cons_ne_nil _ _)
  have hback' : (joined 47 (backFields parts)).splitOn 47 = _ :=
    List.splitOn_intercalate 47 hback (List.cons_ne_nil _ _)
  rw [format_eq_joined, List.splitOn_append_cons_self, List.splitOn_append_cons_self, hfront',
    hback']

/-- The format can be read. -/
theorem readUserAgent_format (hparts : parts.All fun s => 47 ∉ s) :
    readUserAgent (format parts izatDevId chipsetsn) =
      some ⟨parts.map decode, chipsetsn, izatDevId.toInt32⟩ := by
  have hserial : joined 47 (chipsetsn.splitOn 47) = chipsetsn := List.intercalate_splitOn 47
  have hid : number 10 ((115 :: numeral 10 izatDevId.toNat).drop 1) = izatDevId.toNat :=
    (numeral_spec 10 (by decide) (by decide) _).2
  have hrest : (chipsetsn.splitOn 47 ++ backFields parts).reverse =
      text "-" :: text "-" :: text "-" :: parts.brand :: text "-" ::
        (chipsetsn.splitOn 47).reverse := by
    rw [List.reverse_append]
    rfl
  rw [readUserAgent, splitOn_format hparts]
  simp only [frontFields, List.cons_append, List.nil_append, hrest, hid, List.reverse_reverse,
    hserial, UInt32.ofNat_toNat]

/-- Spaces are replaced in the parts. -/
theorem hashed_format (parts : Parts Text) (izatDevId : UInt32) (chipsetsn : Text) :
    hashed (format parts izatDevId chipsetsn) =
      format (parts.map hashed) izatDevId (hashed chipsetsn) := by
  have hid : hashed (numeral 10 izatDevId.toNat) = numeral 10 izatDevId.toNat := by
    refine (List.map_congr_left fun c hc => if_neg fun hspace => ?_).trans (List.map_id _)
    have hdigit := (numeral_spec 10 (by decide) (by decide) _).1 c hc
    rw [hspace] at hdigit
    exact absurd hdigit (by decide)
  have htext : hashed (text "A/") = text "A/" ∧ hashed (text "/") = text "/" ∧
      hashed (text "/-/QCX3/s") = text "/-/QCX3/s" ∧ hashed (text "/-/") = text "/-/" ∧
      hashed (text "/-/-/-") = text "/-/-/-" := by decide
  simp only [format, hashed_append, hid, htext]
  rfl

/-- **A reader finds what the device reported.** -/
theorem readUserAgent_userAgentOf (device : AgentDevice) (chipsetsn : Text) :
    readUserAgent (userAgentOf device chipsetsn) = some (device.reported chipsetsn) := by
  have hparts : ((device.properties.map fun p => encode p.kept).map hashed) =
      device.properties.map fun p => encode (hashed p.kept) := by
    simp only [Parts.map, hashed_encode]
  have hslash : (device.properties.map fun p => encode (hashed p.kept)).All fun s => 47 ∉ s :=
    ⟨slash_notMem_encode _, slash_notMem_encode _, slash_notMem_encode _, slash_notMem_encode _,
      slash_notMem_encode _⟩
  rw [userAgentOf, hashed_format, hparts, readUserAgent_format hslash]
  simp only [Parts.map, decode_encode, AgentDevice.reported, Int32.toInt32_toUInt32]

/-! ### What is kept -/

/-- What becomes of the file that `proc` writes. -/
theorem useragent_saveUserAgentString (outcome : SaveOutcome) (data : Text) (folder : XtraFolder) :
    (saveUserAgentString outcome data folder).useragent = folder.useragent ∨
      (saveUserAgentString outcome data folder).useragent = some (data.take outcome.written) := by
  have hwrite : ∀ folder' : XtraFolder, folder'.useragent = folder.useragent →
      (writeUserAgent outcome data folder').useragent = folder.useragent ∨
        (writeUserAgent outcome data folder').useragent = some (data.take outcome.written) := by
    intro folder' hsame
    unfold writeUserAgent
    split
    · exact .inl hsame
    · exact .inr rfl
  unfold saveUserAgentString
  split_ifs
  · exact .inl rfl
  · exact .inl rfl
  · exact hwrite folder rfl
  · exact .inl rfl
  · exact hwrite _ rfl

/-- Where nothing fails the file is the text. -/
theorem useragent_of_good {outcome : SaveOutcome} {data : Text} (folder : XtraFolder)
    (hdata : data ≠ []) (h : outcome.Good data.length) :
    (saveUserAgentString outcome data folder).useragent = some data := by
  obtain ⟨hstat, hmkdir, hfopen, hwritten⟩ := h
  have hlen : ¬ data.length < 1 := Nat.not_lt.mpr (List.length_pos_of_ne_nil hdata)
  have hwrite : ∀ folder', (writeUserAgent outcome data folder').useragent = some data := by
    intro folder'
    rw [writeUserAgent, if_neg (by rw [hfopen]; exact Bool.false_ne_true)]
    exact congrArg some (List.take_of_length_le hwritten)
  rw [saveUserAgentString, if_neg hlen, hstat, hmkdir]
  cases folder.isThere with
  | true => exact hwrite folder
  | false => exact hwrite _

/-- **What the XTRA client finds.**  The loop that trims the serial number leaves its array, or the
file is as it was, or has as much of the text as was written; if nothing fails, the client reads in
it what the device reported. -/
theorem proc_reported (stack : Stack) (device : AgentDevice) (outcome : SaveOutcome)
    (folder : XtraFolder) :
    (device.chipsetsn = none ∧ proc stack device outcome folder = .error ⟨sizeMax⟩) ∨
    ∃ chipsetsn agent folder', device.chipsetsn = some chipsetsn ∧
      proc stack device outcome folder = .ok folder' ∧
      agent.length < userAgentMaxLen - 1 ∧ readUserAgent agent = some (device.reported chipsetsn) ∧
      (folder'.useragent = folder.useragent ∨
        folder'.useragent = some (agent.take outcome.written)) ∧
      (outcome.Good agent.length → folder'.useragent = some agent) := by
  rcases userAgent_eq stack device with ⟨hnone, herror⟩ | ⟨chipsetsn, rest, hsome, heq⟩
  · refine .inl ⟨hnone, ?_⟩
    rw [proc, herror]
    rfl
  have hlen := length_userAgentOf_le hsome
  have hread := readUserAgent_userAgentOf device chipsetsn
  have hne : userAgentOf device chipsetsn ≠ [] := by
    intro hnil
    rw [hnil] at hread
    cases hread
  refine .inr ⟨chipsetsn, _, saveUserAgentString outcome (userAgentOf device chipsetsn) folder,
    hsome, ?_, Nat.lt_of_le_of_lt hlen (by decide), hread,
    useragent_saveUserAgentString outcome _ folder, useragent_of_good folder hne⟩
  rw [proc, heq, ok_bind, strlen_append (zero_notMem_userAgentOf hsome), ok_bind,
    List.take_left]
  rfl

end Eng
end Nx507j
