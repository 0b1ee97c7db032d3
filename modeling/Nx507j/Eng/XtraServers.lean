import Nx507j.Eng.GpsConf
import Nx507j.Lib.Buffer

/-!
# The XTRA servers

The modem reports three URLs of XTRA servers.  `LocEngReportXtraServer` of `loc_eng.cpp` puts those
of `gps.conf` in their places, leaves out the ones of a server that is not used any more, and packs
the others into an array with three places, from the first one on; the callback gets the three
places.  A carrier's update has its text parsed over `gps_conf`, and puts the URLs back.  A call is a
step here: the modem's thread puts no report together while an update is under way.

## Main definitions

* `strcasestr` — the search that does not look at the case.
* `newServers`, `XtraModule.proc` — the constructor of the message, and its `proc`.
* `forwarded` — the URLs that are left, cut off where a place ends.
* `XtraModule.step` — reports, updates of the carrier, and messages.

## Main results

* `newServers_eq` — what is in the array.
* `XtraModule.servers_exec` — what the callback gets, in any run.
-/

namespace Nx507j
namespace Eng

open Buffer CText Run

/-! ### The search -/

/-- `strcasestr`. -/
def strcasestr (needle : Text) : Text → Option Text
  | [] => if needle = [] then some [] else none
  | c :: s =>
    if needle.map CText.toLower <+: (c :: s).map CText.toLower then some (c :: s)
    else strcasestr needle s

theorem strcasestr_eq_none_iff {needle s : Text} :
    strcasestr needle s = none ↔ ¬ needle.map CText.toLower <:+: s.map CText.toLower := by
  induction s with
  | nil =>
    rw [strcasestr, List.map_nil, List.infix_nil, List.map_eq_nil_iff]
    split
    · next hnil => simp [hnil]
    · next hne => simp [hne]
  | cons c s ih =>
    rw [strcasestr, List.map_cons, List.infix_cons_iff, not_or]
    split
    · next hbegin => exact iff_of_false (Option.some_ne_none _) fun h => h.1 hbegin
    · next hbegin =>
      rw [ih]
      exact (and_iff_right hbegin).symm

/-! ### The message -/

/-- `XTRA1_GPSONEXTRA`. -/
def xtra1Gpsonextra : Text := text "xtra1.gpsonextra.net"

/-- Three URLs, each in an array that a NUL ends. -/
structure XtraUrls where
  url1 : List UInt8
  url2 : List UInt8
  url3 : List UInt8
  deriving DecidableEq, Repr

/-- A URL of the modem, unless there is one in `gps.conf`. -/
def override (conf url : List UInt8) : Text :=
  if untilNul conf ≠ [] then untilNul conf else untilNul url

/-- A URL is copied to its place, unless it is left out. -/
def copyServer (maxLen : ℕ) (url : Text) (mServers : List UInt8) (cptr : ℕ) :
    Except Outside (List UInt8 × ℕ) :=
  if strcasestr xtra1Gpsonextra url = none then do
    return (← snprintf mServers cptr (maxLen + 1) url, cptr + (maxLen + 1))
  else .ok (mServers, cptr)

/-- `LocEngReportXtraServer::LocEngReportXtraServer`: the array `mServers`. -/
def newServers (conf : LocGpsCfg) (urls : XtraUrls) (maxLen : ℕ) : Except Outside (List UInt8) := do
  let mServers := List.replicate (3 * (maxLen + 1)) 0
  let (mServers, cptr) ← copyServer maxLen (override conf.xtraServer1 urls.url1) mServers 0
  let (mServers, cptr) ← copyServer maxLen (override conf.xtraServer2 urls.url2) mServers cptr
  let (mServers, _) ← copyServer maxLen (override conf.xtraServer3 urls.url3) mServers cptr
  return mServers

/-- The three texts that the callback gets. -/
def servers (mServers : List UInt8) (maxLen : ℕ) : List Text :=
  [untilNul mServers, untilNul (mServers.drop (maxLen + 1)),
    untilNul (mServers.drop ((maxLen + 1) <<< 1))]

/-! ### What is in the array -/

/-- The server that is not used any more. -/
def IsXtra1 (url : Text) : Prop := xtra1Gpsonextra.map CText.toLower <:+: url.map CText.toLower

instance (url : Text) : Decidable (IsXtra1 url) := inferInstanceAs (Decidable (_ <:+: _))

/-- What is left of some URLs, each cut off where a place ends. -/
def left (maxLen : ℕ) (urls : List Text) : List Text :=
  (urls.filter fun url => ¬ IsXtra1 url).map (List.take maxLen)

/-- The URLs that are forwarded. -/
def forwarded (conf : LocGpsCfg) (urls : XtraUrls) (maxLen : ℕ) : List Text :=
  left maxLen [override conf.xtraServer1 urls.url1, override conf.xtraServer2 urls.url2,
    override conf.xtraServer3 urls.url3]

/-- A place with a text in it. -/
def serverPlace (maxLen : ℕ) (s : Text) : List UInt8 :=
  s ++ List.replicate (maxLen + 1 - s.length) 0

/-- Places with texts, and others that are free. -/
def places (maxLen : ℕ) (texts : List Text) (free : ℕ) : List UInt8 :=
  texts.flatMap (serverPlace maxLen) ++ List.replicate (free * (maxLen + 1)) 0

variable {maxLen free : ℕ} {texts : List Text} {s url : Text}

/-- A text has room in a place. -/
def Fits (maxLen : ℕ) (s : Text) : Prop := s.length ≤ maxLen ∧ 0 ∉ s

theorem zero_notMem_override (conf url : List UInt8) : 0 ∉ override conf url := by
  unfold override
  split
  · exact zero_notMem_untilNul conf
  · exact zero_notMem_untilNul url

theorem fits_take (maxLen : ℕ) (h : 0 ∉ url) : Fits maxLen (url.take maxLen) :=
  ⟨List.length_take_le maxLen url, fun hmem => h (List.mem_of_mem_take hmem)⟩

theorem length_place (h : Fits maxLen s) : (serverPlace maxLen s).length = maxLen + 1 := by
  have hle := h.1
  rw [serverPlace, List.length_append, List.length_replicate]
  omega

theorem length_flatMap_place (h : ∀ s ∈ texts, Fits maxLen s) :
    (texts.flatMap (serverPlace maxLen)).length = texts.length * (maxLen + 1) := by
  induction texts with
  | nil => exact (Nat.zero_mul _).symm
  | cons s texts ih =>
    rw [List.flatMap_cons, List.length_append, length_place (h s List.mem_cons_self),
      ih fun t ht => h t (List.mem_cons_of_mem s ht), List.length_cons, Nat.succ_mul, Nat.add_comm]

/-- A text is copied to the first place that is free. -/
theorem snprintf_places (h : ∀ s ∈ texts, Fits maxLen s) (url : Text) :
    snprintf (places maxLen texts (free + 1)) (texts.length * (maxLen + 1)) (maxLen + 1) url =
      .ok (places maxLen (texts ++ [url.take maxLen]) free) := by
  have hle : (url.take maxLen).length ≤ maxLen := List.length_take_le maxLen url
  have hzeros : List.replicate ((free + 1) * (maxLen + 1)) (0 : UInt8) =
      List.replicate ((url.take maxLen).length + 1) 0 ++
        List.replicate ((free + 1) * (maxLen + 1) - ((url.take maxLen).length + 1)) 0 := by
    rw [List.replicate_append_replicate, Nat.add_sub_cancel']
    rw [Nat.succ_mul]
    omega
  have hplace : 0 :: List.replicate
      ((free + 1) * (maxLen + 1) - ((url.take maxLen).length + 1)) (0 : UInt8) =
      List.replicate (maxLen + 1 - (url.take maxLen).length) 0 ++
        List.replicate (free * (maxLen + 1)) 0 := by
    rw [List.replicate_append_replicate, ← List.replicate_succ]
    congr 1
    rw [Nat.succ_mul]
    omega
  rw [places, hzeros, snprintf_append _ (length_flatMap_place h).symm List.length_replicate, hplace,
    places, List.flatMap_append, List.flatMap_singleton, serverPlace, List.append_assoc,
    List.append_assoc]

theorem left_cons (maxLen : ℕ) (url : Text) (urls : List Text) :
    left maxLen (url :: urls) = left maxLen [url] ++ left maxLen urls := by
  rw [left, left, left, ← List.map_append, ← List.filter_append]
  rfl

theorem length_left_le (maxLen : ℕ) (urls : List Text) :
    (left maxLen urls).length ≤ urls.length := by
  rw [left, List.length_map]
  exact List.length_filter_le _ _

theorem fits_left {urls : List Text} (h : ∀ url ∈ urls, 0 ∉ url) :
    ∀ s ∈ left maxLen urls, Fits maxLen s := by
  intro s hs
  obtain ⟨url, hurl, rfl⟩ := List.mem_map.mp hs
  exact fits_take maxLen (h url (List.mem_of_mem_filter hurl))

/-- What `copyServer` does with places, of which there are enough. -/
theorem copyServer_places (texts : List Text) (free : ℕ) (h : ∀ s ∈ texts, Fits maxLen s)
    (hfree : 0 < free) (url : Text) :
    copyServer maxLen url (places maxLen texts free) (texts.length * (maxLen + 1)) =
      .ok (places maxLen (texts ++ left maxLen [url]) (free - (left maxLen [url]).length),
        (texts ++ left maxLen [url]).length * (maxLen + 1)) := by
  obtain ⟨free, rfl⟩ := Nat.exists_eq_add_one_of_ne_zero (Nat.ne_of_gt hfree)
  unfold copyServer
  by_cases hurl : IsXtra1 url
  · have hleft : left maxLen [url] = [] := by simp [left, hurl]
    rw [if_neg fun hnone => strcasestr_eq_none_iff.mp hnone hurl, hleft, List.append_nil]
    rfl
  · have hleft : left maxLen [url] = [url.take maxLen] := by simp [left, hurl]
    rw [if_pos (strcasestr_eq_none_iff.mpr hurl), snprintf_places h, ok_bind, hleft,
      List.length_append, List.length_singleton, Nat.succ_mul]
    rfl

/-- **What is in the array**: the URLs that are forwarded, from the first place on. -/
theorem newServers_eq (conf : LocGpsCfg) (urls : XtraUrls) (maxLen : ℕ) :
    newServers conf urls maxLen = .ok (places maxLen (forwarded conf urls maxLen)
      (3 - (forwarded conf urls maxLen).length)) := by
  obtain ⟨url1, hurl1⟩ : ∃ url, url = override conf.xtraServer1 urls.url1 := ⟨_, rfl⟩
  obtain ⟨url2, hurl2⟩ : ∃ url, url = override conf.xtraServer2 urls.url2 := ⟨_, rfl⟩
  obtain ⟨url3, hurl3⟩ : ∃ url, url = override conf.xtraServer3 urls.url3 := ⟨_, rfl⟩
  have hnul1 : 0 ∉ url1 := hurl1 ▸ zero_notMem_override _ _
  have hnul2 : 0 ∉ url2 := hurl2 ▸ zero_notMem_override _ _
  have hlen1 := length_left_le maxLen [url1]
  have hlen2 := length_left_le maxLen [url2]
  rw [List.length_singleton] at hlen1 hlen2
  have hfits1 : ∀ s ∈ left maxLen [url1], Fits maxLen s := fits_left (by simpa using hnul1)
  have hfits2 : ∀ s ∈ left maxLen [url1] ++ left maxLen [url2], Fits maxLen s := by
    intro s hs
    rcases List.mem_append.mp hs with hs | hs
    · exact hfits1 s hs
    · exact fits_left (by simpa using hnul2) s hs
  have hfits0 : ∀ s ∈ ([] : List Text), Fits maxLen s := fun _ hs => (List.not_mem_nil hs).elim
  have hone := copyServer_places [] 3 hfits0 (by decide) url1
  have htwo := copyServer_places _ (3 - (left maxLen [url1]).length) hfits1 (by omega) url2
  have hthree := copyServer_places _
    (3 - (left maxLen [url1]).length - (left maxLen [url2]).length) hfits2 (by omega) url3
  have hstart : places maxLen [] 3 = List.replicate (3 * (maxLen + 1)) 0 := List.nil_append _
  rw [hstart, List.length_nil, Nat.zero_mul, List.nil_append] at hone
  have hall : forwarded conf urls maxLen =
      left maxLen [url1] ++ left maxLen [url2] ++ left maxLen [url3] := by
    rw [forwarded, ← hurl1, ← hurl2, ← hurl3, left_cons, left_cons maxLen url2, List.append_assoc]
  rw [newServers, ← hurl1, ← hurl2, ← hurl3, hone, ok_bind]
  dsimp only
  rw [htwo, ok_bind]
  dsimp only
  rw [hthree, ok_bind, hall]
  dsimp only
  rw [List.length_append, List.length_append, Nat.sub_sub, Nat.sub_sub, Nat.add_assoc]
  rfl

/-- What the callback reads in a place. -/
theorem untilNul_drop_places (free : ℕ) :
    ∀ (texts : List Text) (i : ℕ), (∀ s ∈ texts, Fits maxLen s) →
      untilNul ((places maxLen texts free).drop (i * (maxLen + 1))) = texts[i]?.getD [] := by
  have hzeros : ∀ n : ℕ, untilNul (List.replicate n 0) = [] := by
    intro n
    cases n <;> rfl
  intro texts
  induction texts with
  | nil =>
    intro i _
    rw [places, List.flatMap_nil, List.nil_append, List.drop_replicate, hzeros]
    rfl
  | cons s texts ih =>
    intro i h
    have hs := h s List.mem_cons_self
    have hsplit : places maxLen (s :: texts) free =
        serverPlace maxLen s ++ places maxLen texts free := by
      rw [places, List.flatMap_cons, List.append_assoc]
      rfl
    rw [hsplit]
    cases i with
    | zero =>
      obtain ⟨n, hn⟩ : ∃ n, maxLen + 1 - s.length = n + 1 := by
        have hle := hs.1
        exact ⟨maxLen - s.length, by omega⟩
      rw [Nat.zero_mul, List.drop_zero, serverPlace, hn, List.replicate_succ, List.append_assoc,
        List.cons_append, untilNul_append hs.2]
      rfl
    | succ i =>
      have hlen : (serverPlace maxLen s).length = maxLen + 1 := length_place hs
      rw [Nat.succ_mul, Nat.add_comm, ← List.drop_drop, ← hlen, List.drop_left, hlen,
        ih i fun t ht => h t (List.mem_cons_of_mem s ht)]
      rfl

/-- What the callback gets: the URLs that are forwarded, and empty ones. -/
def padded (urls : List Text) : List Text :=
  [urls[0]?.getD [], urls[1]?.getD [], urls[2]?.getD []]

/-- **The callback gets the URLs that are forwarded**, and empty ones behind them. -/
theorem servers_places (h : ∀ s ∈ texts, Fits maxLen s) (free : ℕ) :
    servers (places maxLen texts free) maxLen = padded texts := by
  have hzero := untilNul_drop_places free texts 0 h
  have hone := untilNul_drop_places free texts 1 h
  have htwo := untilNul_drop_places free texts 2 h
  rw [Nat.zero_mul, List.drop_zero] at hzero
  rw [Nat.one_mul] at hone
  rw [servers, Nat.shiftLeft_eq, Nat.pow_one, Nat.mul_comm, hzero, hone, htwo]
  rfl

/-! ### Runs -/

/-- `gps_conf` with the updates of the carrier, and what there is for XTRA: whether the adapter
handles requests of the modem, whether there is a callback, the messages that wait with their
`mMaxLen`, and the calls of the callback, oldest first. -/
structure XtraModule where
  carrier : CarrierUpdate
  mSupportsAgpsRequests : Bool
  reportXtraServerCb : Bool := false
  queue : List (List UInt8 × ℕ) := []
  log : List (List Text) := []

namespace XtraModule

/-- Before the first report, with a callback or without one. -/
def init (conf : LocGpsCfg) (supports cb : Bool) : XtraModule where
  carrier := { gpsConf := conf, adapter := true }
  mSupportsAgpsRequests := supports
  reportXtraServerCb := cb

/-- What can happen. -/
inductive Input
  | carrier (input : CarrierUpdate.Input)
  /-- `loc_eng_xtra_init`, with callbacks or without them. -/
  | xtraInit (callbacks : Option Bool)
  /-- `LocEngAdapter::reportXtraServer`. -/
  | reportXtraServer (urls : XtraUrls) (maxLength : ℕ)
  | process
  deriving DecidableEq, Repr

/-- `LocEngReportXtraServer::proc`. -/
def proc (s : XtraModule) (mServers : List UInt8) (mMaxLen : ℕ) : XtraModule :=
  if s.reportXtraServerCb then { s with log := s.log ++ [servers mServers mMaxLen] } else s

/-- One step, which an update of the carrier or the making of a report is as a whole; a constructor
that leaves its array makes no message. -/
def step (s : XtraModule) : Input → XtraModule
  | .carrier input => { s with carrier := s.carrier.step input }
  | .xtraInit none => s
  | .xtraInit (some cb) => { s with reportXtraServerCb := cb }
  | .reportXtraServer urls maxLength =>
    if s.mSupportsAgpsRequests then
      match newServers s.carrier.gpsConf urls maxLength with
      | .ok mServers => { s with queue := s.queue ++ [(mServers, maxLength)] }
      | .error _ => s
    else s
  | .process =>
    match s.queue with
    | [] => s
    | (mServers, mMaxLen) :: queue => { s with queue := queue }.proc mServers mMaxLen

/-- The report of the modem. -/
def Input.report? : Input → Option (XtraUrls × ℕ)
  | .reportXtraServer urls maxLength => some (urls, maxLength)
  | _ => none

/-- The message of a report. -/
def message (conf : LocGpsCfg) (report : XtraUrls × ℕ) : List UInt8 × ℕ :=
  (places report.2 (forwarded conf report.1 report.2)
    (3 - (forwarded conf report.1 report.2).length), report.2)

/-- What the callback gets of a report. -/
def shown (conf : LocGpsCfg) (report : XtraUrls × ℕ) : List Text :=
  padded (forwarded conf report.1 report.2)

theorem fits_forwarded (conf : LocGpsCfg) (urls : XtraUrls) (maxLen : ℕ) :
    ∀ s ∈ forwarded conf urls maxLen, Fits maxLen s := by
  refine fits_left fun url hurl => ?_
  simp only [List.mem_cons, List.not_mem_nil, or_false] at hurl
  rcases hurl with rfl | rfl | rfl
  · exact zero_notMem_override _ _
  · exact zero_notMem_override _ _
  · exact zero_notMem_override _ _

/-- The URLs of two configurations are the same. -/
def SameServers (conf conf' : LocGpsCfg) : Prop :=
  conf'.xtraServer1 = conf.xtraServer1 ∧ conf'.xtraServer2 = conf.xtraServer2 ∧
    conf'.xtraServer3 = conf.xtraServer3

theorem SameServers.forwarded_eq {conf conf' : LocGpsCfg} (h : SameServers conf conf')
    (urls : XtraUrls) (maxLen : ℕ) : forwarded conf' urls maxLen = forwarded conf urls maxLen := by
  rw [forwarded, forwarded, h.1, h.2.1, h.2.2]

/-- What the reports so far have come to: some have been shown, and others wait; where the callback
stays, that is all of them. -/
structure Kept (conf : LocGpsCfg) (supports : Bool) (Stays : Prop) (reports : List (XtraUrls × ℕ))
    (s : XtraModule) : Prop where
  same : SameServers conf s.carrier.gpsConf
  supports_eq : s.mSupportsAgpsRequests = supports
  cb : Stays → s.reportXtraServerCb = true
  reports : ∃ done waiting, (done ++ waiting).Sublist reports ∧
    s.log = done.map (shown conf) ∧ s.queue = waiting.map (message conf) ∧
    (supports = false → done ++ waiting = []) ∧
    (supports = true → Stays → done ++ waiting = reports)

variable {conf : LocGpsCfg} {supports : Bool} {Stays : Prop} {reports : List (XtraUrls × ℕ)}
  {s : XtraModule}

/-- The updates of the carrier put the URLs back. -/
theorem SameServers.carrier (h : SameServers conf s.carrier.gpsConf) (input : CarrierUpdate.Input) :
    SameServers conf (s.carrier.step input).gpsConf := by
  cases input with
  | update configData length malloc =>
    have hsame := (CarrierUpdate.touches_only s.carrier configData length malloc).1
    exact ⟨hsame.xtraServer1.trans h.1, hsame.xtraServer2.trans h.2.1,
      hsame.xtraServer3.trans h.2.2⟩
  | process =>
    show SameServers conf s.carrier.process.gpsConf
    rw [CarrierUpdate.process_eq.1]
    exact h

/-- What waits is what the callback gets later. -/
theorem servers_message (conf : LocGpsCfg) (report : XtraUrls × ℕ) :
    servers (message conf report).1 (message conf report).2 = shown conf report :=
  servers_places (fits_forwarded conf report.1 report.2) _

theorem Kept.report (h : Kept conf supports Stays reports s) (urls : XtraUrls) (maxLength : ℕ) :
    Kept conf supports Stays (reports ++ [(urls, maxLength)])
      (s.step (.reportXtraServer urls maxLength)) := by
  obtain ⟨done, waiting, hsub, hlog, hqueue, hnone, hall⟩ := h.reports
  rw [step]
  split
  · next hsupports =>
    rw [newServers_eq, h.same.forwarded_eq]
    refine ⟨h.same, h.supports_eq, h.cb, done, waiting ++ [(urls, maxLength)], ?_, hlog, ?_, ?_, ?_⟩
    · rw [← List.append_assoc]
      exact hsub.append (List.Sublist.refl _)
    · rw [List.map_append, ← hqueue]
      rfl
    · rintro rfl
      rw [h.supports_eq] at hsupports
      cases hsupports
    · intro htrue hstays
      rw [← List.append_assoc, hall htrue hstays]
  · next hsupports =>
    refine ⟨h.same, h.supports_eq, h.cb, done, waiting, hsub.trans (List.sublist_append_left _ _),
      hlog, hqueue, hnone, fun htrue _ => ?_⟩
    exact absurd (h.supports_eq.trans htrue) hsupports

theorem Kept.process (h : Kept conf supports Stays reports s) :
    Kept conf supports Stays reports (s.step .process) := by
  obtain ⟨done, waiting, hsub, hlog, hqueue, hnone, hall⟩ := h.reports
  cases waiting with
  | nil =>
    have hstep : s.step .process = s := by
      rw [step, hqueue]
      rfl
    rw [hstep]
    exact h
  | cons report waiting =>
    have hstep : s.step .process = ({ s with queue := waiting.map (message conf) }).proc
        (message conf report).1 (message conf report).2 := by
      rw [step, hqueue]
      rfl
    have happend : done ++ report :: waiting = (done ++ [report]) ++ waiting := by
      rw [List.append_assoc, List.singleton_append]
    rw [hstep, proc]
    split
    · rw [happend] at hsub hnone hall
      refine ⟨h.same, h.supports_eq, h.cb, done ++ [report], waiting, hsub, ?_, rfl, hnone, hall⟩
      rw [List.map_append, ← hlog]
      exact congrArg (fun t => s.log ++ [t]) (servers_message conf report)
    · next hcb =>
      have hless : (done ++ waiting).Sublist (done ++ report :: waiting) :=
        (List.Sublist.refl done).append (List.sublist_cons_self report waiting)
      refine ⟨h.same, h.supports_eq, h.cb, done, waiting, hless.trans hsub, hlog, rfl,
        fun hfalse => ?_, fun _ hstays => absurd (h.cb hstays) hcb⟩
      exact absurd (hnone hfalse) (List.append_ne_nil_of_right_ne_nil _ (List.cons_ne_nil _ _))

/-- A callback comes, or goes. -/
theorem Kept.xtraInit (h : Kept conf supports Stays reports s) (callbacks : Option Bool)
    (hstays : Stays → callbacks ≠ some false) :
    Kept conf supports Stays reports (s.step (.xtraInit callbacks)) := by
  cases callbacks with
  | none => exact h
  | some cb =>
    refine ⟨h.same, h.supports_eq, fun hs => ?_, h.reports⟩
    have hne := hstays hs
    cases cb with
    | false => exact absurd rfl hne
    | true => rfl

theorem kept_exec (conf : LocGpsCfg) (supports cb : Bool) (Stays : Prop) (hcb : Stays → cb = true) :
    ∀ inputs : List Input, (Stays → .xtraInit (some false) ∉ inputs) →
      Kept conf supports Stays (inputs.filterMap Input.report?)
        (exec step (init conf supports cb) inputs) := by
  intro inputs
  induction inputs using List.reverseRecOn with
  | nil =>
    intro _
    exact ⟨⟨rfl, rfl, rfl⟩, rfl, hcb, [], [], List.Sublist.refl _, rfl, rfl, fun _ => rfl,
      fun _ _ => rfl⟩
  | append_singleton inputs i ih =>
    intro hstays
    have h := ih fun hs hmem => hstays hs (List.mem_append_left _ hmem)
    rw [exec_append, exec_cons, exec_nil, List.filterMap_append]
    cases i with
    | reportXtraServer urls maxLength => exact h.report urls maxLength
    | carrier input =>
      rw [List.filterMap_cons_none rfl, List.filterMap_nil, List.append_nil]
      exact ⟨h.same.carrier input, h.supports_eq, h.cb, h.reports⟩
    | xtraInit callbacks =>
      rw [List.filterMap_cons_none rfl, List.filterMap_nil, List.append_nil]
      refine h.xtraInit callbacks fun hs hfalse => ?_
      rw [hfalse] at hstays
      exact hstays hs (List.mem_append_right _ (List.mem_singleton_self _))
    | process =>
      rw [List.filterMap_cons_none rfl, List.filterMap_nil, List.append_nil]
      exact h.process

/-- **What the framework is told of the servers**, in any run: for some of the modem's reports, in
their order, the URLs of `gps.conf` as it was at first and the modem's in the places of those that
it has not, without the server that is not used any more, and empty ones behind them.  No update of
the carrier changes them, where it is one step.  Where there is a callback throughout, it gets each of the reports, or
will get it of the messages that wait. -/
theorem servers_exec (conf : LocGpsCfg) (supports cb : Bool) (inputs : List Input) :
    let s := exec step (init conf supports cb) inputs
    (∃ reports : List (XtraUrls × ℕ), reports.Sublist (inputs.filterMap Input.report?) ∧
      s.log = reports.map (shown conf)) ∧
    (supports = false → s.log = []) ∧
    (supports = true → cb = true → .xtraInit (some false) ∉ inputs →
      s.log ++ s.queue.map (fun m => servers m.1 m.2) =
        (inputs.filterMap Input.report?).map (shown conf)) := by
  obtain ⟨done, waiting, hsub, hlog, hqueue, hnone, hall⟩ :=
    (kept_exec conf supports cb (cb = true ∧ .xtraInit (some false) ∉ inputs)
      And.left inputs And.right).reports
  dsimp only
  refine ⟨⟨done, (List.sublist_append_left done waiting).trans hsub, hlog⟩, fun hfalse => ?_,
    fun hsupports hcb hstays => ?_⟩
  · rw [hlog, (List.append_eq_nil_iff.mp (hnone hfalse)).1]
    rfl
  · have hmap : (waiting.map (message conf)).map (fun m => servers m.1 m.2) =
        waiting.map (shown conf) := by
      rw [List.map_map]
      exact List.map_congr_left fun report _ => servers_message conf report
    rw [hlog, hqueue, hmap, ← List.map_append, hall hsupports ⟨hcb, hstays⟩]

end XtraModule
end Eng
end Nx507j
