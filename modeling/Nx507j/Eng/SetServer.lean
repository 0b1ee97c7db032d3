import Mathlib.Data.List.TakeWhile
import Nx507j.Agps.Subscriber
import Nx507j.Lib.Run

/-!
# The servers that are set

`loc_eng_set_server_proxy` keeps a server's address in the engine's data and, once there is an
adapter, has it passed to the modem.  `loc_eng_agps_init` passes what has been kept.  Both depend on
`loc_eng_init`, which clears the data that the addresses are kept in.

What `resolve_in_addr` finds is part of the input.

## Main definitions

* `ServerData` — the part of the engine's data that the addresses are in, with its queue.
* `ServerData.step` — the calls of the framework and the messages that are processed.
* `suplUrls`, `sinceInit` — the URLs that the framework has set, and the inputs from the
  initialisation on.

## Main results

* `ServerData.Open.step` — an engine that is open has passed what it keeps.
* `ServerData.lastUrl_delivered_iff` — when the URL set last is the one passed last.
-/

namespace Nx507j
namespace Eng

open Run
open Agps (CString)

/-- `LocServerType`. -/
inductive LocServerType
  | cdmaPde
  | customPde
  | mpc
  | supl
  deriving DecidableEq, Repr

/-- `MAX_URL_LEN`. -/
def maxUrlLen : ℕ := 256

/-- The size of `supl_host_buf` and `c2k_host_buf`. -/
def hostBufSize : ℕ := 101

/-- What `strlcpy` copies into a host's buffer. -/
def strlcpyHost (host : CString) : CString := host.take (hostBufSize - 1)

/-- A letter in lower case. -/
def toLower (b : UInt8) : UInt8 := if 65 ≤ b ∧ b ≤ 90 then b + 32 else b

/-- The host is "NONE", which stands for no server. -/
def isNoHost (host : CString) : Bool := host.map toLower = [110, 111, 110, 101]

/-- A number as `%u` prints it. -/
def decimal (n : UInt32) : CString := (Nat.toDigits 10 n.toNat).map (·.toUInt8)

/-- The URL that `loc_eng_set_server` makes of a SUPL server. -/
def suplUrl (host : CString) (port : Int32) : CString :=
  if isNoHost host then [] else host ++ 58 :: decimal port.toUInt32

/-- The bytes of an address in the other order. -/
def htonl (addr : UInt32) : UInt32 :=
  let mask : UInt32 := 0xFF00
  addr <<< 24 ||| (addr &&& mask) <<< 8 ||| addr >>> 8 &&& mask ||| addr >>> 24

/-- A call of the modem's `setServer`. -/
inductive ServerCall
  | url (url : CString)
  | ipv4 (ip : UInt32) (port : Int32) (type : LocServerType)
  deriving DecidableEq, Repr

/-- The URL of a call. -/
def ServerCall.url? : ServerCall → Option CString
  | .url str => some str
  | .ipv4 _ _ _ => none

/-- The messages to the engine's thread. -/
inductive ServerMsg
  | init
  | setServerUrl (url : CString)
  | setServerIpv4 (ip : UInt32) (port : Int32) (type : LocServerType)
  deriving DecidableEq, Repr

/-- The calls that the virtual `proc` makes. -/
def ServerMsg.proc : ServerMsg → List ServerCall
  | init => []
  | setServerUrl url => [.url url]
  | setServerIpv4 ip port type => [.ipv4 ip port type]

/-- The servers' part of `loc_eng_data_s_type`: whether there are an adapter and a status callback
of AGPS, the addresses that are kept, the messages of the adapter, and the calls that the modem has
got, oldest first. -/
structure ServerData where
  adapter : Bool := false
  agpsStatusCb : Bool := false
  suplHostSet : Bool := false
  suplHostBuf : CString := []
  suplPortBuf : Int32 := 0
  c2kHostSet : Bool := false
  c2kHostBuf : CString := []
  c2kPortBuf : Int32 := 0
  queue : List ServerMsg := []
  calls : List ServerCall := []
  deriving DecidableEq, Repr

namespace ServerData

/-- `sendMsg` of the adapter. -/
def sendMsg (s : ServerData) (msg : ServerMsg) : ServerData := { s with queue := s.queue ++ [msg] }

/-- `loc_eng_set_server`, with its result. -/
def locEngSetServer (s : ServerData) (type : LocServerType) (host : CString) (port : Int32)
    (resolved : Option UInt32) : ServerData × Int32 :=
  match type with
  | .supl =>
    if (suplUrl host port).length < maxUrlLen then
      (s.sendMsg (.setServerUrl (suplUrl host port)), 0)
    else (s, 0)
  | .cdmaPde | .customPde | .mpc =>
    match resolved with
    | none => (s, -2)
    | some addr => (s.sendMsg (.setServerIpv4 (htonl addr) port type), 0)

/-- The address is kept. -/
def keep (s : ServerData) (type : LocServerType) (host : CString) (port : Int32) : ServerData :=
  match type with
  | .supl => { s with suplHostSet := true, suplHostBuf := strlcpyHost host, suplPortBuf := port }
  | .cdmaPde => { s with c2kHostSet := true, c2kHostBuf := strlcpyHost host, c2kPortBuf := port }
  | .customPde | .mpc => s

/-- `loc_eng_set_server_proxy`, with its result. -/
def locEngSetServerProxy (s : ServerData) (type : LocServerType) (host : CString) (port : Int32)
    (resolved : Option UInt32) : ServerData × Int32 :=
  if s.adapter then (s.keep type host port).locEngSetServer type host port resolved
  else (s.keep type host port, 0)

/-- `loc_eng_init`, with its result; the callbacks may be missing.  The data is cleared, and the
adapter is a new one. -/
def locEngInit (s : ServerData) (callbacks : Bool) (event : UInt32) : ServerData × Int32 :=
  if !callbacks || event == 0 then (s, -1)
  else if s.adapter then (s, 0)
  else ({ adapter := true, queue := [.init], calls := s.calls }, 0)

/-- The SUPL server that is kept is set. -/
def setKeptSupl (s : ServerData) : ServerData :=
  if s.suplHostSet then (s.locEngSetServer .supl s.suplHostBuf s.suplPortBuf none).1 else s

/-- The CDMA server that is kept is set. -/
def setKeptC2k (s : ServerData) (resolved : Option UInt32) : ServerData :=
  if s.c2kHostSet then (s.locEngSetServer .cdmaPde s.c2kHostBuf s.c2kPortBuf resolved).1 else s

/-- `loc_eng_agps_reinit`. -/
def locEngAgpsReinit (s : ServerData) (resolved : Option UInt32) : ServerData :=
  s.setKeptSupl.setKeptC2k resolved

/-- `loc_eng_agps_init`; `ms` says that the configured capabilities have MSA or MSB, and the
callbacks may be missing or have no status callback. -/
def locEngAgpsInit (s : ServerData) (ms : Bool) (callbacks : Option Bool)
    (resolved : Option UInt32) : ServerData :=
  if !s.adapter || s.agpsStatusCb then s
  else
    match callbacks with
    | none => s
    | some statusCb =>
      if ms then { s with agpsStatusCb := statusCb }.locEngAgpsReinit resolved
      else { s with agpsStatusCb := statusCb }

/-- What can happen: the calls of the framework, and a message that is processed. -/
inductive Input
  | setServer (type : LocServerType) (host : CString) (port : Int32) (resolved : Option UInt32)
  | init (callbacks : Bool) (event : UInt32)
  | agpsInit (callbacks : Option Bool) (resolved : Option UInt32)
  | process
  deriving DecidableEq, Repr

/-- One message is processed. -/
def process (s : ServerData) : ServerData :=
  match s.queue with
  | [] => s
  | msg :: queue => { s with queue := queue, calls := s.calls ++ msg.proc }

/-- One step. -/
def step (ms : Bool) (s : ServerData) : Input → ServerData
  | .setServer type host port resolved => (s.locEngSetServerProxy type host port resolved).1
  | .init callbacks event => (s.locEngInit callbacks event).1
  | .agpsInit callbacks resolved => s.locEngAgpsInit ms callbacks resolved
  | .process => s.process

/-! ### What has been set and what has been passed -/

/-- The URL that a call of the framework sets. -/
def Input.suplUrl? : Input → Option CString
  | .setServer .supl host port _ => some (suplUrl host port)
  | _ => none

/-- The URLs that have been set, oldest first. -/
def suplUrls (inputs : List Input) : List CString := inputs.filterMap Input.suplUrl?

/-- A call of `loc_eng_init` with good parameters. -/
def Input.opens : Input → Bool
  | .init callbacks event => callbacks && event != 0
  | _ => false

/-- The inputs from the first initialisation with good parameters on. -/
def sinceInit (inputs : List Input) : List Input := inputs.dropWhile fun input => !input.opens

/-- The host fits in the buffer. -/
def Input.Fits : Input → Prop
  | .setServer _ host _ _ => host.length < hostBufSize
  | _ => True

instance : ∀ input : Input, Decidable input.Fits
  | .setServer _ host _ _ => inferInstanceAs (Decidable (host.length < hostBufSize))
  | .init _ _ => isTrue trivial
  | .agpsInit _ _ => isTrue trivial
  | .process => isTrue trivial

/-- The URLs that the modem has got. -/
def passedUrls (s : ServerData) : List CString := s.calls.filterMap ServerCall.url?

/-- The URLs that the modem has got or will get from the queue. -/
def urls (s : ServerData) : List CString :=
  (s.calls ++ s.queue.flatMap ServerMsg.proc).filterMap ServerCall.url?

/-- The URL of the address that is kept. -/
def kept (s : ServerData) : Option CString :=
  if s.suplHostSet then some (suplUrl s.suplHostBuf s.suplPortBuf) else none

/-! ### Messages -/

variable {s : ServerData}

theorem urls_sendMsg (msg : ServerMsg) :
    (s.sendMsg msg).urls = s.urls ++ msg.proc.filterMap ServerCall.url? := by
  show (s.calls ++ (s.queue ++ [msg]).flatMap ServerMsg.proc).filterMap _ = _
  rw [List.flatMap_append, ← List.append_assoc, List.filterMap_append, List.flatMap_singleton]
  rfl

/-- Processing only moves a call from the queue to the modem. -/
theorem urls_process : s.process.urls = s.urls := by
  unfold process
  split
  · rfl
  · next msg queue hqueue =>
    show ((s.calls ++ msg.proc) ++ queue.flatMap ServerMsg.proc).filterMap _ = _
    rw [urls, hqueue, List.flatMap_cons, List.append_assoc]

/-- A URL made of a host that fits is never too long to be sent. -/
theorem length_suplUrl_lt {host : CString} (h : host.length < hostBufSize) (port : Int32) :
    (suplUrl host port).length < maxUrlLen := by
  have hdigits : (decimal port.toUInt32).length ≤ 10 := by
    have hlt : port.toUInt32.toNat < 10 ^ 10 :=
      Nat.lt_trans port.toUInt32.toNat_lt (by decide)
    rw [decimal, List.length_map]
    exact (Nat.length_toDigits_le_iff (by decide) (by decide)).mpr hlt
  unfold hostBufSize at h
  unfold suplUrl maxUrlLen
  split
  · decide
  · rw [List.length_append, List.length_cons]
    omega

theorem strlcpyHost_of_lt {host : CString} (h : host.length < hostBufSize) :
    strlcpyHost host = host :=
  List.take_of_length_le (Nat.le_pred_of_lt h)

/-- What `loc_eng_set_server` sends for a SUPL server. -/
theorem locEngSetServer_supl {host : CString} (h : host.length < hostBufSize) (port : Int32)
    (resolved : Option UInt32) :
    s.locEngSetServer .supl host port resolved =
      (s.sendMsg (.setServerUrl (suplUrl host port)), 0) := if_pos (length_suplUrl_lt h port)

/-- Nothing that concerns the SUPL server has changed. -/
structure SameSupl (s s' : ServerData) : Prop where
  adapter : s'.adapter = s.adapter
  suplHostSet : s'.suplHostSet = s.suplHostSet
  suplHostBuf : s'.suplHostBuf = s.suplHostBuf
  suplPortBuf : s'.suplPortBuf = s.suplPortBuf
  urls : s'.urls = s.urls

theorem SameSupl.refl (s : ServerData) : SameSupl s s := ⟨rfl, rfl, rfl, rfl, rfl⟩

theorem SameSupl.kept {s' : ServerData} (h : SameSupl s s') : s'.kept = s.kept := by
  unfold ServerData.kept
  rw [h.suplHostSet, h.suplHostBuf, h.suplPortBuf]

theorem sameSupl_process (s : ServerData) : SameSupl s s.process := by
  refine ⟨?_, ?_, ?_, ?_, urls_process⟩ <;> unfold process <;> split <;> rfl

/-- The servers that are given by an address have nothing to do with it. -/
theorem sameSupl_locEngSetServer {type : LocServerType} (htype : type ≠ .supl) (host : CString)
    (port : Int32) (resolved : Option UInt32) :
    SameSupl s (s.locEngSetServer type host port resolved).1 := by
  have hsend : ∀ addr, SameSupl s (s.sendMsg (.setServerIpv4 (htonl addr) port type)) :=
    fun addr => ⟨rfl, rfl, rfl, rfl, (urls_sendMsg _).trans (List.append_nil _)⟩
  cases type with
  | supl => exact absurd rfl htype
  | _ =>
    cases resolved with
    | none => exact .refl s
    | some addr => exact hsend addr

theorem sameSupl_keep {type : LocServerType} (htype : type ≠ .supl) (host : CString)
    (port : Int32) : SameSupl s (s.keep type host port) := by
  cases type with
  | supl => exact absurd rfl htype
  | _ => exact ⟨rfl, rfl, rfl, rfl, rfl⟩

theorem SameSupl.trans {s' s'' : ServerData} (h : SameSupl s s') (h' : SameSupl s' s'') :
    SameSupl s s'' :=
  ⟨h'.adapter.trans h.adapter, h'.suplHostSet.trans h.suplHostSet,
    h'.suplHostBuf.trans h.suplHostBuf, h'.suplPortBuf.trans h.suplPortBuf, h'.urls.trans h.urls⟩

/-! ### An engine that is open -/

/-- There is an adapter, what is kept fits, and it is what has been passed last. -/
structure Open (s : ServerData) : Prop where
  adapter : s.adapter = true
  fits : s.suplHostBuf.length < hostBufSize
  last : s.urls.getLast? = s.kept

theorem SameSupl.open {s' : ServerData} (h : SameSupl s s') (hopen : s.Open) : s'.Open where
  adapter := h.adapter.trans hopen.adapter
  fits := by rw [h.suplHostBuf]; exact hopen.fits
  last := by rw [h.urls, h.kept]; exact hopen.last

/-- What is kept is passed once more. -/
theorem Open.setKeptSupl (h : s.Open) : s.setKeptSupl.Open ∧ s.setKeptSupl.kept = s.kept := by
  unfold ServerData.setKeptSupl
  split
  · next hset =>
    rw [locEngSetServer_supl h.fits]
    refine ⟨⟨h.adapter, h.fits, ?_⟩, rfl⟩
    rw [urls_sendMsg]
    show (s.urls ++ [suplUrl s.suplHostBuf s.suplPortBuf]).getLast? = s.kept
    rw [List.getLast?_concat, kept, if_pos hset]
  · exact ⟨h, rfl⟩

theorem sameSupl_setKeptC2k (s : ServerData) (resolved : Option UInt32) :
    SameSupl s (s.setKeptC2k resolved) := by
  unfold setKeptC2k
  split
  · exact sameSupl_locEngSetServer (by decide) ..
  · exact .refl s

theorem Open.locEngAgpsReinit (h : s.Open) (resolved : Option UInt32) :
    (s.locEngAgpsReinit resolved).Open ∧ (s.locEngAgpsReinit resolved).kept = s.kept := by
  obtain ⟨hopen, hkept⟩ := h.setKeptSupl
  have hsame := sameSupl_setKeptC2k s.setKeptSupl resolved
  exact ⟨hsame.open hopen, hsame.kept.trans hkept⟩

theorem Open.locEngAgpsInit (h : s.Open) (ms : Bool) (callbacks : Option Bool)
    (resolved : Option UInt32) :
    (s.locEngAgpsInit ms callbacks resolved).Open ∧
      (s.locEngAgpsInit ms callbacks resolved).kept = s.kept := by
  unfold ServerData.locEngAgpsInit
  split
  · exact ⟨h, rfl⟩
  · cases callbacks with
    | none => exact ⟨h, rfl⟩
    | some statusCb =>
      have hcb : Open { s with agpsStatusCb := statusCb } := ⟨h.adapter, h.fits, h.last⟩
      cases ms with
      | false => exact ⟨hcb, rfl⟩
      | true => exact hcb.locEngAgpsReinit resolved

/-- A server that is set is passed at once. -/
theorem Open.locEngSetServerProxy (h : s.Open) (type : LocServerType) {host : CString}
    (hfits : host.length < hostBufSize) (port : Int32) (resolved : Option UInt32) :
    (s.locEngSetServerProxy type host port resolved).1.Open ∧
      (s.locEngSetServerProxy type host port resolved).1.kept =
        (Input.suplUrl? (.setServer type host port resolved)).or s.kept := by
  by_cases htype : type = .supl
  · subst htype
    have hproxy : (s.locEngSetServerProxy .supl host port resolved).1 =
        (s.keep .supl host port).sendMsg (.setServerUrl (suplUrl host port)) := by
      unfold ServerData.locEngSetServerProxy
      rw [if_pos h.adapter, locEngSetServer_supl hfits]
    have hhost := strlcpyHost_of_lt hfits
    have hkept : ((s.keep .supl host port).sendMsg (.setServerUrl (suplUrl host port))).kept =
        some (suplUrl host port) := by
      show some (suplUrl (strlcpyHost host) port) = _
      rw [hhost]
    rw [hproxy]
    refine ⟨⟨h.adapter, ?_, ?_⟩, hkept⟩
    · show (strlcpyHost host).length < hostBufSize
      rwa [hhost]
    · rw [hkept, urls_sendMsg]
      exact List.getLast?_concat ..
  · have hsame : SameSupl s (s.locEngSetServerProxy type host port resolved).1 := by
      unfold ServerData.locEngSetServerProxy
      rw [if_pos h.adapter]
      exact (sameSupl_keep htype host port).trans (sameSupl_locEngSetServer htype ..)
    have hnone : Input.suplUrl? (.setServer type host port resolved) = none := by
      cases type with
      | supl => exact absurd rfl htype
      | _ => rfl
    rw [hnone]
    exact ⟨hsame.open h, hsame.kept⟩

/-- **One step of an engine that is open.**  What has been set last is kept, and has been passed. -/
theorem Open.step (h : s.Open) (ms : Bool) {input : Input} (hfits : input.Fits) :
    (ServerData.step ms s input).Open ∧
      (ServerData.step ms s input).kept = input.suplUrl?.or s.kept := by
  cases input with
  | setServer type host port resolved => exact h.locEngSetServerProxy type hfits port resolved
  | init callbacks event =>
    have hsame : (s.locEngInit callbacks event).1 = s := by
      unfold ServerData.locEngInit
      split
      · rfl
      · rw [if_pos h.adapter]
    exact ⟨(congrArg Open hsame).mpr h, congrArg ServerData.kept hsame⟩
  | agpsInit callbacks resolved => exact h.locEngAgpsInit ms callbacks resolved
  | process => exact ⟨(sameSupl_process s).open h, (sameSupl_process s).kept⟩

/-- A whole run of it. -/
theorem Open.exec (ms : Bool) : ∀ (inputs : List Input) {s : ServerData}, s.Open →
    (∀ input ∈ inputs, input.Fits) →
    (Run.exec (ServerData.step ms) s inputs).Open ∧
      (Run.exec (ServerData.step ms) s inputs).kept = (suplUrls inputs).getLast?.or s.kept := by
  intro inputs
  induction inputs with
  | nil => intro s h _; exact ⟨h, rfl⟩
  | cons input inputs ih =>
    intro s h hfits
    have hstep := h.step ms (hfits input List.mem_cons_self)
    have hrun := ih hstep.1 fun i hi => hfits i (List.mem_cons_of_mem input hi)
    refine ⟨hrun.1, hrun.2.trans ?_⟩
    rw [hstep.2, suplUrls, suplUrls, List.filterMap_cons]
    cases input.suplUrl? with
    | none => rfl
    | some url =>
      rw [List.getLast?_cons]
      cases (inputs.filterMap Input.suplUrl?).getLast? <;> rfl

/-! ### An engine that is not open -/

/-- There is no adapter, and nothing has been passed. -/
structure Closed (s : ServerData) : Prop where
  adapter : s.adapter = false
  queue : s.queue = []
  calls : s.calls = []

/-- Before the initialisation nothing is passed, whatever is kept. -/
theorem Closed.step (h : s.Closed) (ms : Bool) {input : Input} (hnot : input.opens = false) :
    (ServerData.step ms s input).Closed := by
  obtain ⟨hadapter, hqueue, hcalls⟩ := h
  cases input with
  | setServer type host port resolved =>
    have hkeep : (s.keep type host port).Closed := by
      cases type <;> exact ⟨hadapter, hqueue, hcalls⟩
    have hproxy : (s.locEngSetServerProxy type host port resolved).1 = s.keep type host port := by
      unfold ServerData.locEngSetServerProxy
      rw [if_neg (Bool.eq_false_iff.mp hadapter)]
    rw [ServerData.step, hproxy]
    exact hkeep
  | init callbacks event =>
    have hbad : (!callbacks || event == 0) = true := by
      simp only [Input.opens, Bool.and_eq_false_iff, bne_eq_false_iff_eq] at hnot
      rcases hnot with rfl | rfl
      · rfl
      · exact Bool.or_true _
    rw [ServerData.step, locEngInit, if_pos hbad]
    exact ⟨hadapter, hqueue, hcalls⟩
  | agpsInit callbacks resolved =>
    have hsame : s.locEngAgpsInit ms callbacks resolved = s := by
      unfold ServerData.locEngAgpsInit
      rw [hadapter]
      rfl
    rw [ServerData.step, hsame]
    exact ⟨hadapter, hqueue, hcalls⟩
  | process =>
    rw [ServerData.step, process, hqueue]
    exact ⟨hadapter, hqueue, hcalls⟩

/-- The initialisation opens the engine and forgets what was kept. -/
theorem Closed.open (h : s.Closed) (ms : Bool) {input : Input} (hopens : input.opens = true) :
    (ServerData.step ms s input).Open ∧ (ServerData.step ms s input).kept = none := by
  obtain ⟨hadapter, _, hcalls⟩ := h
  cases input with
  | init callbacks event =>
    have hgood : (!callbacks || event == 0) = false := by
      simp only [Input.opens, Bool.and_eq_true, bne_iff_ne] at hopens
      simp [hopens.1, hopens.2]
    have hinit : (s.locEngInit callbacks event).1 = { adapter := true, queue := [.init] } := by
      unfold locEngInit
      rw [hgood, hadapter, hcalls]
      rfl
    rw [ServerData.step, hinit]
    exact ⟨⟨rfl, by decide, rfl⟩, rfl⟩
  | _ => cases hopens

/-! ### Runs from the start -/

/-- Once the engine's messages have been processed, the URL passed last is the one set last since
the initialisation. -/
theorem urls_exec (ms : Bool) (inputs : List Input) (hfits : ∀ input ∈ inputs, input.Fits) :
    (exec (step ms) {} inputs).urls.getLast? = (suplUrls (sinceInit inputs)).getLast? := by
  have hsplit : inputs.takeWhile (fun input => !input.opens) ++ sinceInit inputs = inputs :=
    List.takeWhile_append_dropWhile
  have hclosed : ∀ input ∈ inputs.takeWhile (fun input => !input.opens), input.opens = false :=
    fun input hi => by simpa using List.mem_takeWhile_imp hi
  have hstep : ∀ (s : ServerData) (input : Input), input.opens = false → s.Closed →
      (step ms s input).Closed := fun _ _ hnot h => h.step ms hnot
  have hbefore := exec_inv_of_forall hstep _ {} hclosed ⟨rfl, rfl, rfl⟩
  have hsub : ∀ input ∈ sinceInit inputs, input.Fits := fun input hi =>
    hfits input ((List.dropWhile_sublist _).subset hi)
  have hfirst : ∀ input rest, sinceInit inputs = input :: rest → input.opens = true := by
    intro input rest hsince
    have hhead := List.head?_dropWhile_not (fun input : Input => !input.opens) inputs
    rw [show inputs.dropWhile _ = _ from hsince] at hhead
    simpa using hhead
  conv_lhs => rw [← hsplit, exec_append]
  generalize exec (step ms) {} _ = s at hbefore
  cases hsince : sinceInit inputs with
  | nil =>
    rw [exec_nil, urls, hbefore.queue, hbefore.calls]
    rfl
  | cons input rest =>
    have hopens := hfirst input rest hsince
    rw [hsince] at hsub
    obtain ⟨hopen, hkept⟩ := hbefore.open ms hopens
    have hrun := hopen.exec ms rest fun i hi => hsub i (List.mem_cons_of_mem input hi)
    have hnone : input.suplUrl? = none := by
      cases input with
      | init callbacks event => rfl
      | _ => cases hopens
    rw [exec_cons, hrun.1.last, hrun.2, hkept, Option.or_none, suplUrls, suplUrls,
      List.filterMap_cons, hnone]

/-- What has been set before the initialisation, and what since. -/
theorem suplUrls_split (inputs : List Input) :
    suplUrls inputs = suplUrls (inputs.takeWhile fun input => !input.opens) ++
      suplUrls (sinceInit inputs) := by
  have hsplit : inputs.takeWhile (fun input => !input.opens) ++ sinceInit inputs = inputs :=
    List.takeWhile_append_dropWhile
  conv_lhs => rw [← hsplit, suplUrls, List.filterMap_append]
  rfl

/-- **A server that is set is delivered**, once the engine's messages have been processed, just when
no SUPL server has been set at all or one has been set since the initialisation. -/
theorem lastUrl_delivered_iff (ms : Bool) (inputs : List Input)
    (hfits : ∀ input ∈ inputs, input.Fits)
    (hdone : (exec (step ms) {} inputs).queue = []) :
    (exec (step ms) {} inputs).passedUrls.getLast? = (suplUrls inputs).getLast? ↔
      (suplUrls (sinceInit inputs) = [] → suplUrls inputs = []) := by
  have hpassed : (exec (step ms) {} inputs).urls = (exec (step ms) {} inputs).passedUrls := by
    rw [urls, hdone]
    exact congrArg (List.filterMap _) (List.append_nil _)
  rw [← hpassed, urls_exec ms inputs hfits]
  by_cases hsince : suplUrls (sinceInit inputs) = []
  · rw [hsince, imp_iff_right rfl, List.getLast?_nil, eq_comm, List.getLast?_eq_none_iff]
  · refine iff_of_true ?_ fun h => absurd h hsince
    rw [suplUrls_split inputs, List.getLast?_append_of_ne_nil _ hsince]

/-- The server comes before the initialisation, and AGPS is initialised at the end. -/
def setBeforeInit : List Input :=
  [.setServer .supl [115, 117, 112, 108] 7275 none, .init true 1, .agpsInit (some true) none,
    .process]

/-- The server comes between the two initialisations. -/
def setAfterInit : List Input :=
  [.init true 1, .setServer .supl [115, 117, 112, 108] 7275 none, .agpsInit (some true) none,
    .process, .process, .process]

theorem lastUrl_delivered_iff_setAfterInit :
    (exec (step true) {} setAfterInit).passedUrls.getLast? = (suplUrls setAfterInit).getLast? ↔
      (suplUrls (sinceInit setAfterInit) = [] → suplUrls setAfterInit = []) :=
  lastUrl_delivered_iff true setAfterInit (by decide) (by decide)

/-- The address is cleared by `loc_eng_init`, so that `loc_eng_agps_init` finds none. -/
theorem not_delivered_setBeforeInit :
    (exec (step true) {} setBeforeInit).queue = [] ∧
      (exec (step true) {} setBeforeInit).passedUrls.getLast? ≠
        (suplUrls setBeforeInit).getLast? := by
  refine ⟨by decide, ?_⟩
  have hnone : (exec (step true) {} setBeforeInit).passedUrls = [] := by decide
  rw [hnone]
  exact nofun

end ServerData
end Eng
end Nx507j
