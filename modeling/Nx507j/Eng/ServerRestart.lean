import Nx507j.Eng.SetServer

/-!
# The server after a restart

When the modem comes back up, `loc_eng_agps_reinit` sets the server once more, from the copy that
`loc_eng_set_server_proxy` has kept.  The copy is shorter than what can be sent: a host that does
not fit is sent whole at first and cut off later.

## Main definitions

* `ServerData.Later`, `ServerData.laterStep` — what can happen while no server is set.
* `ServerData.ResendsSame` — the server that is sent at first is the one that is sent later.

## Main results

* `ServerData.locEngAgpsReinit_keeps` — what is sent after a restart.
* `ServerData.resendsSame_iff` — the hosts that are sent again as they are.
-/

namespace Nx507j
namespace Eng
namespace ServerData

open Run
open Agps (CString)

/-- `loc_eng_handle_engine_up`, as far as the servers are concerned. -/
def locEngHandleEngineUp (s : ServerData) (resolved : Option UInt32) : ServerData :=
  if s.agpsStatusCb then s.locEngAgpsReinit resolved else s

/-- What can happen while the framework sets no server. -/
inductive Later
  | init (callbacks : Bool) (event : UInt32)
  | agpsInit (callbacks : Option Bool) (resolved : Option UInt32)
  | engineUp (resolved : Option UInt32)
  | process
  deriving DecidableEq, Repr

/-- One step. -/
def laterStep (ms : Bool) (s : ServerData) : Later → ServerData
  | .init callbacks event => (s.locEngInit callbacks event).1
  | .agpsInit callbacks resolved => s.locEngAgpsInit ms callbacks resolved
  | .engineUp resolved => s.locEngHandleEngineUp resolved
  | .process => s.process

/-- If the host is sent at once, `loc_eng_agps_reinit` sends the same URL whenever it is called
before another server is set. -/
def ResendsSame (ms : Bool) (s : ServerData) (host : CString) (port : Int32) : Prop :=
  ∀ url, (s.locEngSetServerProxy .supl host port none).1.queue = s.queue ++ [.setServerUrl url] →
    ∀ (inputs : List Later) (resolved : Option UInt32),
      let t := exec (laterStep ms) (s.locEngSetServerProxy .supl host port none).1 inputs
      ∃ rest, (t.locEngAgpsReinit resolved).queue = t.queue ++ .setServerUrl url :: rest

/-- There is an adapter, and the address is kept. -/
structure Keeps (host : CString) (port : Int32) (s : ServerData) : Prop where
  adapter : s.adapter = true
  suplHostSet : s.suplHostSet = true
  suplHostBuf : s.suplHostBuf = strlcpyHost host
  suplPortBuf : s.suplPortBuf = port

variable {s : ServerData} {host : CString} {port : Int32}

/-- The copy is never too long. -/
theorem length_strlcpyHost_lt (host : CString) : (strlcpyHost host).length < hostBufSize := by
  have hle : (strlcpyHost host).length ≤ hostBufSize - 1 := List.length_take_le ..
  exact Nat.lt_of_le_of_lt hle (by decide)

theorem Keeps.of_sameSupl {s' : ServerData} (h : Keeps host port s) (hsame : SameSupl s s') :
    Keeps host port s' :=
  ⟨hsame.adapter.trans h.adapter, hsame.suplHostSet.trans h.suplHostSet,
    hsame.suplHostBuf.trans h.suplHostBuf, hsame.suplPortBuf.trans h.suplPortBuf⟩

theorem keeps_sendMsg (h : Keeps host port s) (msg : ServerMsg) : Keeps host port (s.sendMsg msg) :=
  ⟨h.adapter, h.suplHostSet, h.suplHostBuf, h.suplPortBuf⟩

/-- What is kept is sent first. -/
theorem Keeps.setKeptSupl (h : Keeps host port s) :
    s.setKeptSupl = s.sendMsg (.setServerUrl (suplUrl (strlcpyHost host) port)) := by
  rw [ServerData.setKeptSupl, if_pos h.suplHostSet, h.suplHostBuf, h.suplPortBuf,
    locEngSetServer_supl (length_strlcpyHost_lt host)]

/-- The CDMA server is sent after it, if there is one. -/
theorem exists_queue_setKeptC2k (s : ServerData) (resolved : Option UInt32) :
    ∃ rest, (s.setKeptC2k resolved).queue = s.queue ++ rest := by
  unfold setKeptC2k locEngSetServer
  split
  · cases resolved with
    | none => exact ⟨[], (List.append_nil _).symm⟩
    | some addr => exact ⟨[_], rfl⟩
  · exact ⟨[], (List.append_nil _).symm⟩

/-- **What `loc_eng_agps_reinit` sends**: the copy of the host. -/
theorem locEngAgpsReinit_keeps (h : Keeps host port s) (resolved : Option UInt32) :
    Keeps host port (s.locEngAgpsReinit resolved) ∧
      ∃ rest, (s.locEngAgpsReinit resolved).queue =
        s.queue ++ .setServerUrl (suplUrl (strlcpyHost host) port) :: rest := by
  rw [locEngAgpsReinit, h.setKeptSupl]
  have hsent := keeps_sendMsg h (.setServerUrl (suplUrl (strlcpyHost host) port))
  refine ⟨hsent.of_sameSupl (sameSupl_setKeptC2k _ resolved), ?_⟩
  obtain ⟨rest, hrest⟩ := exists_queue_setKeptC2k
    (s.sendMsg (.setServerUrl (suplUrl (strlcpyHost host) port))) resolved
  exact ⟨rest, by rw [hrest, sendMsg, List.append_assoc]; rfl⟩

/-- One step while no server is set. -/
theorem Keeps.laterStep (ms : Bool) (s : ServerData) (i : Later) (h : Keeps host port s) :
    Keeps host port (laterStep ms s i) := by
  cases i with
  | init callbacks event =>
    unfold ServerData.laterStep locEngInit
    dsimp only
    split
    · exact h
    · rw [if_pos h.adapter]
      exact h
  | agpsInit callbacks resolved =>
    unfold ServerData.laterStep locEngAgpsInit
    dsimp only
    split
    · exact h
    · cases callbacks with
      | none => exact h
      | some statusCb =>
        have hcb : Keeps host port { s with agpsStatusCb := statusCb } :=
          ⟨h.adapter, h.suplHostSet, h.suplHostBuf, h.suplPortBuf⟩
        cases ms with
        | false => exact hcb
        | true => exact (locEngAgpsReinit_keeps hcb resolved).1
  | engineUp resolved =>
    unfold ServerData.laterStep locEngHandleEngineUp
    dsimp only
    split
    · exact (locEngAgpsReinit_keeps h resolved).1
    · exact h
  | process => exact h.of_sameSupl (sameSupl_process s)

/-- What a server that is set leaves. -/
theorem keeps_locEngSetServerProxy (hadapter : s.adapter = true) (host : CString) (port : Int32) :
    Keeps host port (s.locEngSetServerProxy .supl host port none).1 := by
  have hkeep : Keeps host port (s.keep .supl host port) := ⟨hadapter, rfl, rfl, rfl⟩
  rw [locEngSetServerProxy, if_pos hadapter, locEngSetServer]
  split
  · exact keeps_sendMsg hkeep _
  · exact hkeep

/-- What is sent at once: the whole host, if the URL is not too long. -/
theorem sent_iff (hadapter : s.adapter = true) (url : CString) :
    (s.locEngSetServerProxy .supl host port none).1.queue = s.queue ++ [.setServerUrl url] ↔
      (suplUrl host port).length < maxUrlLen ∧ url = suplUrl host port := by
  rw [locEngSetServerProxy, if_pos hadapter, locEngSetServer]
  split
  · next hlt =>
    show s.queue ++ [_] = _ ↔ _
    rw [List.append_cancel_left_eq, List.singleton_inj, ServerMsg.setServerUrl.injEq,
      and_iff_right hlt, eq_comm]
  · next hnot =>
    refine iff_of_false (fun h => ?_) fun h => hnot h.1
    have hlength := congrArg List.length h
    rw [List.length_append, List.length_singleton] at hlength
    exact absurd hlength.symm (Nat.succ_ne_self _)

theorem length_suplUrl {host : CString} (h : 4 < host.length) (port : Int32) :
    (suplUrl host port).length = host.length + (decimal port.toUInt32).length + 1 := by
  have hnot : ¬isNoHost host = true := fun hno => by
    have hlength := congrArg List.length (of_decide_eq_true hno)
    rw [List.length_map] at hlength
    exact absurd (hlength ▸ h) (by decide)
  rw [suplUrl, if_neg hnot, List.length_append, List.length_cons, Nat.add_assoc]

/-- A host that does not fit is cut off, and another URL is made of it. -/
theorem suplUrl_strlcpyHost_ne (h : hostBufSize ≤ host.length) :
    suplUrl (strlcpyHost host) port ≠ suplUrl host port := by
  have hcut : (strlcpyHost host).length = 100 := by
    rw [strlcpyHost, List.length_take]
    exact Nat.min_eq_left (Nat.le_of_succ_le h)
  have hlong : 101 ≤ host.length := h
  intro heq
  have hlength := congrArg List.length heq
  rw [length_suplUrl (by omega), length_suplUrl (by omega)] at hlength
  omega

/-- **The hosts that are sent again as they are**: those that fit in the copy, and those that are
not even sent at first. -/
theorem resendsSame_iff (ms : Bool) (s : ServerData) (hadapter : s.adapter = true)
    (host : CString) (port : Int32) :
    ResendsSame ms s host port ↔
      host.length < hostBufSize ∨ maxUrlLen ≤ (suplUrl host port).length := by
  have hkeeps := keeps_locEngSetServerProxy hadapter host port
  constructor
  · intro h
    by_contra hnot
    push Not at hnot
    obtain ⟨hlong, hsent⟩ := hnot
    obtain ⟨rest, hrest⟩ := h _ ((sent_iff hadapter _).mpr ⟨hsent, rfl⟩) [] none
    obtain ⟨rest', hrest'⟩ := (locEngAgpsReinit_keeps hkeeps none).2
    have hqueue := hrest'.symm.trans hrest
    rw [exec_nil, List.append_cancel_left_eq, List.cons.injEq, ServerMsg.setServerUrl.injEq]
      at hqueue
    exact suplUrl_strlcpyHost_ne hlong hqueue.1
  · intro h url hurl inputs resolved
    obtain ⟨hsent, rfl⟩ := (sent_iff hadapter url).mp hurl
    have hfits : host.length < hostBufSize := h.resolve_right (Nat.not_le.mpr hsent)
    have hlater := exec_inv (Keeps.laterStep ms) inputs _ hkeeps
    obtain ⟨rest, hrest⟩ := (locEngAgpsReinit_keeps hlater resolved).2
    rw [strlcpyHost_of_lt hfits] at hrest
    exact ⟨rest, hrest⟩

/-- An engine that has been initialised. -/
def initialised : ServerData := { adapter := true }

/-- A host of 101 letters. -/
def longHost : CString := List.replicate 101 97

/-- With its last letter left out it fits in the copy, and is sent again as it is. -/
theorem resendsSame_iff_fullHost : ResendsSame true initialised (longHost.take 100) 7275 :=
  (resendsSame_iff true initialised rfl (longHost.take 100) 7275).mpr (.inl (by decide))

/-- The host is sent whole at first and without its last letter later. -/
theorem not_resent_longHost :
    (initialised.locEngSetServerProxy .supl longHost 7275 none).1.queue =
        [.setServerUrl (suplUrl longHost 7275)] ∧
      ¬ResendsSame true initialised longHost 7275 := by
  have hsent : (initialised.locEngSetServerProxy .supl longHost 7275 none).1.queue =
      initialised.queue ++ [.setServerUrl (suplUrl longHost 7275)] := by decide
  have hagain : ((initialised.locEngSetServerProxy .supl longHost 7275 none).1.locEngAgpsReinit
      none).queue = [.setServerUrl (suplUrl longHost 7275),
        .setServerUrl (suplUrl (longHost.take 100) 7275)] := by decide
  refine ⟨hsent, fun h => ?_⟩
  obtain ⟨rest, hrest⟩ := h _ hsent [] none
  rw [exec_nil, hagain, hsent] at hrest
  have hurl : suplUrl (longHost.take 100) 7275 = suplUrl longHost 7275 := by
    injection hrest with _ htail
    injection htail with hhead _
    injection hhead
  revert hurl
  decide

end ServerData
end Eng
end Nx507j
