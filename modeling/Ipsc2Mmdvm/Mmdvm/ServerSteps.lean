import Ipsc2Mmdvm.Mmdvm.Server

namespace Ipsc2Mmdvm.Mmdvm

open Data Proto

/-! `ServerStep` lists what one event can do to the server, with the conditions under which it does.
-/

section

variable {sessions bound : Sessions} {order : Enumeration String} {addr : UDPAddr} {dmrid : UInt32}
  {found : Option Ref}

theorem getOrCreateSessionLocked_sess (sessions : Sessions) (addr : UDPAddr) :
    (getOrCreateSessionLocked sessions addr).2 = (sessions.find addr.string).getD sessions.next := by
  simp only [getOrCreateSessionLocked]
  split <;> simp [*]

theorem getOrCreateSessionLocked_find (sessions : Sessions) (addr : UDPAddr) :
    (getOrCreateSessionLocked sessions addr).1.find addr.string = some (getOrCreateSessionLocked sessions addr).2 := by
  simp only [getOrCreateSessionLocked]
  split
  · simpa
  · rw [PtrMap.find_store (Nat.lt_succ_self _)]
    simp

abbrev enter (sessions : Sessions) (addr : UDPAddr) (f : Session → Session) : Sessions :=
  (getOrCreateSessionLocked sessions addr).1.modify (getOrCreateSessionLocked sessions addr).2 f

theorem boundSession_cases (result : boundSession sessions order addr dmrid = (bound, found)) :
    (bound = sessions ∧ found = sessions.find addr.string) ∨
      ∃ old sess, sessions.find old = some sess ∧ (sessions.deref sess).state = .ready ∧
        bound = rebindSessionLocked sessions old addr sess ∧ found = some sess := by
  simp only [boundSession] at result
  split at result
  · cases search : findReadySessionByDMRIDLocked sessions order dmrid with
    | none =>
      simp only [search, Prod.mk.injEq] at result
      exact .inl ⟨result.1.symm, result.2.symm⟩
    | some rebound =>
      obtain ⟨known, picked⟩ := PtrMap.findWhere_some search
      simp only [Bool.and_eq_true, beq_iff_eq] at picked
      simp only [search, Prod.mk.injEq] at result
      exact .inr ⟨rebound.1, rebound.2, known, picked.1, result.1.symm, result.2.symm⟩
  · simp only [Prod.mk.injEq] at result
    exact .inl ⟨result.1.symm, result.2.symm⟩

theorem deref_rebind_state {old : String} {sess : Ref} :
    ((rebindSessionLocked sessions old addr sess).deref sess).state = (sessions.deref sess).state := by
  simp only [rebindSessionLocked]
  split
  · rfl
  · split <;> simp

theorem boundSession_unchanged (result : boundSession sessions order addr dmrid = (bound, found))
    (unready : ∀ sess, found = some sess → (bound.deref sess).state ≠ .ready) : bound = sessions := by
  rcases boundSession_cases result with ⟨same, _⟩ | ⟨old, sess, _, ready, rfl, rfl⟩
  · exact same
  · exact absurd (deref_rebind_state.trans ready) (unready sess rfl)

end

section

variable (cfg : ServerConfig) (sha256 : Bytes → Digest)

/-- The session for which the event is an RPTK that passes `handleAuth`: it
comes while the session waits for the answer to its challenge, and its digest
is that of the challenge and the password. -/
def acceptedAuth (sessions : Sessions) : ServerEvent → Option Ref
  | .datagram addr data _ =>
    if data.take 4 = ascii "RPTK" ∧ 40 ≤ data.length ∧ validID data 4 then
      (sessions.find addr.string).filter fun sess =>
        (sessions.deref sess).state = .sentChallenge ∧
          slice data 8 40 = (sha256 ((sessions.deref sess).challenge ++ cfg.password)).toList
    else none
  | _ => none

def acceptedConfig : ServerEvent → Option UDPAddr
  | .datagram addr data _ =>
    if data.take 5 ≠ ascii "RPTCL" ∧ data.take 4 = ascii "RPTC" ∧ 8 ≤ data.length ∧ validID data 4 then
      some addr
    else none
  | _ => none

def offlineKey (h : Server) : ServerEvent → Option String
  | .datagram addr data _ =>
    if data.take 5 = ascii "RPTCL" ∧ 9 ≤ data.length ∧ validID data 5 then some addr.string else none
  | .tick _ _ => none
  | .expire => h.stale.head?

inductive ServerStep (h : Server) : ServerEvent → Sessions × List Effect → Prop
  | ignored {event : ServerEvent} : ServerStep h event (h.sessions, [])
  | offline {event : ServerEvent} (key : String) (taken : offlineKey h event = some key) :
      ServerStep h event (setOffline h.sessions key)
  | refused {addr : UDPAddr} {data : Bytes} {env : Env} :
      ServerStep h (.datagram addr data env) (h.sessions, [sendNAK addr])
  | challenged {addr : UDPAddr} {data : Bytes} {env : Env} (challenge : Vector UInt8 4) :
      ServerStep h (.datagram addr data env)
        (enter h.sessions addr ({ · with state := .sentChallenge, challenge := challenge.toList }),
          [.sendRaw addr (rptAck ++ challenge.toList)])
  | authenticated {addr : UDPAddr} {data : Bytes} {env : Env} (sess : Ref) (known : h.sessions.find addr.string = some sess)
      (accepted : acceptedAuth cfg sha256 h.sessions (.datagram addr data env) = some sess) :
      ServerStep h (.datagram addr data env) (enter h.sessions addr ({ · with state := .awaitConfig }), [sendACK addr])
  | configured {addr : UDPAddr} {data : Bytes} {env : Env} (info : PeerInfo)
      (accepted : acceptedConfig (.datagram addr data env) = some addr) :
      ServerStep h (.datagram addr data env)
        (enter h.sessions addr ({ · with state := .ready, lastPing := env.clock 1, info }), [.emitPeer info, sendACK addr])
  | pinged {addr : UDPAddr} {data : Bytes} {env : Env} {bound : Sessions} {sess : Ref} {dmrid : UInt32} {heard : Session}
      (found : boundSession h.sessions env.order addr dmrid = (bound, some sess)) (ready : (bound.deref sess).state = .ready)
      (touched : heard = { (bound.deref sess).touch addr (env.clock 0) with
        info := { ((bound.deref sess).touch addr (env.clock 0)).info with online := true } }) :
      ServerStep h (.datagram addr data env) (bound.modify sess fun _ => heard,
        [.emitPeer heard.info, .sendRaw addr (ascii "MSTPONG" ++ putUint32 cfg.id)])
  | forwarded {addr : UDPAddr} {data : Bytes} {env : Env} {bound : Sessions} {sess : Ref} {dmrid : UInt32} {heard : Session}
      {packet : Packet} (found : boundSession h.sessions env.order addr dmrid = (bound, some sess))
      (ready : (bound.deref sess).state = .ready) (touched : heard = (bound.deref sess).touch addr (env.clock 0)) :
      ServerStep h (.datagram addr data env) (bound.modify sess fun _ => heard,
        [.emitPeer heard.info, .handleOutboundPacketFrom sess heard.info.sourceKey packet])

variable {h : Server} {addr : UDPAddr} {data : Bytes} {env : Env}

theorem serverStep_beginHandshake : ServerStep cfg sha256 h (.datagram addr data env) (beginHandshake env h.sessions addr) := by
  simp only [beginHandshake]
  cases env.challenge with
  | none => exact .refused
  | some challenge => exact .challenged challenge

theorem shape_iff {size offset : Nat} :
    ¬(decide (data.length < size) || !validID data offset) = true ↔ size ≤ data.length ∧ validID data offset = true := by
  simp

theorem serverStep_handleAuth (kind : data.take 4 = ascii "RPTK") :
    ServerStep cfg sha256 h (.datagram addr data env) (handleAuth cfg sha256 h.sessions data addr) := by
  simp only [handleAuth]
  split
  · exact .refused
  · rename_i shape
    cases known : h.sessions.find addr.string with
    | none => exact .refused
    | some sess =>
      simp only
      split
      · exact .refused
      · split
        · exact .refused
        · rename_i waiting digest
          simp only [bne_iff_ne, ne_eq, not_not] at waiting digest
          refine .authenticated sess known ?_
          simp [acceptedAuth, kind, shape_iff.mp shape, known, waiting, digest]

theorem length_of_disconnect (kind : data.take 5 = ascii "RPTCL") : 5 ≤ data.length := by
  have size := congrArg List.length kind
  rw [List.length_take] at size
  have literal : (ascii "RPTCL").length = 5 := by decide
  omega

theorem serverStep_handlePing : ServerStep cfg sha256 h (.datagram addr data env) (handlePing cfg env h.sessions data addr) := by
  simp only [handlePing]
  split
  · exact .ignored
  split
  · rename_i bound result
    cases boundSession_unchanged result (by simp)
    exact serverStep_beginHandshake cfg sha256
  · rename_i bound sess result
    split
    · rename_i ready
      exact .pinged result (eq_of_beq ready) rfl
    · rename_i unready
      cases boundSession_unchanged result (by simpa using unready)
      exact serverStep_beginHandshake cfg sha256

theorem serverStep_handleDMRD : ServerStep cfg sha256 h (.datagram addr data env) (handleDMRD env h.sessions data addr) := by
  simp only [handleDMRD]
  split
  · exact .ignored
  split
  · rename_i bound result
    cases boundSession_unchanged result (by simp)
    exact .ignored
  · rename_i bound sess result
    split
    · rename_i ready
      exact .forwarded result (eq_of_beq ready) rfl
    · rename_i unready
      cases boundSession_unchanged result (by simpa using unready)
      exact .ignored

theorem serverStep_handlePacket :
    ServerStep cfg sha256 h (.datagram addr data env) (handlePacket cfg sha256 env h.sessions data addr) := by
  simp only [handlePacket]
  split
  · exact .ignored
  split
  · rename_i kind
    simp only [Bool.and_eq_true, decide_eq_true_eq, beq_iff_eq] at kind
    simp only [handleDisconnect]
    split
    · exact .ignored
    · rename_i shape
      refine .offline addr.string ?_
      simp [offlineKey, kind.2, shape_iff.mp shape]
  split
  · simp only [handleLogin]
    split
    · exact .refused
    · exact serverStep_beginHandshake cfg sha256
  split
  · rename_i kind
    exact serverStep_handleAuth cfg sha256 (eq_of_beq kind)
  split
  · rename_i notDisconnect _ _ kind
    simp only [handleConfig]
    split
    · exact .refused
    · rename_i shape
      have five : data.take 5 ≠ ascii "RPTCL" := fun five => by
        simp [five, length_of_disconnect five] at notDisconnect
      refine .configured _ ?_
      simp [acceptedConfig, five, eq_of_beq kind, shape_iff.mp shape]
  split
  · split
    · exact serverStep_handlePing cfg sha256
    · exact .ignored
  split
  · exact serverStep_handleDMRD cfg sha256
  · exact .ignored

theorem serverStep_handle (h : Server) (event : ServerEvent) :
    ServerStep cfg sha256 h event ((h.handle cfg sha256 event).1.sessions, (h.handle cfg sha256 event).2) := by
  cases event with
  | datagram addr data env => exact serverStep_handlePacket cfg sha256
  | tick now order =>
    simp only [Server.handle]
    split <;> exact .ignored
  | expire =>
    simp only [Server.handle]
    cases stale : h.stale with
    | nil => exact .ignored
    | cons key rest => exact .offline key (by simp [offlineKey, stale])

variable {event : ServerEvent}

theorem acceptedConfig_cases (config : acceptedConfig event = some addr) :
    ∃ data env, event = .datagram addr data env ∧ data.take 5 ≠ ascii "RPTCL" ∧ data.take 4 = ascii "RPTC" ∧
      8 ≤ data.length ∧ validID data 4 = true := by
  cases event with
  | datagram peer data env =>
    simp only [acceptedConfig] at config
    split at config
    · rename_i kind
      cases config
      exact ⟨data, env, rfl, kind⟩
    · cases config
  | tick | expire => cases config

theorem handlePacket_config (config : acceptedConfig event = some addr) :
    ∃ data env, event = .datagram addr data env ∧ 8 ≤ data.length ∧ validID data 4 = true ∧ ∀ sessions,
      handlePacket cfg sha256 env sessions data addr = handleConfig cfg env sessions data addr := by
  obtain ⟨data, env, same, five, four, long, valid⟩ := acceptedConfig_cases config
  have kinds : ascii "RPTC" ≠ ascii "RPTL" ∧ ascii "RPTC" ≠ ascii "RPTK" := by decide
  refine ⟨data, env, same, long, valid, fun sessions => ?_⟩
  simp [handlePacket, show ¬ data.length < 4 by omega, five, four, kinds.1, kinds.2]

end

end Ipsc2Mmdvm.Mmdvm
