import Ipsc2Mmdvm.Mmdvm.Client
import Ipsc2Mmdvm.Mmdvm.ServerAuth

namespace Ipsc2Mmdvm.Mmdvm

open Data Proto ClientEffect Client PtrMap
open List hiding Vector

/-! A client logs in to a server over a channel that keeps every packet and their order.  No timeout
strikes, so the watchdogs do nothing. -/

inductive PacketKind where
  | disconnect
  | login
  | auth
  | config
  | ping
  | dmrd
deriving DecidableEq

def kindOf (data : Bytes) : Option PacketKind :=
  if data.length < 4 then none
  else if data.length ≥ 5 && data.take 5 == ascii "RPTCL" then some .disconnect
  else if data.take 4 == ascii "RPTL" then some .login
  else if data.take 4 == ascii "RPTK" then some .auth
  else if data.take 4 == ascii "RPTC" then some .config
  else if data.take 4 == ascii "RPTP" then
    if data.length ≥ 7 && data.take 7 == ascii "RPTPING" then some .ping else none
  else if data.take 4 == ascii "DMRD" then some .dmrd
  else none

theorem handlePacket_eq (cfg : ServerConfig) (sha256 : Bytes → Digest) (env : Env) (sessions : Sessions) (data : Bytes)
    (addr : UDPAddr) :
    handlePacket cfg sha256 env sessions data addr = match kindOf data with
      | some .disconnect => handleDisconnect sessions data addr
      | some .login => handleLogin env sessions data addr
      | some .auth => handleAuth cfg sha256 sessions data addr
      | some .config => handleConfig cfg env sessions data addr
      | some .ping => handlePing cfg env sessions data addr
      | some .dmrd => handleDMRD env sessions data addr
      | none => (sessions, []) := by
  simp only [handlePacket, kindOf]
  split
  · rfl
  split
  · rfl
  split
  · rfl
  split
  · rfl
  split
  · rfl
  split
  · split <;> rfl
  split <;> rfl

def sendRPTCL (cfg : ClientConfig) : ClientEffect := .send (ascii "RPTCL" ++ putUint32 cfg.id)

structure OwnHandlers (cfg : ClientConfig) (sha256 : Bytes → Digest) : Prop where
  login : ∀ data, .send data = sendLogin cfg → kindOf data = some .login
  auth : ∀ random data, .send data = sendRPTK cfg sha256 random → kindOf data = some .auth
  config : ∀ data, .send data = sendRPTC cfg → kindOf data = some .config
  ping : ∀ data, .send data = sendPing cfg → kindOf data = some .ping
  disconnect : ∀ data, .send data = sendRPTCL cfg → kindOf data = some .disconnect

def startsWithL (id : UInt32) : Bool := (id >>> 24).toUInt8 == 0x4C

section

variable (cfg : ClientConfig) (sha256 : Bytes → Digest) (rest : Bytes)

theorem kindOf_login : kindOf (ascii "RPTL" ++ rest) = some .login := by
  simp [kindOf, ascii]

theorem kindOf_auth : kindOf (ascii "RPTK" ++ rest) = some .auth := by
  simp [kindOf, ascii]

theorem kindOf_ping : kindOf (ascii "RPTPING" ++ rest) = some .ping := by
  simp [kindOf, ascii]

theorem kindOf_disconnect : kindOf (ascii "RPTCL" ++ rest) = some .disconnect := by
  simp [kindOf, ascii]

theorem kindOf_config (id : UInt32) :
    kindOf (ascii "RPTC" ++ (putUint32 id ++ rest)) = some (if startsWithL id then .disconnect else .config) := by
  cases first : startsWithL id with
  | true =>
    have letter : (id >>> 24).toUInt8 = 0x4C := eq_of_beq first
    simp [kindOf, ascii, putUint32, letter]
  | false =>
    have letter : (id >>> 24).toUInt8 ≠ 0x4C := by simpa [startsWithL] using first
    simp [kindOf, ascii, putUint32, letter]

theorem sendRPTC_eq : ∃ rest, sendRPTC cfg = .send (ascii "RPTC" ++ (putUint32 cfg.id ++ rest)) := by
  simp only [sendRPTC, append_assoc]
  exact ⟨_, rfl⟩

theorem ownHandlers_iff : OwnHandlers cfg sha256 ↔ startsWithL cfg.id = false := by
  have config (data : Bytes) (sent : .send data = sendRPTC cfg) :
      kindOf data = some (if startsWithL cfg.id then .disconnect else .config) := by
    obtain ⟨rest, packet⟩ := sendRPTC_eq cfg
    rw [send.inj (sent.trans packet)]
    exact kindOf_config rest cfg.id
  constructor
  · intro own
    cases first : startsWithL cfg.id with
    | false => rfl
    | true =>
      have kinds := config _ rfl
      rw [own.config _ rfl, first] at kinds
      cases kinds
  · intro first
    refine ⟨fun data sent => ?_, fun random data sent => ?_, fun data sent => ?_, fun data sent => ?_, fun data sent => ?_⟩
    · rw [send.inj sent]
      exact kindOf_login _
    · rw [send.inj sent, append_assoc]
      exact kindOf_auth _
    · rw [config data sent, first]
      rfl
    · rw [send.inj sent]
      exact kindOf_ping _
    · rw [send.inj sent]
      exact kindOf_disconnect _

end

structure Link where
  client : Client
  sessions : Sessions
  toServer : List Bytes
  toClient : List Bytes

inductive LinkEvent where
  | toServer (clock : Nat → Time) (challenge : Vector UInt8 4) (order : Enumeration String)
  | toClient (now : Time)
  | startPing (i : Nat) (now : Time)
  | tickPing (i : Nat) (now : Time)

def sentBy (effects : List ClientEffect) : List Bytes :=
  effects.filterMap fun
    | .send data => some data
    | _ => none

def answersTo (addr : UDPAddr) (effects : List Effect) : List Bytes :=
  effects.filterMap fun
    | .sendRaw peer data => if peer = addr then some data else none
    | _ => none

open Link

section

variable (cfg : ClientConfig) (server : ServerConfig) (sha256 : Bytes → Digest) (addr : UDPAddr)

namespace Link

def start (sessions : Sessions) : Link where
  client := .start
  sessions := sessions
  toServer := sentBy [sendLogin cfg]
  toClient := []

def afterClient (w : Link) (result : Client × List ClientEffect) : Link :=
  { w with client := result.1, toServer := w.toServer ++ sentBy result.2 }

def afterServer (w : Link) (result : Sessions × List Effect) : Link :=
  { w with sessions := result.1, toClient := w.toClient ++ answersTo addr result.2 }

def step (w : Link) : LinkEvent → Link
  | .toServer clock challenge order =>
    match w.toServer with
    | [] => w
    | data :: rest =>
      { w with toServer := rest }.afterServer addr
        (handlePacket server sha256 ⟨clock, some challenge, order⟩ w.sessions data addr)
  | .toClient now =>
    match w.toClient with
    | [] => w
    | data :: rest => { w with toClient := rest }.afterClient (w.client.handler cfg sha256 data now)
  | .startPing i now => w.afterClient (w.client.startPing cfg i now)
  | .tickPing i now =>
    if Time.after now (Time.add w.client.lastPing clientTimeout) then w
    else w.afterClient (w.client.tickPing cfg i now true)

end Link

def Link.LoggedIn (w : Link) : Prop :=
  w.client.state = .ready ∧
    ∃ sess, w.sessions.view addr.string = some sess ∧ sess.state = .ready ∧ sess.info.dmrID = cfg.id

def LinkEvent.direction : LinkEvent → Option Bool
  | .toServer .. => some true
  | .toClient _ => some false
  | _ => none

/-- The channel goes on delivering: packets to the server and packets to the client, three
times in turn. -/
def Delivers (events : List LinkEvent) : Prop :=
  [true, false, true, false, true, false].Sublist (events.filterMap LinkEvent.direction)

def LoginCompletes (sessions : Sessions) : Prop :=
  ∀ events, Delivers events →
    (runFrom (Link.step cfg server sha256 addr) (.start cfg sessions) events).LoggedIn cfg addr

section

variable {cfg server sha256 addr} {sessions : Sessions} {env : Env} {challenge : Vector UInt8 4} {data : Bytes}

theorem view_enter (f : Session → Session) : (enter sessions addr f).view addr.string =
      some (f ((getOrCreateSessionLocked sessions addr).1.deref (getOrCreateSessionLocked sessions addr).2)) :=
  view_eq_some.mpr ⟨_, getOrCreateSessionLocked_find sessions addr, by simp⟩

theorem validID_append {id : UInt32} (nonzero : id ≠ 0) (front rest : Bytes) :
    validID (front ++ (putUint32 id ++ rest)) front.length = true := by
  have long : ¬(front ++ (putUint32 id ++ rest)).length < front.length + 4 := by simp [putUint32]
  rw [validID, if_neg long, uint32At_append]
  simpa using nonzero

theorem handlePacket_challenges (nonzero : cfg.id ≠ 0) (chosen : env.challenge = some challenge) :
    ∃ result : Sessions, handlePacket server sha256 env sessions (ascii "RPTL" ++ putUint32 cfg.id) addr =
      (result, [.sendRaw addr (rptAck ++ challenge.toList)]) ∧
      ∃ sess, result.view addr.string = some sess ∧ sess.state = .sentChallenge ∧ sess.challenge = challenge.toList := by
  have valid := validID_append nonzero (ascii "RPTL") []
  rw [append_nil] at valid
  have known : handleLogin env sessions (ascii "RPTL" ++ putUint32 cfg.id) addr = beginHandshake env sessions addr := by
    have valid : validID (ascii "RPTL" ++ putUint32 cfg.id) 4 = true := valid
    simp [handleLogin, valid]
  rw [handlePacket_eq, kindOf_login]
  dsimp only
  rw [known, beginHandshake, chosen]
  exact ⟨_, rfl, _, view_enter _, rfl, rfl⟩

theorem handlePacket_authenticates (nonzero : cfg.id ≠ 0) {bytes : Bytes} {sess : Session}
    (held : sessions.view addr.string = some sess) (waiting : sess.state = .sentChallenge)
    (issued : sess.challenge = bytes) (shared : server.password = cfg.password) :
    ∃ result : Sessions, handlePacket server sha256 env sessions
        (ascii "RPTK" ++ putUint32 cfg.id ++ (sha256 (bytes ++ cfg.password)).toList) addr = (result, [sendACK addr]) ∧
      ∃ sess, result.view addr.string = some sess ∧ sess.state = .awaitConfig := by
  obtain ⟨ref, bound, rfl⟩ := view_eq_some.mp held
  have valid : validID (ascii "RPTK" ++ putUint32 cfg.id ++ (sha256 (bytes ++ cfg.password)).toList) 4 = true := by
    rw [append_assoc]
    exact validID_append nonzero (ascii "RPTK") _
  have length : (ascii "RPTK" ++ putUint32 cfg.id ++ (sha256 (bytes ++ cfg.password)).toList).length = 40 := by
    simp [ascii, putUint32]
  have token : slice (ascii "RPTK" ++ putUint32 cfg.id ++ (sha256 (bytes ++ cfg.password)).toList) 8 40 =
      (sha256 ((sessions.deref ref).challenge ++ server.password)).toList := by
    rw [issued, shared]
    have middle := slice_middle (ascii "RPTK" ++ putUint32 cfg.id) (sha256 (bytes ++ cfg.password)).toList []
    simpa [ascii, putUint32] using middle
  have own : kindOf (ascii "RPTK" ++ putUint32 cfg.id ++ (sha256 (bytes ++ cfg.password)).toList) = some .auth := by
    rw [append_assoc]
    exact kindOf_auth _
  have accepted : handleAuth server sha256 sessions
      (ascii "RPTK" ++ putUint32 cfg.id ++ (sha256 (bytes ++ cfg.password)).toList) addr =
      (enter sessions addr ({ · with state := .awaitConfig }), [sendACK addr]) := by
    rw [handleAuth, length, valid, bound, token]
    simp [waiting]
  rw [handlePacket_eq, own]
  exact ⟨_, accepted, _, view_enter _, rfl⟩

theorem handlePacket_configures (nonzero : cfg.id ≠ 0) (other : startsWithL cfg.id = false) (rest : Bytes) :
    ∃ (result : Sessions) (info : PeerInfo),
      handlePacket server sha256 env sessions (ascii "RPTC" ++ (putUint32 cfg.id ++ rest)) addr =
        (result, [.emitPeer info, sendACK addr]) ∧
      ∃ sess, result.view addr.string = some sess ∧ sess.state = .ready ∧ sess.info.dmrID = cfg.id := by
  have valid : validID (ascii "RPTC" ++ (putUint32 cfg.id ++ rest)) 4 = true := validID_append nonzero (ascii "RPTC") rest
  have long : 8 ≤ (ascii "RPTC" ++ (putUint32 cfg.id ++ rest)).length := by
    simp [ascii, putUint32]
  have own : (parseRPTCConfig (ascii "RPTC" ++ (putUint32 cfg.id ++ rest))).dmrID = cfg.id := by
    have read : uint32At (ascii "RPTC" ++ (putUint32 cfg.id ++ rest)) 4 = cfg.id := uint32At_append (ascii "RPTC") rest cfg.id
    simp only [parseRPTCConfig]
    split <;> exact read
  have short : ¬(ascii "RPTC" ++ (putUint32 cfg.id ++ rest)).length < 8 := Nat.not_lt.mpr long
  rw [handlePacket_eq, kindOf_config, other]
  simp only [Bool.false_eq_true, if_false, handleConfig, short, valid, decide_false, Bool.not_true, Bool.or_false]
  exact ⟨_, _, rfl, _, view_enter _, rfl, own⟩

theorem handlePacket_lost (first : startsWithL cfg.id = true) (rest : Bytes) :
    ∃ (result : Sessions) (effects : List Effect),
      handlePacket server sha256 env sessions (ascii "RPTC" ++ (putUint32 cfg.id ++ rest)) addr = (result, effects) ∧
      answersTo addr effects = [] := by
  rw [handlePacket_eq, kindOf_config, first]
  simp only [if_true, handleDisconnect, setOffline]
  split
  · exact ⟨_, _, rfl, rfl⟩
  · split <;> exact ⟨_, _, rfl, rfl⟩

theorem handlePacket_pongs (nonzero : cfg.id ≠ 0) {sess : Session} (held : sessions.view addr.string = some sess)
    (ready : sess.state = .ready) :
    ∃ (result : Sessions) (info : PeerInfo),
      handlePacket server sha256 env sessions (ascii "RPTPING" ++ putUint32 cfg.id) addr =
        (result, [.emitPeer info, .sendRaw addr (ascii "MSTPONG" ++ putUint32 server.id)]) ∧
      ∃ after, result.view addr.string = some after ∧ after.state = .ready ∧ after.info.dmrID = sess.info.dmrID := by
  obtain ⟨ref, bound, rfl⟩ := view_eq_some.mp held
  have valid : validID (ascii "RPTPING" ++ putUint32 cfg.id) 7 = true := by
    have valid := validID_append nonzero (ascii "RPTPING") []
    rwa [append_nil] at valid
  have short : ¬(ascii "RPTPING" ++ putUint32 cfg.id).length < 11 := by simp [ascii, putUint32]
  have same : boundSession sessions env.order addr (uint32At (ascii "RPTPING" ++ putUint32 cfg.id) 7) = (sessions, some ref) := by
    simp [boundSession, bound, ready]
  rw [handlePacket_eq, kindOf_ping]
  simp only [handlePing, short, valid, same, ready, decide_false, Bool.not_true, Bool.or_false, Bool.false_eq_true, if_false,
    BEq.rfl, if_true]
  refine ⟨_, _, rfl, _, view_eq_some.mpr ⟨ref, bound, rfl⟩, ?_, ?_⟩
  · simp [Session.touch, ready]
  · simp [Session.touch]

end

structure Link.At (w : Link) (state : ClientState) (toServer toClient : List Bytes) (sess : Session) : Prop where
  client : w.client = { Client.start with state }
  toServer : w.toServer = toServer
  toClient : w.toClient = toClient
  session : w.sessions.view addr.string = some sess

def Link.Stage (w : Link) : Nat → Prop
  | 0 => w.client = .start ∧ w.toServer = sentBy [sendLogin cfg] ∧ w.toClient = []
  | 1 => ∃ (challenge : Vector UInt8 4) (sess : Session), w.At addr .sentLogin [] [rptAck ++ challenge.toList] sess ∧
      sess.state = .sentChallenge ∧ sess.challenge = challenge.toList
  | 2 => ∃ (challenge : Vector UInt8 4) (sess : Session),
      w.At addr .sentAuth (sentBy [sendRPTK cfg sha256 challenge.toList]) [] sess ∧
      sess.state = .sentChallenge ∧ sess.challenge = challenge.toList
  | 3 => ∃ sess : Session, w.At addr .sentAuth [] [rptAck] sess ∧ sess.state = .awaitConfig
  | 4 => ∃ sess : Session, w.At addr .sentRPTC (sentBy [sendRPTC cfg]) [] sess ∧ sess.state = .awaitConfig
  | 5 => ∃ sess : Session, w.At addr .sentRPTC [] [rptAck] sess ∧ sess.state = .ready ∧ sess.info.dmrID = cfg.id
  | _ => w.LoggedIn cfg addr ∧ (∀ data ∈ w.toServer, .send data = sendPing cfg) ∧
      ∀ data ∈ w.toClient, data = ascii "MSTPONG" ++ putUint32 server.id

section

variable {cfg server sha256 addr} {w : Link} {k : Nat} {event : LinkEvent} {rest : List Bytes}

theorem handler_challenge (c : Client) (waiting : c.state = .sentLogin) (challenge : Vector UInt8 4) (now : Time) :
    c.handler cfg sha256 (rptAck ++ challenge.toList) now =
      ({ c with state := .sentAuth }, [.publishStatus "authenticating" false, sendRPTK cfg sha256 challenge.toList]) := by
  have length : (rptAck ++ challenge.toList).length = 10 := by simp [rptAck, ascii]
  have acks : isRptAck (rptAck ++ challenge.toList) = true := by
    rw [isRptAck, length]
    simp [rptAck, ascii]
  have random : (rptAck ++ challenge.toList).drop 6 = challenge.toList := by simp [rptAck, ascii]
  simp [handler, length, handleState, waiting, handleSentLogin, acks, random]

theorem handler_ack_auth (c : Client) (waiting : c.state = .sentAuth) (now : Time) : c.handler cfg sha256 rptAck now =
      ({ c with state := .sentRPTC }, [.publishStatus "configuring" false, sendRPTC cfg]) := by
  have length : ¬rptAck.length < 4 := by decide
  have acks : isRptAck rptAck = true := by decide
  simp [handler, length, handleState, waiting, handleSentAuth, acks]

theorem handler_ack_config (c : Client) (waiting : c.state = .sentRPTC) (now : Time) : c.handler cfg sha256 rptAck now =
      ({ c with state := .ready, pings := c.pings ++ [.starting] }, [.publishStatus "online" true]) := by
  have length : ¬rptAck.length < 4 := by decide
  have acks : isRptAck rptAck = true := by decide
  simp [handler, length, handleState, waiting, handleSentRPTC, acks]

theorem handler_pong (c : Client) (ready : c.state = .ready) (now : Time) :
    c.handler cfg sha256 (ascii "MSTPONG" ++ putUint32 server.id) now =
      ({ c with lastPing := now }, [.publishStatus "online" true]) := by
  simp [handler, handleState, ready, handleReady, ascii, putUint32]

theorem Link.step_toServer {data : Bytes} {clock : Nat → Time} {challenge : Vector UInt8 4} {order : Enumeration String}
    {sessions : Sessions} {effects : List Effect} (queue : w.toServer = data :: rest)
    (handled : handlePacket server sha256 ⟨clock, some challenge, order⟩ w.sessions data addr = (sessions, effects)) :
    w.step cfg server sha256 addr (.toServer clock challenge order) =
      { client := w.client, sessions, toServer := rest, toClient := w.toClient ++ answersTo addr effects } := by
  simp only [step, queue, handled, afterServer]

theorem Link.step_toClient {data : Bytes} {now : Time} {c : Client} {effects : List ClientEffect}
    (queue : w.toClient = data :: rest) (handled : w.client.handler cfg sha256 data now = (c, effects)) :
    w.step cfg server sha256 addr (.toClient now) =
      { client := c, sessions := w.sessions, toServer := w.toServer ++ sentBy effects, toClient := rest } := by
  simp only [step, queue, handled, afterClient]

theorem answersTo_cons (data : Bytes) (effects : List Effect) :
    answersTo addr (.sendRaw addr data :: effects) = data :: answersTo addr effects := by
  simp [answersTo]

theorem answersTo_emitPeer (info : PeerInfo) (effects : List Effect) :
    answersTo addr (.emitPeer info :: effects) = answersTo addr effects := by
  simp [answersTo]

theorem Link.step_of_no_pings (silent : event.direction = none) (none : w.client.pings = []) :
    w.step cfg server sha256 addr event = w := by
  cases event with
  | toServer clock challenge order => cases silent
  | toClient now => cases silent
  | startPing i now => simp [step, startPing, none, afterClient, sentBy]
  | tickPing i now =>
    simp only [step]
    split
    · rfl
    · simp [tickPing, none, afterClient, sentBy]

theorem Link.step_of_empty (empty : if k % 2 = 0 then w.toClient = [] else w.toServer = [])
    (none : w.client.pings = []) (other : event.direction ≠ some (k % 2 == 0)) :
    w.step cfg server sha256 addr event = w := by
  cases event with
  | toServer clock challenge order =>
    have odd : ¬k % 2 = 0 := fun even => other (by simp [LinkEvent.direction, even])
    rw [if_neg odd] at empty
    simp only [step, empty]
  | toClient now =>
    have even : k % 2 = 0 := by
      by_contra odd
      exact other (by simp [LinkEvent.direction, odd])
    rw [if_pos even] at empty
    simp only [step, empty]
  | startPing i now => exact step_of_no_pings rfl none
  | tickPing i now => exact step_of_no_pings rfl none

theorem Link.Stage.one_queue (stage : w.Stage cfg server sha256 addr k) (early : k < 6) :
    (if k % 2 = 0 then w.toClient = [] else w.toServer = []) ∧ w.client.pings = [] := by
  have pings {state : ClientState} {toServer toClient : List Bytes} {sess : Session}
      (at' : w.At addr state toServer toClient sess) : w.client.pings = [] := by
    rw [at'.client]
    rfl
  match k, early, stage with
  | 0, _, ⟨client, _, toClient⟩ => exact ⟨toClient, by rw [client]; rfl⟩
  | 1, _, ⟨_, _, at', _⟩ => exact ⟨at'.toServer, pings at'⟩
  | 2, _, ⟨_, _, at', _⟩ => exact ⟨at'.toClient, pings at'⟩
  | 3, _, ⟨_, at', _⟩ => exact ⟨at'.toServer, pings at'⟩
  | 4, _, ⟨_, at', _⟩ => exact ⟨at'.toClient, pings at'⟩
  | 5, _, ⟨_, at', _⟩ => exact ⟨at'.toServer, pings at'⟩

theorem Link.Stage.advance (nonzero : cfg.id ≠ 0) (shared : server.password = cfg.password)
    (stage : w.Stage cfg server sha256 addr k) (early : k < 6) (other : k = 4 → startsWithL cfg.id = false)
    (moves : event.direction = some (k % 2 == 0)) :
    (w.step cfg server sha256 addr event).Stage cfg server sha256 addr (k + 1) := by
  match k, early, stage with
  | 0, _, ⟨client, toServer, toClient⟩ =>
    cases event with
    | toServer clock challenge order =>
      obtain ⟨result, handled, sess, held, state, issued⟩ :=
        @handlePacket_challenges cfg server sha256 addr w.sessions ⟨clock, some challenge, order⟩ challenge nonzero rfl
      rw [step_toServer toServer handled, client, toClient, answersTo_cons]
      exact ⟨challenge, sess, ⟨rfl, rfl, rfl, held⟩, state, issued⟩
    | _ => cases moves
  | 1, _, ⟨challenge, sess, at', state, issued⟩ =>
    cases event with
    | toClient now =>
      have handled := @handler_challenge cfg sha256 w.client (by rw [at'.client]) challenge now
      rw [step_toClient at'.toClient handled, at'.client, at'.toServer]
      exact ⟨challenge, sess, ⟨rfl, rfl, rfl, at'.session⟩, state, issued⟩
    | _ => cases moves
  | 2, _, ⟨challenge, sess, at', state, issued⟩ =>
    cases event with
    | toServer clock random order =>
      obtain ⟨result, handled, sess, held, state⟩ :=
        @handlePacket_authenticates cfg server sha256 addr w.sessions ⟨clock, some random, order⟩ nonzero _ sess
          at'.session state issued shared
      rw [step_toServer at'.toServer handled, at'.client, at'.toClient, sendACK, answersTo_cons]
      exact ⟨sess, ⟨rfl, rfl, rfl, held⟩, state⟩
    | _ => cases moves
  | 3, _, ⟨sess, at', state⟩ =>
    cases event with
    | toClient now =>
      have handled := @handler_ack_auth cfg sha256 w.client (by rw [at'.client]) now
      rw [step_toClient at'.toClient handled, at'.client, at'.toServer]
      exact ⟨sess, ⟨rfl, rfl, rfl, at'.session⟩, state⟩
    | _ => cases moves
  | 4, _, ⟨sess, at', state⟩ =>
    cases event with
    | toServer clock random order =>
      obtain ⟨rest, packet⟩ := sendRPTC_eq cfg
      have queue := at'.toServer
      rw [packet] at queue
      obtain ⟨result, info, handled, sess, held, ready, own⟩ :=
        @handlePacket_configures cfg server sha256 addr w.sessions ⟨clock, some random, order⟩ nonzero (other rfl) rest
      rw [step_toServer queue handled, at'.client, at'.toClient, sendACK, answersTo_emitPeer, answersTo_cons]
      exact ⟨sess, ⟨rfl, rfl, rfl, held⟩, ready, own⟩
    | _ => cases moves
  | 5, _, ⟨sess, at', ready, own⟩ =>
    cases event with
    | toClient now =>
      have handled := @handler_ack_config cfg sha256 w.client (by rw [at'.client]) now
      rw [step_toClient at'.toClient handled, at'.client, at'.toServer]
      refine ⟨⟨rfl, sess, at'.session, ready, own⟩, ?_, ?_⟩
      · intro data member
        cases member
      · intro data member
        cases member
    | _ => cases moves

theorem Link.afterClient_ready (c : Client) (effects : List ClientEffect) (stage : w.Stage cfg server sha256 addr 6)
    (ready : c.state = .ready) (pings : ∀ data ∈ sentBy effects, .send data = sendPing cfg) :
    (w.afterClient (c, effects)).Stage cfg server sha256 addr 6 := by
  obtain ⟨⟨_, session⟩, queued, answered⟩ := stage
  refine ⟨⟨ready, session⟩, fun data member => ?_, answered⟩
  rcases mem_append.mp member with earlier | new
  · exact queued data earlier
  · exact pings data new

theorem Link.Stage.stays (nonzero : cfg.id ≠ 0) (stage : w.Stage cfg server sha256 addr 6) :
    (w.step cfg server sha256 addr event).Stage cfg server sha256 addr 6 := by
  have ⟨⟨state, sess, held, ready, own⟩, queued, answered⟩ := stage
  have onePing : ∀ data ∈ sentBy [sendPing cfg], .send data = sendPing cfg := by
    intro data member
    rw [mem_singleton.mp member]
    rfl
  cases event with
  | toServer clock random order =>
    cases queue : w.toServer with
    | nil =>
      simp only [step, queue]
      exact stage
    | cons data rest =>
      have ping := queued data (by rw [queue]; exact mem_cons_self)
      obtain rfl := send.inj ping
      obtain ⟨result, info, handled, after, held', ready', same⟩ :=
        @handlePacket_pongs cfg server sha256 addr w.sessions ⟨clock, some random, order⟩ nonzero sess held ready
      rw [step_toServer queue handled, answersTo_emitPeer, answersTo_cons]
      refine ⟨⟨state, after, held', ready', same.trans own⟩, fun data member => ?_, fun data member => ?_⟩
      · exact queued data (by rw [queue]; exact mem_cons_of_mem _ member)
      · rcases mem_append.mp member with earlier | new
        · exact answered data earlier
        · exact mem_singleton.mp new
  | toClient now =>
    cases queue : w.toClient with
    | nil =>
      simp only [step, queue]
      exact stage
    | cons data rest =>
      obtain rfl := answered data (by rw [queue]; exact mem_cons_self)
      have handled := @handler_pong cfg server sha256 w.client state now
      rw [step_toClient queue handled]
      refine ⟨⟨state, sess, held, ready, own⟩, fun data member => ?_, fun data member => ?_⟩
      · exact queued data (by simpa [sentBy] using member)
      · exact answered data (by rw [queue]; exact mem_cons_of_mem _ member)
  | startPing i now =>
    simp only [step, startPing]
    split
    · exact afterClient_ready _ _ stage state onePing
    · exact afterClient_ready _ _ stage state (by simp [sentBy])
  | tickPing i now =>
    simp only [step]
    split
    · exact stage
    · rename_i inTime
      simp only [tickPing, inTime]
      split
      · exact afterClient_ready _ _ stage state onePing
      · exact afterClient_ready _ _ stage state (by simp [sentBy])

theorem Link.Stage.run (nonzero : cfg.id ≠ 0) (shared : server.password = cfg.password)
    (other : startsWithL cfg.id = false) (events : List LinkEvent) (stage : w.Stage cfg server sha256 addr k) (early : k ≤ 6)
    (delivers : ([true, false, true, false, true, false].drop k).Sublist (events.filterMap LinkEvent.direction)) :
    (runFrom (step cfg server sha256 addr) w events).Stage cfg server sha256 addr 6 := by
  induction events generalizing w k with
  | nil =>
    have finished : k = 6 := by
      have length := delivers.length_le
      simp only [length_drop, length_cons, length_nil, filterMap_nil] at length
      omega
    exact finished ▸ stage
  | cons event events ih =>
    rw [runFrom_cons]
    by_cases last : k = 6
    · subst last
      exact ih (stage.stays nonzero) le_rfl (nil_sublist _)
    · have early : k < 6 := by omega
      have next : [true, false, true, false, true, false].drop k =
          (k % 2 == 0) :: [true, false, true, false, true, false].drop (k + 1) := by
        match k, early with
        | 0, _ | 1, _ | 2, _ | 3, _ | 4, _ | 5, _ => rfl
      rw [next] at delivers
      by_cases moves : event.direction = some (k % 2 == 0)
      · refine ih (stage.advance nonzero shared early (fun _ => other) moves) early ?_
        rw [filterMap_cons_some moves] at delivers
        exact delivers.of_cons_cons
      · obtain ⟨empty, pings⟩ := stage.one_queue early
        rw [step_of_empty empty pings moves]
        refine ih stage early.le ?_
        rw [next]
        cases direction : event.direction with
        | none => rwa [filterMap_cons_none direction] at delivers
        | some towards =>
          rw [filterMap_cons_some direction] at delivers
          have differ : (k % 2 == 0) ≠ towards := by
            intro same
            exact moves (direction.trans (congrArg some same.symm))
          exact delivers.of_cons_of_ne differ

theorem Link.Stage.lost (stage : w.Stage cfg server sha256 addr 4) (first : startsWithL cfg.id = true)
    (clock : Nat → Time) (random : Vector UInt8 4) (order : Enumeration String) (now : Time) :
    ((w.step cfg server sha256 addr (.toServer clock random order)).step cfg server sha256 addr (.toClient now)).client.state =
      .sentRPTC := by
  obtain ⟨sess, at', _⟩ := stage
  obtain ⟨rest, packet⟩ := sendRPTC_eq cfg
  have queue := at'.toServer
  rw [packet] at queue
  obtain ⟨result, effects, handled, silent⟩ :=
    @handlePacket_lost cfg server sha256 addr w.sessions ⟨clock, some random, order⟩ first rest
  rw [step_toServer queue handled, silent, at'.client, at'.toClient]
  rfl

theorem loginCompletes_iff (nonzero : cfg.id ≠ 0) (shared : server.password = cfg.password) (sessions : Sessions) :
    LoginCompletes cfg server sha256 addr sessions ↔ startsWithL cfg.id = false := by
  have started : (start cfg sessions).Stage cfg server sha256 addr 0 := ⟨rfl, rfl, rfl⟩
  constructor
  · intro completes
    cases first : startsWithL cfg.id with
    | false => rfl
    | true =>
      let toServer : LinkEvent := .toServer (fun _ => 0) (.replicate 4 0) (.increasing String)
      let toClient : LinkEvent := .toClient 0
      have early {w : Link} {k : Nat} (event : LinkEvent) (stage : w.Stage cfg server sha256 addr k) (before : k < 4)
          (moves : event.direction = some (k % 2 == 0)) :
          (w.step cfg server sha256 addr event).Stage cfg server sha256 addr (k + 1) :=
        stage.advance nonzero shared (by omega) (fun last => absurd last (Nat.ne_of_lt before)) moves
      have challenged := early toServer started (by decide) rfl
      have answered := early toClient challenged (by decide) rfl
      have accepted := early toServer answered (by decide) rfl
      have configured := early toClient accepted (by decide) rfl
      have ready := (completes [toServer, toClient, toServer, toClient, toServer, toClient] (List.Sublist.refl _)).1
      have stuck := configured.lost first (fun _ => 0) (.replicate 4 0) (.increasing String) 0
      cases stuck.symm.trans ready
  · intro other events delivers
    exact (started.run nonzero shared other events (by decide) delivers).1

end

end

/-- For every ID but zero: the login completes, and the packets go to the handlers of their
kinds, unless the first byte of the ID is `L`. -/
theorem login_completes_iff (cfg : ClientConfig) (server : ServerConfig) (sha256 : Bytes → Digest) (addr : UDPAddr)
    (sessions : Sessions) (nonzero : cfg.id ≠ 0) (shared : server.password = cfg.password) :
    (LoginCompletes cfg server sha256 addr sessions ↔ startsWithL cfg.id = false) ∧
      (OwnHandlers cfg sha256 ↔ startsWithL cfg.id = false) :=
  ⟨loginCompletes_iff nonzero shared sessions, ownHandlers_iff cfg sha256⟩

def hotspotWith (id : UInt32) : ClientConfig :=
  { id, password := ascii "secret", callsign := "N0CALL", rxFreq := 438800000, txFreq := 431200000, txPower := 1
    colorCode := 1, latitude := ascii "+00.0000", longitude := ascii "+000.0000", height := 0, location := ""
    description := "", url := "", slots := 0 }

def masterServer : ServerConfig := { name := "master", id := 9, password := ascii "secret" }

theorem login_completes_plain :
    LoginCompletes (hotspotWith 460001) masterServer (fun _ => .replicate 32 0) ⟨"192.0.2.1", 40000, ""⟩
      (.empty String Session) :=
  (login_completes_iff (hotspotWith 460001) masterServer (fun _ => .replicate 32 0) ⟨"192.0.2.1", 40000, ""⟩
    (.empty String Session) (by decide) rfl).1.mpr (by decide)

/-- With the ID 0x4C000001 everything is delivered, and the client waits for the answer to its
configuration at a server that has forgotten it. -/
theorem login_taken_for_disconnect :
    let toServer : LinkEvent := .toServer (fun _ => 0) (.replicate 4 7) (.increasing String)
    let link := runFrom (Link.step (hotspotWith 0x4C000001) masterServer (fun _ => .replicate 32 0) ⟨"192.0.2.1", 40000, ""⟩)
      (.start (hotspotWith 0x4C000001) (.empty String Session))
      [toServer, .toClient 0, toServer, .toClient 0, toServer, .toClient 0]
    link.client.state = .sentRPTC ∧ link.toServer = [] ∧ link.toClient = [] ∧
      link.sessions.find "192.0.2.1:40000" = none ∧
      ¬OwnHandlers (hotspotWith 0x4C000001) (fun _ => .replicate 32 0) := by
  refine ⟨by decide +kernel, by decide +kernel, by decide +kernel, by decide +kernel, fun own => ?_⟩
  have kind := own.config _ rfl
  revert kind
  decide +kernel

end Ipsc2Mmdvm.Mmdvm
