import Ipsc2Mmdvm.Data.Bytes
import Ipsc2Mmdvm.Data.Clock
import Ipsc2Mmdvm.Data.Net
import Ipsc2Mmdvm.Data.PtrMap
import Ipsc2Mmdvm.Data.Transitions
import Ipsc2Mmdvm.Proto.Packet

namespace Ipsc2Mmdvm.Mmdvm

open Data Proto

/-! Hotspots log in, are challenged, authenticate, send their configuration and then exchange DMRD
packets.  The session watchdog runs beside: it collects the keys of the sessions that timed out and
then takes them offline one by one. -/

inductive ServerState where
  | idle
  | sentChallenge
  | awaitConfig
  | ready
deriving DecidableEq

/-- What the server publishes about a hotspot.  Texts out of a datagram need not
be UTF-8 and are kept as bytes. -/
structure PeerInfo where
  listener : String := ""
  sourceKey : String := ""
  dmrID : UInt32 := 0
  callsign : Bytes := []
  model : Bytes := []
  description : Bytes := []
  location : Bytes := []
  url : Bytes := []
  ip : String := ""
  port : Nat := 0
  online : Bool := false
  lastSeenAt : Time := 0
  rxFreq : UInt64 := 0
  txFreq : UInt64 := 0
  txPower : UInt8 := 0
  colorCode : UInt8 := 0
  height : UInt16 := 0
  slots : UInt8 := 0
deriving DecidableEq

structure Session where
  addr : UDPAddr
  state : ServerState := .idle
  challenge : Bytes := []
  info : PeerInfo := {}
  lastPing : Time := 0
deriving DecidableEq

instance : Inhabited Session := ⟨{ addr := ⟨"", 0, ""⟩ }⟩

abbrev Sessions := PtrMap String Session

structure ServerConfig where
  name : String
  id : UInt32
  password : Bytes

/-- What handling an event does besides changing the session table.  A packet
handed on is labelled with the session it was received for. -/
inductive Effect where
  | sendRaw (addr : UDPAddr) (data : Bytes)
  | emitPeer (info : PeerInfo)
  | handleOutboundPacketFrom (sess : Ref) (sourceKey : String) (pkt : Packet)
deriving DecidableEq

/-- The clock readings taken while a datagram is handled, the random challenge
(`none` if `rand.Read` fails) and the order of a map iteration. -/
structure Env where
  clock : Nat → Time
  challenge : Option (Vector UInt8 4)
  order : Enumeration String

def getOrCreateSessionLocked (sessions : Sessions) (addr : UDPAddr) : Sessions × Ref :=
  match sessions.find addr.string with
  | some sess => (sessions.modify sess ({ · with addr }), sess)
  | none => ((sessions.alloc { addr }).store addr.string sessions.next, sessions.next)

def findReadySessionByDMRIDLocked (sessions : Sessions) (order : Enumeration String)
    (dmrid : UInt32) : Option (String × Ref) :=
  sessions.findWhere order fun _ sess => sess.state == .ready && sess.info.dmrID == dmrid

def rebindSessionLocked (sessions : Sessions) (oldKey : String) (addr : UDPAddr) (sess : Ref) :
    Sessions :=
  let newKey := addr.string
  if newKey = "" then sessions
  else
    let sessions := if oldKey ≠ "" ∧ oldKey ≠ newKey then sessions.delete oldKey else sessions
    (sessions.modify sess ({ · with addr })).store newKey sess

/-- The session a ping or a DMRD packet belongs to: the one at its address or,
if that one is not ready, a ready one with its DMR ID, which then moves to the
address. -/
def boundSession (sessions : Sessions) (order : Enumeration String) (addr : UDPAddr)
    (dmrid : UInt32) : Sessions × Option Ref :=
  let sess := sessions.find addr.string
  let ready := sess.any fun sess => (sessions.deref sess).state == .ready
  if !ready && dmrid != 0 then
    match findReadySessionByDMRIDLocked sessions order dmrid with
    | some (oldKey, rebound) => (rebindSessionLocked sessions oldKey addr rebound, some rebound)
    | none => (sessions, sess)
  else (sessions, sess)

def PeerInfo.statusString (info : PeerInfo) : PeerInfo :=
  { info with
    online := false
    model := if info.model = [] then ascii "MMDVM Client" else info.model }

def setOffline (sessions : Sessions) (key : String) : Sessions × List Effect :=
  match sessions.find key with
  | none => (sessions, [])
  | some sess =>
    let info := { (sessions.deref sess).info with online := false }
    (sessions.delete key, [.emitPeer info.statusString])

def validID (data : Bytes) (offset : Nat) : Bool :=
  if data.length < offset + 4 then false else uint32At data offset != 0

def trimASCII (data : Bytes) : Bytes := trimSpace (trimZeros data)

def parseUintField (data : Bytes) : UInt64 :=
  data.foldl (fun out b =>
    if b < 0x30 || b > 0x39 then out else out * 10 + (b - 0x30).toUInt64) 0

def parseRPTCConfig (data : Bytes) : PeerInfo :=
  let info : PeerInfo := { dmrID := if data.length ≥ 8 then uint32At data 4 else 0 }
  if data.length < 98 then info
  else
    let model := if data.length ≥ 302 then trimASCII (slice data 262 302) else []
    { info with
      callsign := trimASCII (slice data 8 16)
      rxFreq := parseUintField (slice data 16 25)
      txFreq := parseUintField (slice data 25 34)
      txPower := (parseUintField (slice data 34 36)).toUInt8
      colorCode := (parseUintField (slice data 36 38)).toUInt8
      height := (parseUintField (slice data 55 58)).toUInt16
      location := trimASCII (slice data 58 78)
      description := trimASCII (slice data 78 97)
      slots := (parseUintField (slice data 97 98)).toUInt8
      url := if data.length ≥ 222 then trimASCII (slice data 98 222) else []
      model := if model = [] then ascii "MMDVM Client" else model }

def rptAck : Bytes := ascii "RPTACK"

def sendACK (addr : UDPAddr) : Effect := .sendRaw addr rptAck

def sendNAK (addr : UDPAddr) : Effect := .sendRaw addr (ascii "RPTNAK")

def beginHandshake (env : Env) (sessions : Sessions) (addr : UDPAddr) : Sessions × List Effect :=
  match env.challenge with
  | none => (sessions, [sendNAK addr])
  | some challenge =>
    let (sessions, sess) := getOrCreateSessionLocked sessions addr
    (sessions.modify sess ({ · with state := .sentChallenge, challenge := challenge.toList }),
      [.sendRaw addr (rptAck ++ challenge.toList)])

def handleLogin (env : Env) (sessions : Sessions) (data : Bytes) (addr : UDPAddr) :
    Sessions × List Effect :=
  if !validID data 4 then (sessions, [sendNAK addr])
  else beginHandshake env sessions addr

def handleDisconnect (sessions : Sessions) (data : Bytes) (addr : UDPAddr) :
    Sessions × List Effect :=
  if data.length < 9 || !validID data 5 then (sessions, [])
  else setOffline sessions addr.string

section

variable (cfg : ServerConfig) (sha256 : Bytes → Digest)

def handleAuth (sessions : Sessions) (data : Bytes) (addr : UDPAddr) : Sessions × List Effect :=
  if data.length < 40 || !validID data 4 then (sessions, [sendNAK addr])
  else
    match sessions.find addr.string with
    | none => (sessions, [sendNAK addr])
    | some sess =>
      if (sessions.deref sess).state != .sentChallenge then (sessions, [sendNAK addr])
      else if slice data 8 40 != (sha256 ((sessions.deref sess).challenge ++ cfg.password)).toList then
        (sessions, [sendNAK addr])
      else
        let (sessions, sess) := getOrCreateSessionLocked sessions addr
        (sessions.modify sess ({ · with state := .awaitConfig }), [sendACK addr])

def handleConfig (env : Env) (sessions : Sessions) (data : Bytes) (addr : UDPAddr) :
    Sessions × List Effect :=
  if data.length < 8 || !validID data 4 then (sessions, [sendNAK addr])
  else
    let parsed := parseRPTCConfig data
    let info := { parsed with
      listener := cfg.name
      ip := addr.ip
      port := addr.port
      online := true
      lastSeenAt := env.clock 0
      sourceKey := "mmdvm:" ++ cfg.name ++ ":" ++
        if parsed.dmrID = 0 then addr.string else toString parsed.dmrID.toNat }
    let (sessions, sess) := getOrCreateSessionLocked sessions addr
    (sessions.modify sess ({ · with state := .ready, lastPing := env.clock 1, info }),
      [.emitPeer info, sendACK addr])

def Session.touch (sess : Session) (addr : UDPAddr) (now : Time) : Session :=
  { sess with
    lastPing := now
    addr
    info := { sess.info with ip := addr.ip, port := addr.port, lastSeenAt := now } }

def handlePing (env : Env) (sessions : Sessions) (data : Bytes) (addr : UDPAddr) :
    Sessions × List Effect :=
  if data.length < 11 || !validID data 7 then (sessions, [])
  else
    match boundSession sessions env.order addr (uint32At data 7) with
    | (sessions, none) => beginHandshake env sessions addr
    | (sessions, some sess) =>
      if (sessions.deref sess).state == .ready then
        let touched := (sessions.deref sess).touch addr (env.clock 0)
        let online := { touched with info := { touched.info with online := true } }
        (sessions.modify sess fun _ => online,
          [.emitPeer online.info, .sendRaw addr (ascii "MSTPONG" ++ putUint32 cfg.id)])
      else beginHandshake env sessions addr

def handleDMRD (env : Env) (sessions : Sessions) (data : Bytes) (addr : UDPAddr) :
    Sessions × List Effect :=
  match decode data with
  | none => (sessions, [])
  | some packet =>
    match boundSession sessions env.order addr packet.repeater.toUInt32 with
    | (sessions, none) => (sessions, [])
    | (sessions, some sess) =>
      if (sessions.deref sess).state == .ready then
        let touched := (sessions.deref sess).touch addr (env.clock 0)
        (sessions.modify sess fun _ => touched,
          [.emitPeer touched.info, .handleOutboundPacketFrom sess touched.info.sourceKey packet])
      else (sessions, [])

/-- A configuration packet of a hotspot whose ID starts with the byte `L` is
taken for a disconnect. -/
def handlePacket (env : Env) (sessions : Sessions) (data : Bytes) (addr : UDPAddr) :
    Sessions × List Effect :=
  if data.length < 4 then (sessions, [])
  else if data.length ≥ 5 && data.take 5 == ascii "RPTCL" then handleDisconnect sessions data addr
  else if data.take 4 == ascii "RPTL" then handleLogin env sessions data addr
  else if data.take 4 == ascii "RPTK" then handleAuth cfg sha256 sessions data addr
  else if data.take 4 == ascii "RPTC" then handleConfig cfg env sessions data addr
  else if data.take 4 == ascii "RPTP" then
    if data.length ≥ 7 && data.take 7 == ascii "RPTPING" then handlePing cfg env sessions data addr
    else (sessions, [])
  else if data.take 4 == ascii "DMRD" then handleDMRD env sessions data addr
  else (sessions, [])

end

def serverTimeout : Duration := 180 * second

structure Server where
  sessions : Sessions
  stale : List String

def newMMDVMServer : Server := ⟨.empty String Session, []⟩

def Session.isStale (sess : Session) (now : Time) : Bool :=
  sess.state == .ready && !Time.isZero sess.lastPing &&
    decide (serverTimeout < Time.sub now sess.lastPing)

def staleKeys (sessions : Sessions) (now : Time) (order : Enumeration String) : List String :=
  (order.order sessions.refs.keys).filter fun key =>
    (sessions.find key).any fun sess => (sessions.deref sess).isStale now

inductive ServerEvent where
  | datagram (addr : UDPAddr) (data : Bytes) (env : Env)
  | tick (now : Time) (order : Enumeration String)
  | expire

/-- The watchdog reads its ticker again only when nothing is left to take offline. -/
def Server.handle (cfg : ServerConfig) (sha256 : Bytes → Digest) (h : Server) :
    ServerEvent → Server × List Effect
  | .datagram addr data env =>
    let (sessions, effects) := handlePacket cfg sha256 env h.sessions data addr
    ({ h with sessions }, effects)
  | .tick now order =>
    if h.stale = [] then ({ h with stale := staleKeys h.sessions now order }, []) else (h, [])
  | .expire =>
    match h.stale with
    | [] => (h, [])
    | key :: stale =>
      let (sessions, effects) := setOffline h.sessions key
      ({ sessions, stale }, effects)

end Ipsc2Mmdvm.Mmdvm
