import Ipsc2Mmdvm.Data.Bytes
import Ipsc2Mmdvm.Data.Clock
import Ipsc2Mmdvm.Data.GoMap
import Ipsc2Mmdvm.Data.Net
import Ipsc2Mmdvm.Proto.Packet

namespace Ipsc2Mmdvm.Ipsc

open Data Proto

/-! The IPSC server: the master that Motorola repeaters register with and send their bursts to. -/

structure Peer where
  id : UInt32
  addr : Option UDPAddr := none
  mode : UInt8 := 0
  flags : Vector UInt8 4 := #v[0, 0, 0, 0]
  lastSeen : Time := 0
  keepAliveReceived : UInt64 := 0
  registrationStatus : Bool := false
deriving DecidableEq

inductive PacketType where
  | groupVoice
  | privateVoice
  | groupData
  | privateData
  | repeaterWakeUp
  | masterRegisterRequest
  | masterRegisterReply
  | peerListRequest
  | peerListReply
  | masterAliveRequest
  | masterAliveReply
  | controlF0
deriving DecidableEq

def PacketType.ofByte (byte : UInt8) : Option PacketType :=
  match byte.toNat with
  | 0x80 => some .groupVoice
  | 0x81 => some .privateVoice
  | 0x83 => some .groupData
  | 0x84 => some .privateData
  | 0x85 => some .repeaterWakeUp
  | 0x90 => some .masterRegisterRequest
  | 0x91 => some .masterRegisterReply
  | 0x92 => some .peerListRequest
  | 0x93 => some .peerListReply
  | 0x96 => some .masterAliveRequest
  | 0x97 => some .masterAliveReply
  | 0xF0 => some .controlF0
  | _ => none

def PacketType.isUser : PacketType → Bool
  | .groupVoice | .privateVoice | .groupData | .privateData => true
  | _ => false

inductive PacketError where
  | tooShort
  | tooShortForAuthentication
  | authenticationFailed
  | tooShortForPeerID
  | ignored
  | unknownPacketType (packetType : UInt8)
deriving DecidableEq

def PacketError.text : PacketError → String
  | .tooShort => "packet too short"
  | .tooShortForAuthentication => "packet too short for authentication"
  | .authenticationFailed => "authentication failed"
  | .tooShortForPeerID => "packet too short for peer ID"
  | .ignored => "packet ignored"
  | .unknownPacketType packetType => "unknown packet type: " ++ toString packetType.toNat

inductive Effect where
  | peerHandler (peer : Peer)
  | sendPacket (data : Bytes) (addr : UDPAddr)
  | goBurstHandler (packetType : UInt8) (data : Bytes) (addr : UDPAddr)
deriving DecidableEq

/-- `hmac` is HMAC-SHA1 under the configured key, `to4` is `net.IP.To4`. -/
structure ServerConfig where
  authEnabled : Bool
  hmac : Bytes → Vector UInt8 20
  localID : UInt32
  to4 : String → Bytes

abbrev Peers := GoMap UInt32 Peer

def uint16ToBytes (value : Nat) : Bytes := [(value / 256).toUInt8, value.toUInt8]

def parsePeerID (data : Bytes) : Except PacketError UInt32 :=
  if data.length < 5 then .error .tooShortForPeerID else .ok (uint32At data 1)

def upsertPeer (now : Time) (peers : Peers) (peerID : UInt32) (addr : UDPAddr) (mode : UInt8)
    (flags : Vector UInt8 4) : Peers × Peer :=
  let peer := (peers.lookup peerID).getD { id := peerID }
  let peer := { peer with addr := some addr, mode, flags, lastSeen := now, registrationStatus := true }
  (peers.insert peerID peer, peer)

def markPeerAlive (now : Time) (peers : Peers) (peerID : UInt32) (addr : UDPAddr) : Peers × Peer :=
  let peer := (peers.lookup peerID).getD { id := peerID }
  let peer := { peer with
    addr := some addr, lastSeen := now, keepAliveReceived := peer.keepAliveReceived + 1 }
  (peers.insert peerID peer, peer)

namespace ServerConfig

def ipscVersion : Bytes := [0x04, 0x02, 0x04, 0x01]

def defaultModeByte : UInt8 := 0b01000000 ||| 0b00100000 ||| 0b00001000 ||| 0b00000010

def defaultFlagsBytes (cfg : ServerConfig) : Vector UInt8 4 :=
  #v[0, 0, 0x00, if cfg.authEnabled then 0x0D ||| 0x10 else 0x0D]

def buildMasterRegisterReply (cfg : ServerConfig) (peers : Peers) : Bytes :=
  0x91 :: putUint32 cfg.localID ++ [defaultModeByte] ++ cfg.defaultFlagsBytes.toList ++
    uint16ToBytes (min peers.keys.card 65535) ++ ipscVersion

def buildMasterAliveReply (cfg : ServerConfig) : Bytes :=
  0x97 :: putUint32 cfg.localID ++ [defaultModeByte] ++ cfg.defaultFlagsBytes.toList ++ ipscVersion

def buildPeerList (cfg : ServerConfig) (order : Enumeration UInt32) (peers : Peers) : Bytes :=
  ((order.order peers.keys).filterMap peers.lookup).flatMap fun peer =>
    match peer.addr with
    | none => []
    | some addr =>
      let peerPort := if addr.port > 65535 then 0 else addr.port
      putUint32 peer.id ++ cfg.to4 addr.ip ++ uint16ToBytes peerPort ++ [peer.mode]

def buildPeerListReply (cfg : ServerConfig) (order : Enumeration UInt32) (peers : Peers) : Bytes :=
  let peerList := cfg.buildPeerList order peers
  0x93 :: putUint32 cfg.localID ++ uint16ToBytes (min peerList.length 65535) ++ peerList

def sealed (cfg : ServerConfig) (data : Bytes) : Bytes :=
  if cfg.authEnabled then data ++ (cfg.hmac data).toList.take 10 else data

def auth (cfg : ServerConfig) (data : Bytes) : Bool :=
  data.drop (data.length - 10) == (cfg.hmac (data.take (data.length - 10))).toList.take 10

end ServerConfig

structure PacketEnv where
  now : Time
  order : Enumeration UInt32

abbrev Handled := Except PacketError (Peers × List Effect)

section

variable (cfg : ServerConfig) (env : PacketEnv) (peers : Peers) (addr : UDPAddr)

def handleMasterRegisterRequest (data : Bytes) : Handled := do
  let peerID ← parsePeerID data
  let long := 10 ≤ data.length
  let mode := if long then data.getD 5 0 else ServerConfig.defaultModeByte
  let flags :=
    if long then #v[data.getD 6 0, data.getD 7 0, data.getD 8 0, data.getD 9 0]
    else cfg.defaultFlagsBytes
  let (peers, peer) := upsertPeer env.now peers peerID addr mode flags
  return (peers, [.peerHandler peer, .sendPacket (cfg.sealed (cfg.buildMasterRegisterReply peers)) addr])

def handleMasterAliveRequest (data : Bytes) : Handled := do
  let peerID ← parsePeerID data
  let (peers, peer) := markPeerAlive env.now peers peerID addr
  return (peers, [.peerHandler peer, .sendPacket (cfg.sealed cfg.buildMasterAliveReply) addr])

def handlePeerListRequest (data : Bytes) : Handled := do
  let _ ← parsePeerID data
  return (peers, [.sendPacket (cfg.sealed (cfg.buildPeerListReply env.order peers)) addr])

def handleRepeaterWakeUp (data : Bytes) : Handled := do
  let peerID ← parsePeerID data
  let (peers, peer) := markPeerAlive env.now peers peerID addr
  return (peers, [.peerHandler peer])

def handleUserPacket (packetType : UInt8) (data : Bytes) : Handled := do
  let peerID ← parsePeerID data
  let (peers, peer) := markPeerAlive env.now peers peerID addr
  return (peers, [.peerHandler peer, .goBurstHandler packetType data addr])

def stripAuth (data : Bytes) : Except PacketError Bytes :=
  if cfg.authEnabled then
    if data.length ≤ 10 then .error .tooShortForAuthentication
    else if !cfg.auth data then .error .authenticationFailed
    else .ok (data.take (data.length - 10))
  else .ok data

def dispatch (packetType : UInt8) (kind : Option PacketType) (data : Bytes) : Handled :=
  match kind with
  | some .groupVoice | some .privateVoice | some .groupData | some .privateData =>
    handleUserPacket env peers addr packetType data
  | some .repeaterWakeUp => handleRepeaterWakeUp env peers addr data
  | some .masterRegisterRequest => handleMasterRegisterRequest cfg env peers addr data
  | some .masterAliveRequest => handleMasterAliveRequest cfg env peers addr data
  | some .peerListRequest => handlePeerListRequest cfg env peers addr data
  | some .masterRegisterReply | some .peerListReply | some .masterAliveReply | some .controlF0 =>
    .error .ignored
  | none => .error (.unknownPacketType packetType)

def handlePacket (data : Bytes) : Handled :=
  match data with
  | [] => .error .tooShort
  | packetType :: _ => do
    let data ← stripAuth cfg data
    dispatch cfg env peers addr packetType (PacketType.ofByte packetType) data

end

end Ipsc2Mmdvm.Ipsc
