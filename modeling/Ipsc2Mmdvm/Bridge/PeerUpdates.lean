import Ipsc2Mmdvm.Data.Text
import Ipsc2Mmdvm.Ipsc.Server
import Ipsc2Mmdvm.Registry.Service

namespace Ipsc2Mmdvm.Bridge

open Data Registry

/-! What the servers report about their peers, and the devices the bridge makes of it. -/

structure MMDVMPeer where
  listener : String
  sourceKey : String
  dmrID : UInt32
  callsign : String
  model : String
  description : String
  location : String
  url : String
  ip : String
  port : Int
  online : Bool
  lastSeenAt : Time
  rxFreq : UInt64
  txFreq : UInt64
  txPower : UInt8
  colorCode : UInt8
  latitude : Rat
  longitude : Rat
  height : UInt16
  slots : UInt8

structure ClientStatus where
  sourceKey : String
  name : String
  callsign : String
  dmrID : UInt32
  master : String
  status : String
  online : Bool
  lastSeenAt : Time
  rxFreq : UInt64
  txFreq : UInt64
  txPower : UInt8
  colorCode : UInt8
  latitude : Rat
  longitude : Rat
  height : UInt16
  location : String
  description : String
  url : String
  slots : UInt8

inductive PeerUpdate where
  | ipsc (peer : Ipsc.Peer)
  | hytera (addr : UDPAddr) (p2pPort dmrPort rdacPort : Int) (dmrID : UInt32)
  | mmdvmServer (peer : MMDVMPeer)
  | mmdvmUpstream (status : ClientStatus)
  | peerOffline (sourceKey : String)

def spacedHex (bytes : List UInt8) : String :=
  (" ".intercalate (bytes.map fun b => hexEncodeToString [b])).map Char.toUpper

def ipscDevice (peer : Ipsc.Peer) : Device :=
  { category := .moto
    protocol := "ipsc"
    sourceKey := "moto:" ++ toString peer.id.toNat
    name := "Moto " ++ toString peer.id.toNat
    dmrID := peer.id
    model := "Motorola IPSC Repeater"
    ip := (peer.addr.map UDPAddr.ip).getD ""
    port := (peer.addr.map fun addr => (addr.port : Int)).getD 0
    status := "online"
    online := true
    lastSeenAt := peer.lastSeen
    extraJSON := "\x7b\"mode\":" ++ toString peer.mode.toNat ++ ",\"flags\":\"" ++
      spacedHex peer.flags.toList ++ "\",\"keepAlive\":" ++ toString peer.keepAliveReceived.toNat ++ "\x7d" }

/-- A repeater that does not report its DMR ID keeps the one in the cache. -/
def hyteraDevice (svc : Service) (now : Time) (addr : UDPAddr) (p2pPort dmrPort rdacPort : Int)
    (dmrID : UInt32) : Device :=
  let sourceKey := "hytera:" ++ addr.ip
  { category := .hytera
    protocol := "hytera"
    sourceKey
    name := "Hytera Repeater"
    dmrID := if dmrID = 0 then ((svc.findDevice sourceKey).map Device.dmrID).getD 0 else dmrID
    model := "Hytera Repeater"
    ip := addr.ip
    port := dmrPort
    status := "online"
    online := true
    lastSeenAt := now
    extraJSON := "\x7b\"p2pPort\":" ++ toString p2pPort ++ ",\"dmrPort\":" ++ toString dmrPort ++
      (if rdacPort > 0 then ",\"rdacPort\":" ++ toString rdacPort else "") ++ "\x7d" }

def mmdvmServerDevice (peer : MMDVMPeer) : Device :=
  { category := .mmdvm
    protocol := "mmdvm"
    sourceKey := peer.sourceKey
    name := peer.listener
    callsign := peer.callsign
    dmrID := peer.dmrID
    model := peer.model
    ip := peer.ip
    port := peer.port
    status := if peer.online then "online" else "offline"
    online := peer.online
    lastSeenAt := peer.lastSeenAt
    rxFreq := peer.rxFreq
    txFreq := peer.txFreq
    txPower := peer.txPower
    colorCode := peer.colorCode
    latitude := peer.latitude
    longitude := peer.longitude
    height := peer.height
    location := peer.location
    description := peer.description
    url := peer.url
    slots := peer.slots }

def mmdvmUpstreamDevice (status : ClientStatus) : Device :=
  let split := splitHostPort status.master
  { category := .mmdvm
    protocol := "mmdvm-upstream"
    sourceKey := status.sourceKey
    name := status.name
    callsign := status.callsign
    dmrID := status.dmrID
    model := "MMDVM Master"
    ip := (split.map Prod.fst).getD status.master
    port := ((split.bind fun (_, port) => atoi port)).getD 0
    status := status.status
    online := status.online
    lastSeenAt := status.lastSeenAt
    rxFreq := status.rxFreq
    txFreq := status.txFreq
    txPower := status.txPower
    colorCode := status.colorCode
    latitude := status.latitude
    longitude := status.longitude
    height := status.height
    location := status.location
    description := status.description
    url := status.url
    slots := status.slots }

def PeerUpdate.device (svc : Service) (now : Time) : PeerUpdate → Option Device
  | .ipsc peer => some (ipscDevice peer)
  | .hytera addr p2pPort dmrPort rdacPort dmrID =>
    some (hyteraDevice svc now addr p2pPort dmrPort rdacPort dmrID)
  | .mmdvmServer peer => some (mmdvmServerDevice peer)
  | .mmdvmUpstream status => some (mmdvmUpstreamDevice status)
  | .peerOffline sourceKey =>
    (svc.findDevice sourceKey).map fun dev => { dev with online := false, status := "offline" }

def forwardAllowed (svc : Service) (targetKey : String) : Bool :=
  if targetKey = "" then false
  else match svc.findDevice targetKey with
    | none => true
    | some dev => !dev.disabled

end Ipsc2Mmdvm.Bridge
