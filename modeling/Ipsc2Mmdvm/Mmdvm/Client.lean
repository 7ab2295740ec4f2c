import Ipsc2Mmdvm.Data.Bytes
import Ipsc2Mmdvm.Data.Clock
import Ipsc2Mmdvm.Data.Transitions
import Ipsc2Mmdvm.Proto.Packet

namespace Ipsc2Mmdvm.Mmdvm

open Data Proto

/-! The MMDVM client logs in to a master and keeps the connection alive.  A step is one packet, one
tick of the `handshakeWatchdog` or a ping, or the start of a ping.  A lost packet is one that no
step handles. -/

inductive ClientState where
  | idle
  | sentLogin
  | sentAuth
  | sentRPTC
  | ready
  | timeout
deriving DecidableEq

structure ClientConfig where
  id : UInt32
  password : Bytes
  callsign : String
  rxFreq : UInt64
  txFreq : UInt64
  txPower : UInt8
  colorCode : UInt8
  latitude : Bytes
  longitude : Bytes
  height : UInt16
  location : String
  description : String
  url : String
  slots : UInt8

inductive ClientEffect where
  | send (data : Bytes)
  | publishStatus (status : String) (online : Bool)
  | handleOutboundPacket (pkt : Packet)
deriving DecidableEq

inductive Ping where
  | starting
  | waiting
deriving DecidableEq

structure Client where
  state : ClientState
  lastPing : Time
  watchdog : Bool
  pings : List Ping
deriving DecidableEq

def clientTimeout : Duration := 15 * second

section

variable (cfg : ClientConfig) (sha256 : Bytes → Digest)

def sendLogin : ClientEffect := .send (ascii "RPTL" ++ putUint32 cfg.id)

def sendRPTK (random : Bytes) : ClientEffect :=
  .send (ascii "RPTK" ++ putUint32 cfg.id ++ (sha256 (random ++ cfg.password)).toList)

def sendPing : ClientEffect := .send (ascii "RPTPING" ++ putUint32 cfg.id)

def sendRPTC : ClientEffect :=
  let slots := if cfg.slots = 0 then 3 else cfg.slots
  .send (ascii "RPTC" ++ putUint32 cfg.id ++ padRight 8 cfg.callsign ++
    padZeros 9 cfg.rxFreq.toNat ++ padZeros 9 cfg.txFreq.toNat ++
    padZeros 2 cfg.txPower.toNat ++ padZeros 2 cfg.colorCode.toNat ++
    cfg.latitude ++ cfg.longitude ++ padZeros 3 cfg.height.toNat ++
    padRight 20 cfg.location ++ padRight 19 cfg.description ++
    utf8 (toString slots.toNat) ++ padRight 124 cfg.url ++
    padRight 40 "20210921" ++ padRight 40 "MMDVM_MMDVM_HS_Dual_Hat")

def isRptAck (data : Bytes) : Bool := data.length ≥ 6 && data.take 6 == ascii "RPTACK"

def handleSentLogin (c : Client) (data : Bytes) : Client × List ClientEffect :=
  if isRptAck data then
    if data.length < 10 then (c, [])
    else
      ({ c with state := .sentAuth },
        [.publishStatus "authenticating" false,
          sendRPTK cfg sha256 (data.drop (data.length - 4))])
  else (c, [sendLogin cfg])

def handleSentAuth (c : Client) (data : Bytes) : Client × List ClientEffect :=
  if isRptAck data then
    ({ c with state := .sentRPTC }, [.publishStatus "configuring" false, sendRPTC cfg])
  else if data.length ≥ 6 && data.take 6 == ascii "RPTNAK" then
    ({ c with state := .sentLogin }, [.publishStatus "auth_failed" false, sendLogin cfg])
  else (c, [])

def handleSentRPTC (c : Client) (data : Bytes) : Client × List ClientEffect :=
  if isRptAck data then
    ({ c with state := .ready, pings := c.pings ++ [.starting] }, [.publishStatus "online" true])
  else if data.length ≥ 6 && data.take 6 == ascii "MSTNAK" then (c, [sendRPTC cfg])
  else (c, [])

def handleReady (c : Client) (data : Bytes) (now : Time) : Client × List ClientEffect :=
  if data.take 4 == ascii "MSTP" then
    if data.length ≥ 7 && data.take 7 == ascii "MSTPONG" then
      ({ c with lastPing := now }, [.publishStatus "online" true])
    else (c, [])
  else if data.take 4 == ascii "DMRD" then
    match decode data with
    | none => (c, [])
    | some packet => (c, [.handleOutboundPacket packet])
  else (c, [])

def handleState (c : Client) (data : Bytes) (now : Time) : Client × List ClientEffect :=
  match c.state with
  | .idle => (c, [])
  | .sentLogin => handleSentLogin cfg sha256 c data
  | .sentAuth => handleSentAuth cfg c data
  | .sentRPTC => handleSentRPTC cfg c data
  | .ready => handleReady c data now
  | .timeout => (c, [])

def Client.handler (c : Client) (data : Bytes) (now : Time) : Client × List ClientEffect :=
  if data.length < 4 then (c, []) else handleState cfg sha256 c data now

/-- `reconnect`.  It logs in again even if it could not dial. -/
def reconnect (c : Client) (dialed : Bool) : Client × List ClientEffect :=
  ({ c with state := .sentLogin },
    [.publishStatus "reconnecting" false] ++
      (if dialed then [] else [.publishStatus "connect_failed" false]) ++ [sendLogin cfg])

def Client.startPing (c : Client) (i : Nat) (now : Time) : Client × List ClientEffect :=
  match c.pings[i]? with
  | some .starting => ({ c with lastPing := now, pings := c.pings.set i .waiting }, [sendPing cfg])
  | _ => (c, [])

def Client.tickPing (c : Client) (i : Nat) (now : Time) (dialed : Bool) :
    Client × List ClientEffect :=
  match c.pings[i]? with
  | some .waiting =>
    if Time.after now (Time.add c.lastPing clientTimeout) then
      let (c, effects) := reconnect cfg { c with pings := c.pings.eraseIdx i } dialed
      (c, [.publishStatus "timeout" false] ++ effects)
    else (c, [sendPing cfg])
  | _ => (c, [])

def Client.tickWatchdog (c : Client) (dialed : Bool) : Client × List ClientEffect :=
  if !c.watchdog then (c, [])
  else if c.state = .ready then ({ c with watchdog := false }, [])
  else
    let (c, effects) := reconnect cfg c dialed
    (c, [.publishStatus "handshake_timeout" false] ++ effects)

def Client.start : Client where
  state := .sentLogin
  lastPing := 0
  watchdog := true
  pings := []

inductive ClientEvent where
  | received (data : Bytes) (now : Time)
  | startPing (i : Nat) (now : Time)
  | tickPing (i : Nat) (now : Time) (dialed : Bool)
  | tickWatchdog (dialed : Bool)
deriving DecidableEq

def Client.handle (c : Client) : ClientEvent → Client × List ClientEffect
  | .received data now => c.handler cfg sha256 data now
  | .startPing i now => c.startPing cfg i now
  | .tickPing i now dialed => c.tickPing cfg i now dialed
  | .tickWatchdog dialed => c.tickWatchdog cfg dialed

def Client.step (c : Client) (event : ClientEvent) : Client := (c.handle cfg sha256 event).1

end

end Ipsc2Mmdvm.Mmdvm
