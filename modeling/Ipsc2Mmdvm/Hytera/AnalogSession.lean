import Ipsc2Mmdvm.Data.Net
import Ipsc2Mmdvm.Nrl.G711
import Ipsc2Mmdvm.Nrl.Protocol
import Ipsc2Mmdvm.Nrl.Session

namespace Ipsc2Mmdvm.Hytera

open Data Proto Nrl

/-! The analog session between one Hytera repeater and an NRL server.  Every method holds the lock
of the session, so a run is a list of calls. -/

def hyteraAnalogHeaderLen : Nat := 32

def hyteraAnalogFrameSamples : Nat := 160

def hyteraAnalogFrameGroup : Nat := hyteraAnalogFrameSamples * 3

def nrlVoiceFlushWatermark : Nat := 500

def nrlSessionTTL : Duration := 6 * second

def nrlCallIdleTimeout : Duration := 1500 * millisecond

def hyteraAnalogFallbackHeader : Vector UInt8 32 :=
  #v[0x5A, 0x5A, 0x5A, 0x5A, 0x00, 0x02, 0x00, 0x00,
    0x45, 0x00, 0x05, 0x01, 0x01, 0x00, 0x00, 0x00,
    0x00, 0x00, 0x00, 0x00, 0x00, 0x00, 0x00, 0x00,
    0x00, 0x00, 0xC0, 0x03, 0xA0, 0xF6, 0x8B, 0x10]

/-- `NRLPeerConfig` with the learned port; the address of the server is fixed for a session. -/
structure AnalogPeer extends NRLPeerConfig where
  hyteraVoicePort : Int := 0
deriving DecidableEq

structure AnalogLink where
  sourceIP : String
  remoteAddr : Option UDPAddr
  dmrPort : Nat
  callHandler : Bool
  audioHandler : Bool
  toUpper : String → String

def AnalogLink.sourceKey (link : AnalogLink) : String := "hytera:" ++ link.sourceIP

structure AnalogSession where
  cfg : AnalogPeer
  hyteraAddr : Option UDPAddr := none
  templateReady : Bool := false
  template : Vector UInt8 32 := Vector.replicate 32 0
  outSeq : UInt8 := 0
  ulawBuffer : Bytes := []
  lastActivityAt : Time := 0
  callActive : Bool := false
  callStreamID : UInt64 := 0
  callLastVoiceAt : Time := 0
  callFromIP : String := ""
  callFromPort : Nat := 0
  callSourceName : Bytes := []
  callSourceCS : Bytes := []
  callSourceDMRID : UInt32 := 0
  closed : Bool := false
deriving DecidableEq

structure NRLCallEvent where
  ended : Bool
  hyteraSourceKey : String
  sourceKey : String
  sourceName : Bytes
  sourceCallsign : Bytes
  sourceDMRID : UInt32
  streamID : UInt64
  fromIP : String
  fromPort : Nat
deriving DecidableEq

structure AnalogAudioEvent where
  streamID : String
  frontend : String
  sourceKey : String
  sourceDMRID : UInt32
  pcm : List Int16
  ended : Bool
deriving DecidableEq

inductive AnalogOutput where
  | call (event : NRLCallEvent)
  | audio (event : AnalogAudioEvent)
  | packet (addr : UDPAddr) (packet : Bytes)
deriving DecidableEq

section

variable (link : AnalogLink)

def emitAudioChunk (frontend streamID : String) (sourceDMRID : UInt32) (pcm : List Int16) (ended : Bool) :
    List AnalogOutput :=
  if !link.audioHandler || streamID == "" then []
  else [.audio { streamID, frontend, sourceKey := link.sourceKey, sourceDMRID, pcm, ended }]

def AnalogSession.emitCallAudio (s : AnalogSession) (pcm : List Int16) (ended : Bool) : List AnalogOutput :=
  emitAudioChunk link "analog-nrl" ("analog:nrl:" ++ link.sourceKey ++ ":" ++ toString s.callStreamID.toNat)
    s.callSourceDMRID pcm ended

def AnalogSession.callEvent (s : AnalogSession) (ended : Bool) : NRLCallEvent where
  ended := ended
  hyteraSourceKey := link.sourceKey
  sourceKey := "nrl:" ++ link.sourceKey
  sourceName := s.callSourceName
  sourceCallsign := s.callSourceCS
  sourceDMRID := s.callSourceDMRID
  streamID := s.callStreamID
  fromIP := s.callFromIP
  fromPort := s.callFromPort

def AnalogSession.emitCallEventLocked (s : AnalogSession) (ended : Bool) : List AnalogOutput :=
  if !link.callHandler || s.callStreamID == 0 then
    if ended && s.callStreamID != 0 then s.emitCallAudio link [] true else []
  else .call (s.callEvent link ended) :: if ended then s.emitCallAudio link [] true else []

def AnalogSession.callSourceCallsign (s : AnalogSession) (callsign : Bytes) (ssid : UInt8) : Bytes :=
  let cs := trimSpace callsign
  let cs := if cs = [] then trimSpace (normalizeNRLCallsign link.toUpper s.cfg.callsign) else cs
  cs ++ ascii "-" ++ ascii (toString ssid.toNat)

def AnalogSession.startsCall (s : AnalogSession) (now : Time) (pkt : NRL21Packet) : Bool :=
  !s.callActive || decide (nrlCallIdleTimeout < Time.sub now s.callLastVoiceAt) ||
    s.callSourceCS != s.callSourceCallsign link pkt.callsign pkt.ssid

/-- The session in the new call.  An address that is none of UDP leaves the last one. -/
def AnalogSession.nextCall (s : AnalogSession) (pkt : NRL21Packet) : AnalogSession :=
  let cs := s.callSourceCallsign link pkt.callsign pkt.ssid
  { s with
    callActive := true
    callStreamID := s.callStreamID + 1
    callSourceCS := cs
    callSourceName := ascii "NRL " ++ cs ++ ascii " via " ++ utf8 link.sourceKey
    callSourceDMRID := pkt.dmrID
    callFromIP := (link.remoteAddr.map UDPAddr.ip).getD s.callFromIP
    callFromPort := (link.remoteAddr.map UDPAddr.port).getD s.callFromPort }

def AnalogSession.enterCall (s : AnalogSession) (now : Time) (pkt : NRL21Packet) : AnalogSession × List AnalogOutput :=
  if s.startsCall link now pkt then
    let next := s.nextCall link pkt
    (next, (if s.callActive then s.emitCallEventLocked link true else []) ++ next.emitCallEventLocked link false)
  else (s, [])

def alawChunkToUlaw (chunk : Bytes) : Bytes := chunk.map fun b => linearToUlaw (alawToLinear b)

def wholeFrames (data : Bytes) : Bytes :=
  data.take (data.length / hyteraAnalogFrameSamples * hyteraAnalogFrameSamples)

/-- The key of the session has the text of an address, so `net.ParseIP` reads it back. -/
def AnalogSession.bootstrapHyteraFallbackLocked (s : AnalogSession) : AnalogSession :=
  let s :=
    if s.templateReady then s
    else
      { s with
        template := hyteraAnalogFallbackHeader
        templateReady := true
        outSeq := if s.outSeq = 0 then hyteraAnalogFallbackHeader.toList.getD 4 0 else s.outSeq }
  match s.hyteraAddr with
  | some _ => s
  | none =>
    let port := if 0 < s.cfg.hyteraVoicePort then s.cfg.hyteraVoicePort.toNat else link.dmrPort
    { s with hyteraAddr := some { ip := link.sourceIP, port := if port = 0 then 50001 else port } }

def AnalogSession.buildHyteraAnalogPacket (s : AnalogSession) (voice : Bytes) : AnalogSession × Option (Bytes × UDPAddr) :=
  let s := s.bootstrapHyteraFallbackLocked link
  match s.hyteraAddr with
  | none => (s, none)
  | some addr =>
    if !s.templateReady || decide (voice.length < hyteraAnalogFrameGroup) then (s, none)
    else
      let s := { s with outSeq := s.outSeq + 1 }
      (s, some (((s.template.toList.set 4 s.outSeq).set 8 0x45) ++ voice.take hyteraAnalogFrameGroup, addr))

def AnalogSession.sendGroups : Nat → AnalogSession → AnalogSession × List AnalogOutput
  | 0, s => (s, [])
  | fuel + 1, s =>
    if s.ulawBuffer.length < hyteraAnalogFrameGroup then (s, [])
    else
      let chunk := s.ulawBuffer.take hyteraAnalogFrameGroup
      let (s, built) :=
        { s with ulawBuffer := s.ulawBuffer.drop hyteraAnalogFrameGroup }.buildHyteraAnalogPacket link chunk
      let (s, more) := AnalogSession.sendGroups fuel s
      (s, built.toList.map (fun packet => .packet packet.2 packet.1) ++ more)

def AnalogSession.flushGroups (s : AnalogSession) : AnalogSession × List AnalogOutput :=
  if s.ulawBuffer.length < nrlVoiceFlushWatermark then (s, []) else s.sendGroups link s.ulawBuffer.length

def AnalogSession.handleNRLPacket (s : AnalogSession) (now : Time) (pkt : NRL21Packet) :
    AnalogSession × List AnalogOutput :=
  if pkt.type ≠ 1 ∨ pkt.data = [] then (s, [])
  else
    let (s, calls) := { s with lastActivityAt := now }.enterCall link now pkt
    let s := { s with callLastVoiceAt := now }
    let audio := s.emitCallAudio link (pkt.data.map alawToLinear) false
    let (s, packets) :=
      { s with ulawBuffer := s.ulawBuffer ++ alawChunkToUlaw (wholeFrames pkt.data) }.flushGroups link
    (s, calls ++ audio ++ packets)

def AnalogSession.expireCallIfIdle (s : AnalogSession) (now : Time) : AnalogSession × List AnalogOutput :=
  if !s.callActive then (s, [])
  else if Time.sub now s.callLastVoiceAt ≤ nrlCallIdleTimeout then (s, [])
  else ({ s with callActive := false }, s.emitCallEventLocked link true)

def AnalogSession.close (s : AnalogSession) : AnalogSession × List AnalogOutput :=
  if s.closed then (s, [])
  else
    ({ s with callActive := false, closed := true }, if s.callActive then s.emitCallEventLocked link true else [])

def AnalogSession.handleHyteraVoice (s : AnalogSession) (now : Time) (addr : UDPAddr) (data : Bytes) :
    AnalogSession × List AnalogOutput :=
  let s := { s with hyteraAddr := some addr, lastActivityAt := now }
  let s :=
    if data.length < hyteraAnalogHeaderLen then s
    else
      { s with
        template := Vector.ofFn fun i : Fin 32 => data.getD i 0
        templateReady := true
        outSeq := data.getD 4 0 }
  if data.length ≤ hyteraAnalogHeaderLen then (s, [])
  else
    (s, emitAudioChunk link "analog-hytera" ("analog:hytera:" ++ link.sourceKey) 0
      ((data.drop hyteraAnalogHeaderLen).map ulawToLinear) false)

def AnalogSession.updateConfig (s : AnalogSession) (cfg : AnalogPeer) : AnalogSession :=
  if s.closed then s
  else
    let moved := s.cfg.hyteraVoicePort ≠ cfg.hyteraVoicePort ∧ 0 < cfg.hyteraVoicePort
    { s with
      cfg
      hyteraAddr :=
        if moved then s.hyteraAddr.map fun addr => { addr with port := cfg.hyteraVoicePort.toNat } else s.hyteraAddr }

def AnalogSession.isExpired (s : AnalogSession) (now : Time) : Bool :=
  decide (nrlSessionTTL < Time.sub now s.lastActivityAt)

/-- A call of a method.  The read loop may have read a packet before `close` runs and handle it
after that. -/
inductive AnalogEvent where
  | packet (now : Time) (pkt : NRL21Packet)
  | expire (now : Time)
  | close
  | voice (now : Time) (addr : UDPAddr) (data : Bytes)
  | configure (cfg : AnalogPeer)
deriving DecidableEq

def AnalogEvent.handle (s : AnalogSession) : AnalogEvent → AnalogSession × List AnalogOutput
  | .packet now pkt => s.handleNRLPacket link now pkt
  | .expire now => s.expireCallIfIdle link now
  | .close => s.close link
  | .voice now addr data => s.handleHyteraVoice link now addr data
  | .configure cfg => (s.updateConfig cfg, [])

structure AnalogTrace where
  session : AnalogSession
  sent : List AnalogOutput := []
deriving DecidableEq

def AnalogTrace.step (trace : AnalogTrace) (event : AnalogEvent) : AnalogTrace :=
  let (session, sent) := event.handle link trace.session
  ⟨session, trace.sent ++ sent⟩

def analogRun (cfg : AnalogPeer) (made : Time) (events : List AnalogEvent) : AnalogTrace :=
  runFrom (AnalogTrace.step link) { session := { cfg, lastActivityAt := made } } events

end

end Ipsc2Mmdvm.Hytera
