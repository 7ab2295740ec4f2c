import Ipsc2Mmdvm.Data.Checked
import Ipsc2Mmdvm.Data.Net
import Ipsc2Mmdvm.Hytera.Startup

namespace Ipsc2Mmdvm.Hytera

open Data Proto

/-! The three ports of the Hytera server and its tables of repeaters, which are known by the text of
their IP address. -/

def hyteraPeerTimeout : Duration := 30 * second

structure HyteraConfig where
  p2pPort : UInt16
  dmrPort : UInt16
  rdacPort : UInt16
  bridgeID : UInt32

structure RdacSession where
  step : Nat := 0
  lastRequestAt : Time := 0
  lastDMRID : UInt32 := 0
  identCompleted : Bool := false
  lastP2PAt : Time := 0
deriving DecidableEq

structure Server where
  repeaterP2PAddr : GoMap String UDPAddr := ∅
  repeaterDMRAddr : GoMap String UDPAddr := ∅
  repeaterRDACAddr : GoMap String UDPAddr := ∅
  peerLastSeen : GoMap String Time := ∅
  registered : Bool := false
  decoder : Decoder := {}
  startupTemplates : Templates := ∅
  rdacSessions : GoMap String RdacSession := ∅

inductive Effect where
  | p2pWrite (data : Bytes) (addr : UDPAddr)
  | rdacWrite (data : Bytes) (addr : UDPAddr)
  | peerUpdate (addr : UDPAddr) (p2pPort dmrPort rdacPort : Nat) (dmrid : UInt32)
  | packet (pkt : Packet) (addr : UDPAddr)
  | peerOffline (sourceKey : String)
  /-- The identification is started in a goroutine of its own. -/
  | identify (addr : UDPAddr)
deriving DecidableEq

def portOf (table : GoMap String UDPAddr) (key : String) : Nat := ((table.lookup key).map (·.port)).getD 0

def insertMissing (table : GoMap String UDPAddr) (key : String) (addr : UDPAddr) : GoMap String UDPAddr :=
  if (table.lookup key).isSome then table else table.insert key addr

def plainAddr (addr : UDPAddr) : UDPAddr := ⟨addr.ip, addr.port, ""⟩

def readHasNativeHyteraPrefix (data : Bytes) : Checked Bool := do
  if data.length < 4 then pure false
  else
    let head ← checkedSlice data 0 4
    pure (head == List.replicate 4 hyteraPrefixA)

def readUint16 (data : Bytes) (i : Nat) : Checked Nat := do
  let high ← index data i
  let low ← index data (i + 1)
  pure (high.toNat * 256 + low.toNat)

def readCompactHeader (data : Bytes) : Checked Bool := do
  let mark ← checkedSlice data 9 12
  let slot ← index data 12
  let slotRaw ← readUint16 data 16
  pure (mark == [0x00, 0x05, 0x01] && (slot == 0x01 || slot == 0x02) && (slotRaw == 0x1111 || slotRaw == 0x2222))

def readHasHyteraDMRHeader (data : Bytes) : Checked Bool := do
  let native ← readHasNativeHyteraPrefix data
  if native then pure true
  else if data.length < 20 then pure false
  else readCompactHeader data

def nonzeroID (dmrid : UInt32) : Option UInt32 := if dmrid = 0 then none else some dmrid

def uint24LE (low middle high : UInt8) : UInt32 := low.toUInt32 ||| middle.toUInt32 <<< 8 ||| high.toUInt32 <<< 16

def plausibleDMRID (id : UInt32) : Bool := id ≥ 100000

def scanFrom (data : Bytes) : Nat → Nat → Checked (Option UInt32)
  | 0, _ => pure none
  | left + 1, i => do
    let low ← index data i
    let middle ← index data (i + 1)
    let high ← index data (i + 2)
    let candidate := uint24LE low middle high
    if candidate ≠ 0 ∧ plausibleDMRID candidate then pure (some candidate) else scanFrom data left (i + 1)

def scan24BitDMRID (data : Bytes) : Checked (Option UInt32) := scanFrom data (data.length - 2) 0

def readID24 (data : Bytes) (low middle high : Nat) : Checked (Option UInt32) := do
  let low ← index data low
  let middle ← index data middle
  let high ← index data high
  pure (nonzeroID (uint24LE low middle high))

def isShortIdentity (data : Bytes) : Checked Bool := do
  if data.length ≠ 14 then pure false
  else
    let mark ← checkedSlice data 0 2
    pure (mark == [0x96, 0x00])

def isHRNPData (data : Bytes) : Checked Bool := do
  if data.length < 21 then pure false
  else
    let mark ← index data 0
    let opcode ← index data 3
    pure (mark == 0x7E && opcode == 0x00)

def isNativeIdentity (data : Bytes) : Checked Bool :=
  if data.length < 72 then pure false else readHasHyteraDMRHeader data

def parseRDACDMRIDDetailed (data : Bytes) : Checked (Option UInt32) := do
  let short ← isShortIdentity data
  if short then readID24 data 4 3 2
  else
    let hrnp ← isHRNPData data
    if hrnp then readID24 data 18 19 20
    else
      let native ← isNativeIdentity data
      if native then readID24 data (data.length - 4) (data.length - 3) (data.length - 2)
      else if data.length < 32 then pure none
      else scan24BitDMRID data

/-- The last three bytes of the radio's IP address, written in decimal one after the other: nine
digits at most. -/
def decodeHyteraRadioIPDMRID (data : Bytes) : Checked (Option UInt32) := do
  if data.length < 4 then pure none
  else
    let first ← index data 1
    let second ← index data 2
    let third ← index data 3
    let digits := toString first.toNat ++ toString second.toNat ++ toString third.toNat
    pure ((atoi digits).bind fun dmrid => nonzeroID dmrid.toNat.toUInt32)

def hrnpData (data : Bytes) : Checked Bytes := do
  let hrnpLen ← readUint16 data 8
  if 0 < hrnpLen ∧ hrnpLen ≤ data.length then checkedSlice data 0 hrnpLen else pure data

def parseRegistration (data : Bytes) : Checked (Option UInt32) := do
  let hdap ← checkedSlice data 12 data.length
  let messageType ← index hdap 0
  let opcode ← index hdap 1
  let rrsType ← index hdap 2
  if messageType &&& 0x1F ≠ 0x11 ∨ opcode ≠ 0x00 ∨ rrsType ∉ ([0x01, 0x02, 0x03, 0x80, 0x82] : Bytes) then pure none
  else
    let low ← index hdap 3
    let high ← index hdap 4
    if high.toNat * 256 + low.toNat < 4 then pure none
    else
      let radioIP ← checkedSlice hdap 5 9
      decodeHyteraRadioIPDMRID radioIP

def parseHyteraDMRAppDMRID (data : Bytes) : Checked (Option UInt32) := do
  if data.length < 21 then pure none
  else
    let mark ← index data 0
    let opcode ← index data 3
    if mark ≠ 0x7E ∨ opcode ≠ 0x00 then pure none
    else
      let data ← hrnpData data
      if data.length < 21 then pure none else parseRegistration data

def increment (data : Bytes) (i : Nat) : Checked Bytes := do
  let value ← index data i
  store data i (value + 1)

def isPing (data : Bytes) : Checked Bool := do
  if data.length < 15 then pure false
  else
    let mark ← checkedSlice data 4 9
    pure (mark == [0x0A, 0x00, 0x00, 0x00, 0x14])

def pingResponse (data : Bytes) : Checked Bytes := do
  let resp ← store data 12 0xFF
  store resp 14 0x01

def registrationResponse (data : Bytes) : Checked Bytes := do
  let resp ← store data 3 0x50
  let resp ← increment resp 4
  let resp ← store resp 13 0x01
  let resp ← store resp 14 0x01
  let resp ← store resp 15 0x5A
  pure (resp ++ [0x01])

def startupResponse (data : Bytes) : Checked Bytes := do
  let resp ← increment data 4
  let resp ← store resp 13 0x01
  pure (resp ++ [0x01])

def getRedirectPacket (data : Bytes) (targetPort : UInt16) : Checked Bytes := do
  if data.length < 16 then pure data
  else
    let out ← checkedSlice data 0 (data.length - 1)
    let out ← store out 4 0x0B
    let out ← store out 12 0xFF
    let out ← store out 13 0xFF
    let out ← store out 14 0x01
    let out ← store out 15 0x00
    pure (out ++ [0xFF, 0x01, targetPort.toUInt8, (targetPort >>> 8).toUInt8])

def Server.session (s : Server) (key : String) : RdacSession := (s.rdacSessions.lookup key).getD {}

def Server.setSession (s : Server) (key : String) (session : RdacSession) : Server :=
  { s with rdacSessions := s.rdacSessions.insert key session }

def Server.markP2PAssociation (s : Server) (addr : UDPAddr) (now : Time) : Server :=
  s.setSession addr.ip { s.session addr.ip with lastP2PAt := now }

def Server.seen (s : Server) (addr : UDPAddr) (now : Time) : Server :=
  { s with peerLastSeen := s.peerLastSeen.insert addr.ip now }

def Server.register (s : Server) (clock : Nat → Time) (addr : UDPAddr) : Server :=
  let s := { s with
    registered := true
    repeaterP2PAddr := s.repeaterP2PAddr.insert addr.ip addr
    repeaterDMRAddr := s.repeaterDMRAddr.insert addr.ip (plainAddr addr) }
  (s.seen addr (clock 1)).markP2PAssociation addr (clock 2)

def Server.startup (s : Server) (cfg : HyteraConfig) (clock : Nat → Time) (rdac : Bool) (addr : UDPAddr) : Server :=
  let s := (s.markP2PAssociation addr (clock 1)).seen addr (clock 2)
  if rdac then
    { s with
      repeaterRDACAddr := s.repeaterRDACAddr.insert addr.ip (plainAddr addr)
      repeaterDMRAddr := insertMissing s.repeaterDMRAddr addr.ip ⟨addr.ip, cfg.dmrPort.toNat, ""⟩ }
  else { s with repeaterDMRAddr := s.repeaterDMRAddr.insert addr.ip (plainAddr addr) }

section

variable (cfg : HyteraConfig) (clock : Nat → Time) (s : Server) (data : Bytes) (addr : UDPAddr)

def handleStartup (rdac : Bool) : Checked (Server × List Effect) := do
  let resp ← startupResponse data
  let responseAddr := (s.repeaterP2PAddr.lookup addr.ip).getD ⟨addr.ip, cfg.p2pPort.toNat, ""⟩
  let s := s.startup cfg clock rdac addr
  let rdacPort := portOf s.repeaterRDACAddr addr.ip
  let redirect ← getRedirectPacket resp (if rdac then cfg.rdacPort else cfg.dmrPort)
  pure (s,
    [.peerUpdate addr responseAddr.port (if rdac then cfg.dmrPort.toNat else addr.port) (if rdac then addr.port else rdacPort) 0,
      .p2pWrite resp responseAddr, .p2pWrite redirect responseAddr] ++ if rdac then [.identify addr] else [])

def handleP2PCommand : Checked (Server × List Effect) := do
  let packetType ← index data 20
  if packetType = 0x10 then
    let resp ← registrationResponse data
    pure (s.register clock addr, [.p2pWrite resp addr, .peerUpdate addr addr.port addr.port 0 0])
  else if packetType = 0x11 then handleStartup cfg clock s data addr false
  else if packetType = 0x12 then handleStartup cfg clock s data addr true
  else pure (s, [])

def handleP2P : Checked (Server × List Effect) := do
  let ping ← isPing data
  if ping then
    let resp ← pingResponse data
    let known := { s with repeaterP2PAddr := s.repeaterP2PAddr.insert addr.ip addr }
    pure ((known.seen addr (clock 0)).markP2PAssociation addr (clock 1), [.p2pWrite resp addr])
  else if data.length < 21 then pure (s, [])
  else
    let mark ← checkedSlice data 0 3
    if mark = [0x50, 0x32, 0x50] then handleP2PCommand cfg clock (s.markP2PAssociation addr (clock 0)) data addr
    else pure (s, [])

end

def rdacStep0Request : Bytes := [0x7E, 0x04, 0x00, 0xFE, 0x20, 0x10, 0x00, 0x00, 0x00, 0x0C, 0x60, 0xE1]

def rdacStep0Response : Bytes := [0x7E, 0x04, 0x00, 0xFD]

def rdacStep1Request : Bytes :=
  [0x7E, 0x04, 0x00, 0x00, 0x20, 0x10, 0x00, 0x01, 0x00, 0x18, 0x9B, 0x60, 0x02, 0x04, 0x00, 0x05, 0x00, 0x64, 0x00, 0x00, 0x00,
    0x01, 0xC4, 0x03]

def rdacStep1Response : Bytes := [0x7E, 0x04, 0x00, 0x10]

def rdacStep2Response : Bytes := [0x7E, 0x04, 0x00, 0x00]

def startRDACIdentification (s : Server) (addr : UDPAddr) (now : Time) : Server × List Effect :=
  let session := s.session addr.ip
  let s := s.setSession addr.ip session
  if session.lastP2PAt.isZero ∨ 15 * second < Time.sub now session.lastP2PAt then (s, [])
  else if session.identCompleted ∧ session.lastDMRID ≠ 0 then (s, [])
  else if Time.sub now session.lastRequestAt < 2 * second then (s, [])
  else (s.setSession addr.ip { session with step := 1, lastRequestAt := now }, [.rdacWrite rdacStep0Request addr])

def emitHyteraPeerUpdate (s : Server) (addr : UDPAddr) (dmrid : UInt32) : List Effect :=
  let learned := portOf s.repeaterRDACAddr addr.ip
  [.peerUpdate addr (portOf s.repeaterP2PAddr addr.ip) (portOf s.repeaterDMRAddr addr.ip)
    (if learned ≠ 0 then learned else addr.port) dmrid]

def finishIdentification (s : Server) (data : Bytes) (addr : UDPAddr) : Checked (Server × List Effect) := do
  let session := s.session addr.ip
  let parsed ← parseRDACDMRIDDetailed data
  match parsed with
  | some dmrid =>
    pure (s.setSession addr.ip { session with step := 0, lastDMRID := dmrid, identCompleted := true },
      emitHyteraPeerUpdate s addr dmrid)
  | none => pure (s.setSession addr.ip { session with step := 0 }, [])

def handleRDACHandshake (clock : Nat → Time) (s : Server) (data : Bytes) (addr : UDPAddr) : Checked (Server × List Effect) :=
  let session := s.session addr.ip
  if data = [0x00] then pure (startRDACIdentification s addr (clock 0))
  else
    let s := s.setSession addr.ip session
    match session.step with
    | 1 =>
      if rdacStep0Response.isPrefixOf data then
        pure (s.setSession addr.ip { session with step := 2, lastRequestAt := clock 0 }, [.rdacWrite rdacStep1Request addr])
      else pure (s, [])
    | 2 =>
      if rdacStep1Response.isPrefixOf data then pure (s.setSession addr.ip { session with step := 3 }, []) else pure (s, [])
    | 3 => if rdacStep2Response.isPrefixOf data then finishIdentification s data addr else pure (s, [])
    | _ => pure (s, [])

def cutLast (data : Bytes) : Checked Bytes :=
  if data = [] then .error (.index 0 0) else checkedSlice data 0 (data.length - 1)

def readSwapDMRPayload (data : Bytes) : Checked Bytes :=
  if data.length % 2 ≠ 0 then pure (swapPairs (data ++ [0x00])) else cutLast (swapPairs data)

def readPayload (data : Bytes) (slotType : SlotType) (kind : UInt64 × UInt64) : Checked (Except DecodeError Inbound) := do
  let tailStart := data.length - 12
  if tailStart < 26 then pure (.error .invalidPacketTail)
  else
    let slot ← index data 12
    let callType ← index data (tailStart + 2)
    let dst ← checkedSlice data (tailStart + 4) (tailStart + 8)
    let src ← checkedSlice data (tailStart + 8) (tailStart + 12)
    let swapped ← checkedSlice data 26 tailStart
    let payload ← readSwapDMRPayload swapped
    if payload.length ≠ 33 then pure (.error (.payloadLength payload.length))
    else
      let native ← readHasNativeHyteraPrefix data
      let seqIn ← index data 4
      pure (.ok
        { slot := slot != 0x01
          slotType
          frameType := kind.1
          dtype := kind.2
          groupCall := callType == 0x01
          dst := decodeID24LE dst
          src := decodeID24LE src
          dmrData := Vector.ofFn fun i => payload.getD i 0
          seqIn := if native then some seqIn else none })

def readInbound (data : Bytes) : Checked (Except DecodeError Inbound) := do
  if data.length < 38 then pure (.error .shortPacket)
  else
    let header ← readHasHyteraDMRHeader data
    if !header then pure (.error .ignoredPacket)
    else
      let value ← readUint16 data 18
      match SlotType.ofUint16 value with
      | none => pure (.error .ignoredPacket)
      | some slotType =>
        match decodeSlotType slotType with
        | none => pure (.error .ignoredPacket)
        | some kind => readPayload data slotType kind

def isTemplate : SlotType → Bool
  | .sync => true
  | .wakeupRequest => true
  | .voiceLCHeader => true
  | _ => false

def Server.cacheTemplate (s : Server) (data : Bytes) : Server :=
  if data.length < 38 ∨ hasHyteraDMRHeader data = false then s
  else
    match SlotType.ofUint16 (uint16At data 18) with
    | none => s
    | some slotType =>
      if isTemplate slotType then
        { s with startupTemplates := cacheStartupTemplate s.startupTemplates (data.getD 12 0 != 0x01) slotType data }
      else s

def Server.decodeToMMDVM (cfg : HyteraConfig) (s : Server) (data : Bytes) (now : Time) : Checked (Server × Decoded Packet) := do
  let parsed ← readInbound data
  let s := s.cacheTemplate data
  match parsed with
  | .error reason => pure (s, .error reason)
  | .ok inbound =>
    let (decoder, result) := s.decoder.accept cfg.bridgeID inbound now
    pure ({ s with decoder }, result)

section

variable (cfg : HyteraConfig) (clock : Nat → Time) (s : Server) (data : Bytes) (addr : UDPAddr)

def Server.refreshDMR : Server :=
  let s :=
    if 20 ≤ data.length ∧ hasHyteraDMRHeader data = true then
      { s with repeaterDMRAddr := s.repeaterDMRAddr.insert addr.ip (plainAddr addr) }
    else s
  s.seen addr (clock 0)

def dmrLoop : Checked (Server × List Effect) := do
  let s := s.refreshDMR clock data addr
  let dmrid ← parseHyteraDMRAppDMRID data
  let update := Effect.peerUpdate addr (portOf s.repeaterP2PAddr addr.ip) addr.port (portOf s.repeaterRDACAddr addr.ip)
    (dmrid.getD 0)
  let (s, result) ← s.decodeToMMDVM cfg data (clock 1)
  match result with
  | .ok pkt => pure (s, [update, .packet pkt addr])
  | _ => pure (s, [update])

def rdacLoop : Checked (Server × List Effect) := do
  if data = [] then pure (s, [])
  else
    let s := { s with repeaterRDACAddr := s.repeaterRDACAddr.insert addr.ip (plainAddr addr) }
    let (after, effects) ← handleRDACHandshake clock s data addr
    let dmrid ← parseRDACDMRIDDetailed data
    pure (after, effects ++ [.peerUpdate addr (portOf s.repeaterP2PAddr addr.ip) (portOf s.repeaterDMRAddr addr.ip) addr.port
      (dmrid.getD 0)])

end

def isStale (now : Time) (lastSeen : Time) : Bool := decide (hyteraPeerTimeout < Time.sub now lastSeen)

def expireStalePeers (order : Enumeration String) (s : Server) (now : Time) : Server × List Effect :=
  let stale (key : String) : Bool := ((s.peerLastSeen.lookup key).map (isStale now)).getD false
  let expired := (order.order s.peerLastSeen.keys).filter stale
  ({ s with
      peerLastSeen := s.peerLastSeen.deleteWhere fun key _ => stale key
      repeaterDMRAddr := s.repeaterDMRAddr.deleteWhere fun key _ => stale key
      repeaterP2PAddr := s.repeaterP2PAddr.deleteWhere fun key _ => stale key
      repeaterRDACAddr := s.repeaterRDACAddr.deleteWhere fun key _ => stale key },
    expired.map fun key => .peerOffline ("hytera:" ++ key))

end Ipsc2Mmdvm.Hytera
