import Ipsc2Mmdvm.Data.Net
import Ipsc2Mmdvm.Dmr.BurstInspect
import Ipsc2Mmdvm.Dmr.EmbeddedSignalling
import Ipsc2Mmdvm.Dmr.LinkControl
import Ipsc2Mmdvm.Hytera.Startup

namespace Ipsc2Mmdvm.Hytera

open Data Dmr Proto

/-! A route is a repeater, or all of them if its source key is empty; each route has a state for
each slot.  Writes to the socket succeed. -/

/-! Their colour code and service options are normalized before they are sent. -/

structure Layer2 where
  Burst : Type
  decodeFromBytes : DMRData → Burst
  hasEmbeddedSignalling : Burst → Bool
  colorCode : Burst → Int
  setColorCode : Burst → Int → Burst
  lcss : Burst → LCSS
  setLCSS : Burst → LCSS → Burst
  unpackEmbeddedSignallingData : Burst → Bytes → Burst
  encode : Burst → DMRData
  /-- `pdu.NewSlotTypeFromBits` -/
  slotTypeColorCode : List Bool → UInt8
  /-- `pdu.NewEmbeddedSignallingFromBits` -/
  embeddedColorCode : List Bool → UInt8

section

variable (lib : Layer2)

def burstSlotTypeColorCode (data : DMRData) : Option UInt8 :=
  if !burstHasDataSync data then none
  else some (lib.slotTypeColorCode (((burstBits data).drop 98).take 10 ++ ((burstBits data).drop 156).take 10) &&& 0x0F)

def burstEmbeddedColorCode (data : DMRData) : Option UInt8 :=
  if !burstHasEmbeddedSignalling data then none
  else some (lib.embeddedColorCode (((burstBits data).drop 108).take 8 ++ ((burstBits data).drop 148).take 8) &&& 0x0F)

def packetColorCode (pkt : Packet) (fallback : UInt8) : UInt8 :=
  ((burstSlotTypeColorCode lib pkt.dmrData).or (burstEmbeddedColorCode lib pkt.dmrData)).getD (fallback &&& 0x0F)

def normalizeMotoColorCode (cc fallback : UInt8) : UInt8 :=
  if cc &&& 0x0F = 0 ∧ fallback &&& 0x0F ≠ 0 then fallback &&& 0x0F else cc &&& 0x0F

def expectedLCSS (vseq : UInt64) : Option LCSS :=
  match vseq.toNat with
  | 1 => some .firstFragmentLC
  | 2 => some .continuationFragmentLCorCSBK
  | 3 => some .continuationFragmentLCorCSBK
  | 4 => some .lastFragmentLCorCSBK
  | 5 => some .singleFragmentLCorCSBK
  | _ => none

/-- The payload with the colour code and the state of `patchMotoVoiceEmbeddedControl`, `none` if
nothing changes. -/
def patchedDMRData (pkt : Packet) (colorCode : UInt8) : Option DMRData :=
  let cc := colorCode &&& 0x0F
  let burst := lib.decodeFromBytes pkt.dmrData
  if pkt.frameType ≠ 0 then none
  else if !lib.hasEmbeddedSignalling burst then none
  else
    let recolored := decide (cc ≠ 0 ∧ lib.colorCode burst = 0)
    let burst := if recolored then lib.setColorCode burst cc.toNat else burst
    let expected := (expectedLCSS pkt.dtypeOrVSeq).getD (lib.lcss burst)
    let restated := decide (lib.lcss burst ≠ expected)
    let burst := if restated then lib.setLCSS burst expected else burst
    if pkt.dtypeOrVSeq = 5 then
      let burst := lib.unpackEmbeddedSignallingData burst [0x00, 0x00, 0x00, 0x00]
      some (lib.encode (if cc ≠ 0 then lib.setColorCode burst cc.toNat else burst))
    else if recolored || restated then some (lib.encode burst)
    else none

def patchMotoVoiceEmbeddedControl (pkt : Packet) (colorCode : UInt8) : Packet :=
  { pkt with dmrData := (patchedDMRData lib pkt colorCode).getD pkt.dmrData }

end

def isLCHeader (pkt : Packet) : Bool := pkt.frameType == 2 && pkt.dtypeOrVSeq == 1

def lcBurst (pkt : Packet) (dataType so colorCode : UInt8) : DMRData :=
  buildLCDataBurst (buildStandardLCBytesForDataType pkt.src pkt.dst pkt.groupCall so dataType) dataType (colorCode &&& 0x0F)

def standardizeMotoLCPacketWithSO (pkt : Packet) (colorCode so : UInt8) : Packet :=
  { pkt with
    dmrData :=
      if isLCHeader pkt then lcBurst pkt dataTypeVoiceLCHeader so colorCode
      else if pkt.isTerminator then lcBurst pkt dataTypeTerminatorWithLC so colorCode
      else pkt.dmrData }

def synthesizedHeader (pkt : Packet) (motoCC so : UInt8) : Packet :=
  { pkt with frameType := 2, dtypeOrVSeq := 1, dmrData := lcBurst pkt dataTypeVoiceLCHeader so motoCC }

def setHyteraHeaderColorCode (data : Bytes) (colorCode : UInt8) : Bytes :=
  if data.length < 22 then data
  else writeAt data 20 [colorCodeByte colorCode, colorCodeByte colorCode]

structure OutSlot where
  outSeq : UInt8 := 0
  outStreamID : UInt64 := 0
  lastSent : Time := 0
  motoSO : UInt8 := 0
  motoSOSet : Bool := false
deriving DecidableEq

/-- What a call finds.  `now` is its clock reading before it sends, `sentAt` the one after its
last write: the earlier ones are overwritten. -/
structure OutEnv where
  stopped : Bool := false
  cfg : Option UInt8
  repeaterDMRAddr : GoMap String UDPAddr
  order : Enumeration String
  sendFilter : Option (String → Bool)
  startupTemplates : Templates
  now : Time
  sentAt : Time

inductive OutEvent where
  | switch (streamID : UInt64)
  | startup (data : Bytes) (addrs : List UDPAddr)
  | encoded (data : Bytes) (addrs : List UDPAddr)
  | rejected (reason : EncodeError)
deriving DecidableEq

def resolveMotoServiceOptions (pkt : Packet) (st : OutSlot) : OutSlot × UInt8 :=
  let lc := if isLCHeader pkt || pkt.isTerminator then decodeLCFromBurst pkt.dmrData else none
  match lc with
  | some lc => ({ st with motoSO := lc[2], motoSOSet := true }, lc[2])
  | none => (st, if st.motoSOSet then st.motoSO else 0x00)

def hangTimeForPacket (pkt : Packet) : Duration :=
  if pkt.groupCall then hyteraGroupCallHangTime else hyteraPrivateCallHangTime

def isVoiceCallStartOrVoice (pkt : Packet) : Bool :=
  isLCHeader pkt || pkt.frameType == 0 || pkt.frameType == 1

def isNewStream (pkt : Packet) (lastStreamID : UInt64) : Bool := pkt.streamID != 0 && pkt.streamID != lastStreamID

def shouldWakeup (pkt : Packet) (lastStreamID : UInt64) (idle : Bool) : Bool :=
  if pkt.dtypeOrVSeq = 1 then isNewStream pkt lastStreamID
  else idle && isNewStream pkt lastStreamID && isVoiceCallStartOrVoice pkt

section

variable (env : OutEnv)

def OutEnv.allowed (sourceKey : String) : Bool := (env.sendFilter.map (· sourceKey)).getD true

def repeaterKey (sourceKey : String) : String :=
  if "hytera:".toList.isPrefixOf sourceKey.toList then String.ofList (sourceKey.toList.drop 7) else sourceKey

def targetDMRAddrs (sourceKey : String) : List UDPAddr :=
  if sourceKey ≠ "" then
    match env.repeaterDMRAddr.lookup (repeaterKey sourceKey) with
    | some addr => if env.allowed sourceKey then [addr] else []
    | none => []
  else
    ((env.order.order env.repeaterDMRAddr.keys).filter fun key => env.allowed ("hytera:" ++ key)).filterMap
      fun key => env.repeaterDMRAddr.lookup key

def idle (st : OutSlot) (pkt : Packet) : Bool :=
  Time.isZero st.lastSent || decide (hangTimeForPacket pkt < Time.sub env.now st.lastSent)

/-- An LC header is always a call boundary; without one a switch waits until the slot is idle. -/
def acceptNewStream (st : OutSlot) (pkt : Packet) (fromMoto : Bool) : Bool :=
  let newStream := isNewStream pkt st.outStreamID
  let startLike := isVoiceCallStartOrVoice pkt
  st.outStreamID == 0 && pkt.streamID != 0 && (!fromMoto || startLike) || isLCHeader pkt && newStream ||
    idle env st pkt && newStream && startLike

def switchStream (st : OutSlot) (pkt : Packet) (fromMoto : Bool) : OutSlot :=
  { st with
    outSeq := 0
    outStreamID := pkt.streamID
    motoSO := if fromMoto then 0 else st.motoSO
    motoSOSet := if fromMoto then false else st.motoSOSet }

def hyteraWakeupRetries : Nat := 3

def hyteraGatewayWakeRetries : Nat := 2

def motoHeaderRepeats : Nat := 3

variable (lib : Layer2)

def sendWakeups (pkt : Packet) (repeats : Nat) (sourceKey : String) (fromMoto : Bool) : List OutEvent :=
  ((targetDMRAddrs env sourceKey).filter fun addr => env.allowed ("hytera:" ++ addr.ip)).flatMap fun addr =>
    (List.replicate (max repeats 1) (if fromMoto then [false, true] else [pkt.slot])).flatten.filterMap fun slot =>
      let wakeupPkt := { pkt with slot }
      let motoCC := if fromMoto then packetColorCode lib wakeupPkt (cfgColorCode env.cfg) else 0
      (buildStartupPacketForRoute env.cfg env.startupTemplates .wakeupRequest wakeupPkt fromMoto motoCC).map
        fun data => .startup data [addr]

def wakeups (st : OutSlot) (pkt : Packet) (fromMoto : Bool) (sourceKey : String) : List OutEvent :=
  if !shouldWakeup pkt st.outStreamID (idle env st pkt) then []
  else if idle env st pkt then
    sendWakeups env lib pkt (if fromMoto then hyteraWakeupRetries else hyteraGatewayWakeRetries) sourceKey fromMoto
  else if fromMoto && acceptNewStream env st pkt fromMoto && isNewStream pkt st.outStreamID then
    sendWakeups env lib pkt 1 sourceKey fromMoto
  else []

end

structure Outgoing where
  st : OutSlot
  events : List OutEvent
deriving DecidableEq

abbrev Progress := Except Outgoing Outgoing

def Progress.outgoing : Progress → Outgoing
  | .ok out => out
  | .error out => out

def repeatedly (body : Outgoing → Progress) : Nat → Outgoing → Progress
  | 0, out => .ok out
  | count + 1, out => body out >>= repeatedly body count

section

variable (env : OutEnv) (sourceKey : String)

def sendEncodedToHytera (event : List UDPAddr → OutEvent) (out : Outgoing) : Progress :=
  match targetDMRAddrs env sourceKey with
  | [] => .error out
  | addr :: addrs => .ok { st := { out.st with lastSent := env.sentAt }, events := out.events ++ [event (addr :: addrs)] }

def sendSync (pkt : Packet) (fromMoto : Bool) (motoCC : UInt8) (out : Outgoing) : Progress :=
  match buildStartupPacketForRoute env.cfg env.startupTemplates .sync pkt fromMoto motoCC with
  | none => .ok out
  | some data => sendEncodedToHytera env sourceKey (.startup data) out

def encodeAndSend (pkt : Packet) (fromMoto : Bool) (motoCC : UInt8) (out : Outgoing) : Progress :=
  match encodeFromMMDVMWithState env.cfg pkt out.st.outSeq with
  | (outSeq, .error reason) => .error { st := { out.st with outSeq }, events := out.events ++ [.rejected reason] }
  | (outSeq, .ok data) =>
    sendEncodedToHytera env sourceKey (.encoded (if fromMoto then setHyteraHeaderColorCode data motoCC else data))
      { out with st := { out.st with outSeq } }

def sendSynthesizedMotoHeader (pkt : Packet) (motoCC so : UInt8) : Outgoing → Progress :=
  let header := synthesizedHeader pkt motoCC so
  repeatedly (fun out => sendSync env sourceKey header true motoCC out >>= encodeAndSend env sourceKey header true motoCC)
    motoHeaderRepeats

def transmit (pkt outPacket : Packet) (fromMoto : Bool) (motoCC : UInt8) : Outgoing → Progress :=
  repeatedly
    (fun out => (if isLCHeader pkt then sendSync env sourceKey pkt fromMoto motoCC out else .ok out) >>=
      encodeAndSend env sourceKey outPacket fromMoto motoCC)
    (if fromMoto && isLCHeader pkt then motoHeaderRepeats else 1)

variable (lib : Layer2) (pkt : Packet) (fromMoto : Bool) (st : OutSlot)

def motoColorCode : UInt8 :=
  if fromMoto then normalizeMotoColorCode (packetColorCode lib pkt (cfgColorCode env.cfg)) (cfgColorCode env.cfg) else 0

def synthesizes : Bool :=
  fromMoto && acceptNewStream env st pkt fromMoto && pkt.frameType != 2 && isVoiceCallStartOrVoice pkt

def beginSending : Outgoing :=
  let accepted := acceptNewStream env st pkt fromMoto
  { st := if accepted then switchStream st pkt fromMoto else st
    events := (if accepted then [.switch pkt.streamID] else []) ++ wakeups env lib st pkt fromMoto sourceKey }

def sendPacketTo : Progress :=
  if env.stopped then .error { st, events := [] }
  else
    let out := beginSending env sourceKey lib pkt fromMoto st
    if fromMoto then
      let motoCC := motoColorCode env lib pkt fromMoto
      let (resolved, motoSO) := resolveMotoServiceOptions pkt out.st
      let out := { out with st := resolved }
      let outPacket := patchMotoVoiceEmbeddedControl lib (standardizeMotoLCPacketWithSO pkt motoCC motoSO) motoCC
      (if synthesizes env pkt fromMoto st then sendSynthesizedMotoHeader env sourceKey pkt motoCC motoSO out else .ok out) >>=
        transmit env sourceKey pkt outPacket fromMoto motoCC
    else transmit env sourceKey pkt pkt fromMoto 0 out

end

end Ipsc2Mmdvm.Hytera
