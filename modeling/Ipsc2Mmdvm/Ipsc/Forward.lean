import Ipsc2Mmdvm.Ipsc.Translator

namespace Ipsc2Mmdvm.Ipsc

open Data Dmr Proto

/-! A built packet is the concatenation of 18 bytes of header, 12 bytes of RTP header and the
payload. -/

structure DecodedBurst where
  isData : Bool
  frames : Vector (Vector Bool 49) 3
  hasEmbeddedSignalling : Bool
  embeddedSignallingData : Vector UInt8 4
deriving DecidableEq

structure BurstLibrary extends Dmrgo where
  decodeFromBytes : DMRData → DecodedBurst

def dataTypePIHeader : DataType := 0

def dataTypeMBCHeader : DataType := 4

def dataTypeMBCContinuation : DataType := 5

def dataTypeDataHeader : DataType := 6

def dataTypeRate12 : DataType := 7

def dataTypeRate34 : DataType := 8

def dataTypeRate1 : DataType := 10

structure StreamState where
  callControl : UInt32
  rtpSeq : UInt16 := 0
  rtpTimestamp : UInt32 := 0
  ipscSeq : UInt8 := 0
  headersSent : Int := 0
  burstIndex : Int := 0
  firstPacket : Bool := true
  src : UInt64
  dst : UInt64
  slot : Bool
  groupCall : Bool
  lastSeen : Time
deriving DecidableEq

instance : Inhabited StreamState :=
  ⟨{ callControl := 0, src := 0, dst := 0, slot := false, groupCall := false, lastSeen := 0 }⟩

structure Forward where
  peerID : UInt32
  streams : PtrMap UInt32 StreamState
  nextCallControl : UInt32

def newForward (peerID : UInt32) : Forward where
  peerID := peerID
  streams := .empty UInt32 StreamState
  nextCallControl := 0

structure ForwardEnv where
  now : Time
  seen : Time
  order : Enumeration UInt32

def forwardStreamReuseWindow : Duration := 8 * second

def ipscVoiceHeaderRepeats : Nat := 2

def rtpTimestampIncrement : UInt32 := 480

def Forward.findRecentForwardStream (t : Forward) (env : ForwardEnv) (pkt : Packet) : Option Ref :=
  (t.streams.findWhere env.order fun _ ss =>
    ss.src == pkt.src && ss.dst == pkt.dst && ss.groupCall == pkt.groupCall && ss.slot == pkt.slot &&
      !(Time.isZero ss.lastSeen || decide (forwardStreamReuseWindow < Time.sub env.now ss.lastSeen))).map Prod.snd

def Forward.removeForwardStreamAliases (t : Forward) (target : Ref) : Forward :=
  { t with streams := t.streams.deleteWhere fun _ ss => ss == target }

def Forward.put (t : Forward) (ss : Ref) (state : StreamState) : Forward :=
  { t with streams := t.streams.modify ss fun _ => state }

def slotBurst (slot : Bool) : UInt8 := if slot then ipscBurstSlot2 else ipscBurstSlot1

def putUint24 (address : UInt64) : Bytes :=
  [(address >>> 16).toUInt8, (address >>> 8).toUInt8, address.toUInt8]

def packetTypeOf (pkt : Packet) (isData : Bool) : UInt8 :=
  if isData then (if pkt.groupCall then 0x83 else 0x84) else (if pkt.groupCall then 0x80 else 0x81)

def buildIPSCHeader (t : Forward) (pkt : Packet) (ss : StreamState) (isEnd isData : Bool) : Bytes :=
  [packetTypeOf pkt isData] ++ putUint32 t.peerID ++ [ss.ipscSeq] ++ putUint24 pkt.src ++ putUint24 pkt.dst ++
    [if pkt.groupCall then 0x02 else 0x01] ++ putUint32 ss.callControl ++
    [(if pkt.slot then 0x20 else 0x00) ||| (if isEnd then 0x40 else 0x00)]

def buildRTPHeader (ss : StreamState) (marker : Bool) (payloadType : UInt8) : Bytes × StreamState :=
  ([0x80, if marker then payloadType ||| 0x80 else payloadType] ++
      [(ss.rtpSeq >>> 8).toUInt8, ss.rtpSeq.toUInt8] ++ putUint32 ss.rtpTimestamp ++ putUint32 0,
    { ss with rtpSeq := ss.rtpSeq + 1, rtpTimestamp := ss.rtpTimestamp + rtpTimestampIncrement })

def extractFullLCBytes (lib : BurstLibrary) (pkt : Packet) : Vector UInt8 12 :=
  buildStandardLCBytes lib.toDmrgo pkt.src pkt.dst pkt.groupCall

def buildLCPacket (lib : BurstLibrary) (t : Forward) (pkt : Packet) (ss : StreamState)
    (isEnd isData marker : Bool) (payloadType burstType rssi : UInt8) : Bytes × StreamState :=
  let (rtp, after) := buildRTPHeader ss marker payloadType
  (buildIPSCHeader t pkt ss isEnd isData ++ rtp ++
      [burstType, rssi, 0x00, 0x0A, 0x80, slotBurst pkt.slot, 0x00, 0x60] ++
      (extractFullLCBytes lib pkt).toList ++ List.replicate 4 0,
    after)

def buildVoiceHeader (lib : BurstLibrary) (t : Forward) (pkt : Packet) (ss : StreamState) (isFirst : Bool) :
    Bytes × StreamState :=
  buildLCPacket lib t pkt ss false false isFirst 0x5D ipscBurstVoiceHead 0x80

def buildVoiceTerminator (lib : BurstLibrary) (t : Forward) (pkt : Packet) (ss : StreamState) : Bytes × StreamState :=
  let (data, ss) := buildLCPacket lib t pkt ss true false false 0x5E ipscBurstVoiceTerm 0x80
  (data, { ss with ipscSeq := ss.ipscSeq + 1 })

/-- The payload is made from the addresses of the packet, not from its burst. -/
def buildIPSCDataPacket (lib : BurstLibrary) (t : Forward) (pkt : Packet) (ss : StreamState) (dataType : DataType) :
    Bytes × StreamState :=
  let (data, ss) := buildLCPacket lib t pkt ss false true ss.firstPacket 0x5D dataType 0xC0
  (data, { ss with ipscSeq := ss.ipscSeq + 1 })

def DecodedBurst.embedded (burst : DecodedBurst) : Bytes :=
  if burst.hasEmbeddedSignalling then burst.embeddedSignallingData.toList else List.replicate 4 0

def voicePayload (burst : DecodedBurst) (pkt : Packet) (burstIdx : Int) : Bytes :=
  let ambeData := (packAMBEVoiceFrames burst.frames).toList
  if burstIdx = 0 then [slotBurst pkt.slot, 0x14, 0x40] ++ ambeData
  else if burstIdx = 4 then
    [slotBurst pkt.slot, 0x22, 0x16] ++ ambeData ++ burst.embedded ++ List.replicate 3 0 ++
      putUint24 pkt.dst ++ putUint24 pkt.src ++ [0x14]
  else [slotBurst pkt.slot, 0x19, 0x06] ++ ambeData ++ burst.embedded ++ [0]

def buildVoiceBurst (lib : BurstLibrary) (t : Forward) (pkt : Packet) (ss : StreamState) :
    Option Bytes × StreamState :=
  let burst := lib.decodeFromBytes pkt.dmrData
  if burst.isData then (none, ss)
  else
    let (rtp, after) := buildRTPHeader ss false 0x5D
    (some (buildIPSCHeader t pkt ss false false ++ rtp ++ voicePayload burst pkt (ss.burstIndex.tmod 6)), after)

def Forward.forwardStream (t : Forward) (env : ForwardEnv) (pkt : Packet) : Forward × Ref :=
  match t.streams.find pkt.streamID.toUInt32 with
  | some ss => (t, ss)
  | none =>
    let recent :=
      if pkt.frameType = frameTypeVoice ∨ pkt.frameType = frameTypeVoiceSync then t.findRecentForwardStream env pkt
      else none
    match recent with
    | some ss => ({ t with streams := t.streams.store pkt.streamID.toUInt32 ss }, ss)
    | none =>
      let next := t.nextCallControl + 1
      let callControl := if next = 0 then 1 else next
      let ss := t.streams.next
      let state : StreamState :=
        { callControl, src := pkt.src, dst := pkt.dst, slot := pkt.slot, groupCall := pkt.groupCall,
          lastSeen := env.now }
      ({ t with
          nextCallControl := callControl
          streams := (t.streams.alloc state).store pkt.streamID.toUInt32 ss }, ss)

def voiceHeaders (lib : BurstLibrary) (t : Forward) (pkt : Packet) (ss : StreamState) : List Bytes × StreamState :=
  (List.range ipscVoiceHeaderRepeats).foldl (fun built i =>
    let (data, ss) := buildVoiceHeader lib t pkt built.2 (i == 0 && built.2.firstPacket)
    (built.1 ++ [data], ss)) ([], ss)

def isForwardedData (dataType : UInt64) : Bool :=
  dataType == dataTypeCSBK.toUInt64 || dataType == dataTypePIHeader.toUInt64 ||
    dataType == dataTypeDataHeader.toUInt64 || dataType == dataTypeRate12.toUInt64 ||
    dataType == dataTypeRate34.toUInt64 || dataType == dataTypeRate1.toUInt64 ||
    dataType == dataTypeMBCHeader.toUInt64 || dataType == dataTypeMBCContinuation.toUInt64

def Forward.translateFrame (lib : BurstLibrary) (t : Forward) (pkt : Packet) (ss : Ref) : Forward × List Bytes :=
  let state := t.streams.deref ss
  if pkt.frameType = frameTypeDataSync then
    if pkt.dtypeOrVSeq = dataTypeVoiceLCHeader.toUInt64 then
      let (results, state) := voiceHeaders lib t pkt state
      (t.put ss { state with headersSent := ipscVoiceHeaderRepeats, firstPacket := false, burstIndex := 0 }, results)
    else if pkt.dtypeOrVSeq = dataTypeTerminatorWithLC.toUInt64 then
      let (data, state) := buildVoiceTerminator lib t pkt state
      ((t.put ss state).removeForwardStreamAliases ss, [data])
    else if isForwardedData pkt.dtypeOrVSeq then
      let (data, state) := buildIPSCDataPacket lib t pkt state pkt.dtypeOrVSeq.toUInt8
      (t.put ss { state with firstPacket := false }, [data])
    else (t, [])
  else if pkt.frameType = frameTypeVoice ∨ pkt.frameType = frameTypeVoiceSync then
    let (data, state) := buildVoiceBurst lib t pkt state
    (t.put ss { state with burstIndex := (state.burstIndex + 1).tmod 6 }, data.toList)
  else (t, [])

def Forward.translateToIPSC (lib : BurstLibrary) (env : ForwardEnv) (t : Forward) (pkt : Packet) :
    Forward × List Bytes :=
  if pkt.streamID > 0xFFFFFFFF then (t, [])
  else
    let (t, ss) := t.forwardStream env pkt
    let state := { t.streams.deref ss with
      src := pkt.src, dst := pkt.dst, slot := pkt.slot, groupCall := pkt.groupCall, lastSeen := env.seen }
    (t.put ss state).translateFrame lib pkt ss

def Forward.translateEach (lib : BurstLibrary) : Forward → List (ForwardEnv × Packet) → Forward × List (List Bytes)
  | t, [] => (t, [])
  | t, (env, pkt) :: later =>
    let (t, data) := t.translateToIPSC lib env pkt
    let (t, rest) := t.translateEach lib later
    (t, data :: rest)

end Ipsc2Mmdvm.Ipsc
