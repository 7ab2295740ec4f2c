import Ipsc2Mmdvm.Data.Checked
import Ipsc2Mmdvm.Data.Clock
import Ipsc2Mmdvm.Data.PtrMap
import Ipsc2Mmdvm.Ipsc.EmbeddedLC
import Ipsc2Mmdvm.Proto.Packet

namespace Ipsc2Mmdvm.Ipsc

open Data Dmr Proto

/-! Every index and slice of a received packet is a checked read.  What the `dmrgo` library computes
is a parameter. -/

abbrev DataType := UInt8

def dataTypeVoiceLCHeader : DataType := 1

def dataTypeTerminatorWithLC : DataType := 2

def dataTypeCSBK : DataType := 3

def flcoGroupVoiceChannelUser : UInt8 := 0

def flcoUnitToUnitVoiceChannelUser : UInt8 := 3

structure FullLinkControl where
  flco : UInt8
  featureSetID : UInt8 := 0
  reserved : UInt8 × UInt8 := (0, 0)
  groupAddress : Int := 0
  targetAddress : Int := 0
  sourceAddress : Int := 0
deriving DecidableEq

inductive LCSS where
  | firstFragmentLC
  | lastFragmentLCorCSBK
  | continuationFragmentLCorCSBK
deriving DecidableEq

structure EmbeddedSignalling where
  colorCode : UInt8
  preemptionAndPowerControlIndicator : Bool := false
  lcss : LCSS
  parityOK : Bool := true
deriving DecidableEq

inductive VoiceBurst where
  | a | b | c | d | e | f
deriving DecidableEq

inductive SyncPattern where
  | msSourcedVoice
  | embeddedSignallingPattern
deriving DecidableEq

/-- The fields of a `layer2.Burst` that are set; `none` is a field left at its
zero value.  `embeddedData` was given to `UnpackEmbeddedSignallingData`. -/
structure Burst where
  voiceData : Vector (Vector Bool 49) 3
  syncPattern : SyncPattern
  voiceBurst : Option VoiceBurst
  hasEmbeddedSignalling : Bool
  embeddedSignalling : Option EmbeddedSignalling := none
  embeddedData : Option Bytes := none
deriving DecidableEq

structure Dmrgo where
  decodeFromBits : List Bool → DataType → Option FullLinkControl
  encodeFullLC : FullLinkControl → Option Bytes
  encodeBurst : Burst → DMRData

structure ReverseStreamState where
  streamID : UInt32
  seq : UInt8 := 0
  burstIndex : Int := 0
  started : Bool := false
  peerID : UInt32
  src : UInt64
  dst : UInt64
  slot : Bool
  groupCall : Bool
  lastSeen : Time
  embeddedFragments : Fragments := Vector.replicate 4 (Vector.replicate 4 0)
  hasEmbeddedLC : Bool := false
deriving DecidableEq

instance : Inhabited ReverseStreamState :=
  ⟨{ streamID := 0, peerID := 0, src := 0, dst := 0, slot := false, groupCall := false, lastSeen := 0 }⟩

structure Translator where
  repeaterID : UInt32
  colorCode : UInt8
  reverseStreams : PtrMap UInt32 ReverseStreamState
  nextStreamID : UInt32

def newIPSCTranslator : Translator where
  repeaterID := 0
  colorCode := 0
  reverseStreams := .empty UInt32 ReverseStreamState
  nextStreamID := 0

structure ReverseEnv where
  now : Time
  byTuple : Enumeration UInt32
  byPeer : Enumeration UInt32

def reverseStreamReuseWindow : Duration := 1500 * millisecond

def ipscBurstVoiceHead : UInt8 := 0x01

def ipscBurstVoiceTerm : UInt8 := 0x02

def ipscBurstCSBK : UInt8 := 0x03

def ipscBurstSlot1 : UInt8 := 0x0A

def ipscBurstSlot2 : UInt8 := 0x8A

def ReverseStreamState.isRecent (rss : ReverseStreamState) (now : Time) : Bool :=
  !(Time.isZero rss.lastSeen || decide (reverseStreamReuseWindow < Time.sub now rss.lastSeen))

def Translator.findRecentReverseStream (t : Translator) (env : ReverseEnv) (src dst : UInt64)
    (groupCall slot : Bool) : Option Ref :=
  (t.reverseStreams.findWhere env.byTuple fun _ rss =>
    rss.src == src && rss.dst == dst && rss.groupCall == groupCall && rss.slot == slot &&
      rss.isRecent env.now).map Prod.snd

def Translator.findRecentReverseStreamByPeer (t : Translator) (env : ReverseEnv) (peerID : UInt32)
    (groupCall slot : Bool) : Option Ref :=
  (t.reverseStreams.findWhere env.byPeer fun _ rss =>
    rss.peerID == peerID && rss.groupCall == groupCall && rss.slot == slot &&
      rss.isRecent env.now).map Prod.snd

def Translator.removeReverseStreamAliases (t : Translator) (target : Ref) : Translator :=
  { t with reverseStreams := t.reverseStreams.deleteWhere fun _ rss => rss == target }

def Translator.put (t : Translator) (rss : Ref) (state : ReverseStreamState) : Translator :=
  { t with reverseStreams := t.reverseStreams.modify rss fun _ => state }

def buildStandardLCBytes (dmrgo : Dmrgo) (src dst : UInt64) (groupCall : Bool) : Vector UInt8 12 :=
  if dst.toNat ≥ 2 ^ 63 ∨ src.toNat ≥ 2 ^ 63 then Vector.replicate 12 0
  else
    let flc : FullLinkControl :=
      { flco := if groupCall then flcoGroupVoiceChannelUser else flcoUnitToUnitVoiceChannelUser
        reserved := (1, 0)
        groupAddress := dst.toNat
        targetAddress := dst.toNat
        sourceAddress := src.toNat }
    match dmrgo.encodeFullLC flc with
    | none => Vector.replicate 12 0
    | some encoded => Vector.ofFn fun i => encoded.getD i 0

def FullLinkControl.addresses (flc : FullLinkControl) : Option (UInt64 × UInt64) :=
  if flc.sourceAddress ≤ 0 then none
  else
    let src := flc.sourceAddress.toNat.toUInt64
    if flc.flco = flcoGroupVoiceChannelUser then
      if flc.groupAddress ≤ 0 then none else some (src, flc.groupAddress.toNat.toUInt64)
    else if flc.flco = flcoUnitToUnitVoiceChannelUser then
      if flc.targetAddress ≤ 0 then none else some (src, flc.targetAddress.toNat.toUInt64)
    else none

def recoverAddressesFromFullLC (dmrgo : Dmrgo) (ipscData : Bytes) (burstType : UInt8) :
    Checked (Option (UInt64 × UInt64)) :=
  let dataType : Option DataType :=
    if burstType = ipscBurstVoiceHead then some dataTypeVoiceLCHeader
    else if burstType = ipscBurstVoiceTerm then some dataTypeTerminatorWithLC
    else none
  if ipscData.length < 50 then pure none
  else
    match dataType with
    | none => pure none
    | some dataType => do
      let lc ← checkedSlice ipscData 38 50
      pure ((dmrgo.decodeFromBits (unpackBits lc) dataType).bind FullLinkControl.addresses)

structure Call where
  src : UInt64
  dst : UInt64
  groupCall : Bool
  slot : Bool
deriving DecidableEq

def Translator.packet (t : Translator) (call : Call) (rss : ReverseStreamState) : Packet :=
  { signature := dmrd
    seq := rss.seq.toUInt64
    src := call.src
    dst := call.dst
    repeater := t.repeaterID.toUInt64
    slot := call.slot
    groupCall := call.groupCall
    streamID := rss.streamID.toUInt64 }

def payloadLCBytes (dmrgo : Dmrgo) (call : Call) (ipscData : Bytes) : Checked (Vector UInt8 12) :=
  if ipscData.length ≥ 50 then do
    let lc ← checkedSlice ipscData 38 50
    pure (Vector.ofFn fun i => lc.getD i 0)
  else pure (buildStandardLCBytes dmrgo call.src call.dst call.groupCall)

def buildMMDVMDataPacket (dmrgo : Dmrgo) (t : Translator) (call : Call) (rss : ReverseStreamState)
    (dataType : DataType) (ipscData : Bytes) : Checked (Packet × ReverseStreamState) := do
  let lcBytes ← payloadLCBytes dmrgo call ipscData
  -- A synthesized header or terminator gets the call type of the routing tuple.
  let lcBytes :=
    if ipscData.length < 50 ∧
        (dataType = dataTypeVoiceLCHeader ∨ dataType = dataTypeTerminatorWithLC) then
      lcBytes.set 0
        (if call.groupCall then flcoGroupVoiceChannelUser else flcoUnitToUnitVoiceChannelUser)
    else lcBytes
  pure ({ t.packet call rss with
      frameType := frameTypeDataSync
      dtypeOrVSeq := dataType.toUInt64
      dmrData := buildLCDataBurst lcBytes dataType t.colorCode },
    { rss with seq := rss.seq + 1 })

def embeddedBytes (ipscData : Bytes) : Checked Bytes :=
  if ipscData.length = 57 then checkedSlice ipscData 52 57
  else if ipscData.length = 66 then checkedSlice ipscData 52 59
  else pure []

def populateEmbeddedSignalling (t : Translator) (burst : Burst) (burstIdx : Int) (ipscData : Bytes)
    (rss : ReverseStreamState) : Checked Burst := do
  let lcss : LCSS :=
    if burstIdx = 1 then .firstFragmentLC
    else if burstIdx = 4 then .lastFragmentLCorCSBK
    else .continuationFragmentLCorCSBK
  let burst := { burst with embeddedSignalling := some { colorCode := t.colorCode, lcss } }
  let embBytes ← embeddedBytes ipscData
  let candidate := embBytes.take 4
  if embBytes.length ≥ 4 ∧ candidate.any (· != 0x00) then
    pure { burst with embeddedData := some candidate }
  else if rss.hasEmbeddedLC then
    let fragIdx := burstIdx - 1
    let fragIdx := if fragIdx < 0 ∨ fragIdx > 3 then 0 else fragIdx
    let fragment := rss.embeddedFragments.toList.getD fragIdx.toNat (Vector.replicate 4 0)
    pure { burst with embeddedData := some fragment.toList }
  else pure burst

def voiceBurstOf (burstIdx : Int) : Option VoiceBurst :=
  if burstIdx = 1 then some .b
  else if burstIdx = 2 then some .c
  else if burstIdx = 3 then some .d
  else if burstIdx = 4 then some .e
  else if burstIdx = 5 then some .f
  else none

def voiceBurstAt (t : Translator) (voiceData : Vector (Vector Bool 49) 3) (burstIdx : Int)
    (ipscData : Bytes) (rss : ReverseStreamState) : Checked Burst :=
  if burstIdx = 0 then
    pure { voiceData, syncPattern := .msSourcedVoice, voiceBurst := some .a,
           hasEmbeddedSignalling := false }
  else
    populateEmbeddedSignalling t
      { voiceData, syncPattern := .embeddedSignallingPattern, voiceBurst := voiceBurstOf burstIdx,
        hasEmbeddedSignalling := true }
      burstIdx ipscData rss

def buildMMDVMVoiceBurst (dmrgo : Dmrgo) (t : Translator) (call : Call) (rss : ReverseStreamState)
    (ipscData : Bytes) : Checked (Packet × ReverseStreamState) := do
  let ambe ← checkedSlice ipscData 33 52
  let voiceData := unpackAMBEVoiceFrames (Vector.ofFn fun i => ambe.getD i 0)
  let burstIdx := rss.burstIndex.tmod 6
  let burst ← voiceBurstAt t voiceData burstIdx ipscData rss
  -- The index of a state with a negative counter is clamped after the burst is built.
  let burstIdx := if burstIdx < 0 then 0 else burstIdx
  pure ({ t.packet call rss with
      frameType := if burstIdx = 0 then frameTypeVoiceSync else frameTypeVoice
      dtypeOrVSeq := burstIdx.toNat.toUInt64
      dmrData := dmrgo.encodeBurst burst },
    { rss with seq := rss.seq + 1, burstIndex := (rss.burstIndex + 1).tmod 6 })

/-- The stream of a packet: the one of its call control, else a recent one that
the packet could belong to, else a new one. -/
def Translator.reverseStream (t : Translator) (env : ReverseEnv) (peerID callControl : UInt32)
    (call : Call) (hasTrustedLCAddresses : Bool) (burstType : UInt8) : Translator × Ref :=
  match t.reverseStreams.find callControl with
  | some rss => (t, rss)
  | none =>
    let recent := (t.findRecentReverseStream env call.src call.dst call.groupCall call.slot).or
      (if !hasTrustedLCAddresses && burstType != ipscBurstVoiceHead then
        t.findRecentReverseStreamByPeer env peerID call.groupCall call.slot
      else none)
    match recent with
    | some rss => ({ t with reverseStreams := t.reverseStreams.store callControl rss }, rss)
    | none =>
      let next := t.nextStreamID + 1
      let streamID := if next = 0 then 1 else next
      let rss := t.reverseStreams.next
      let state : ReverseStreamState :=
        { streamID, peerID, src := call.src, dst := call.dst, slot := call.slot,
          groupCall := call.groupCall, lastSeen := env.now }
      ({ t with
          nextStreamID := streamID
          reverseStreams := (t.reverseStreams.alloc state).store callControl rss }, rss)

def Translator.translateBurst (dmrgo : Dmrgo) (t : Translator) (call : Call) (rss : Ref)
    (burstType : UInt8) (isEnd : Bool) (data : Bytes) : Checked (Translator × List Packet) :=
  let state := t.reverseStreams.deref rss
  if burstType = ipscBurstVoiceHead then
    if state.started then pure (t, [])
    else do
      let (pkt, state) ← buildMMDVMDataPacket dmrgo t call state dataTypeVoiceLCHeader data
      let state := { state with
        started := true
        burstIndex := 0
        embeddedFragments := encodeEmbeddedLC call.src call.dst call.groupCall
        hasEmbeddedLC := true }
      pure (t.put rss state, [pkt])
  else if burstType = ipscBurstVoiceTerm then
    if !isEnd then pure (t, [])
    else do
      let (pkt, state) ← buildMMDVMDataPacket dmrgo t call state dataTypeTerminatorWithLC data
      pure ((t.put rss state).removeReverseStreamAliases rss, [pkt])
  else if burstType = ipscBurstSlot1 ∨ burstType = ipscBurstSlot2 then
    if data.length < 52 then pure (t, [])
    else do
      let (pkt, state) ← buildMMDVMVoiceBurst dmrgo t call state data
      pure (t.put rss state, [pkt])
  else if burstType = ipscBurstCSBK then do
    let (pkt, state) ← buildMMDVMDataPacket dmrgo t call state dataTypeCSBK data
    pure (t.put rss state, [pkt])
  else if data.length ≥ 50 ∧ burstType ≤ 10 then do
    let (pkt, state) ← buildMMDVMDataPacket dmrgo t call state burstType data
    pure (t.put rss state, [pkt])
  else pure (t, [])

def isSupported (packetType : UInt8) : Bool :=
  packetType == 0x80 || packetType == 0x81 || packetType == 0x83 || packetType == 0x84

def Translator.translateToMMDVM (dmrgo : Dmrgo) (env : ReverseEnv) (t : Translator)
    (packetType : UInt8) (data : Bytes) : Checked (Translator × List Packet) :=
  if data.length < 30 then pure (t, [])
  else if !isSupported packetType then pure (t, [])
  else do
    let peerID ← checkedSlice data 1 5
    let src := uint24 (← index data 6) (← index data 7) (← index data 8)
    let dst := uint24 (← index data 9) (← index data 10) (← index data 11)
    let callInfo ← index data 17
    let header : Call :=
      { src, dst, groupCall := packetType == 0x80 || packetType == 0x83,
        slot := callInfo &&& 0x20 != 0 }
    let isEnd := callInfo &&& 0x40 != 0
    let burstType ← index data 30
    let trusted ← recoverAddressesFromFullLC dmrgo data burstType
    let call := match trusted with
      | none => header
      | some (src, dst) => { header with src, dst }
    let callControl ← checkedSlice data 13 17
    let (t, rss) := t.reverseStream env (uint32At peerID 0) (uint32At callControl 0) call
      trusted.isSome burstType
    let state := t.reverseStreams.deref rss
    -- The stream's own addresses take precedence over the packet's.
    let call := { call with
      src := if state.src ≠ 0 then state.src else call.src
      dst := if state.dst ≠ 0 then state.dst else call.dst }
    (t.put rss { state with lastSeen := env.now }).translateBurst dmrgo call rss burstType isEnd data

end Ipsc2Mmdvm.Ipsc
