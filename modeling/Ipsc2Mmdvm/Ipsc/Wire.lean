import Ipsc2Mmdvm.Ipsc.Forward
import Ipsc2Mmdvm.Ipsc.Steps
import Ipsc2Mmdvm.Proto.Codec

namespace Ipsc2Mmdvm.Ipsc

open Data Dmr Proto PtrMap Forward
open List hiding Vector

/-! How the packets that one direction builds are read by the other. -/

def callOf (pkt : Packet) : Call where
  src := pkt.src
  dst := pkt.dst
  groupCall := pkt.groupCall
  slot := pkt.slot

structure AddressesFit (pkt : Packet) : Prop where
  src : pkt.src.toNat < 2 ^ 24
  dst : pkt.dst.toNat < 2 ^ 24

section

variable {dmrgo : Dmrgo} {t : Forward} {pkt : Packet} {ss : StreamState} {isEnd isData : Bool} {rtp payload : Bytes}

section

variable (rtpLength : rtp.length = 12)

include rtpLength

theorem length_front : (buildIPSCHeader t pkt ss isEnd isData ++ rtp).length = 30 := by
  have header : (buildIPSCHeader t pkt ss isEnd isData).length = 18 := rfl
  rw [length_append, header, rtpLength]

theorem length_built : (buildIPSCHeader t pkt ss isEnd isData ++ rtp ++ payload).length = 30 + payload.length := by
  rw [length_append, length_front rtpLength]

theorem getD_built (i : Nat) :
    (buildIPSCHeader t pkt ss isEnd isData ++ rtp ++ payload).getD (30 + i) 0 = payload.getD i 0 := by
  have front := @length_front t pkt ss isEnd isData rtp rtpLength
  rw [getD_append_right _ _ _ _ (by omega), front, Nat.add_sub_cancel_left]

theorem slice_built (lo hi : Nat) :
    slice (buildIPSCHeader t pkt ss isEnd isData ++ rtp ++ payload) (30 + lo) (30 + hi) = slice payload lo hi := by
  have front := @length_front t pkt ss isEnd isData rtp rtpLength
  rw [slice, ← front, take_length_add_append, drop_length_add_append]
  rfl

end

theorem isSupported_packetTypeOf : isSupported (packetTypeOf pkt isData) = true := by
  simp only [packetTypeOf]
  cases isData <;> cases pkt.groupCall <;> rfl

theorem transportCall_built (short : AddressesFit pkt) :
    transportCall (packetTypeOf pkt isData) (buildIPSCHeader t pkt ss isEnd isData ++ rtp ++ payload) = callOf pkt := by
  have group : (packetTypeOf pkt isData == 0x80 || packetTypeOf pkt isData == 0x83) = pkt.groupCall := by
    simp only [packetTypeOf]
    cases isData <;> cases pkt.groupCall <;> rfl
  have slot : (((if pkt.slot then 0x20 else 0x00) ||| (if isEnd then 0x40 else 0x00) : UInt8) &&& 0x20 != 0) = pkt.slot := by
    cases pkt.slot <;> cases isEnd <;> rfl
  have src := uint24_bytes short.src
  have dst := uint24_bytes short.dst
  simp only [transportCall, callOf, Call.mk.injEq]
  exact ⟨src, dst, group, slot⟩

theorem callControl_built :
    (received dmrgo (packetTypeOf pkt isData) (buildIPSCHeader t pkt ss isEnd isData ++ rtp ++ payload)).callControl =
      ss.callControl :=
  uint32At_putUint32 ss.callControl

theorem isEnd_built :
    (received dmrgo (packetTypeOf pkt isData) (buildIPSCHeader t pkt ss isEnd isData ++ rtp ++ payload)).isEnd = isEnd := by
  have flag : (((if pkt.slot then 0x20 else 0x00) ||| (if isEnd then 0x40 else 0x00) : UInt8) &&& 0x40 != 0) = isEnd := by
    cases pkt.slot <;> cases isEnd <;> rfl
  exact flag

theorem burstType_built (rtpLength : rtp.length = 12) :
    (received dmrgo (packetTypeOf pkt isData) (buildIPSCHeader t pkt ss isEnd isData ++ rtp ++ payload)).burstType =
      payload.getD 0 0 :=
  getD_built rtpLength 0

end

def lcPayload (burstType rssi : UInt8) (slot : Bool) (lc : Vector UInt8 12) : Bytes :=
  [burstType, rssi, 0x00, 0x0A, 0x80, slotBurst slot, 0x00, 0x60] ++ lc.toList ++ List.replicate 4 0

theorem rtp_length (ss : StreamState) (marker : Bool) (payloadType : UInt8) :
    (buildRTPHeader ss marker payloadType).1.length = 12 := rfl

theorem buildLCPacket_eq (lib : BurstLibrary) (t : Forward) (pkt : Packet) (ss : StreamState)
    (isEnd isData marker : Bool) (payloadType burstType rssi : UInt8) :
    (buildLCPacket lib t pkt ss isEnd isData marker payloadType burstType rssi).1 =
      buildIPSCHeader t pkt ss isEnd isData ++ (buildRTPHeader ss marker payloadType).1 ++
        lcPayload burstType rssi pkt.slot (extractFullLCBytes lib pkt) := by
  simp only [buildLCPacket, lcPayload, append_assoc]

theorem length_lcPayload (burstType rssi : UInt8) (slot : Bool) (lc : Vector UInt8 12) :
    (lcPayload burstType rssi slot lc).length = 24 := by
  simp [lcPayload]

theorem slice_lcPayload (burstType rssi : UInt8) (slot : Bool) (lc : Vector UInt8 12) :
    slice (lcPayload burstType rssi slot lc) 8 20 = lc.toList := by
  have middle := slice_middle [burstType, rssi, 0x00, 0x0A, 0x80, slotBurst slot, 0x00, 0x60] lc.toList (replicate 4 0)
  simpa [lcPayload] using middle

section

variable {lib : BurstLibrary} {env : ForwardEnv} {t : Forward} {pkt : Packet} {ref : Ref}

theorem forwardStream_bound :
    (t.forwardStream env pkt).1.streams.find pkt.streamID.toUInt32 = some (t.forwardStream env pkt).2 := by
  simp only [forwardStream]
  split
  · assumption
  · split
    · rename_i stream recent
      have present : ∃ other, t.streams.find other = some stream := by
        split at recent
        · obtain ⟨⟨other, _⟩, picked, equal⟩ := Option.map_eq_some_iff.mp recent
          cases equal
          exact ⟨other, (findWhere_some picked).1⟩
        · cases recent
      obtain ⟨other, present⟩ := present
      dsimp only
      rw [find_store (lt_next present), if_pos rfl]
    · dsimp only
      rw [find_create, if_pos rfl]

theorem forwardStream_known (bound : t.streams.find pkt.streamID.toUInt32 = some ref) :
    t.forwardStream env pkt = (t, ref) := by
  simp only [forwardStream, bound]

def touched (env : ForwardEnv) (pkt : Packet) (state : StreamState) : StreamState :=
  { state with src := pkt.src, dst := pkt.dst, slot := pkt.slot, groupCall := pkt.groupCall, lastSeen := env.seen }

theorem translateToIPSC_eq (small : ¬ pkt.streamID > 0xFFFFFFFF) : t.translateToIPSC lib env pkt =
      ((t.forwardStream env pkt).1.put (t.forwardStream env pkt).2
        (touched env pkt ((t.forwardStream env pkt).1.streams.deref (t.forwardStream env pkt).2))).translateFrame
          lib pkt (t.forwardStream env pkt).2 := by
  rw [translateToIPSC, if_neg small]
  rfl

theorem forward_deref_put {other : Ref} {state : StreamState} :
    (t.put ref state).streams.deref other = if other = ref then state else t.streams.deref other := rfl

theorem isForwardedData_ne {dataType : UInt64} (forwarded : isForwardedData dataType = true) :
    dataType ≠ dataTypeVoiceLCHeader.toUInt64 ∧ dataType ≠ dataTypeTerminatorWithLC.toUInt64 := by
  constructor
  all_goals
    rintro rfl
    exact absurd forwarded (by decide)

theorem translateFrame_data (sync : pkt.frameType = frameTypeDataSync)
    (forwarded : isForwardedData pkt.dtypeOrVSeq = true) :
    t.translateFrame lib pkt ref = (t.put ref
        { (buildIPSCDataPacket lib t pkt (t.streams.deref ref) pkt.dtypeOrVSeq.toUInt8).2 with firstPacket := false },
        [(buildIPSCDataPacket lib t pkt (t.streams.deref ref) pkt.dtypeOrVSeq.toUInt8).1]) := by
  obtain ⟨notHeader, notTerminator⟩ := isForwardedData_ne forwarded
  rw [translateFrame, if_pos sync, if_neg notHeader, if_neg notTerminator, if_pos forwarded]

theorem translateToIPSC_data (small : ¬ pkt.streamID > 0xFFFFFFFF) (sync : pkt.frameType = frameTypeDataSync)
    (forwarded : isForwardedData pkt.dtypeOrVSeq = true) :
    ∃ next source state rtp, rtp.length = 12 ∧ t.translateToIPSC lib env pkt =
        (next, [buildIPSCHeader source pkt state false true ++ rtp ++
          lcPayload pkt.dtypeOrVSeq.toUInt8 0xC0 pkt.slot (extractFullLCBytes lib pkt)]) := by
  rw [translateToIPSC_eq small, translateFrame_data sync forwarded]
  generalize (t.forwardStream env pkt).1.put _ _ = source
  generalize source.streams.deref _ = state
  generalize source.put _ _ = next
  refine ⟨next, source, state, _, rtp_length state state.firstPacket 0x5D, ?_⟩
  rw [buildIPSCDataPacket, ← buildLCPacket_eq]

end

/-- A DMR library without error correction: the addresses and the voice frames stand in their bytes. -/
def plainLibrary : BurstLibrary where
  decodeFromBits bits _ :=
    let lc := (packBits 12 bits).toList.getD
    some
      { flco := lc 0 0
        groupAddress := (uint24 (lc 3 0) (lc 4 0) (lc 5 0)).toNat
        targetAddress := (uint24 (lc 3 0) (lc 4 0) (lc 5 0)).toNat
        sourceAddress := (uint24 (lc 6 0) (lc 7 0) (lc 8 0)).toNat }
  encodeFullLC flc :=
    some ([flc.flco, flc.featureSetID, 0x20] ++ putUint24 flc.groupAddress.toNat.toUInt64 ++
      putUint24 flc.sourceAddress.toNat.toUInt64 ++ [0, 0, 0])
  encodeBurst burst := Vector.ofFn fun i => (packAMBEVoiceFrames burst.voiceData).toList.getD i 0
  decodeFromBytes data :=
    { isData := false
      frames := unpackAMBEVoiceFrames (Vector.ofFn fun i => data.toList.getD i 0)
      hasEmbeddedSignalling := false
      embeddedSignallingData := Vector.replicate 4 0 }

end Ipsc2Mmdvm.Ipsc
