import Ipsc2Mmdvm.Data.Bytes
import Ipsc2Mmdvm.Data.Clock
import Ipsc2Mmdvm.Proto.Packet
import Mathlib.Logic.Function.Basic

namespace Ipsc2Mmdvm.Hytera

open Data Proto

/-! A datagram is first taken apart, which needs no state.  What passes then meets the state of its
slot, of which the server has one for all repeaters. -/

def hyteraPrefixA : UInt8 := 0x5A

inductive SlotType where
  | privacyIndicator
  | voiceLCHeader
  | terminator
  | csbk
  | dataHeader
  | rate12Data
  | rate34Data
  | dataC
  | dataD
  | dataE
  | dataF
  | dataAOrPrivacy
  | dataB
  | wakeupRequest
  | sync
deriving DecidableEq

def SlotType.ofUint16 (value : Nat) : Option SlotType :=
  match value with
  | 0x0000 => some .privacyIndicator
  | 0x1111 => some .voiceLCHeader
  | 0x2222 => some .terminator
  | 0x3333 => some .csbk
  | 0x4444 => some .dataHeader
  | 0x5555 => some .rate12Data
  | 0x6666 => some .rate34Data
  | 0x7777 => some .dataC
  | 0x8888 => some .dataD
  | 0x9999 => some .dataE
  | 0xAAAA => some .dataF
  | 0xBBBB => some .dataAOrPrivacy
  | 0xCCCC => some .dataB
  | 0xDDDD => some .wakeupRequest
  | 0xEEEE => some .sync
  | _ => none

def decodeSlotType : SlotType → Option (UInt64 × UInt64)
  | .voiceLCHeader => some (2, 1)
  | .terminator => some (2, 2)
  | .csbk => some (2, 3)
  | .dataHeader => some (2, 6)
  | .rate12Data => some (2, 7)
  | .rate34Data => some (2, 8)
  | .dataAOrPrivacy => some (1, 0)
  | .dataB => some (0, 1)
  | .dataC => some (0, 2)
  | .dataD => some (0, 3)
  | .dataE => some (0, 4)
  | .dataF => some (0, 5)
  | .privacyIndicator => some (2, 0)
  | .wakeupRequest => none
  | .sync => none

def uint16At (data : Bytes) (i : Nat) : Nat := (data.getD i 0).toNat * 256 + (data.getD (i + 1) 0).toNat

def decodeID24LE (src : Bytes) : UInt64 :=
  if src.length < 3 then 0
  else (src.getD 0 0).toUInt64 ||| (src.getD 1 0).toUInt64 <<< 8 ||| (src.getD 2 0).toUInt64 <<< 16

def swapPairs : Bytes → Bytes
  | first :: second :: rest => second :: first :: swapPairs rest
  | rest => rest

/-- `none` where the code panics: it cuts the last byte off an empty payload. -/
def swapDMRPayload (data : Bytes) : Option Bytes :=
  if data.length % 2 ≠ 0 then some (swapPairs (data ++ [0x00]))
  else if data = [] then none
  else some (swapPairs data).dropLast

def hasNativeHyteraPrefix (data : Bytes) : Bool :=
  data.length ≥ 4 && data.take 4 == List.replicate 4 hyteraPrefixA

def hasHyteraDMRHeader (data : Bytes) : Bool :=
  hasNativeHyteraPrefix data ||
    (data.length ≥ 20 && slice data 9 12 == [0x00, 0x05, 0x01] &&
      (data.getD 12 0 == 0x01 || data.getD 12 0 == 0x02) &&
      (uint16At data 16 == 0x1111 || uint16At data 16 == 0x2222))

inductive DecodeError where
  | ignoredPacket
  | shortPacket
  | invalidPacketTail
  | payloadLength (length : Nat)
deriving DecidableEq

def DecodeError.error : DecodeError → String
  | .ignoredPacket => "packet ignored"
  | .shortPacket => "short packet"
  | .invalidPacketTail => "invalid packet tail"
  | .payloadLength length => "unexpected DMR payload length: " ++ toString length

/-- A datagram taken apart.  Only the native header carries a sequence number. -/
structure Inbound where
  slot : Bool
  slotType : SlotType
  frameType : UInt64
  dtype : UInt64
  groupCall : Bool
  dst : UInt64
  src : UInt64
  dmrData : DMRData
  seqIn : Option UInt8
deriving DecidableEq

inductive Decoded (α : Type) where
  | ok (result : α)
  | error (reason : DecodeError)
  | panic
deriving DecidableEq

def parsePayload (data : Bytes) (slotType : SlotType) (kind : UInt64 × UInt64) : Decoded Inbound :=
  let tailStart := data.length - 12
  if tailStart < 26 then .error .invalidPacketTail
  else
    match swapDMRPayload (slice data 26 tailStart) with
    | none => .panic
    | some payload =>
      if payload.length ≠ 33 then .error (.payloadLength payload.length)
      else
        .ok
          { slot := data.getD 12 0 != 0x01
            slotType
            frameType := kind.1
            dtype := kind.2
            groupCall := data.getD (tailStart + 2) 0 == 0x01
            dst := decodeID24LE (slice data (tailStart + 4) (tailStart + 8))
            src := decodeID24LE (slice data (tailStart + 8) (tailStart + 12))
            dmrData := Vector.ofFn fun i => payload.getD i 0
            seqIn := if hasNativeHyteraPrefix data then some (data.getD 4 0) else none }

def parseInbound (data : Bytes) : Decoded Inbound :=
  if data.length < 38 then .error .shortPacket
  else if !hasHyteraDMRHeader data then .error .ignoredPacket
  else
    match SlotType.ofUint16 (uint16At data 18) with
    | none => .error .ignoredPacket
    | some slotType =>
      match decodeSlotType slotType with
      | none => .error .ignoredPacket
      | some kind => parsePayload data slotType kind

structure SlotState where
  inLastSeqSet : Bool := false
  inLastSeq : UInt8 := 0
  mmdvmSeq : UInt8 := 0
  streamID : UInt32 := 0
  active : Bool := false
  inSrc : UInt64 := 0
  inDst : UInt64 := 0
  inGroupCall : Bool := false
  lastInbound : Time := 0
deriving DecidableEq

structure Decoder where
  slots : Bool → SlotState := fun _ => {}
  nextStreamID : UInt32 := 1

def hyteraGroupCallHangTime : Duration := 6 * second

def hyteraPrivateCallHangTime : Duration := 4 * second

def shouldStartNewInboundStream (st : SlotState) (slotType : SlotType) (src dst : UInt64) (groupCall : Bool)
    (now : Time) : Bool :=
  if !st.active then true
  else if slotType != .voiceLCHeader then false
  else if st.inSrc != src || st.inDst != dst || st.inGroupCall != groupCall then true
  else
    let hangTime := if groupCall then hyteraGroupCallHangTime else hyteraPrivateCallHangTime
    Time.isZero st.lastInbound || decide (hangTime < Time.sub now st.lastInbound)

def nextStream (id : UInt32) : UInt32 := if id + 1 = 0 then 1 else id + 1

def SlotState.repeats (st : SlotState) (seqIn : Option UInt8) : Bool :=
  st.inLastSeqSet && seqIn == some st.inLastSeq

def SlotState.startsStream (st : SlotState) (inbound : Inbound) (now : Time) : Bool :=
  !st.active ||
    shouldStartNewInboundStream st inbound.slotType inbound.src inbound.dst inbound.groupCall now

def SlotState.accept (st : SlotState) (inbound : Inbound) (streamID : UInt32) (now : Time) : SlotState where
  inLastSeqSet := st.inLastSeqSet || inbound.seqIn.isSome
  inLastSeq := inbound.seqIn.getD st.inLastSeq
  mmdvmSeq := st.mmdvmSeq + 1
  streamID
  active := inbound.slotType != .terminator
  inSrc := inbound.src
  inDst := inbound.dst
  inGroupCall := inbound.groupCall
  lastInbound := now

def Inbound.packet (inbound : Inbound) (bridgeID : UInt32) (seq : UInt8) (streamID : UInt32) : Packet where
  signature := dmrd
  seq := seq.toUInt64
  src := inbound.src
  dst := inbound.dst
  repeater := bridgeID.toUInt64
  slot := inbound.slot
  groupCall := inbound.groupCall
  frameType := inbound.frameType
  dtypeOrVSeq := inbound.dtype
  streamID := streamID.toUInt64
  dmrData := inbound.dmrData

def Decoder.accept (bridgeID : UInt32) (s : Decoder) (inbound : Inbound) (now : Time) :
    Decoder × Decoded Packet :=
  let st := s.slots inbound.slot
  if st.repeats inbound.seqIn then (s, .error .ignoredPacket)
  else
    let starts := st.startsStream inbound now
    let streamID := if starts then s.nextStreamID else st.streamID
    ({ slots := Function.update s.slots inbound.slot (st.accept inbound streamID now)
       nextStreamID := if starts then nextStream s.nextStreamID else s.nextStreamID },
      .ok (inbound.packet bridgeID st.mmdvmSeq streamID))

def decodeToMMDVM (bridgeID : UInt32) (s : Decoder) (data : Bytes) (now : Time) : Decoder × Decoded Packet :=
  match parseInbound data with
  | .ok inbound => s.accept bridgeID inbound now
  | .error reason => (s, .error reason)
  | .panic => (s, .panic)

open Function

/-! The stream IDs of the server. -/

def Decoder.HasStream (s : Decoder) (id : UInt32) : Prop :=
  ∃ slot, (s.slots slot).active = true ∧ (s.slots slot).streamID = id

instance (s : Decoder) (id : UInt32) : Decidable (s.HasStream id) :=
  inferInstanceAs (Decidable (∃ _, _ ∧ _))

def Decoder.Starts (s : Decoder) (data : Bytes) (now : Time) (id : UInt32) : Prop :=
  match parseInbound data with
  | .ok inbound => (s.slots inbound.slot).startsStream inbound now = true ∧ id = s.nextStreamID
  | _ => False

instance (s : Decoder) (data : Bytes) (now : Time) (id : UInt32) : Decidable (s.Starts data now id) :=
  match parsed : parseInbound data with
  | .ok inbound =>
    decidable_of_iff ((s.slots inbound.slot).startsStream inbound now = true ∧ id = s.nextStreamID)
      (by simp [Decoder.Starts, parsed])
  | .error _ => .isFalse (by simp [Decoder.Starts, parsed])
  | .panic => .isFalse (by simp [Decoder.Starts, parsed])

theorem SlotState.active_of_continues {st : SlotState} {inbound : Inbound} {now : Time}
    (continues : st.startsStream inbound now = false) : st.active = true := by
  simp only [SlotState.startsStream, Bool.or_eq_false_iff, Bool.not_eq_false'] at continues
  exact continues.1

section

variable {bridgeID : UInt32} {s next : Decoder} {data : Bytes} {now : Time} {result : Decoded Packet}

theorem hasStream_accept {inbound : Inbound} {id other number : UInt32} (has : Decoder.HasStream
      { slots := update s.slots inbound.slot ((s.slots inbound.slot).accept inbound id now)
        nextStreamID := number } other) : s.HasStream other ∨ other = id := by
  obtain ⟨slot, active, stream⟩ := has
  by_cases same : slot = inbound.slot
  · subst same
    simp only [update_self, SlotState.accept] at stream
    exact .inr stream.symm
  · simp only [update_of_ne same] at active stream
    exact .inl ⟨slot, active, stream⟩

theorem decodeToMMDVM_numbered (decoded : decodeToMMDVM bridgeID s data now = (next, result)) :
    (∀ pkt, result = .ok pkt → ∃ id, pkt.streamID = id.toUInt64 ∧ (s.HasStream id ∨ s.Starts data now id)) ∧
      ∀ id, next.HasStream id → s.HasStream id ∨ s.Starts data now id := by
  simp only [decodeToMMDVM] at decoded
  cases parsed : parseInbound data with
  | error | panic =>
    rw [parsed] at decoded
    cases decoded
    exact ⟨by simp, fun _ has => .inl has⟩
  | ok inbound =>
    simp only [parsed, Decoder.accept] at decoded
    simp only [Decoder.Starts, parsed]
    split at decoded
    · cases decoded
      exact ⟨by simp, fun _ has => .inl has⟩
    · cases starts : (s.slots inbound.slot).startsStream inbound now with
      | true =>
        simp only [starts, if_true] at decoded
        cases decoded
        refine ⟨fun pkt accepted => ?_, fun id has => ?_⟩
        · cases accepted
          exact ⟨s.nextStreamID, rfl, .inr ⟨rfl, rfl⟩⟩
        · exact (hasStream_accept has).imp_right fun equal => ⟨rfl, equal⟩
      | false =>
        simp only [starts, Bool.false_eq_true, if_false] at decoded
        cases decoded
        have current : s.HasStream (s.slots inbound.slot).streamID :=
          ⟨inbound.slot, SlotState.active_of_continues starts, rfl⟩
        refine ⟨fun pkt accepted => ?_, fun id has => ?_⟩
        · cases accepted
          exact ⟨_, rfl, .inl current⟩
        · cases hasStream_accept has with
          | inl older => exact .inl older
          | inr equal => exact .inl (equal ▸ current)

end

end Ipsc2Mmdvm.Hytera
