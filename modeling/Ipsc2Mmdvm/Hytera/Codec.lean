import Mathlib.Tactic.FinCases
import Ipsc2Mmdvm.Hytera.Decode
import Ipsc2Mmdvm.Proto.Codec

namespace Ipsc2Mmdvm.Hytera

open Data Proto List

/-! Of the state of a slot the encoder has the number of its last datagram, which no decoder reads.
-/

def packetTypeA : UInt8 := 0x41

def packetTypeTerminator : UInt8 := 0x43

def SlotType.toUint16 : SlotType → Nat
  | .privacyIndicator => 0x0000
  | .voiceLCHeader => 0x1111
  | .terminator => 0x2222
  | .csbk => 0x3333
  | .dataHeader => 0x4444
  | .rate12Data => 0x5555
  | .rate34Data => 0x6666
  | .dataC => 0x7777
  | .dataD => 0x8888
  | .dataE => 0x9999
  | .dataF => 0xAAAA
  | .dataAOrPrivacy => 0xBBBB
  | .dataB => 0xCCCC
  | .wakeupRequest => 0xDDDD
  | .sync => 0xEEEE

inductive EncodeError where
  | dataType (dtype : UInt64)
  | voiceSeq (vseq : UInt64)
  | payloadLength (length : Nat)
deriving DecidableEq

def EncodeError.error : EncodeError → String
  | .dataType dtype => "unsupported data type: " ++ toString dtype
  | .voiceSeq vseq => "unsupported voice seq: " ++ toString vseq
  | .payloadLength length => "unexpected Hytera payload length: " ++ toString length

def encodeSlotType (pkt : Packet) : Except EncodeError (SlotType × UInt8) :=
  if pkt.frameType = 2 then
    match pkt.dtypeOrVSeq.toNat with
    | 0 => .ok (.privacyIndicator, packetTypeA)
    | 1 => .ok (.voiceLCHeader, packetTypeA)
    | 2 => .ok (.terminator, packetTypeTerminator)
    | 3 => .ok (.csbk, packetTypeA)
    | 6 => .ok (.dataHeader, packetTypeA)
    | 7 => .ok (.rate12Data, packetTypeA)
    | 8 => .ok (.rate34Data, packetTypeA)
    | _ => .error (.dataType pkt.dtypeOrVSeq)
  else
    match pkt.dtypeOrVSeq.toNat with
    | 0 => .ok (.dataAOrPrivacy, packetTypeA)
    | 1 => .ok (.dataB, packetTypeA)
    | 2 => .ok (.dataC, packetTypeA)
    | 3 => .ok (.dataD, packetTypeA)
    | 4 => .ok (.dataE, packetTypeA)
    | 5 => .ok (.dataF, packetTypeA)
    | _ => .error (.voiceSeq pkt.dtypeOrVSeq)

def putUint16 (value : Nat) : Bytes := [(value / 256).toUInt8, value.toUInt8]

def encodeID24LE (id : UInt64) : Bytes := [id.toUInt8, (id >>> 8).toUInt8, (id >>> 16).toUInt8, 0x00]

def cfgColorCode (cfg : Option UInt8) : UInt8 := (cfg.map (· &&& 0x0F)).getD 0

section

variable (cfg : Option UInt8)

def encodeHeader (slot : Bool) (outSeq packetType : UInt8) (slotType : SlotType) : Bytes :=
  let cc := cfgColorCode cfg
  let ccByte := cc ||| cc <<< 4
  List.replicate 4 hyteraPrefixA ++ [outSeq, 0xE0, 0x00, 0x00, packetType, 0x00, 0x05, 0x01] ++
    [if slot then 0x02 else 0x01, 0x00, 0x00, 0x00] ++ putUint16 (if slot then 0x2222 else 0x1111) ++
    putUint16 slotType.toUint16 ++ [ccByte, ccByte] ++ putUint16 0x0000 ++ [0x40, 0x5C]

def encodeTail (pkt : Packet) : Bytes :=
  [0x63, 0x02, if pkt.groupCall then 0x01 else 0x00, 0x00] ++ encodeID24LE pkt.dst ++ encodeID24LE pkt.src

/-- `encodeFromMMDVMWithState`.  The 33 bytes of a payload are too many for `swapDMRPayload` to
panic.  The sequence number advances even if the packet cannot be encoded. -/
def encodeFromMMDVMWithState (pkt : Packet) (outSeq : UInt8) : UInt8 × Except EncodeError Bytes :=
  let outSeq := outSeq + 1
  match encodeSlotType pkt with
  | .error reason => (outSeq, .error reason)
  | .ok (slotType, packetType) =>
    let payload := (swapDMRPayload pkt.dmrData.toList).getD []
    if payload.length ≠ 34 then (outSeq, .error (.payloadLength payload.length))
    else (outSeq, .ok (encodeHeader cfg pkt.slot outSeq packetType slotType ++ payload ++ encodeTail pkt))

/-- `encodeFromMMDVM`, over the `outSeq` of the slots; a slot without a state has the zero state. -/
def encodeFromMMDVM (outSeqs : Bool → UInt8) (pkt : Packet) : (Bool → UInt8) × Except EncodeError Bytes :=
  let (outSeq, result) := encodeFromMMDVMWithState cfg pkt (outSeqs pkt.slot)
  (Function.update outSeqs pkt.slot outSeq, result)

end

def supportedKinds : List (UInt64 × UInt64) :=
  [(2, 0), (2, 1), (2, 2), (2, 3), (2, 6), (2, 7), (2, 8), (1, 0), (0, 1), (0, 2), (0, 3), (0, 4), (0, 5)]

theorem ofUint16_toUint16 (slotType : SlotType) : SlotType.ofUint16 slotType.toUint16 = some slotType := by
  cases slotType <;> rfl

variable {pkt : Packet} {data : Bytes} {inbound : Inbound}

theorem decodeSlotType_encodeSlotType (supported : (pkt.frameType, pkt.dtypeOrVSeq) ∈ supportedKinds) :
    ∃ slotType packetType, encodeSlotType pkt = .ok (slotType, packetType) ∧
      decodeSlotType slotType = some (pkt.frameType, pkt.dtypeOrVSeq) := by
  simp only [supportedKinds] at supported
  generalize kind : (pkt.frameType, pkt.dtypeOrVSeq) = pair at supported ⊢
  obtain ⟨frameType, dtype⟩ := Prod.mk.inj kind
  fin_cases supported <;>
  · simp only [encodeSlotType, frameType, dtype]
    exact ⟨_, _, rfl, rfl⟩

theorem decodeID24LE_encodeID24LE {id : UInt64} (small : id.toNat < 2 ^ 24) : decodeID24LE (encodeID24LE id) = id := by
  have order (a b c : UInt64) : a ||| b ||| c = c ||| b ||| a := by
    rw [UInt64.or_comm (a ||| b), UInt64.or_comm a, UInt64.or_assoc]
  have read := uint24_bytes small
  rw [uint24] at read
  exact (order _ _ _).trans read

@[simp] theorem length_swapPairs (data : Bytes) : (swapPairs data).length = data.length := by
  fun_induction swapPairs data with
  | case1 first second rest ih => simp [ih]
  | case2 rest _ => rfl

theorem swapPairs_swapPairs (data : Bytes) : swapPairs (swapPairs data) = data := by
  fun_induction swapPairs data with
  | case1 first second rest ih => rw [swapPairs, ih]
  | case2 rest short => exact swapPairs.eq_2 rest short

theorem length_swapDMRPayload {payload : Bytes} (swapped : swapDMRPayload data = some payload) :
    (payload.length = data.length + 1 ∧ data.length % 2 = 1) ∨ (payload.length + 1 = data.length ∧ data.length % 2 = 0) := by
  simp only [swapDMRPayload] at swapped
  split at swapped
  case isTrue odd =>
    cases swapped
    exact .inl ⟨by simp, by omega⟩
  case isFalse even =>
    split at swapped
    case isTrue => cases swapped
    case isFalse nonempty =>
      cases swapped
      have positive := length_pos_iff.mpr nonempty
      refine .inr ⟨?_, by omega⟩
      rw [length_dropLast, length_swapPairs]
      omega

theorem swapDMRPayload_swapDMRPayload (odd : data.length % 2 = 1) :
    ∃ payload, swapDMRPayload data = some payload ∧ payload.length = data.length + 1 ∧ swapDMRPayload payload = some data := by
  refine ⟨swapPairs (data ++ [0x00]), ?_, by simp, ?_⟩
  · rw [swapDMRPayload, if_pos (by omega)]
  · have even : ¬(swapPairs (data ++ [0x00])).length % 2 ≠ 0 := by
      rw [length_swapPairs, length_append, length_singleton]
      omega
    have nonempty : swapPairs (data ++ [0x00]) ≠ [] := by
      intro empty
      have length := congrArg length empty
      simp at length
    rw [swapDMRPayload, if_neg even, if_neg nonempty, swapPairs_swapPairs, dropLast_concat]

section

variable {cfg : Option UInt8} {pkt : Packet} {outSeq packetType : UInt8} {slotType : SlotType}
  {payload data : Bytes}

theorem header_read (rest : Bytes) (datagram : data = encodeHeader cfg pkt.slot outSeq packetType slotType ++ rest) :
    hasNativeHyteraPrefix data = true ∧ data.getD 4 0 = outSeq ∧ (data.getD 12 0 != 0x01) = pkt.slot ∧
      SlotType.ofUint16 (uint16At data 18) = some slotType := by
  subst datagram
  refine ⟨?_, rfl, ?_, ?_⟩
  · simp [hasNativeHyteraPrefix, encodeHeader, hyteraPrefixA]
  · change ((if pkt.slot then 0x02 else 0x01) != (0x01 : UInt8)) = pkt.slot
    cases pkt.slot <;> rfl
  · have bytes : (slotType.toUint16 / 256).toUInt8.toNat * 256 + slotType.toUint16.toUInt8.toNat = slotType.toUint16 := by
      cases slotType <;> rfl
    exact (congrArg SlotType.ofUint16 bytes).trans (ofUint16_toUint16 slotType)

theorem tail_read (front : Bytes) (datagram : data = front ++ encodeTail pkt) (src : pkt.src.toNat < 2 ^ 24)
    (dst : pkt.dst.toNat < 2 ^ 24) :
    (data.getD (front.length + 2) 0 == 0x01) = pkt.groupCall ∧
      decodeID24LE (slice data (front.length + 4) (front.length + 8)) = pkt.dst ∧
      decodeID24LE (slice data (front.length + 8) (front.length + 12)) = pkt.src := by
  subst datagram
  rw [slice_append_right, slice_append_right, getD_append_right _ _ _ _ (by omega), Nat.add_sub_cancel_left]
  refine ⟨?_, decodeID24LE_encodeID24LE dst, decodeID24LE_encodeID24LE src⟩
  change ((if pkt.groupCall then 0x01 else 0x00) == (0x01 : UInt8)) = pkt.groupCall
  cases pkt.groupCall <;> rfl

theorem parseInbound_encoded (size : payload.length = 34) (swapped : swapDMRPayload payload = some pkt.dmrData.toList)
    (kind : decodeSlotType slotType = some (pkt.frameType, pkt.dtypeOrVSeq)) (src : pkt.src.toNat < 2 ^ 24)
    (dst : pkt.dst.toNat < 2 ^ 24)
    (datagram : data = encodeHeader cfg pkt.slot outSeq packetType slotType ++ payload ++ encodeTail pkt) :
    parseInbound data =
      .ok { slot := pkt.slot, slotType, frameType := pkt.frameType, dtype := pkt.dtypeOrVSeq, groupCall := pkt.groupCall
            dst := pkt.dst, src := pkt.src, dmrData := pkt.dmrData, seqIn := some outSeq } := by
  have long : (encodeHeader cfg pkt.slot outSeq packetType slotType).length = 26 := rfl
  have short : (encodeTail pkt).length = 12 := rfl
  have front : (encodeHeader cfg pkt.slot outSeq packetType slotType ++ payload).length = 60 := by
    rw [length_append, long, size]
  have length : data.length = 72 := by rw [datagram, length_append, front, short]
  have middle : slice data 26 60 = payload := by
    have middle := slice_middle (encodeHeader cfg pkt.slot outSeq packetType slotType) payload (encodeTail pkt)
    rwa [long, size, ← datagram] at middle
  obtain ⟨native, seq, slot, slotTypeRead⟩ := header_read (payload ++ encodeTail pkt) (datagram.trans (append_assoc ..))
  obtain ⟨groupCall, dstRead, srcRead⟩ := tail_read _ datagram src dst
  rw [front] at groupCall dstRead srcRead
  have header : hasHyteraDMRHeader data = true := by rw [hasHyteraDMRHeader, native, Bool.true_or]
  have size : pkt.dmrData.toList.length = 33 := pkt.dmrData.size_toArray
  simp only [parseInbound, parsePayload, length, header, slotTypeRead, kind, middle, swapped, size, native, seq, slot, groupCall,
    dstRead, srcRead, ofFn_getD_toList, Nat.reduceSub, Nat.reduceLT, Nat.reduceAdd, Bool.not_true, Bool.false_eq_true, if_false,
    if_true, ne_eq, not_true_eq_false]

end

theorem length_of_parsePayload {slotType : SlotType} {kind : UInt64 × UInt64}
    (parsed : parsePayload data slotType kind = .ok inbound) : data.length = 72 := by
  simp only [parsePayload] at parsed
  split at parsed
  case isTrue => cases parsed
  case isFalse long =>
    cases swapped : swapDMRPayload (slice data 26 (data.length - 12)) with
    | none => simp [swapped] at parsed
    | some payload =>
      simp only [swapped] at parsed
      split at parsed
      case isTrue => cases parsed
      case isFalse exact =>
        have lengths := length_swapDMRPayload swapped
        rw [slice, length_drop, length_take] at lengths
        omega

theorem length_of_parseInbound (parsed : parseInbound data = .ok inbound) : data.length = 72 := by
  simp only [parseInbound] at parsed
  split at parsed
  case isTrue => cases parsed
  case isFalse =>
    split at parsed
    case isTrue => cases parsed
    case isFalse =>
      split at parsed
      case h_1 => cases parsed
      case h_2 slotType _ =>
        cases kind : decodeSlotType slotType with
        | none => simp [kind] at parsed
        | some kinds =>
          rw [kind] at parsed
          exact length_of_parsePayload parsed

theorem encodeFromMMDVM_ok (cfg : Option UInt8) (outSeqs : Bool → UInt8)
    (supported : (pkt.frameType, pkt.dtypeOrVSeq) ∈ supportedKinds) :
    ∃ data slotType packetType payload, (encodeFromMMDVM cfg outSeqs pkt).2 = .ok data ∧
      data = encodeHeader cfg pkt.slot (outSeqs pkt.slot + 1) packetType slotType ++ payload ++ encodeTail pkt ∧
      decodeSlotType slotType = some (pkt.frameType, pkt.dtypeOrVSeq) ∧ payload.length = 34 ∧
      swapDMRPayload payload = some pkt.dmrData.toList := by
  have size : pkt.dmrData.toList.length = 33 := pkt.dmrData.size_toArray
  obtain ⟨slotType, packetType, encoded, kind⟩ := decodeSlotType_encodeSlotType supported
  obtain ⟨payload, swapped, length, back⟩ := @swapDMRPayload_swapDMRPayload pkt.dmrData.toList (by rw [size])
  rw [size] at length
  refine ⟨_, slotType, packetType, payload, ?_, rfl, kind, length, back⟩
  simp only [encodeFromMMDVM, encodeFromMMDVMWithState, encoded, swapped, Option.getD_some, length, ne_eq, not_true_eq_false,
    if_false]

theorem decodeToMMDVM_encoded (parsed : parseInbound data = .ok inbound) {s : Decoder}
    (fresh : (s.slots inbound.slot).repeats inbound.seqIn = false) (bridgeID : UInt32) (now : Time) :
    ∃ seq streamID, (decodeToMMDVM bridgeID s data now).2 = .ok (inbound.packet bridgeID seq streamID) := by
  simp only [decodeToMMDVM, parsed, Decoder.accept, fresh, Bool.false_eq_true, if_false]
  exact ⟨_, _, rfl⟩

theorem length_of_decodeToMMDVM {bridgeID : UInt32} {s : Decoder} {now : Time}
    (decoded : (decodeToMMDVM bridgeID s data now).2 = .ok pkt) : data.length = 72 := by
  simp only [decodeToMMDVM] at decoded
  cases parsed : parseInbound data with
  | ok inbound => exact length_of_parseInbound parsed
  | error | panic => simp [parsed] at decoded

def Carried (pkt decoded : Packet) : Prop :=
  decoded.slot = pkt.slot ∧ decoded.groupCall = pkt.groupCall ∧ decoded.src = pkt.src ∧ decoded.dst = pkt.dst ∧
    decoded.frameType = pkt.frameType ∧ decoded.dtypeOrVSeq = pkt.dtypeOrVSeq ∧ decoded.dmrData = pkt.dmrData

theorem hytera_codec_round_trip :
    (∀ (cfg : Option UInt8) (outSeqs : Bool → UInt8) (pkt : Packet), pkt.src.toNat < 2 ^ 24 → pkt.dst.toNat < 2 ^ 24 →
      (pkt.frameType, pkt.dtypeOrVSeq) ∈ supportedKinds →
        ∃ data, (encodeFromMMDVM cfg outSeqs pkt).2 = .ok data ∧
          ∀ (bridgeID : UInt32) (s : Decoder) (now : Time),
            ¬((s.slots pkt.slot).inLastSeqSet = true ∧ (s.slots pkt.slot).inLastSeq = data.getD 4 0) →
              ∃ decoded, (decodeToMMDVM bridgeID s data now).2 = .ok decoded ∧ Carried pkt decoded) ∧
      ∀ (bridgeID : UInt32) (s : Decoder) (data : Bytes) (now : Time) (pkt : Packet),
        (decodeToMMDVM bridgeID s data now).2 = .ok pkt → data.length = 72 := by
  constructor
  · intro cfg outSeqs pkt src dst supported
    obtain ⟨data, slotType, packetType, payload, encoded, datagram, kind, size, swapped⟩ :=
      encodeFromMMDVM_ok cfg outSeqs supported
    have parsed := parseInbound_encoded size swapped kind src dst datagram
    obtain ⟨-, seq, -⟩ := header_read (payload ++ encodeTail pkt) (datagram.trans (List.append_assoc ..))
    refine ⟨data, encoded, ?_⟩
    intro bridgeID s now fresh
    rw [seq] at fresh
    have other : (s.slots pkt.slot).repeats (some (outSeqs pkt.slot + 1)) = false := by
      rw [Bool.eq_false_iff]
      intro repeated
      simp only [SlotState.repeats, Bool.and_eq_true, beq_iff_eq, Option.some.injEq] at repeated
      exact fresh ⟨repeated.1, repeated.2.symm⟩
    obtain ⟨seq, streamID, decoded⟩ := decodeToMMDVM_encoded parsed other bridgeID now
    exact ⟨_, decoded, rfl, rfl, rfl, rfl, rfl, rfl, rfl⟩
  · intro bridgeID s data now pkt decoded
    exact length_of_decodeToMMDVM decoded

def privateTerminator : Packet where
  signature := dmrd
  src := 4600001
  dst := 16777215
  slot := true
  frameType := 2
  dtypeOrVSeq := 2

theorem hytera_codec_round_trip_terminator :
    ∃ data decoded, (encodeFromMMDVM (some 1) (fun _ => 255) privateTerminator).2 = .ok data ∧ data.length = 72 ∧
      (decodeToMMDVM 9000000 {} data 0).2 = .ok decoded ∧ Carried privateTerminator decoded := by
  obtain ⟨data, encoded, returns⟩ :=
    hytera_codec_round_trip.1 (some 1) (fun _ => 255) privateTerminator (by decide) (by decide) (by decide)
  obtain ⟨decoded, result, carried⟩ := returns 9000000 {} 0 (fun repeated => Bool.false_ne_true repeated.1)
  exact ⟨data, decoded, encoded, hytera_codec_round_trip.2 _ _ _ _ _ result, result, carried⟩

end Ipsc2Mmdvm.Hytera
