import Ipsc2Mmdvm.Data.Text
import Ipsc2Mmdvm.Hytera.Codec
import Mathlib.Data.UInt

namespace Ipsc2Mmdvm.Nrl

open Data Proto Hytera List

/-! NRL2 packets: a header of 48 bytes and a payload.  The bridge and the Hytera server each have an
encoder and a decoder of their own.  The case table of Unicode is a parameter of the encoders. -/

def headerLen : Nat := 48

def packetTypeVoice : UInt8 := 1

def devModelDMR : UInt8 := 200

inductive PacketError where
  | shortPacket
  | invalidSignature
deriving DecidableEq

def PacketError.error : PacketError → String
  | .shortPacket => "short nrl packet"
  | .invalidSignature => "invalid nrl signature"

def trimBlanks (text : Bytes) : Bytes := text.rdropWhile fun b => b == 0x00 || b == 0x0D || b == 0x20

def uint24At (data : Bytes) (i : Nat) : UInt32 :=
  (data.getD i 0).toUInt32 <<< 16 ||| (data.getD (i + 1) 0).toUInt32 <<< 8 ||| (data.getD (i + 2) 0).toUInt32

structure DecodedPacket where
  type : UInt8
  dmrID : UInt32
  count : Nat
  callsign : Bytes
  ssid : UInt8
  originalCallsign : Bytes := []
  originalSSID : UInt8 := 0
  originalIP : Bytes := []
  data : Bytes := []
deriving DecidableEq

def packetTotal (data : Bytes) : Nat :=
  let total := uint16At data 4
  let total := if total < headerLen ∨ data.length < total then data.length else total
  if (data.getD 20 0 = packetTypeVoice ∨ data.getD 20 0 = 9) ∧ headerLen < data.length ∧
      (total = headerLen ∨ total = data.length - headerLen) then data.length
  else total

def decodePacket (data : Bytes) : Except PacketError DecodedPacket :=
  if data.length < headerLen then .error .shortPacket
  else if data.take 4 ≠ ascii "NRL2" then .error .invalidSignature
  else
    let p : DecodedPacket :=
      { type := data.getD 20 0, dmrID := uint24At data 6, count := uint16At data 22,
        callsign := trimBlanks (slice data 24 30), ssid := data.getD 30 0 }
    let p :=
      if p.type = 9 ∨ data.getD 31 0 = devModelDMR then
        { p with originalCallsign := trimBlanks (slice data 32 38), originalSSID := data.getD 38 0,
                 originalIP := slice data 39 43 }
      else p
    .ok (if headerLen < packetTotal data then { p with data := slice data headerLen (packetTotal data) } else p)

def fitCallsign (cs : Bytes) : Bytes :=
  let cs := if cs.length > 6 then cs.take 6 else cs
  if cs.length < 6 then cs ++ List.replicate (6 - cs.length) 0x20 else cs

def normalizeCallsign (toUpper : String → String) (callsign : String) : Bytes :=
  fitCallsign (utf8 (toUpper (trimText callsign)))

def wirePacket (id : UInt32) (packetType : UInt8) (count : UInt16) (callsign : Bytes) (ssid model : UInt8)
    (tail payload : Bytes) : Bytes :=
  ascii "NRL2" ++ putUint16 (headerLen + payload.length) ++ [(id >>> 16).toUInt8, (id >>> 8).toUInt8, id.toUInt8] ++
    List.replicate 11 0 ++ [packetType, 1] ++ putUint16 count.toNat ++ callsign ++ [ssid, model] ++ tail ++ payload

def to4 (ip : Bytes) : Bytes :=
  if ip.length = 4 then ip
  else if ip.length = 16 ∧ ip.take 10 = List.replicate 10 0 ∧ slice ip 10 12 = [0xFF, 0xFF] then ip.drop 12
  else []

def encodeVoicePacket (toUpper : String → String) (callsign : String) (ssid : UInt8) (count : UInt16) (srcDMRID : UInt32)
    (srcCallsign : String) (payload localIP : Bytes) : Bytes :=
  wirePacket srcDMRID packetTypeVoice count (normalizeCallsign toUpper callsign) ssid devModelDMR
    (normalizeCallsign toUpper srcCallsign ++ [ssid] ++ to4 localIP ++ List.replicate (9 - (to4 localIP).length) 0) payload

structure NRL21Packet where
  type : UInt8
  dmrID : UInt32
  callsign : Bytes
  ssid : UInt8
  data : Bytes := []
deriving DecidableEq

def decodeNRL21Packet (data : Bytes) : Except PacketError NRL21Packet :=
  if data.length < headerLen then .error .shortPacket
  else if data.take 4 ≠ ascii "NRL2" then .error .invalidSignature
  else
    let total := min (uint16At data 4) data.length
    let p : NRL21Packet :=
      { type := data.getD 20 0, dmrID := uint24At data 6, callsign := trimBlanks (slice data 24 30), ssid := data.getD 30 0 }
    .ok (if headerLen < total then { p with data := slice data headerLen total } else p)

def normalizeNRLCallsign (toUpper : String → String) (callsign : String) : Bytes :=
  let cs := toUpper (trimText callsign)
  fitCallsign (utf8 (if cs = "" then "HYTNRL" else cs))

structure NRLPeerConfig where
  ssid : UInt8
  callsign : String
  dmrID : UInt32
deriving DecidableEq

def encodeNRL21Packet (toUpper : String → String) (cfg : NRLPeerConfig) (packetType : UInt8) (payload : Bytes)
    (count : UInt16) : Bytes :=
  wirePacket cfg.dmrID packetType count (normalizeNRLCallsign toUpper cfg.callsign) (if cfg.ssid = 0 then 50 else cfg.ssid)
    0x32 (List.replicate 16 0) payload

theorem length_slice_header (data : Bytes) (total : Nat) :
    (slice data headerLen total).length = min total data.length - headerLen := by
  rw [slice, length_drop, length_take]

variable {data : Bytes}

theorem slice_eq_iff {total other : Nat} (inside : total ≤ data.length) (inside' : other ≤ data.length) :
    slice data headerLen total = slice data headerLen other ↔ max headerLen total = max headerLen other := by
  constructor
  · intro same
    have lengths := congrArg length same
    rw [length_slice_header, length_slice_header] at lengths
    omega
  · intro same
    have cut (k : Nat) : slice data headerLen k = (data.drop headerLen).take (max headerLen k - headerLen) := by
      have count : max headerLen k - headerLen = k - headerLen := by omega
      rw [slice, drop_take, count]
    rw [cut, cut, same]

theorem slice_payload (data : Bytes) (total : Nat) :
    (if headerLen < total then slice data headerLen total else []) = slice data headerLen total := by
  split
  · rfl
  · rename_i small
    apply Eq.symm
    apply eq_nil_of_length_eq_zero
    rw [length_slice_header]
    omega

def Accepted (data : Bytes) : Prop := headerLen ≤ data.length ∧ data.take 4 = ascii "NRL2"

instance (data : Bytes) : Decidable (Accepted data) :=
  inferInstanceAs (Decidable (headerLen ≤ data.length ∧ data.take 4 = ascii "NRL2"))

theorem decodePacket_of_accepted (accepted : Accepted data) :
    ∃ p, decodePacket data = .ok p ∧ p.type = data.getD 20 0 ∧ p.dmrID = uint24At data 6 ∧ p.count = uint16At data 22 ∧
      p.callsign = trimBlanks (slice data 24 30) ∧ p.ssid = data.getD 30 0 ∧
      p.data = slice data headerLen (packetTotal data) ∧
      (data.getD 31 0 = devModelDMR → p.originalCallsign = trimBlanks (slice data 32 38)) := by
  simp only [decodePacket, if_neg (Nat.not_lt.mpr accepted.1), if_neg (not_not_intro accepted.2)]
  refine ⟨_, rfl, ?_⟩
  rw [← slice_payload data (packetTotal data)]
  split <;> split <;> simp_all

theorem decodeNRL21Packet_of_accepted (accepted : Accepted data) :
    ∃ p, decodeNRL21Packet data = .ok p ∧ p.type = data.getD 20 0 ∧ p.dmrID = uint24At data 6 ∧
      p.callsign = trimBlanks (slice data 24 30) ∧ p.ssid = data.getD 30 0 ∧
      p.data = slice data headerLen (min (uint16At data 4) data.length) := by
  simp only [decodeNRL21Packet, if_neg (Nat.not_lt.mpr accepted.1), if_neg (not_not_intro accepted.2)]
  refine ⟨_, rfl, ?_⟩
  rw [← slice_payload data (min (uint16At data 4) data.length)]
  split <;> simp

theorem decode_of_rejected (rejected : ¬ Accepted data) :
    (∃ e, decodeNRL21Packet data = .error e) ∧ ∃ e, decodePacket data = .error e := by
  by_cases short : data.length < headerLen
  · exact ⟨⟨_, if_pos short⟩, _, if_pos short⟩
  · have signature : data.take 4 ≠ ascii "NRL2" := fun same => rejected ⟨Nat.le_of_not_lt short, same⟩
    rw [decodeNRL21Packet, decodePacket, if_neg short, if_neg short, if_pos signature, if_pos signature]
    exact ⟨⟨_, rfl⟩, _, rfl⟩

def DecodersAgree (data : Bytes) : Prop :=
  match decodeNRL21Packet data, decodePacket data with
  | .error _, .error _ => True
  | .ok p, .ok q => q.type = packetTypeVoice →
      p.type = q.type ∧ p.dmrID = q.dmrID ∧ p.callsign = q.callsign ∧ p.ssid = q.ssid ∧ p.data = q.data
  | _, _ => False

def PlainLength (data : Bytes) : Prop :=
  Accepted data → data.getD 20 0 = packetTypeVoice → headerLen < data.length →
    headerLen < uint16At data 4 ∧ uint16At data 4 ≠ data.length - headerLen

theorem same_payload_iff (long : headerLen ≤ data.length) (voice : data.getD 20 0 = packetTypeVoice) :
    slice data headerLen (min (uint16At data 4) data.length) = slice data headerLen (packetTotal data) ↔
      (headerLen < data.length → headerLen < uint16At data 4 ∧ uint16At data 4 ≠ data.length - headerLen) := by
  have size : headerLen = 48 := rfl
  have bounded : packetTotal data ≤ data.length := by
    simp only [packetTotal]
    split <;> split <;> omega
  rw [slice_eq_iff (Nat.min_le_right _ _) bounded]
  simp only [packetTotal, voice, true_or, true_and]
  split <;> split <;> omega

theorem nrl_decoders_agree_iff (data : Bytes) : DecodersAgree data ↔ PlainLength data := by
  simp only [DecodersAgree, PlainLength]
  by_cases accepted : Accepted data
  · obtain ⟨p, decoded, type, id, callsign, ssid, payload⟩ := decodeNRL21Packet_of_accepted accepted
    obtain ⟨q, decoded', type', id', -, callsign', ssid', payload', -⟩ := decodePacket_of_accepted accepted
    simp only [decoded, decoded', type, id, callsign, ssid, payload, type', id', callsign', ssid', payload', accepted,
      true_and, true_implies]
    constructor
    · intro same voice
      exact (same_payload_iff accepted.1 voice).mp (same voice)
    · intro plain voice
      exact (same_payload_iff accepted.1 voice).mpr (plain voice)
  · obtain ⟨⟨e, rejected⟩, e', rejected'⟩ := decode_of_rejected accepted
    simp only [rejected, rejected', accepted, false_implies]

def headerOnlyPacket : Bytes :=
  ascii "NRL2" ++ [0, 48, 0, 0, 1] ++ List.replicate 11 0 ++ [1, 1, 0, 0] ++ ascii "D2TEST" ++ [50, 200] ++
    List.replicate 16 0 ++ [0xD5]

theorem nrl_decoders_differ_on_header_only :
    decodeNRL21Packet headerOnlyPacket = .ok { type := 1, dmrID := 1, callsign := ascii "D2TEST", ssid := 50, data := [] } ∧
      decodePacket headerOnlyPacket = .ok
        { type := 1, dmrID := 1, count := 0, callsign := ascii "D2TEST", ssid := 50, originalIP := [0, 0, 0, 0],
          data := [0xD5] } ∧
      ¬ DecodersAgree headerOnlyPacket := by
  have empty : decodeNRL21Packet headerOnlyPacket =
      .ok { type := 1, dmrID := 1, callsign := ascii "D2TEST", ssid := 50, data := [] } := by
    decide +kernel
  have full : decodePacket headerOnlyPacket = .ok
      { type := 1, dmrID := 1, count := 0, callsign := ascii "D2TEST", ssid := 50, originalIP := [0, 0, 0, 0],
        data := [0xD5] } := by
    decide +kernel
  refine ⟨empty, full, ?_⟩
  simp [DecodersAgree, empty, full, packetTypeVoice]

theorem length_fitCallsign (cs : Bytes) : (fitCallsign cs).length = 6 := by
  simp only [fitCallsign]
  split
  · rw [if_neg (by simp; omega), length_take]
    omega
  · split
    · rw [length_append, length_replicate]
      omega
    · omega

theorem or_id_bytes (id : UInt32) :
    (id >>> 16).toUInt8.toUInt32 <<< 16 ||| (id >>> 8).toUInt8.toUInt32 <<< 8 ||| id.toUInt8.toUInt32 = id % 2 ^ 24 := by
  have fits : ∀ n, (n % 256) <<< 16 % 4294967296 = (n % 256) <<< 16 ∧ (n % 256) <<< 8 % 4294967296 = (n % 256) <<< 8 := by
    intro n
    simp only [Nat.shiftLeft_eq]
    omega
  have modulus : (2 ^ 24 : UInt32).toNat = 2 ^ 24 := by decide
  apply UInt32.toNat.inj
  rw [UInt32.toNat_mod, modulus]
  simp [fits]
  rw [or_bytes3 (Nat.mod_lt _ (by decide)) (Nat.mod_lt _ (by decide))]
  simp only [Nat.shiftRight_eq_div_pow]
  omega

theorem byte_pair {value : Nat} (small : value < 65536) :
    (value / 256).toUInt8.toNat * 256 + value.toUInt8.toNat = value := by
  simp only [Nat.toUInt8, UInt8.toNat_ofNat']
  omega

section

variable {id : UInt32} {packetType : UInt8} {count : UInt16} {callsign : Bytes} {ssid model : UInt8} {tail payload : Bytes}
  (name : callsign.length = 6) (rest : tail.length = 16) (small : payload.length ≤ 65487)
include name rest small

theorem read_wirePacket {data : Bytes} (wire : data = wirePacket id packetType count callsign ssid model tail payload) :
    data.length = headerLen + payload.length ∧ Accepted data ∧ uint16At data 4 = data.length ∧
      data.getD 20 0 = packetType ∧ uint24At data 6 = id % 2 ^ 24 ∧ uint16At data 22 = count.toNat ∧
      slice data 24 30 = callsign ∧ data.getD 30 0 = ssid ∧ data.getD 31 0 = model ∧ slice data 32 38 = tail.take 6 ∧
      data.drop headerLen = payload := by
  match callsign, name with
  | [c0, c1, c2, c3, c4, c5], _ =>
    let front : Bytes := [0x4E, 0x52, 0x4C, 0x32, ((headerLen + payload.length) / 256).toUInt8,
      (headerLen + payload.length).toUInt8, (id >>> 16).toUInt8, (id >>> 8).toUInt8, id.toUInt8, 0, 0, 0, 0, 0, 0, 0, 0, 0, 0,
      0, packetType, 1, (count.toNat / 256).toUInt8, count.toNat.toUInt8, c0, c1, c2, c3, c4, c5, ssid, model]
    have split : data = front ++ (tail ++ payload) := by
      rw [wire, wirePacket, append_assoc _ tail payload]
      rfl
    have total : data.length = headerLen + payload.length := by
      rw [split, length_append, length_append, rest]
      simp [front, headerLen]
      omega
    have field : ((headerLen + payload.length) / 256).toUInt8.toNat * 256 + (headerLen + payload.length).toUInt8.toNat =
        headerLen + payload.length := byte_pair (by simp only [headerLen]; omega)
    subst split
    refine ⟨total, ⟨by omega, rfl⟩, ?_, rfl, or_id_bytes id, byte_pair count.toNat_lt, rfl, rfl, rfl, ?_, ?_⟩
    · rw [total]
      exact field
    · have cut := slice_append_right front (tail ++ payload) 0 6
      rw [show front.length = 32 from rfl] at cut
      rw [cut, slice, drop_zero, take_append_of_le_length (by omega)]
    · rw [← append_assoc]
      exact drop_left' (by rw [length_append, rest]; rfl)

theorem decode_wirePacket {data : Bytes} (wire : data = wirePacket id packetType count callsign ssid model tail payload) :
    (∃ p, decodeNRL21Packet data = .ok p ∧ p.type = packetType ∧ p.dmrID = id % 2 ^ 24 ∧ p.callsign = trimBlanks callsign ∧
        p.ssid = ssid ∧ p.data = payload) ∧
      ∃ p, decodePacket data = .ok p ∧ p.type = packetType ∧ p.dmrID = id % 2 ^ 24 ∧ p.callsign = trimBlanks callsign ∧
        p.ssid = ssid ∧ p.data = payload ∧ p.count = count.toNat ∧
        (model = devModelDMR → p.originalCallsign = trimBlanks (tail.take 6)) := by
  obtain ⟨total, accepted, field, type, address, number, sign, station, device, original, content⟩ :=
    read_wirePacket name rest small wire
  have whole : slice data headerLen data.length = payload := by rw [slice, take_length, content]
  constructor
  · obtain ⟨p, decoded, type', address', sign', station', content'⟩ := decodeNRL21Packet_of_accepted accepted
    rw [field, Nat.min_self, whole] at content'
    exact ⟨p, decoded, type'.trans type, address'.trans address, by rw [sign', sign], station'.trans station, content'⟩
  · obtain ⟨p, decoded, type', address', number', sign', station', content', original'⟩ := decodePacket_of_accepted accepted
    have size : headerLen = 48 := rfl
    have plain : packetTotal data = data.length := by
      simp only [packetTotal, field]
      split <;> split <;> omega
    rw [plain, whole] at content'
    refine ⟨p, decoded, type'.trans type, address'.trans address, by rw [sign', sign], station'.trans station, content',
      number'.trans number, fun dmr => ?_⟩
    rw [original' (device.trans dmr), original]

end

theorem length_to4 (ip : Bytes) : (to4 ip).length ≤ 9 := by
  simp only [to4]
  split
  · omega
  · split
    · rename_i mapped
      rw [length_drop]
      omega
    · simp

section

variable {toUpper : String → String} {cfg : NRLPeerConfig} {packetType : UInt8} {payload : Bytes} {count : UInt16}
  {callsign srcCallsign : String} {ssid : UInt8} {srcDMRID : UInt32} {localIP : Bytes}

theorem nrl_packets_round_trip (small : payload.length ≤ 65487) :
    ((∃ p, decodeNRL21Packet (encodeNRL21Packet toUpper cfg packetType payload count) = .ok p ∧ p.type = packetType ∧
        p.dmrID = cfg.dmrID % 2 ^ 24 ∧ p.callsign = trimBlanks (normalizeNRLCallsign toUpper cfg.callsign) ∧
        p.ssid = (if cfg.ssid = 0 then 50 else cfg.ssid) ∧ p.data = payload) ∧
      ∃ p, decodePacket (encodeNRL21Packet toUpper cfg packetType payload count) = .ok p ∧ p.type = packetType ∧
        p.dmrID = cfg.dmrID % 2 ^ 24 ∧ p.callsign = trimBlanks (normalizeNRLCallsign toUpper cfg.callsign) ∧
        p.ssid = (if cfg.ssid = 0 then 50 else cfg.ssid) ∧ p.data = payload ∧ p.count = count.toNat) ∧
      (∃ p, decodeNRL21Packet (encodeVoicePacket toUpper callsign ssid count srcDMRID srcCallsign payload localIP) = .ok p ∧
        p.type = packetTypeVoice ∧ p.dmrID = srcDMRID % 2 ^ 24 ∧ p.callsign = trimBlanks (normalizeCallsign toUpper callsign) ∧
        p.ssid = ssid ∧ p.data = payload) ∧
      ∃ p, decodePacket (encodeVoicePacket toUpper callsign ssid count srcDMRID srcCallsign payload localIP) = .ok p ∧
        p.type = packetTypeVoice ∧ p.dmrID = srcDMRID % 2 ^ 24 ∧ p.callsign = trimBlanks (normalizeCallsign toUpper callsign) ∧
        p.ssid = ssid ∧ p.data = payload ∧ p.count = count.toNat ∧
        p.originalCallsign = trimBlanks (normalizeCallsign toUpper srcCallsign) := by
  have sixServer : (normalizeNRLCallsign toUpper cfg.callsign).length = 6 := length_fitCallsign _
  have sixOwn : (normalizeCallsign toUpper callsign).length = 6 := length_fitCallsign _
  have sixSource : (normalizeCallsign toUpper srcCallsign).length = 6 := length_fitCallsign _
  constructor
  · obtain ⟨server, p, decoded, type, address, sign, station, content, number, -⟩ :=
      decode_wirePacket sixServer List.length_replicate small
        (rfl : encodeNRL21Packet toUpper cfg packetType payload count = _)
    exact ⟨server, p, decoded, type, address, sign, station, content, number⟩
  · have tail : (normalizeCallsign toUpper srcCallsign ++ [ssid] ++ to4 localIP ++
        List.replicate (9 - (to4 localIP).length) 0).length = 16 := by
      have short := length_to4 localIP
      simp only [List.length_append, sixSource, List.length_singleton, List.length_replicate]
      omega
    obtain ⟨server, p, decoded, type, address, sign, station, content, number, original⟩ :=
      decode_wirePacket sixOwn tail small
        (rfl : encodeVoicePacket toUpper callsign ssid count srcDMRID srcCallsign payload localIP = _)
    refine ⟨server, p, decoded, type, address, sign, station, content, number, ?_⟩
    rw [original rfl]
    simp only [List.append_assoc]
    rw [List.take_left' sixSource]

end

theorem nrl_packets_round_trip_three_bytes :
    (∃ p, decodePacket (encodeVoicePacket upperText "bh4rpn" 50 7 4601234 " bg4abc" [1, 2, 3] [10, 0, 0, 1]) = .ok p ∧
        p.data = [1, 2, 3] ∧ p.count = 7 ∧ p.originalCallsign = trimBlanks (normalizeCallsign upperText " bg4abc")) ∧
      ∃ p, decodeNRL21Packet (encodeNRL21Packet upperText { ssid := 0, callsign := "", dmrID := 4601234 } 2 [1, 2, 3] 7) =
        .ok p ∧ p.type = 2 ∧ p.ssid = 50 ∧ p.data = [1, 2, 3] := by
  obtain ⟨⟨⟨q, server, type, -, -, station, payload⟩, -⟩, -, p, decoded, -, -, -, -, content, number, original⟩ :=
    @nrl_packets_round_trip upperText { ssid := 0, callsign := "", dmrID := 4601234 } 2 [1, 2, 3] 7 "bh4rpn" " bg4abc" 50
      4601234 [10, 0, 0, 1] (by decide)
  exact ⟨⟨p, decoded, content, number, original⟩, q, server, type, station, payload⟩

end Ipsc2Mmdvm.Nrl
