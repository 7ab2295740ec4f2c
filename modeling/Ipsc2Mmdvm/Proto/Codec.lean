import Ipsc2Mmdvm.Data.Bytes
import Ipsc2Mmdvm.Proto.Packet
import Mathlib.Algebra.Group.Nat.Defs

namespace Ipsc2Mmdvm.Proto

open Data Packet
open List hiding Vector

/-! What the DMRD wire format keeps of a packet, and of a datagram. -/

structure Packet.FitsWire (p : Packet) : Prop where
  signature : p.signature.length = 4
  seq : p.seq.toNat < 2 ^ 8
  src : p.src.toNat < 2 ^ 24
  dst : p.dst.toNat < 2 ^ 24
  repeater : p.repeater.toNat < 2 ^ 32
  frameType : p.frameType.toNat < 4
  dtypeOrVSeq : p.dtypeOrVSeq.toNat < 16
  streamID : p.streamID.toNat < 2 ^ 32

theorem toNat_uint24_bytes (a : UInt64) :
    (uint24 (a >>> 16).toUInt8 (a >>> 8).toUInt8 a.toUInt8).toNat = a.toNat % 2 ^ 24 := by
  have fits : ∀ n, (n % 256) <<< 16 % 18446744073709551616 = (n % 256) <<< 16 ∧
      (n % 256) <<< 8 % 18446744073709551616 = (n % 256) <<< 8 := by
    intro n
    simp only [Nat.shiftLeft_eq]
    omega
  simp [uint24, fits]
  rw [or_bytes3 (Nat.mod_lt _ (by decide)) (Nat.mod_lt _ (by decide))]
  simp only [Nat.shiftRight_eq_div_pow]
  omega

theorem uint24_bytes {a : UInt64} (small : a.toNat < 2 ^ 24) :
    uint24 (a >>> 16).toUInt8 (a >>> 8).toUInt8 a.toUInt8 = a := by
  apply UInt64.toNat.inj
  rw [toNat_uint24_bytes, Nat.mod_eq_of_lt small]

theorem uint32_bytes {a : UInt64} (small : a.toNat < 2 ^ 32) :
    uint32 (a >>> 24).toUInt8 (a >>> 16).toUInt8 (a >>> 8).toUInt8 a.toUInt8 = a := by
  have fits : ∀ n, (n % 256) <<< 24 % 18446744073709551616 = (n % 256) <<< 24 ∧
      (n % 256) <<< 16 % 18446744073709551616 = (n % 256) <<< 16 ∧
      (n % 256) <<< 8 % 18446744073709551616 = (n % 256) <<< 8 := by
    intro n
    simp only [Nat.shiftLeft_eq]
    omega
  apply UInt64.toNat.inj
  simp [uint32, fits]
  rw [or_bytes4 (Nat.mod_lt _ (by decide)) (Nat.mod_lt _ (by decide)) (Nat.mod_lt _ (by decide))]
  simp only [Nat.shiftRight_eq_div_pow]
  omega

theorem toNat_uint24 (a b c : UInt8) : (uint24 a b c).toNat = (a.toNat * 256 + b.toNat) * 256 + c.toNat := by
  have first := a.toNat_lt
  have second := b.toNat_lt
  have third := c.toNat_lt
  have fits : a.toNat <<< 16 % 18446744073709551616 = a.toNat <<< 16 ∧
      b.toNat <<< 8 % 18446744073709551616 = b.toNat <<< 8 := by
    simp only [Nat.shiftLeft_eq]
    omega
  simp [uint24, fits]
  exact or_bytes3 second third

theorem toNat_uint32 (a b c d : UInt8) :
    (uint32 a b c d).toNat = ((a.toNat * 256 + b.toNat) * 256 + c.toNat) * 256 + d.toNat := by
  have first := a.toNat_lt
  have second := b.toNat_lt
  have third := c.toNat_lt
  have fourth := d.toNat_lt
  have fits : a.toNat <<< 24 % 18446744073709551616 = a.toNat <<< 24 ∧
      b.toNat <<< 16 % 18446744073709551616 = b.toNat <<< 16 ∧
      c.toNat <<< 8 % 18446744073709551616 = c.toNat <<< 8 := by
    simp only [Nat.shiftLeft_eq]
    omega
  simp [uint32, fits]
  exact or_bytes4 second third fourth

theorem bytes_uint24 (a b c : UInt8) :
    [(uint24 a b c >>> 16).toUInt8, (uint24 a b c >>> 8).toUInt8, (uint24 a b c).toUInt8] = [a, b, c] := by
  have value := toNat_uint24 a b c
  have first := a.toNat_lt
  have second := b.toNat_lt
  have third := c.toNat_lt
  simp only [cons.injEq, and_true]
  refine ⟨UInt8.toNat.inj ?_, UInt8.toNat.inj ?_, UInt8.toNat.inj ?_⟩ <;>
    simp [value, Nat.shiftRight_eq_div_pow] <;> omega

theorem bytes_uint32 (a b c d : UInt8) :
    [(uint32 a b c d >>> 24).toUInt8, (uint32 a b c d >>> 16).toUInt8, (uint32 a b c d >>> 8).toUInt8,
      (uint32 a b c d).toUInt8] = [a, b, c, d] := by
  have value := toNat_uint32 a b c d
  have first := a.toNat_lt
  have second := b.toNat_lt
  have third := c.toNat_lt
  have fourth := d.toNat_lt
  simp only [cons.injEq, and_true]
  refine ⟨UInt8.toNat.inj ?_, UInt8.toNat.inj ?_, UInt8.toNat.inj ?_, UInt8.toNat.inj ?_⟩ <;>
    simp [value, Nat.shiftRight_eq_div_pow] <;> omega

variable {p : Packet} {data : Bytes}

theorem flags_of_bits {bits : UInt8} (slot : p.slot = (bits &&& 0x80 != 0)) (groupCall : p.groupCall = (bits &&& 0x40 == 0))
    (frameType : p.frameType = ((bits &&& 0x30) >>> 4).toUInt64) (dtypeOrVSeq : p.dtypeOrVSeq = (bits &&& 0x0F).toUInt64) :
    p.flags = bits := by
  rw [flags, slot, groupCall, frameType, dtypeOrVSeq]
  clear slot groupCall frameType dtypeOrVSeq
  induction bits using forall_byte with
  | each n =>
    revert n
    decide +kernel

theorem bits_of_flags (frameType : p.frameType.toNat < 4) (dtypeOrVSeq : p.dtypeOrVSeq.toNat < 16) :
    (p.flags &&& 0x80 != 0) = p.slot ∧ (p.flags &&& 0x40 == 0) = p.groupCall ∧
      ((p.flags &&& 0x30) >>> 4).toUInt64 = p.frameType ∧ (p.flags &&& 0x0F).toUInt64 = p.dtypeOrVSeq := by
  have each : ∀ (slot groupCall : Bool) (f : Fin 4) (d : Fin 16),
      let p : Packet := { slot, groupCall, frameType := UInt64.ofNat f, dtypeOrVSeq := UInt64.ofNat d }
      (p.flags &&& 0x80 != 0) = p.slot ∧ (p.flags &&& 0x40 == 0) = p.groupCall ∧
        ((p.flags &&& 0x30) >>> 4).toUInt64 = p.frameType ∧ (p.flags &&& 0x0F).toUInt64 = p.dtypeOrVSeq := by
    decide +kernel
  have mine := each p.slot p.groupCall ⟨_, frameType⟩ ⟨_, dtypeOrVSeq⟩
  simp only [UInt64.ofNat_toNat] at mine
  exact mine

theorem length_encode (p : Packet) : p.encode.length = 55 := by
  simp [encode]

def fieldsOf (data : Bytes) : Packet where
  signature := data.take 4
  seq := (data.getD 4 0).toUInt64
  src := uint24 (data.getD 5 0) (data.getD 6 0) (data.getD 7 0)
  dst := uint24 (data.getD 8 0) (data.getD 9 0) (data.getD 10 0)
  repeater := uint32 (data.getD 11 0) (data.getD 12 0) (data.getD 13 0) (data.getD 14 0)
  slot := data.getD 15 0 &&& 0x80 != 0
  groupCall := data.getD 15 0 &&& 0x40 == 0
  frameType := ((data.getD 15 0 &&& 0x30) >>> 4).toUInt64
  dtypeOrVSeq := (data.getD 15 0 &&& 0x0F).toUInt64
  streamID := uint32 (data.getD 16 0) (data.getD 17 0) (data.getD 18 0) (data.getD 19 0)
  dmrData := Vector.ofFn fun i => data.getD (20 + i) 0

theorem decode_eq (data : Bytes) :
    decode data = if 53 ≤ data.length ∧ data.length ≤ 55 then some (fieldsOf data) else none := by
  simp only [decode]
  split
  · rename_i short
    have short : data.length < 53 := short
    rw [if_neg (by omega)]
  · rename_i enough
    have enough : ¬ data.length < 53 := enough
    split
    · rename_i long
      have long : data.length > 55 := long
      rw [if_neg (by omega)]
    · rename_i within
      have within : ¬ data.length > 55 := within
      rw [if_pos (by omega)]
      rfl

theorem eq_of_length_four (length : data.length = 4) : ∃ a b c d, data = [a, b, c, d] := by
  have listed := @ofFn_getD data 0 4 (by rw [length])
  rw [drop_zero, take_of_length_le (Nat.le_of_eq length)] at listed
  exact ⟨_, _, _, _, listed.symm⟩

theorem fieldsOf_encode (fits : p.FitsWire) : fieldsOf p.encode = p := by
  obtain ⟨a, b, c, d, signature⟩ := eq_of_length_four fits.signature
  obtain ⟨slot, groupCall, frameType, dtypeOrVSeq⟩ := bits_of_flags fits.frameType fits.dtypeOrVSeq
  have seq : p.seq.toUInt8.toUInt64 = p.seq := by
    apply UInt64.toNat.inj
    simpa using Nat.mod_eq_of_lt fits.seq
  have dmrData : (Vector.ofFn fun i : Fin 33 => (p.dmrData.toList ++ [0, 0]).getD i 0) = p.dmrData := by
    apply Vector.ext
    intro i inside
    have below : i < p.dmrData.toList.length := by simpa using inside
    rw [Vector.getElem_ofFn, getD_append _ _ _ _ below]
    simp [getD_eq_getElem?_getD, inside]
  calc
    fieldsOf p.encode =
        { signature := [a, b, c, d]
          seq := p.seq.toUInt8.toUInt64
          src := uint24 (p.src >>> 16).toUInt8 (p.src >>> 8).toUInt8 p.src.toUInt8
          dst := uint24 (p.dst >>> 16).toUInt8 (p.dst >>> 8).toUInt8 p.dst.toUInt8
          repeater := uint32 (p.repeater >>> 24).toUInt8 (p.repeater >>> 16).toUInt8 (p.repeater >>> 8).toUInt8
            p.repeater.toUInt8
          slot := p.flags &&& 0x80 != 0
          groupCall := p.flags &&& 0x40 == 0
          frameType := ((p.flags &&& 0x30) >>> 4).toUInt64
          dtypeOrVSeq := (p.flags &&& 0x0F).toUInt64
          streamID := uint32 (p.streamID >>> 24).toUInt8 (p.streamID >>> 16).toUInt8 (p.streamID >>> 8).toUInt8
            p.streamID.toUInt8
          dmrData := Vector.ofFn fun i : Fin 33 => (p.dmrData.toList ++ [0, 0]).getD i 0 } := by
      rw [encode, signature]
      simp only [fieldsOf, mk.injEq]
      refine ⟨rfl, rfl, rfl, rfl, rfl, rfl, rfl, rfl, rfl, rfl, ?_⟩
      congr 1
      funext i
      rw [Nat.add_comm 20 i]
      rfl
    _ = p := by
      rw [seq, uint24_bytes fits.src, uint24_bytes fits.dst, uint32_bytes fits.repeater, slot, groupCall, frameType,
        dtypeOrVSeq, uint32_bytes fits.streamID, dmrData, ← signature]

def Packet.header (p : Packet) : Bytes :=
  [p.seq.toUInt8] ++ [(p.src >>> 16).toUInt8, (p.src >>> 8).toUInt8, p.src.toUInt8] ++
    [(p.dst >>> 16).toUInt8, (p.dst >>> 8).toUInt8, p.dst.toUInt8] ++
    [(p.repeater >>> 24).toUInt8, (p.repeater >>> 16).toUInt8, (p.repeater >>> 8).toUInt8, p.repeater.toUInt8] ++
    [p.flags] ++
    [(p.streamID >>> 24).toUInt8, (p.streamID >>> 16).toUInt8, (p.streamID >>> 8).toUInt8, p.streamID.toUInt8]

theorem encode_eq (p : Packet) :
    p.encode = (p.signature ++ replicate 4 0).take 4 ++ p.header ++ p.dmrData.toList ++ [0x00, 0x00] := rfl

theorem header_fieldsOf (length : 20 ≤ data.length) : (fieldsOf data).header = (data.drop 4).take 16 := by
  have flags : (fieldsOf data).flags = data.getD 15 0 := flags_of_bits rfl rfl rfl rfl
  have seq : (data.getD 4 0).toUInt64.toUInt8 = data.getD 4 0 := by simp
  rw [header, flags, ← ofFn_getD (by omega)]
  simp only [fieldsOf]
  rw [bytes_uint24, bytes_uint24, bytes_uint32, bytes_uint32, seq]
  rfl

theorem encode_fieldsOf (length : 53 ≤ data.length) : (fieldsOf data).encode = data.take 53 ++ [0x00, 0x00] := by
  have signature : ((fieldsOf data).signature ++ replicate 4 0).take 4 = data.take 4 := by
    rw [fieldsOf, take_append_of_le_length (by simp; omega), take_take]
    rfl
  have dmrData : (fieldsOf data).dmrData.toList = (data.drop 20).take 33 := by
    rw [← ofFn_getD (by omega)]
    exact Vector.toList_ofFn
  rw [encode_eq, signature, header_fieldsOf (by omega), dmrData, ← take_add, ← take_add]

theorem received_addresses (p : Packet) :
    ∃ received, decode p.encode = some received ∧ received.src.toNat = p.src.toNat % 2 ^ 24 ∧
      received.dst.toNat = p.dst.toNat % 2 ^ 24 := by
  obtain ⟨a, b, c, d, signature⟩ := @eq_of_length_four ((p.signature ++ replicate 4 0).take 4) (by simp)
  refine ⟨fieldsOf p.encode, ?_, ?_, ?_⟩
  · rw [decode_eq, length_encode, if_pos (by decide)]
  · rw [encode, signature]
    exact toNat_uint24_bytes p.src
  · rw [encode, signature]
    exact toNat_uint24_bytes p.dst

theorem decode_addresses (received : decode data = some p) : p.src.toNat < 2 ^ 24 ∧ p.dst.toNat < 2 ^ 24 := by
  have small : ∀ a b c : UInt8, (uint24 a b c).toNat < 2 ^ 24 := by
    intro a b c
    have first := a.toNat_lt
    have second := b.toNat_lt
    have third := c.toNat_lt
    rw [toNat_uint24]
    omega
  rw [decode_eq] at received
  split at received
  · cases received
    exact ⟨small _ _ _, small _ _ _⟩
  · cases received

theorem decode_encode (fits : p.FitsWire) : decode p.encode = some p := by
  rw [decode_eq, length_encode, if_pos (by decide), fieldsOf_encode fits]

/-- Packets and datagrams survive the wire format: it keeps every packet whose
fields fit, and of every datagram that it accepts the first 53 bytes. -/
theorem wire_format : (∀ p : Packet, p.FitsWire → decode p.encode = some p) ∧
      (∀ data : Bytes, data.length = 53 ∨ data.length = 54 ∨ data.length = 55 →
        ∃ p, decode data = some p ∧ p.encode = data.take 53 ++ [0x00, 0x00]) ∧
      ∀ data : Bytes, data.length ≠ 53 → data.length ≠ 54 → data.length ≠ 55 → decode data = none := by
  refine ⟨fun p fits => decode_encode fits, fun data length => ?_, fun data short middle long => ?_⟩
  · refine ⟨fieldsOf data, ?_, encode_fieldsOf (by omega)⟩
    rw [decode_eq, if_pos (by omega)]
  · rw [decode_eq, if_neg (by omega)]

private def voicePacket : Packet :=
  { signature := dmrd, seq := 7, src := 4600001, dst := 91, repeater := 460000101, slot := true, groupCall := true
    frameType := frameTypeVoice, dtypeOrVSeq := 3, streamID := 0xCAFEBABE }

theorem wire_format_voice : decode voicePacket.encode = some voicePacket ∧
      (∃ p, decode (List.replicate 54 0xFF) = some p ∧ p.encode = List.replicate 53 0xFF ++ [0x00, 0x00]) ∧
      decode [] = none :=
  ⟨wire_format.1 voicePacket ⟨by decide, by decide, by decide, by decide, by decide, by decide, by decide, by decide⟩,
    wire_format.2.1 (List.replicate 54 0xFF) (by decide), wire_format.2.2 [] (by decide) (by decide) (by decide)⟩

end Ipsc2Mmdvm.Proto
