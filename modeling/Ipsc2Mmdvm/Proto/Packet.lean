import Mathlib.Data.List.Basic

namespace Ipsc2Mmdvm.Proto

/-! The DMRD packet and its wire format.  A Go string made from received bytes need not be UTF-8, so
the signature is kept as bytes. -/

abbrev Bytes := List UInt8

abbrev DMRData := Vector UInt8 33

structure Packet where
  signature : Bytes := []
  seq : UInt64 := 0
  src : UInt64 := 0
  dst : UInt64 := 0
  repeater : UInt64 := 0
  slot : Bool := false
  groupCall : Bool := false
  frameType : UInt64 := 0
  dtypeOrVSeq : UInt64 := 0
  streamID : UInt64 := 0
  dmrData : DMRData := Vector.replicate 33 0
deriving DecidableEq

def dmrd : Bytes := [0x44, 0x4D, 0x52, 0x44]

def minPacketLen : Nat := 53

def maxPacketLen : Nat := 55

def uint24 (a b c : UInt8) : UInt64 :=
  a.toUInt64 <<< 16 ||| b.toUInt64 <<< 8 ||| c.toUInt64

def uint32 (a b c d : UInt8) : UInt64 :=
  a.toUInt64 <<< 24 ||| b.toUInt64 <<< 16 ||| c.toUInt64 <<< 8 ||| d.toUInt64

/-- `Decode`.  The length test comes first, so no index below is out of range. -/
def decode (data : Bytes) : Option Packet :=
  if data.length < minPacketLen then none
  else if data.length > maxPacketLen then none
  else
    let byteAt := fun i => data.getD i 0
    let bits := byteAt 15
    some {
      signature := data.take 4
      seq := (byteAt 4).toUInt64
      src := uint24 (byteAt 5) (byteAt 6) (byteAt 7)
      dst := uint24 (byteAt 8) (byteAt 9) (byteAt 10)
      repeater := uint32 (byteAt 11) (byteAt 12) (byteAt 13) (byteAt 14)
      slot := bits &&& 0x80 != 0
      groupCall := bits &&& 0x40 == 0
      frameType := ((bits &&& 0x30) >>> 4).toUInt64
      dtypeOrVSeq := (bits &&& 0x0F).toUInt64
      streamID := uint32 (byteAt 16) (byteAt 17) (byteAt 18) (byteAt 19)
      dmrData := Vector.ofFn fun i => byteAt (20 + i) }

def Packet.flags (p : Packet) : UInt8 :=
  (if p.slot then (0x80 : UInt8) else 0) ||| (if p.groupCall then (0 : UInt8) else 0x40) |||
    ((p.frameType &&& 0x3) <<< 4).toUInt8 ||| (p.dtypeOrVSeq &&& 0xF).toUInt8

def Packet.encode (p : Packet) : Bytes :=
  (p.signature ++ List.replicate 4 0).take 4 ++
    [p.seq.toUInt8,
      (p.src >>> 16).toUInt8, (p.src >>> 8).toUInt8, p.src.toUInt8,
      (p.dst >>> 16).toUInt8, (p.dst >>> 8).toUInt8, p.dst.toUInt8,
      (p.repeater >>> 24).toUInt8, (p.repeater >>> 16).toUInt8, (p.repeater >>> 8).toUInt8,
      p.repeater.toUInt8,
      p.flags,
      (p.streamID >>> 24).toUInt8, (p.streamID >>> 16).toUInt8, (p.streamID >>> 8).toUInt8,
      p.streamID.toUInt8] ++
    p.dmrData.toList ++ [0x00, 0x00]

def frameTypeVoice : UInt64 := 0

def frameTypeVoiceSync : UInt64 := 1

def frameTypeDataSync : UInt64 := 2

def dtypeTerminatorWithLC : UInt64 := 2

def Packet.isTerminator (p : Packet) : Bool :=
  p.frameType == frameTypeDataSync && p.dtypeOrVSeq == dtypeTerminatorWithLC

end Ipsc2Mmdvm.Proto
