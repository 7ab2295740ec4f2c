import Mathlib.Data.List.Basic

namespace Ipsc2Mmdvm.Dmr

/-! Full link control: opcode, service options, addresses and a masked Reed-Solomon parity. -/

def dataTypeVoiceLCHeader : UInt8 := 1

def dataTypeTerminatorWithLC : UInt8 := 2

def flcoGroupVoiceChannelUser : UInt8 := 0

def flcoUnitToUnitVoiceChannelUser : UInt8 := 3

def standardizedFID : UInt8 := 0

def gf256Round (s : UInt8 × UInt8 × UInt8) : UInt8 × UInt8 × UInt8 :=
  let (p, aa, bb) := s
  (if bb &&& 1 != 0 then p ^^^ aa else p,
    if aa &&& 0x80 != 0 then aa <<< 1 ^^^ 0x1D else aa <<< 1,
    bb >>> 1)

def gf256Mul (a b : UInt8) : UInt8 := (Nat.repeat gf256Round 8 (0, a, b)).1

def reedSolomon129Parity (data : List UInt8) : UInt8 × UInt8 × UInt8 :=
  if data.length ≠ 9 then (0, 0, 0)
  else
    data.foldl (fun (p0, p1, p2) byte =>
      let feedback := byte ^^^ p0
      (p1 ^^^ gf256Mul feedback 0x0E, p2 ^^^ gf256Mul feedback 0x38, gf256Mul feedback 0x40)) (0, 0, 0)

def fullLCParityMaskVoiceHeader : UInt8 := 0x96

def fullLCParityMaskTerminator : UInt8 := 0x99

def fullLCParityMaskForDataType (dataType : UInt8) : UInt8 :=
  if dataType = dataTypeVoiceLCHeader then fullLCParityMaskVoiceHeader
  else if dataType = dataTypeTerminatorWithLC then fullLCParityMaskTerminator
  else 0x00

def buildStandardLCBytesForDataType (src dst : UInt64) (groupCall : Bool) (so dataType : UInt8) : Vector UInt8 12 :=
  let flco := if groupCall then flcoGroupVoiceChannelUser else flcoUnitToUnitVoiceChannelUser
  let lc := [flco &&& 0x3F, standardizedFID, so, (dst >>> 16).toUInt8, (dst >>> 8).toUInt8, dst.toUInt8,
    (src >>> 16).toUInt8, (src >>> 8).toUInt8, src.toUInt8]
  let (p0, p1, p2) := reedSolomon129Parity lc
  let mask := fullLCParityMaskForDataType dataType
  #v[flco &&& 0x3F, standardizedFID, so, (dst >>> 16).toUInt8, (dst >>> 8).toUInt8, dst.toUInt8,
    (src >>> 16).toUInt8, (src >>> 8).toUInt8, src.toUInt8, p0 ^^^ mask, p1 ^^^ mask, p2 ^^^ mask]

end Ipsc2Mmdvm.Dmr
