import Ipsc2Mmdvm.Dmr.Bptc

namespace Ipsc2Mmdvm.Ipsc

open Data Dmr

/-! The link control that voice bursts B to E carry in four fragments. -/

abbrev Fragments := Vector (Vector UInt8 4) 4

def embeddedLCCRC5 (bits : List Bool) : UInt8 :=
  let reg := bits.foldl (fun (reg : UInt8) bit =>
    let msb := reg >>> 4 &&& 1
    let reg := reg <<< 1 &&& 0x1F ||| (if bit then 1 else 0)
    if msb = 1 then reg ^^^ 0x15 else reg) 0
  (reg &&& 0x1F) ^^^ 0x1F

def embeddedLCBits (src dst : UInt64) (groupCall : Bool) : List Bool :=
  let bits := unpackBits
    [if groupCall then 0x00 else 0x03, 0x00, 0x20,
      (dst >>> 16).toUInt8, (dst >>> 8).toUInt8, dst.toUInt8,
      (src >>> 16).toUInt8, (src >>> 8).toUInt8, src.toUInt8]
  let crc := embeddedLCCRC5 bits
  bits ++ (List.range 5).map fun i => crc.toNat.testBit (4 - i)

def embeddedLCRow (bits : List Bool) (r : Nat) : Line := fun c =>
  if r < 7 then bits.getD (11 * r + c) false
  else (List.range 7).foldl (fun p r => p ^^ bits.getD (11 * r + c) false) false

def extendRow (d : Line) : Line := fun c =>
  if c = 15 then (List.range 15).foldl (fun p c => p ^^ computeRowParity d c) false
  else computeRowParity d c

def encodeEmbeddedLC (src dst : UInt64) (groupCall : Bool) : Fragments :=
  let bits := embeddedLCBits src dst groupCall
  Vector.ofFn fun f => Vector.ofFn fun c =>
    byteOf fun r => extendRow (embeddedLCRow bits r) (4 * f + c)

end Ipsc2Mmdvm.Ipsc
