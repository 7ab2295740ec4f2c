import Mathlib.Algebra.Group.Nat.Defs
import Mathlib.Data.Nat.Bits
import Mathlib.Tactic.Common

namespace Ipsc2Mmdvm.Nrl

/-! The codes of G.711.  The source keeps every value in tables, which are filled with the functions
below. -/

def segMask : UInt8 := 0x70

def quantMask : UInt8 := 0x0F

def segShift : Nat := 4

def bias : Nat := 0x84

/-- The loop that halves `ix` until it has five bits.  A sample takes at most six rounds. -/
def alawSegment : Nat → Nat → UInt8 → Nat × UInt8
  | 0, ix, iexp => (ix, iexp)
  | fuel + 1, ix, iexp => if 31 < ix then alawSegment fuel (ix >>> 1) (iexp + 1) else (ix, iexp)

def magnitude (sample : Int16) : Nat := (if sample < 0 then ~~~sample else sample).toInt.toNat

def rawLinear2Alaw (sample : Int16) : UInt8 :=
  let ix := magnitude sample >>> 4
  let ix : Nat :=
    if 15 < ix then
      let (ix, iexp) := alawSegment 11 ix 1
      ix - 16 + (iexp <<< 4).toNat
    else ix
  let ix := if sample < 0 then ix else ix ||| 0x80
  ix.toUInt8 ^^^ 0x55

def linearToAlaw (sample : Int16) : UInt8 := rawLinear2Alaw sample

example : [0, 1000, -1000, 32767, -32768].map linearToAlaw = [0xD5, 0xFA, 0x7A, 0xAA, 0x2A] := by decide

def rawUlaw2linear (code : UInt8) : Int16 :=
  let code := ~~~code
  let sign := code &&& 0x80
  let exponent := (code &&& segMask) >>> segShift.toUInt8
  let mantissa := code &&& quantMask
  let sample := ((mantissa.toUInt16.toInt16 <<< 3) + bias.toUInt16.toInt16) <<< exponent.toUInt16.toInt16
  let sample := sample - bias.toUInt16.toInt16
  if sign ≠ 0 then -sample else sample

def ulawToLinear (code : UInt8) : Int16 := rawUlaw2linear code

def ulawExponent (s : Nat) : Nat → Nat
  | 0 => 0
  | exponent + 1 => if s &&& (0x80 <<< (exponent + 1)) = 0 then ulawExponent s exponent else exponent + 1

def rawLinear2Ulaw (sample : Int16) : UInt8 :=
  let sign : UInt8 := if sample < 0 then 0x80 else 0
  let s := min sample.toInt.natAbs 32635 + bias
  let exponent := ulawExponent s 7
  let mantissa := (s >>> (exponent + 3)) &&& quantMask.toNat
  ~~~(sign ||| (exponent <<< segShift).toUInt8 ||| mantissa.toUInt8)

def linearToUlaw (sample : Int16) : UInt8 := rawLinear2Ulaw sample

example : [0, 1000, -1000, 32767, -32768].map linearToUlaw = [0xFF, 0xCE, 0x4E, 0x80, 0x00] := by decide

end Ipsc2Mmdvm.Nrl
