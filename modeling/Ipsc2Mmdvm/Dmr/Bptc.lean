import Ipsc2Mmdvm.Data.Bits

namespace Ipsc2Mmdvm.Dmr

open Data
open List hiding Vector

/-! BPTC(196,96): 13 rows of 15 columns, stored from bit 1 on.  Rows 0 to 8 carry the data and a
Hamming(15,11,3) parity, rows 9 to 12 a Hamming(13,9,3) parity of each column. -/

abbrev Line := Nat → Bool

def placeData (data : Vector Bool 96) (r c : Nat) : Bool :=
  if r = 0 then
    if 3 ≤ c ∧ c ≤ 10 then data.toList.getD (c - 3) false else false
  else if r ≤ 8 ∧ c ≤ 10 then data.toList.getD (8 + (r - 1) * 11 + c) false
  else false

def computeRowParity (d : Line) : Line
  | 11 => d 0 ^^ d 1 ^^ d 2 ^^ d 3 ^^ d 5 ^^ d 7 ^^ d 8
  | 12 => d 1 ^^ d 2 ^^ d 3 ^^ d 4 ^^ d 6 ^^ d 8 ^^ d 9
  | 13 => d 2 ^^ d 3 ^^ d 4 ^^ d 5 ^^ d 7 ^^ d 9 ^^ d 10
  | 14 => d 0 ^^ d 1 ^^ d 2 ^^ d 4 ^^ d 6 ^^ d 7 ^^ d 10
  | c => d c

def computeColParity (d : Line) : Line
  | 9 => d 0 ^^ d 1 ^^ d 3 ^^ d 5 ^^ d 6
  | 10 => d 0 ^^ d 1 ^^ d 2 ^^ d 4 ^^ d 6 ^^ d 7
  | 11 => d 0 ^^ d 1 ^^ d 2 ^^ d 3 ^^ d 5 ^^ d 7 ^^ d 8
  | 12 => d 0 ^^ d 2 ^^ d 4 ^^ d 5 ^^ d 8
  | r => d r

def encodeGrid (data : Vector Bool 96) (r c : Nat) : Bool :=
  computeColParity (fun r => computeRowParity (placeData data r) c) r

def gridBit (data : Vector Bool 96) (a : Nat) : Bool :=
  if a = 0 then false else encodeGrid data ((a - 1) / 15) ((a - 1) % 15)

theorem position_lt (a : Nat) : a * 181 % 196 < 196 := Nat.mod_lt _ (by decide)

def encode (data : Vector Bool 96) : Vector Bool 196 :=
  (List.range 196).foldl (fun out a => out.set (a * 181 % 196) (gridBit data a)
    (position_lt a)) (Vector.replicate 196 false)

def bsSourcedData : Nat := 0xDFF57D75DF5D

def golayEncode208 (input : UInt8) : List Bool :=
  let b := bitOf input
  (List.range 8).map b ++
    [b 1 ^^ b 4 ^^ b 5 ^^ b 6 ^^ b 7,
      b 1 ^^ b 2 ^^ b 4,
      b 0 ^^ b 2 ^^ b 3 ^^ b 5,
      b 0 ^^ b 1 ^^ b 3 ^^ b 4 ^^ b 6,
      b 0 ^^ b 1 ^^ b 2 ^^ b 4 ^^ b 5 ^^ b 7,
      b 0 ^^ b 2 ^^ b 3 ^^ b 4 ^^ b 7,
      b 3 ^^ b 6 ^^ b 7,
      b 0 ^^ b 1 ^^ b 5 ^^ b 6,
      b 0 ^^ b 1 ^^ b 2 ^^ b 6 ^^ b 7,
      b 2 ^^ b 3 ^^ b 4 ^^ b 5 ^^ b 6,
      b 0 ^^ b 3 ^^ b 4 ^^ b 5 ^^ b 6 ^^ b 7,
      b 1 ^^ b 2 ^^ b 3 ^^ b 5 ^^ b 7]

def buildLCDataBurst (lcBytes : Vector UInt8 12) (dataType colorCode : UInt8) : Vector UInt8 33 :=
  let infoBits : Vector Bool 96 := Vector.ofFn fun k => (unpackBits lcBytes.toList).getD k false
  let encoded := (encode infoBits).toList
  let slotBits := golayEncode208 ((colorCode &&& 0xF) <<< 4 ||| (dataType &&& 0xF))
  let sync := (List.range 48).map fun i => bsSourcedData.testBit (47 - i)
  packBits 33 (encoded.take 98 ++ slotBits.take 10 ++ sync ++ slotBits.drop 10 ++ encoded.drop 98)

def packAMBEVoiceFrames (frames : Vector (Vector Bool 49) 3) : Vector UInt8 19 :=
  packBits 19 (frames[0].toList ++ [false] ++ frames[1].toList ++ [false] ++ frames[2].toList)

def unpackAMBEVoiceFrames (data : Vector UInt8 19) : Vector (Vector Bool 49) 3 :=
  let bits := unpackBits data.toList
  Vector.ofFn fun frame => Vector.ofFn fun i => bits.getD (50 * frame + i) false

theorem getD_packed_frames (frames : Vector (Vector Bool 49) 3) (frame : Fin 3) {i : Nat} (inside : i < 49) :
    (frames[0].toList ++ [false] ++ frames[1].toList ++ [false] ++ frames[2].toList).getD (50 * frame.val + i) false =
      frames[frame][i] := by
  have lengths : frames[0].toList.length = 49 ∧ frames[1].toList.length = 49 := ⟨by simp, by simp⟩
  match frame with
  | 0 => simp [getElem?_append, inside]
  | 1 =>
    rw [getD_append _ _ _ _ (by simp; omega), getD_append _ _ _ _ (by simp; omega), getD_append_right _ _ _ _ (by simp)]
    simp [lengths, inside]
  | 2 =>
    rw [getD_append_right _ _ _ _ (by simp)]
    simp [lengths, inside]

theorem unpackAMBEVoiceFrames_packAMBEVoiceFrames (frames : Vector (Vector Bool 49) 3) :
    unpackAMBEVoiceFrames (packAMBEVoiceFrames frames) = frames := by
  apply Vector.ext
  intro frame inFrames
  apply Vector.ext
  intro i inside
  simp only [unpackAMBEVoiceFrames, packAMBEVoiceFrames, Vector.getElem_ofFn]
  rw [unpackBits_packBits _ (by omega)]
  exact getD_packed_frames frames ⟨frame, inFrames⟩ inside

end Ipsc2Mmdvm.Dmr
