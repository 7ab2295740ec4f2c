import Ipsc2Mmdvm.Dmr.Bptc
import Mathlib.Tactic.SplitIfs

namespace Ipsc2Mmdvm.Dmr

open Data
open List hiding Vector

/-! Three AMBE frames, the second cut in two halves, around 48 bits of sync pattern or embedded
signalling. -/

def dmrSyncAudioBS : List UInt8 := [0x75, 0x5F, 0xD7, 0xDF, 0x75, 0xF7]

def qr1676Table : List UInt16 :=
  [0x0000, 0x0273, 0x04E5, 0x0696, 0x09C9, 0x0BBA, 0x0D2C, 0x0F5F, 0x11E2, 0x1391, 0x1507, 0x1774,
    0x182B, 0x1A58, 0x1CCE, 0x1EBD, 0x21B7, 0x23C4, 0x2552, 0x2721, 0x287E, 0x2A0D, 0x2C9B, 0x2EE8,
    0x3055, 0x3226, 0x34B0, 0x36C3, 0x399C, 0x3BEF, 0x3D79, 0x3F0A, 0x411E, 0x436D, 0x45FB, 0x4788,
    0x48D7, 0x4AA4, 0x4C32, 0x4E41, 0x50FC, 0x528F, 0x5419, 0x566A, 0x5935, 0x5B46, 0x5DD0, 0x5FA3,
    0x60A9, 0x62DA, 0x644C, 0x663F, 0x6960, 0x6B13, 0x6D85, 0x6FF6, 0x714B, 0x7338, 0x75AE, 0x77DD,
    0x7882, 0x7AF1, 0x7C67, 0x7E14, 0x804F, 0x823C, 0x84AA, 0x86D9, 0x8986, 0x8BF5, 0x8D63, 0x8F10,
    0x91AD, 0x93DE, 0x9548, 0x973B, 0x9864, 0x9A17, 0x9C81, 0x9EF2, 0xA1F8, 0xA38B, 0xA51D, 0xA76E,
    0xA831, 0xAA42, 0xACD4, 0xAEA7, 0xB01A, 0xB269, 0xB4FF, 0xB68C, 0xB9D3, 0xBBA0, 0xBD36, 0xBF45,
    0xC151, 0xC322, 0xC5B4, 0xC7C7, 0xC898, 0xCAEB, 0xCC7D, 0xCE0E, 0xD0B3, 0xD2C0, 0xD456, 0xD625,
    0xD97A, 0xDB09, 0xDD9F, 0xDFEC, 0xE0E6, 0xE295, 0xE403, 0xE670, 0xE92F, 0xEB5C, 0xEDCA, 0xEFB9,
    0xF104, 0xF377, 0xF5E1, 0xF792, 0xF8CD, 0xFABE, 0xFC28, 0xFE5B]

def embeddedLCCRC5 (bits : List Bool) : UInt8 :=
  bits.foldl (fun (crc : UInt8) bit =>
    let shifted := crc <<< 1 &&& 0x1F
    if (bitOf crc 3 ^^ bit) then shifted ^^^ 0x15 else shifted) 0

def embeddedLCBits (src dst : UInt32) : List Bool :=
  let lc := unpackBits [0x00, 0x00, 0x00, (dst >>> 16).toUInt8, (dst >>> 8).toUInt8, dst.toUInt8,
    (src >>> 16).toUInt8, (src >>> 8).toUInt8, src.toUInt8]
  lc ++ (List.range 5).map fun i => bitOf (embeddedLCCRC5 lc) (3 + i)

def embeddedLCMatrix (bits : List Bool) (row col : Nat) : Bool :=
  if col < 11 then
    if row < 7 then bits.getD (11 * row + col) false
    else (List.range 7).foldl (fun parity row => parity ^^ bits.getD (11 * row + col) false) false
  else false

def encodeEmbeddedLC (src dst : UInt32) (frag : Nat) : Vector UInt8 4 :=
  packBits 4 ((List.range 32).map fun i => embeddedLCMatrix (embeddedLCBits src dst) (i % 8) (frag * 4 + i / 8))

def putLowNibble (byte value : UInt8) : UInt8 := (byte &&& (0xF0 : UInt8)) ||| ((value >>> 4) &&& (0x0F : UInt8))

def putHighNibble (byte value : UInt8) : UInt8 := (byte &&& (0x0F : UInt8)) ||| ((value <<< 4) &&& (0xF0 : UInt8))

def putControl (frame : Vector UInt8 33) (high low : UInt8) : Vector UInt8 33 :=
  (((frame.set 13 (putLowNibble frame[13] high)).set 14 (putHighNibble frame[14] high)).set 18
    (putLowNibble frame[18] low)).set 19 (putHighNibble frame[19] low)

def applyEmbeddedControl (frame : Vector UInt8 33) (colorCode seq : UInt8) : Vector UInt8 33 :=
  let lcss : UInt8 := if seq = 1 ∨ seq = 5 then 1 else if seq = 4 then 3 else 2
  let emb := colorCode <<< 4 ||| (lcss <<< 1 &&& 0x06)
  let code := qr1676Table.getD (emb >>> 1 &&& 0x7F).toNat 0
  putControl frame (code >>> 8).toUInt8 code.toUInt8

def bitRange (source : List UInt8) (start count : Nat) : List Bool := ((unpackBits source).drop start).take count

def middleBits (seq : UInt8) (srcID dstID : UInt32) : List Bool :=
  if seq = 0 then unpackBits dmrSyncAudioBS
  else unpackBits ([0x00] ++ (encodeEmbeddedLC srcID dstID ((seq.toNat - 1) % 4)).toList ++ [0x00])

def assembleVoiceBurst (frame1 frame2 frame3 : List UInt8) (seq : UInt8) (srcID dstID : UInt32) (colorCode : UInt8) :
    Vector UInt8 33 :=
  let burst := packBits 33 (bitRange frame1 0 72 ++ bitRange frame2 0 36 ++ middleBits seq srcID dstID ++
    bitRange frame2 36 36 ++ bitRange frame3 0 72)
  if 1 ≤ seq ∧ seq ≤ 5 then applyEmbeddedControl burst colorCode seq else burst

def copyBits (burst : Vector UInt8 33) (position : Nat → Nat) : List UInt8 :=
  (packBits 9 ((List.range 72).map fun i => (unpackBits burst.toList).getD (position i) false)).toList

def extractVoiceFramesFromBurst (burst : Vector UInt8 33) : List UInt8 × List UInt8 × List UInt8 :=
  (copyBits burst fun i => i, copyBits burst fun i => if i < 36 then 72 + i else 120 + i, copyBits burst fun i => 192 + i)

def extractMiddle48 (burst : Vector UInt8 33) : Vector UInt8 6 :=
  packBits 6 ((List.range 48).map fun i => (unpackBits burst.toList).getD (108 + i) false)

theorem bitOf_putLowNibble (byte value : UInt8) {j : Nat} (high : j < 4) : bitOf (putLowNibble byte value) j = bitOf byte j := by
  have masks : (0xF0 : Nat).testBit (7 - j) = true ∧ (0x0F : Nat).testBit (7 - j) = false := by
    have cases : j = 0 ∨ j = 1 ∨ j = 2 ∨ j = 3 := by omega
    obtain rfl | rfl | rfl | rfl := cases <;> decide
  simp [bitOf, putLowNibble, Nat.testBit_or, Nat.testBit_and, masks]

theorem bitOf_putHighNibble (byte value : UInt8) {j : Nat} (low : 4 ≤ j) (inside : j < 8) :
    bitOf (putHighNibble byte value) j = bitOf byte j := by
  have masks : (0x0F : Nat).testBit (7 - j) = true ∧ (0xF0 : Nat).testBit (7 - j) = false := by
    have cases : j = 4 ∨ j = 5 ∨ j = 6 ∨ j = 7 := by omega
    obtain rfl | rfl | rfl | rfl := cases <;> decide
  simp [bitOf, putHighNibble, Nat.testBit_or, Nat.testBit_and, masks]

theorem unpackBits_putControl (frame : Vector UInt8 33) (high low : UInt8) {i : Nat} (inside : i < 264)
    (outside : i < 108 ∨ (116 ≤ i ∧ i < 148) ∨ 156 ≤ i) :
    (unpackBits (putControl frame high low).toList).getD i false = (unpackBits frame.toList).getD i false := by
  have byte : i / 8 < 33 := by omega
  have entry (bytes : Vector UInt8 33) : bytes.toList.getD (i / 8) 0 = bytes[i / 8] := by simp [byte]
  rw [getD_unpackBits, getD_unpackBits, entry, entry]
  simp only [putControl, Vector.getElem_set]
  split_ifs with last third second first
  · have behind : 4 ≤ i % 8 := by omega
    simp only [bitOf_putHighNibble _ _ behind (Nat.mod_lt i (by decide)), last]
  · have before : i % 8 < 4 := by omega
    simp only [bitOf_putLowNibble _ _ before, third]
  · have behind : 4 ≤ i % 8 := by omega
    simp only [bitOf_putHighNibble _ _ behind (Nat.mod_lt i (by decide)), second]
  · have before : i % 8 < 4 := by omega
    simp only [bitOf_putLowNibble _ _ before, first]
  · rfl

section

variable {frame1 frame2 frame3 source : List UInt8} {seq : UInt8} {srcID dstID : UInt32} {i : Nat}

theorem length_middleBits (seq : UInt8) (srcID dstID : UInt32) : (middleBits seq srcID dstID).length = 48 := by
  simp only [middleBits]
  split <;> simp [length_unpackBits, dmrSyncAudioBS]

theorem getD_bitRange {start count : Nat} (inside : i < count) :
    (bitRange source start count).getD i false = (unpackBits source).getD (start + i) false := by
  simp [bitRange, getD_eq_getElem?_getD, inside]

theorem length_bitRange {start count : Nat} (long : start + count ≤ 8 * source.length) :
    (bitRange source start count).length = count := by
  rw [bitRange, length_take, length_drop, length_unpackBits]
  omega

theorem getD_pieces {a b c d e : List Bool} (first : a.length = 72) (second : b.length = 36) (third : c.length = 48)
    (fourth : d.length = 36) (i : Nat) :
    (i < 72 → (a ++ b ++ c ++ d ++ e).getD i false = a.getD i false) ∧
      (i < 36 → (a ++ b ++ c ++ d ++ e).getD (72 + i) false = b.getD i false) ∧
      (i < 48 → (a ++ b ++ c ++ d ++ e).getD (108 + i) false = c.getD i false) ∧
      (i < 36 → (a ++ b ++ c ++ d ++ e).getD (156 + i) false = d.getD i false) ∧
      (a ++ b ++ c ++ d ++ e).getD (192 + i) false = e.getD i false := by
  have two : (a ++ b).length = 108 := by rw [length_append, first, second]
  have three : (a ++ b ++ c).length = 156 := by rw [length_append, two, third]
  have four : (a ++ b ++ c ++ d).length = 192 := by rw [length_append, three, fourth]
  refine ⟨fun inside => ?_, fun inside => ?_, fun inside => ?_, fun inside => ?_, ?_⟩
  · rw [getD_append _ _ _ _ (by omega), getD_append _ _ _ _ (by omega), getD_append _ _ _ _ (by omega),
      getD_append _ _ _ _ (by omega)]
  · rw [getD_append _ _ _ _ (by omega), getD_append _ _ _ _ (by omega), getD_append _ _ _ _ (by omega),
      getD_append_right _ _ _ _ (by omega), first, Nat.add_sub_cancel_left]
  · rw [getD_append _ _ _ _ (by omega), getD_append _ _ _ _ (by omega), getD_append_right _ _ _ _ (by omega),
      two, Nat.add_sub_cancel_left]
  · rw [getD_append _ _ _ _ (by omega), getD_append_right _ _ _ _ (by omega), three, Nat.add_sub_cancel_left]
  · rw [getD_append_right _ _ _ _ (by omega), four, Nat.add_sub_cancel_left]

theorem getD_assembleVoiceBurst (frame1 frame2 frame3 : List UInt8) (seq : UInt8) (srcID dstID : UInt32) (colorCode : UInt8)
    (inside : i < 264) (outside : seq = 0 ∨ i < 108 ∨ (116 ≤ i ∧ i < 148) ∨ 156 ≤ i) :
    (unpackBits (assembleVoiceBurst frame1 frame2 frame3 seq srcID dstID colorCode).toList).getD i false =
      (bitRange frame1 0 72 ++ bitRange frame2 0 36 ++ middleBits seq srcID dstID ++ bitRange frame2 36 36 ++
        bitRange frame3 0 72).getD i false := by
  simp only [assembleVoiceBurst]
  split
  · rename_i controlled
    cases outside with
    | inl zero =>
      subst zero
      exact absurd controlled.1 (by decide)
    | inr outside => rw [applyEmbeddedControl, unpackBits_putControl _ _ _ inside outside, unpackBits_packBits _ inside]
  · exact unpackBits_packBits _ inside

theorem copyBits_eq {burst : Vector UInt8 33} {position : Nat → Nat} {frame : List UInt8} (size : frame.length = 9)
    (same : ∀ i < 72, (unpackBits burst.toList).getD (position i) false = (unpackBits frame).getD i false) :
    copyBits burst position = frame := by
  have packed : packBits 9 ((range 72).map fun i => (unpackBits burst.toList).getD (position i) false) =
      packBits 9 (unpackBits (⟨⟨frame⟩, size⟩ : Vector UInt8 9).toList) := by
    apply packBits_congr
    intro i inside
    refine Eq.trans ?_ (same i inside)
    have listed : i < 72 := inside
    simp [getD_eq_getElem?_getD, listed]
  rw [copyBits, packed, packBits_unpackBits]
  rfl

theorem extractVoiceFramesFromBurst_assembleVoiceBurst (first : frame1.length = 9) (second : frame2.length = 9)
    (third : frame3.length = 9) (seq : UInt8) (srcID dstID : UInt32) (colorCode : UInt8) :
    extractVoiceFramesFromBurst (assembleVoiceBurst frame1 frame2 frame3 seq srcID dstID colorCode) =
      (frame1, frame2, frame3) := by
  have size1 : (bitRange frame1 0 72).length = 72 := length_bitRange (by omega)
  have size2 : (bitRange frame2 0 36).length = 36 := length_bitRange (by omega)
  have size3 : (bitRange frame2 36 36).length = 36 := length_bitRange (by omega)
  have pieces := @getD_pieces _ _ _ _ (bitRange frame3 0 72) size1 size2 (length_middleBits seq srcID dstID) size3
  have outer {i : Nat} (inside : i < 264) (outside : i < 108 ∨ 156 ≤ i) :=
    @getD_assembleVoiceBurst i frame1 frame2 frame3 seq srcID dstID colorCode inside
      (.inr (outside.elim .inl fun behind => .inr (.inr behind)))
  refine Prod.ext (copyBits_eq first ?_) (Prod.ext (copyBits_eq second ?_) (copyBits_eq third ?_))
  · intro i inside
    rw [outer (by omega) (by omega), (pieces i).1 inside, getD_bitRange inside, Nat.zero_add]
  · intro i inside
    by_cases half : i < 36
    · rw [if_pos half, outer (by omega) (by omega), (pieces i).2.1 half, getD_bitRange half, Nat.zero_add]
    · obtain ⟨j, rfl⟩ := Nat.exists_eq_add_of_le (Nat.le_of_not_lt half)
      rw [if_neg half, ← Nat.add_assoc, outer (by omega) (by omega), (pieces j).2.2.2.1 (by omega), getD_bitRange (by omega)]
  · intro i inside
    rw [outer (by omega) (by omega), (pieces i).2.2.2.2, getD_bitRange inside, Nat.zero_add]

theorem getD_middle48 (first : frame1.length = 9) (second : frame2.length = 9) (seq : UInt8) (srcID dstID : UInt32)
    (colorCode : UInt8) (inside : i < 48) (outside : seq = 0 ∨ (8 ≤ i ∧ i < 40)) :
    (unpackBits (extractMiddle48 (assembleVoiceBurst frame1 frame2 frame3 seq srcID dstID colorCode)).toList).getD i false =
      (middleBits seq srcID dstID).getD i false := by
  have size1 : (bitRange frame1 0 72).length = 72 := length_bitRange (by omega)
  have size2 : (bitRange frame2 0 36).length = 36 := length_bitRange (by omega)
  have size3 : (bitRange frame2 36 36).length = 36 := length_bitRange (by omega)
  have pieces := @getD_pieces _ _ _ _ (bitRange frame3 0 72) size1 size2 (length_middleBits seq srcID dstID) size3 i
  have read : ((range 48).map fun i =>
      (unpackBits (assembleVoiceBurst frame1 frame2 frame3 seq srcID dstID colorCode).toList).getD (108 + i) false).getD i
        false =
      (unpackBits (assembleVoiceBurst frame1 frame2 frame3 seq srcID dstID colorCode).toList).getD (108 + i) false := by
    simp [getD_eq_getElem?_getD, inside]
  have place : seq = 0 ∨ 108 + i < 108 ∨ (116 ≤ 108 + i ∧ 108 + i < 148) ∨ 156 ≤ 108 + i :=
    outside.imp_right fun fragment => .inr (.inl (by omega))
  rw [extractMiddle48, unpackBits_packBits _ (by omega), read, getD_assembleVoiceBurst _ _ _ _ _ _ _ (by omega) place,
    pieces.2.2.1 inside]

/-- The frames come back, and the middle is the sync pattern or a fragment. -/
theorem voice_burst_loses_nothing (frame1 frame2 frame3 : List UInt8) (first : frame1.length = 9)
    (second : frame2.length = 9) (third : frame3.length = 9) (seq : UInt8) (srcID dstID : UInt32) (colorCode : UInt8) :
    extractVoiceFramesFromBurst (assembleVoiceBurst frame1 frame2 frame3 seq srcID dstID colorCode) =
        (frame1, frame2, frame3) ∧
      (seq = 0 → (extractMiddle48 (assembleVoiceBurst frame1 frame2 frame3 seq srcID dstID colorCode)).toList =
        dmrSyncAudioBS) ∧
      (1 ≤ seq → seq ≤ 5 →
        ((extractMiddle48 (assembleVoiceBurst frame1 frame2 frame3 seq srcID dstID colorCode)).toList.drop 1).take 4 =
          (encodeEmbeddedLC srcID dstID ((seq.toNat - 1) % 4)).toList) := by
  refine ⟨extractVoiceFramesFromBurst_assembleVoiceBurst first second third seq srcID dstID colorCode, ?_, ?_⟩
  · intro zero
    apply List.ext_getElem
    · simp [dmrSyncAudioBS]
    · intro k inside short
      have within : k < 6 := by simpa using inside
      have entry := @getD_eq_of_unpackBits
        (extractMiddle48 (assembleVoiceBurst frame1 frame2 frame3 seq srcID dstID colorCode)).toList dmrSyncAudioBS k k ?_
      · rwa [List.getD_eq_getElem _ _ inside, List.getD_eq_getElem _ _ short] at entry
      · intro j bit
        rw [getD_middle48 first second seq srcID dstID colorCode (by omega) (.inl zero), middleBits, if_pos zero]
  · intro positive _
    have nonzero : seq ≠ 0 := by
      intro zero
      rw [zero] at positive
      exact absurd positive (by decide)
    apply List.ext_getElem
    · simp
    · intro k inside short
      have within : k < 4 := by simpa using short
      have entry := @getD_eq_of_unpackBits
        (extractMiddle48 (assembleVoiceBurst frame1 frame2 frame3 seq srcID dstID colorCode)).toList
        ([0x00] ++ (encodeEmbeddedLC srcID dstID ((seq.toNat - 1) % 4)).toList ++ [0x00]) (k + 1) (k + 1) ?_
      · have next : k + 1 < 6 := by omega
        simpa [List.getD_eq_getElem?_getD, within, next] using entry
      · intro j bit
        rw [getD_middle48 first second seq srcID dstID colorCode (by omega) (.inr (by omega)), middleBits, if_neg nonzero]

def thirdBurst : Vector UInt8 33 :=
  assembleVoiceBurst (List.replicate 9 0x55) (List.replicate 9 0xAA) [1, 2, 3, 4, 5, 6, 7, 8, 9] 3 4601234 46001 1

theorem voice_burst_loses_nothing_third :
    extractVoiceFramesFromBurst thirdBurst = (List.replicate 9 0x55, List.replicate 9 0xAA, [1, 2, 3, 4, 5, 6, 7, 8, 9]) ∧
      ((extractMiddle48 thirdBurst).toList.drop 1).take 4 = (encodeEmbeddedLC 4601234 46001 2).toList := by
  obtain ⟨frames, -, fragment⟩ := voice_burst_loses_nothing (List.replicate 9 0x55) (List.replicate 9 0xAA)
    [1, 2, 3, 4, 5, 6, 7, 8, 9] rfl rfl rfl 3 4601234 46001 1
  exact ⟨frames, fragment (by decide) (by decide)⟩

end

end Ipsc2Mmdvm.Dmr
