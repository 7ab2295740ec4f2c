import Ipsc2Mmdvm.Dmr.BptcErrors

namespace Ipsc2Mmdvm.Dmr

open Data
open List hiding Vector

/-! Bursts told apart by the 48 bits in their middle. -/

inductive SyncPattern where
  | bsSourcedVoice
  | bsSourcedData
  | msSourcedVoice
  | msSourcedData
  | msSourcedRcSync
  | tdma1Voice
  | tdma1Data
  | tdma2Voice
  | tdma2Data
  | reserved
  | embeddedSignallingPattern
deriving DecidableEq

def SyncPattern.value : SyncPattern → Int
  | .bsSourcedVoice => 0x755FD7DF75F7
  | .bsSourcedData => 0xDFF57D75DF5D
  | .msSourcedVoice => 0x7F7D5DD57DFD
  | .msSourcedData => 0xD5D7F77FD757
  | .msSourcedRcSync => 0x77D55F7DFD77
  | .tdma1Voice => 0x5D577F7757FF
  | .tdma1Data => 0xF7FDD5DDFD55
  | .tdma2Voice => 0x7DFFD5F55D5F
  | .tdma2Data => 0xD7557F5FF7F5
  | .reserved => 0xDD7FF5D757DD
  | .embeddedSignallingPattern => -1

def SyncPattern.recognised : List SyncPattern :=
  [.bsSourcedVoice, .bsSourcedData, .msSourcedVoice, .msSourcedData, .msSourcedRcSync, .tdma1Voice, .tdma1Data,
    .tdma2Voice, .tdma2Data, .reserved]

def syncPatternFromBytes (syncOrEmbeddedSignalling : Vector UInt8 6) : SyncPattern :=
  let v : Nat := (List.finRange 6).foldl
    (fun v i => v ||| syncOrEmbeddedSignalling[i].toNat <<< (8 * (5 - i.val))) 0
  (SyncPattern.recognised.find? fun pattern => pattern.value == (v : Int)).getD .embeddedSignallingPattern

def burstBits (data : Vector UInt8 33) : List Bool := unpackBits data.toList

def burstSyncPattern (data : Vector UInt8 33) : SyncPattern :=
  syncPatternFromBytes (packBits 6 ((burstBits data).drop 108))

def burstHasDataSync (data : Vector UInt8 33) : Bool :=
  let sync := burstSyncPattern data
  sync == .tdma1Data || sync == .tdma2Data || sync == .msSourcedData || sync == .bsSourcedData

def burstHasEmbeddedSignalling (data : Vector UInt8 33) : Bool :=
  burstSyncPattern data == .embeddedSignallingPattern

def slotAndSync (dataType colorCode : UInt8) : List Bool :=
  let slotBits := golayEncode208 ((colorCode &&& 0xF) <<< 4 ||| (dataType &&& 0xF))
  slotBits.take 10 ++ (List.range 48).map (fun i => bsSourcedData.testBit (47 - i)) ++ slotBits.drop 10

theorem burstBits_buildLCDataBurst (lcBytes : Vector UInt8 12) (dataType colorCode : UInt8) {i : Nat} (inside : i < 68) :
    (burstBits (buildLCDataBurst lcBytes dataType colorCode)).getD (98 + i) false =
      (slotAndSync dataType colorCode).getD i false := by
  simp only [burstBits, buildLCDataBurst]
  rw [unpackBits_packBits _ (by omega)]
  generalize encode _ = encoded
  have firstLength : (encoded.toList.take 98).length = 98 := by simp
  rw [getD_append _ _ _ _ (by simp [golayEncode208_length]; omega)]
  simp only [append_assoc]
  rw [getD_append_right _ _ _ _ (by omega), firstLength, Nat.add_sub_cancel_left]
  simp only [slotAndSync, append_assoc]

theorem getD_slotAndSync (dataType colorCode : UInt8) {i : Nat} (inside : i < 48) :
    (slotAndSync dataType colorCode).getD (10 + i) false = bsSourcedData.testBit (47 - i) := by
  simp only [slotAndSync]
  generalize slot : golayEncode208 _ = slotBits
  have length : slotBits.length = 20 := by rw [← slot, golayEncode208_length]
  rw [getD_append _ _ _ _ (by simp [length]; omega), getD_append_right _ _ _ _ (by simp [length])]
  simp [length, inside]

theorem burstSyncPattern_buildLCDataBurst (lcBytes : Vector UInt8 12) (dataType colorCode : UInt8) :
    burstSyncPattern (buildLCDataBurst lcBytes dataType colorCode) = .bsSourcedData := by
  have sync : packBits 6 ((burstBits (buildLCDataBurst lcBytes dataType colorCode)).drop 108) =
      packBits 6 ((range 48).map fun i => bsSourcedData.testBit (47 - i)) := by
    apply packBits_congr
    intro i inside
    have position : 108 + i = 98 + (10 + i) := by omega
    rw [getD_eq_getElem?_getD, getElem?_drop, ← getD_eq_getElem?_getD, position,
      burstBits_buildLCDataBurst lcBytes dataType colorCode (by omega), getD_slotAndSync dataType colorCode inside]
    simp [inside]
  rw [burstSyncPattern, sync]
  decide +kernel

theorem and_low_nibble {a b : UInt8} (same : a % 16 = b % 16) : a &&& 0xF = b &&& 0xF := by
  apply UInt8.toNat_inj.mp
  have residue := congrArg UInt8.toNat same
  simp only [UInt8.toNat_mod] at residue
  rw [UInt8.toNat_and, UInt8.toNat_and]
  have mask : (0xF : UInt8).toNat = 2 ^ 4 - 1 := rfl
  rw [mask, Nat.and_two_pow_sub_one_eq_mod, Nat.and_two_pow_sub_one_eq_mod]
  exact residue

theorem slotAndSync_congr {dataType dataType' colorCode colorCode' : UInt8} (sameType : dataType % 16 = dataType' % 16)
    (sameColor : colorCode % 16 = colorCode' % 16) :
    slotAndSync dataType colorCode = slotAndSync dataType' colorCode' := by
  simp only [slotAndSync, and_low_nibble sameType, and_low_nibble sameColor]

theorem decodeLCFromBurst_congr {burst other : Vector UInt8 33}
    (same : ∀ i < 264, i < 98 ∨ 166 ≤ i → (burstBits burst).getD i false = (burstBits other).getD i false) :
    decodeLCFromBurst burst = decodeLCFromBurst other := by
  have dataBits : (Vector.ofFn fun i : Fin 196 => if i.val < 98 then (unpackBits burst.toList).getD i false
        else (unpackBits burst.toList).getD (166 + (i - 98)) false) =
      Vector.ofFn fun i : Fin 196 => if i.val < 98 then (unpackBits other.toList).getD i false
        else (unpackBits other.toList).getD (166 + (i - 98)) false := by
    apply Vector.ext
    intro i inside
    simp only [Vector.getElem_ofFn]
    split
    · rename_i first
      exact same i (by omega) (.inl first)
    · exact same (166 + (i - 98)) (by omega) (.inr (by omega))
  rw [decodeLCFromBurst, decodeLCFromBurst, dataBits]

theorem data_burst_format : (∀ (lcBytes : Vector UInt8 12) (dataType colorCode : UInt8),
      decodeLCFromBurst (buildLCDataBurst lcBytes dataType colorCode) = some lcBytes ∧
        burstHasDataSync (buildLCDataBurst lcBytes dataType colorCode) = true ∧
        burstHasEmbeddedSignalling (buildLCDataBurst lcBytes dataType colorCode) = false) ∧
      (∀ burst other : Vector UInt8 33,
        (∀ i < 264, i < 98 ∨ 166 ≤ i → (burstBits burst).getD i false = (burstBits other).getD i false) →
          decodeLCFromBurst burst = decodeLCFromBurst other) ∧
      ∀ (lcBytes lcBytes' : Vector UInt8 12) (dataType dataType' colorCode colorCode' : UInt8),
        dataType % 16 = dataType' % 16 → colorCode % 16 = colorCode' % 16 → ∀ i, 98 ≤ i → i ≤ 165 →
          (burstBits (buildLCDataBurst lcBytes dataType colorCode)).getD i false =
            (burstBits (buildLCDataBurst lcBytes' dataType' colorCode')).getD i false := by
  refine ⟨?_, fun burst other => decodeLCFromBurst_congr, ?_⟩
  · intro lcBytes dataType colorCode
    refine ⟨decodeLCFromBurst_buildLCDataBurst lcBytes dataType colorCode, ?_, ?_⟩
    · simp only [burstHasDataSync, burstSyncPattern_buildLCDataBurst]
      rfl
    · simp only [burstHasEmbeddedSignalling, burstSyncPattern_buildLCDataBurst]
      rfl
  · intro lcBytes lcBytes' dataType dataType' colorCode colorCode' sameType sameColor i least most
    obtain ⟨k, rfl⟩ := Nat.exists_eq_add_of_le least
    rw [burstBits_buildLCDataBurst lcBytes dataType colorCode (by omega),
      burstBits_buildLCDataBurst lcBytes' dataType' colorCode' (by omega), slotAndSync_congr sameType sameColor]

theorem data_burst_format_high_bits : ∀ i : Fin 68,
    (burstBits (buildLCDataBurst (Vector.replicate 12 0) 1 2)).getD (98 + i.val) false =
      (burstBits (buildLCDataBurst (Vector.replicate 12 7) 0x11 0xF2)).getD (98 + i.val) false := by
  intro i
  exact data_burst_format.2.2 (Vector.replicate 12 0) (Vector.replicate 12 7) 1 0x11 2 0xF2 (by decide) (by decide) (98 + i.val)
    (by omega) (by omega)

end Ipsc2Mmdvm.Dmr
