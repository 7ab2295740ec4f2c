import Ipsc2Mmdvm.Dmr.VoiceBurst
import Ipsc2Mmdvm.Ipsc.EmbeddedCode

namespace Ipsc2Mmdvm.Dmr

open Data

/-! The voice bursts leave the columns of the row parity at zero, compute another check of five bits
than the IPSC side and number the fragments in another way. -/

inductive LCSS where
  | singleFragmentLCorCSBK
  | firstFragmentLC
  | lastFragmentLCorCSBK
  | continuationFragmentLCorCSBK
deriving DecidableEq

def lcssFromInt : Nat → LCSS
  | 1 => .firstFragmentLC
  | 2 => .lastFragmentLCorCSBK
  | 3 => .continuationFragmentLCorCSBK
  | _ => .singleFragmentLCorCSBK

def carriedFragment (burst : Vector UInt8 33) : Vector UInt8 4 :=
  packBits 4 ((List.range 32).map fun i => (unpackBits burst.toList).getD (116 + i) false)

def carriedLCSS (burst : Vector UInt8 33) : LCSS :=
  let bits := unpackBits burst.toList
  lcssFromInt (2 * (bits.getD 113 false).toNat + (bits.getD 114 false).toNat)

section

variable (frame1 frame2 frame3 : List UInt8) (src dst : UInt32) (colorCode : UInt8)

def carriedFragments : Ipsc.Fragments :=
  Vector.ofFn fun f => carriedFragment
    (assembleVoiceBurst frame1 frame2 frame3 (UInt8.ofNat (f.val + 1)) src dst colorCode)

end

def HasCheck (fragments : Ipsc.Fragments) : Prop :=
  (Ipsc.dataBits fragments).drop 72 =
    (List.range 5).map fun i => (Ipsc.embeddedLCCRC5 ((Ipsc.dataBits fragments).take 72)).toNat.testBit (4 - i)

structure PassesChecks (fragments : Ipsc.Fragments) : Prop where
  rows : ∀ r < 8, Ipsc.IsExtendedHamming (Ipsc.matrixBit fragments r)
  columns : ∀ c < 16, parity (List.range 8) (fun r => Ipsc.matrixBit fragments r c) = false
  check : HasCheck fragments

def residualRound (reg : UInt8) (bit : Bool) : UInt8 :=
  let msb := reg >>> 4 &&& 1
  let reg := reg <<< 1 &&& 0x1F ||| (if bit then 1 else 0)
  if msb = 1 then reg ^^^ 0x15 else reg

def embeddedLCCRC5Residual (bits : List Bool) : UInt8 := (bits.foldl residualRound 0 &&& 0x1F) ^^^ 0x1F

theorem embeddedLCCRC5_eq_rounds (bits : List Bool) : (bits.foldl residualRound 0).toNat < 32 ∧
      embeddedLCCRC5 bits = (List.replicate 5 false).foldl residualRound (bits.foldl residualRound 0) := by
  have round : ∀ n < 32, ∀ bit, (residualRound (UInt8.ofNat n) bit).toNat < 32 ∧
      ∀ crc, crc = (List.replicate 5 false).foldl residualRound (UInt8.ofNat n) →
        (if (bitOf crc 3 ^^ bit) then (crc <<< 1 &&& 0x1F) ^^^ 0x15 else crc <<< 1 &&& 0x1F) =
          (List.replicate 5 false).foldl residualRound (residualRound (UInt8.ofNat n) bit) := by
    simp only [forall_eq]
    decide +kernel
  induction bits using List.reverseRecOn with
  | nil => exact ⟨by decide, by decide⟩
  | append_singleton bits bit ih =>
    obtain ⟨small, same⟩ := ih
    obtain ⟨next, goesOn⟩ := round _ small bit
    rw [UInt8.ofNat_toNat] at next goesOn
    rw [embeddedLCCRC5, List.foldl_append, List.foldl_append]
    exact ⟨next, goesOn _ same⟩

/-- The residual of bits with their check is that of no bits, and the check is the residual of the
bits and five zeros. -/
theorem embedded_lc_checks_consistent (bits : List Bool) :
    embeddedLCCRC5Residual (bits ++ (List.range 5).map fun i => bitOf (embeddedLCCRC5 bits) (3 + i)) = 0x1F ∧
      embeddedLCCRC5 bits = embeddedLCCRC5Residual (bits ++ List.replicate 5 false) ^^^ 0x1F := by
  have table : ∀ n < 32, ∀ crc, crc = (List.replicate 5 false).foldl residualRound (UInt8.ofNat n) →
      (((List.range 5).map fun i => bitOf crc (3 + i)).foldl residualRound (UInt8.ofNat n) &&& 0x1F) ^^^ 0x1F = 0x1F ∧
        crc = ((crc &&& 0x1F) ^^^ 0x1F) ^^^ 0x1F := by
    simp only [forall_eq]
    decide +kernel
  obtain ⟨small, same⟩ := embeddedLCCRC5_eq_rounds bits
  obtain ⟨residual, check⟩ := table _ small (embeddedLCCRC5 bits) (by rw [UInt8.ofNat_toNat, same])
  rw [UInt8.ofNat_toNat] at residual
  refine ⟨?_, ?_⟩
  · rw [embeddedLCCRC5Residual, List.foldl_append, residual]
  · rw [embeddedLCCRC5Residual, List.foldl_append, ← same]
    exact check

def registerParity (reg : UInt8) : Bool := bitOf reg 3 ^^ bitOf reg 4 ^^ bitOf reg 5 ^^ bitOf reg 6 ^^ bitOf reg 7

theorem registerParity_foldl {step : UInt8 → Bool → UInt8}
    (small : ∀ n < 32, ∀ bit, (step (UInt8.ofNat n) bit).toNat < 32)
    (sums : ∀ n < 32, ∀ bit, registerParity (step (UInt8.ofNat n) bit) = (registerParity (UInt8.ofNat n) ^^ bit))
    (bits : List Bool) {reg : UInt8} (bound : reg.toNat < 32) :
    (bits.foldl step reg).toNat < 32 ∧ registerParity (bits.foldl step reg) = bits.foldl (· ^^ ·) (registerParity reg) := by
  induction bits generalizing reg with
  | nil => exact ⟨bound, rfl⟩
  | cons bit rest ih =>
    have next := small reg.toNat bound bit
    have sum := sums reg.toNat bound bit
    rw [UInt8.ofNat_toNat] at next sum
    rw [List.foldl_cons, List.foldl_cons, ← sum]
    exact ih next

theorem registerParity_embeddedLCCRC5 (bits : List Bool) :
    registerParity (embeddedLCCRC5 bits) = bits.foldl (· ^^ ·) false :=
  (registerParity_foldl (by decide +kernel) (by decide +kernel) bits (by decide)).2

theorem registerParity_inverted : ∀ n < 32,
    registerParity ((UInt8.ofNat n &&& 0x1F) ^^^ 0x1F) = !registerParity (UInt8.ofNat n) := by
  decide +kernel

theorem registerParity_ipsc (bits : List Bool) :
    registerParity (Ipsc.embeddedLCCRC5 bits) = !bits.foldl (· ^^ ·) false := by
  obtain ⟨bound, sum⟩ := @registerParity_foldl residualRound (by decide +kernel) (by decide +kernel) bits 0 (by decide)
  have inverted := registerParity_inverted _ bound
  rw [UInt8.ofNat_toNat, sum] at inverted
  exact inverted

theorem checks_differ (bits : List Bool) : ((List.range 5).map fun i => bitOf (embeddedLCCRC5 bits) (3 + i)) ≠
      (List.range 5).map fun i => (Ipsc.embeddedLCCRC5 bits).toNat.testBit (4 - i) := by
  intro same
  have equal : ∀ i < 5, bitOf (embeddedLCCRC5 bits) (3 + i) = bitOf (Ipsc.embeddedLCCRC5 bits) (3 + i) := by
    intro i inside
    have entry := List.map_inj_left.mp same i (List.mem_range.mpr inside)
    have index : 7 - (3 + i) = 4 - i := by omega
    rw [entry, bitOf, index]
  have parities : registerParity (embeddedLCCRC5 bits) = registerParity (Ipsc.embeddedLCCRC5 bits) := by
    simp only [registerParity]
    rw [equal 0 (by decide), equal 1 (by decide), equal 2 (by decide), equal 3 (by decide), equal 4 (by decide)]
  rw [registerParity_embeddedLCCRC5, registerParity_ipsc] at parities
  exact (Bool.eq_not_self _).mp parities

section

variable {frame1 frame2 frame3 : List UInt8} (first : frame1.length = 9) (second : frame2.length = 9)
include first second

theorem carriedFragment_assembleVoiceBurst {seq : UInt8} (nonzero : seq ≠ 0) (src dst : UInt32) (colorCode : UInt8) :
    carriedFragment (assembleVoiceBurst frame1 frame2 frame3 seq src dst colorCode) =
      encodeEmbeddedLC src dst ((seq.toNat - 1) % 4) := by
  have size1 : (bitRange frame1 0 72).length = 72 := length_bitRange (by omega)
  have size2 : (bitRange frame2 0 36).length = 36 := length_bitRange (by omega)
  have size3 : (bitRange frame2 36 36).length = 36 := length_bitRange (by omega)
  have bits : ∀ i < 32, (unpackBits (assembleVoiceBurst frame1 frame2 frame3 seq src dst colorCode).toList).getD (116 + i)
      false = (unpackBits (encodeEmbeddedLC src dst ((seq.toNat - 1) % 4)).toList).getD i false := by
    intro i inside
    have pieces := @getD_pieces _ _ _ _ (bitRange frame3 0 72) size1 size2 (length_middleBits seq src dst) size3 (8 + i)
    have place : 116 + i = 108 + (8 + i) := by omega
    have byte : (8 + i) / 8 = i / 8 + 1 := by omega
    have bit : (8 + i) % 8 = i % 8 := by omega
    rw [getD_assembleVoiceBurst _ _ _ _ _ _ _ (by omega) (.inr (.inr (.inl (by omega)))), place, pieces.2.2.1 (by omega),
      middleBits, if_neg nonzero, getD_unpackBits, getD_unpackBits, byte, bit, List.append_assoc, List.singleton_append,
      List.getD_cons_succ, List.getD_append _ _ _ _ (by simp; omega)]
  rw [← packBits_unpackBits (encodeEmbeddedLC src dst ((seq.toNat - 1) % 4)), carriedFragment]
  apply packBits_congr
  intro i inside
  rw [← bits i inside]
  have listed : i < 32 := inside
  simp [List.getD_eq_getElem?_getD, listed]

section

variable (src dst : UInt32) (colorCode : UInt8)

include src dst colorCode

theorem matrixBit_carriedFragments {r c : Nat} (row : r < 8) (column : c < 16) :
    Ipsc.matrixBit (carriedFragments frame1 frame2 frame3 src dst colorCode) r c =
      embeddedLCMatrix (embeddedLCBits src dst) r c := by
  have fragment : c / 4 % 4 = c / 4 := by omega
  have seq : (UInt8.ofNat (c / 4 + 1)).toNat = c / 4 + 1 := by
    rw [UInt8.toNat_ofNat']
    omega
  have nonzero : UInt8.ofNat (c / 4 + 1) ≠ 0 := by
    intro zero
    rw [zero] at seq
    exact absurd seq (by simp)
  have byte : ((UInt8.ofNat (c / 4 + 1)).toNat - 1) % 4 = c / 4 := by omega
  have inside : 8 * (c % 4) + r < 32 := by omega
  have place : (8 * (c % 4) + r) % 8 = r ∧ c / 4 * 4 + (8 * (c % 4) + r) / 8 = c := by omega
  simp only [Ipsc.matrixBit, Ipsc.fragmentBits, Ipsc.matrixPlace, carriedFragments, Fin.getElem_fin, Vector.getElem_ofFn,
    Fin.val_ofNat, fragment, Nat.mod_mod, Nat.mod_eq_of_lt row]
  simp only [carriedFragment_assembleVoiceBurst first second nonzero, byte, encodeEmbeddedLC, packBits, Vector.getElem_ofFn]
  rw [bitOf_byteOf _ row]
  simp [List.getD_eq_getElem?_getD, inside, place]

theorem dataBits_carriedFragments :
    Ipsc.dataBits (carriedFragments frame1 frame2 frame3 src dst colorCode) = embeddedLCBits src dst := by
  have length : (embeddedLCBits src dst).length = 77 := by simp [embeddedLCBits, length_unpackBits]
  apply List.ext_getElem
  · simp [Ipsc.dataBits, length]
  · intro i inside inside'
    have row : i / 11 < 7 := by omega
    have column : i % 11 < 11 := Nat.mod_lt i (by decide)
    simp only [Ipsc.dataBits, List.getElem_map, List.getElem_range]
    rw [matrixBit_carriedFragments first second src dst colorCode (by omega) (by omega), embeddedLCMatrix, if_pos column,
      if_pos row, Nat.div_add_mod]
    exact List.getD_eq_getElem _ _ inside'

theorem not_hasCheck : ¬ HasCheck (carriedFragments frame1 frame2 frame3 src dst colorCode) := by
  rw [HasCheck, dataBits_carriedFragments first second]
  have front : (unpackBits [0x00, 0x00, 0x00, (dst >>> 16).toUInt8, (dst >>> 8).toUInt8, dst.toUInt8,
      (src >>> 16).toUInt8, (src >>> 8).toUInt8, src.toUInt8]).length = 72 := by simp [length_unpackBits]
  simp only [embeddedLCBits]
  rw [List.drop_left' front, List.take_left' front]
  exact checks_differ _

theorem row_valid_iff {r : Nat} (row : r < 8) :
    Ipsc.IsExtendedHamming (Ipsc.matrixBit (carriedFragments frame1 frame2 frame3 src dst colorCode) r) ↔
      ∀ c, 11 ≤ c → c < 16 → Ipsc.extendRow (Ipsc.embeddedLCRow (embeddedLCBits src dst) r) c = false := by
  have read : ∀ c < 16, Ipsc.matrixBit (carriedFragments frame1 frame2 frame3 src dst colorCode) r c =
      if c < 11 then Ipsc.embeddedLCRow (embeddedLCBits src dst) r c else false := by
    intro c column
    rw [matrixBit_carriedFragments first second src dst colorCode row column, embeddedLCMatrix, Ipsc.embeddedLCRow]
  generalize Ipsc.matrixBit (carriedFragments frame1 frame2 frame3 src dst colorCode) r = line at read
  generalize Ipsc.embeddedLCRow (embeddedLCBits src dst) r = d at read
  have data : ∀ c < 11, line c = d c := fun c inside => (read c (by omega)).trans (if_pos inside)
  have zero : ∀ c, 11 ≤ c → c < 16 → line c = false := fun c least most => (read c most).trans (if_neg (by omega))
  have checks : ∀ c < 15, computeRowParity d c = computeRowParity line c :=
    fun c inside => computeRowParity_congr (fun k small => (data k small).symm) inside
  constructor
  · intro valid
    have fixed : ∀ c < 15, computeRowParity d c = line c :=
      fun c inside => (checks c inside).trans (computeRowParity_of_valid valid.1 inside)
    intro c least most
    rw [Ipsc.extendRow_eq]
    split
    · have even := valid.2
      rw [parity_range_succ, zero 15 (by decide) (by decide), Bool.xor_false] at even
      rw [parity_congr fun k member => fixed k (List.mem_range.mp member), even]
    · rw [fixed c (by omega), zero c least most]
  · intro clear
    apply Ipsc.isExtendedHamming_congr _ (Ipsc.isExtendedHamming_extendRow d)
    intro c column
    by_cases inside : c < 11
    · rw [data c inside, Ipsc.extendRow_eq, if_neg (by omega), computeRowParity_data inside]
    · rw [zero c (by omega) column, clear c (by omega) column]

theorem columns_carriedFragments : ∀ c < 16, parity (List.range 8)
      (fun r => Ipsc.matrixBit (carriedFragments frame1 frame2 frame3 src dst colorCode) r c) = false := by
  intro c column
  rw [parity_congr fun r member => matrixBit_carriedFragments first second src dst colorCode (List.mem_range.mp member) column]
  by_cases inside : c < 11
  · rw [parity_range_succ]
    simp only [embeddedLCMatrix, if_pos inside, Nat.lt_irrefl, if_false, Ipsc.foldl_xor_eq_parity, Bool.false_xor]
    rw [parity_congr fun r member => if_pos (List.mem_range.mp member), Bool.xor_self]
  · simp only [embeddedLCMatrix, if_neg inside]
    rfl

end

end

theorem bitOf_putHighNibble_high (byte value : UInt8) {j : Nat} (inside : j < 4) :
    bitOf (putHighNibble byte value) j = bitOf value (4 + j) := by
  have shifted : ∀ value : UInt8, ∀ j < 4, bitOf (value <<< 4 &&& 0xF0) j = bitOf value (4 + j) :=
    forall_byte (by decide +kernel)
  have mask : (0x0F : Nat).testBit (7 - j) = false := by
    have cases : j = 0 ∨ j = 1 ∨ j = 2 ∨ j = 3 := by omega
    obtain rfl | rfl | rfl | rfl := cases <;> decide
  rw [← shifted value j inside]
  simp only [bitOf, putHighNibble, UInt8.toNat_or, UInt8.toNat_and, Nat.testBit_or, Nat.testBit_and]
  simp [mask]

theorem lcss_of_control : ∀ n < 256, ∀ lcss < 4,
    let emb := UInt8.ofNat n <<< 4 ||| (UInt8.ofNat lcss <<< 1 &&& 0x06)
    let high := (qr1676Table.getD (emb >>> 1 &&& 0x7F).toNat 0 >>> 8).toUInt8
    2 * (bitOf high 5).toNat + (bitOf high 6).toNat = lcss := by
  decide +kernel

theorem carriedLCSS_applyEmbeddedControl (frame : Vector UInt8 33) (colorCode seq : UInt8) :
    carriedLCSS (applyEmbeddedControl frame colorCode seq) =
      lcssFromInt (if seq = 1 ∨ seq = 5 then 1 else if seq = 4 then 3 else 2) := by
  have control (high low : UInt8) {j : Nat} (inside : j < 4) :
      (unpackBits (putControl frame high low).toList).getD (112 + j) false = bitOf high (4 + j) := by
    have byte : (112 + j) / 8 = 14 := by omega
    have bit : (112 + j) % 8 = j := by omega
    rw [getD_unpackBits, byte, bit, ← bitOf_putHighNibble_high frame[14] high inside]
    simp [putControl]
  have value (lcss : Nat) (small : lcss < 4) := lcss_of_control colorCode.toNat colorCode.toNat_lt lcss small
  simp only [UInt8.ofNat_toNat] at value
  simp only [carriedLCSS, applyEmbeddedControl]
  rw [control _ _ (by decide : 1 < 4), control _ _ (by decide : 2 < 4)]
  split_ifs
  · exact congrArg lcssFromInt (value 1 (by decide))
  · exact congrArg lcssFromInt (value 3 (by decide))
  · exact congrArg lcssFromInt (value 2 (by decide))

theorem carriedLCSS_assembleVoiceBurst (frame1 frame2 frame3 : List UInt8) (src dst : UInt32) (colorCode : UInt8) :
    carriedLCSS (assembleVoiceBurst frame1 frame2 frame3 1 src dst colorCode) = .firstFragmentLC ∧
      carriedLCSS (assembleVoiceBurst frame1 frame2 frame3 2 src dst colorCode) = .lastFragmentLCorCSBK ∧
      carriedLCSS (assembleVoiceBurst frame1 frame2 frame3 3 src dst colorCode) = .lastFragmentLCorCSBK ∧
      carriedLCSS (assembleVoiceBurst frame1 frame2 frame3 4 src dst colorCode) = .continuationFragmentLCorCSBK := by
  have controlled (seq : UInt8) (inside : 1 ≤ seq ∧ seq ≤ 5) :
      carriedLCSS (assembleVoiceBurst frame1 frame2 frame3 seq src dst colorCode) =
        lcssFromInt (if seq = 1 ∨ seq = 5 then 1 else if seq = 4 then 3 else 2) := by
    simp only [assembleVoiceBurst]
    rw [if_pos inside, carriedLCSS_applyEmbeddedControl]
  refine ⟨?_, ?_, ?_, ?_⟩
  · exact controlled 1 (by decide)
  · exact controlled 2 (by decide)
  · exact controlled 3 (by decide)
  · exact controlled 4 (by decide)

structure Interoperates (frame1 frame2 frame3 : List UInt8) (src dst : UInt32) (colorCode : UInt8) : Prop where
  fragments : PassesChecks (carriedFragments frame1 frame2 frame3 src dst colorCode)
  start : carriedLCSS (assembleVoiceBurst frame1 frame2 frame3 1 src dst colorCode) = .firstFragmentLC
  second : carriedLCSS (assembleVoiceBurst frame1 frame2 frame3 2 src dst colorCode) = .continuationFragmentLCorCSBK
  third : carriedLCSS (assembleVoiceBurst frame1 frame2 frame3 3 src dst colorCode) = .continuationFragmentLCorCSBK
  last : carriedLCSS (assembleVoiceBurst frame1 frame2 frame3 4 src dst colorCode) = .lastFragmentLCorCSBK

/-- The columns pass, a row where its parity is zero, the check and the numbering never. -/
theorem voice_signalling_never_interoperates (frame1 frame2 frame3 : List UInt8) (first : frame1.length = 9)
    (second : frame2.length = 9) (src dst : UInt32) (colorCode : UInt8) :
    ¬ Interoperates frame1 frame2 frame3 src dst colorCode ∧ (∀ c < 16, parity (List.range 8)
        (fun r => Ipsc.matrixBit (carriedFragments frame1 frame2 frame3 src dst colorCode) r c) = false) ∧
      (∀ r < 8, Ipsc.IsExtendedHamming (Ipsc.matrixBit (carriedFragments frame1 frame2 frame3 src dst colorCode) r) ↔
        ∀ c, 11 ≤ c → c < 16 → Ipsc.extendRow (Ipsc.embeddedLCRow (embeddedLCBits src dst) r) c = false) ∧
      ¬ HasCheck (carriedFragments frame1 frame2 frame3 src dst colorCode) ∧
      carriedLCSS (assembleVoiceBurst frame1 frame2 frame3 1 src dst colorCode) = .firstFragmentLC ∧
      carriedLCSS (assembleVoiceBurst frame1 frame2 frame3 2 src dst colorCode) = .lastFragmentLCorCSBK ∧
      carriedLCSS (assembleVoiceBurst frame1 frame2 frame3 3 src dst colorCode) = .lastFragmentLCorCSBK ∧
      carriedLCSS (assembleVoiceBurst frame1 frame2 frame3 4 src dst colorCode) = .continuationFragmentLCorCSBK := by
  have check := @not_hasCheck frame1 frame2 frame3 first second src dst colorCode
  refine ⟨fun all => check all.fragments.check, columns_carriedFragments first second src dst colorCode,
    fun r row => row_valid_iff first second src dst colorCode row, check, ?_⟩
  exact carriedLCSS_assembleVoiceBurst frame1 frame2 frame3 src dst colorCode

def silence : List UInt8 := List.replicate 9 0

theorem voice_signalling_never_interoperates_silence : ¬ Interoperates silence silence silence 4600553 46025 1 :=
  (voice_signalling_never_interoperates silence silence silence rfl rfl 4600553 46025 1).1

/-- The addresses of a recorded call.  Row 3 is no codeword, the check is not that of the link
control, and burst 2 is marked as the last fragment. -/
theorem voice_signalling_fails_on_capture : ¬ Interoperates silence silence silence 4600553 46025 1 ∧
      ¬ Ipsc.IsExtendedHamming (Ipsc.matrixBit (carriedFragments silence silence silence 4600553 46025 1) 3) ∧
      ¬ HasCheck (carriedFragments silence silence silence 4600553 46025 1) ∧
      carriedLCSS (assembleVoiceBurst silence silence silence 2 4600553 46025 1) = .lastFragmentLCorCSBK := by
  have check := @not_hasCheck silence silence silence rfl rfl 4600553 46025 1
  refine ⟨fun all => check all.fragments.check, ?_, check,
    (carriedLCSS_assembleVoiceBurst silence silence silence 4600553 46025 1).2.1⟩
  rw [row_valid_iff rfl rfl 4600553 46025 1 (by decide)]
  intro clear
  exact absurd (clear 11 (by decide) (by decide)) (by decide +kernel)

end Ipsc2Mmdvm.Dmr
