import Mathlib.Tactic.IntervalCases
import Ipsc2Mmdvm.Data.ReedSolomon
import Ipsc2Mmdvm.Dmr.Gf256

namespace Ipsc2Mmdvm.Dmr

open Data

/-! The full link control as a Reed-Solomon code: the loop of `ReedSolomon129Parity` divides by the
polynomial with the roots `alpha`, `alpha ^ 2` and `alpha ^ 3`. -/

def alpha : UInt8 := 2

/-- The value of a word as a polynomial with the products of `GF256Mul`, leading coefficient
first. -/
def polynomialAt (x : UInt8) (word : List UInt8) : UInt8 :=
  word.foldl (fun value c => gf256Mul value x ^^^ c) 0

def withParity (lc : List UInt8) : List UInt8 :=
  lc ++ [(reedSolomon129Parity lc).1, (reedSolomon129Parity lc).2.1, (reedSolomon129Parity lc).2.2]

def standardLC (src dst : UInt64) (groupCall : Bool) (so : UInt8) : Vector UInt8 9 :=
  #v[(if groupCall then flcoGroupVoiceChannelUser else flcoUnitToUnitVoiceChannelUser) &&& 0x3F, standardizedFID, so,
    (dst >>> 16).toUInt8, (dst >>> 8).toUInt8, dst.toUInt8, (src >>> 16).toUInt8, (src >>> 8).toUInt8, src.toUInt8]

def maskAt (dataType : UInt8) (i : Fin 12) : UInt8 := if i.val < 9 then 0 else fullLCParityMaskForDataType dataType

def fullLC (lc : Vector UInt8 9) (dataType : UInt8) : Vector UInt8 12 :=
  Vector.ofFn fun i => (withParity lc.toList).getD i.val 0 ^^^ maskAt dataType i

theorem buildStandardLCBytesForDataType_eq (src dst : UInt64) (groupCall : Bool) (so dataType : UInt8) :
    buildStandardLCBytesForDataType src dst groupCall so dataType = fullLC (standardLC src dst groupCall so) dataType := by
  apply Vector.ext
  intro i inside
  simp only [fullLC, Vector.getElem_ofFn]
  interval_cases i <;> first | rfl | exact UInt8.xor_zero.symm

theorem polynomialAt_eq (x : UInt8) (word : List UInt8) :
    (⟨polynomialAt x word⟩ : GF256) = evalWord ⟨x⟩ (word.map GF256.mk) := by
  simp only [polynomialAt, evalWord, List.foldl_map]
  symm
  exact List.foldl_hom GF256.mk (fun _ _ => rfl)

variable {lc : List UInt8} {other : Vector UInt8 9}

theorem divide_eq (length : lc.length = 9) : divide (⟨0x0E⟩ : GF256) ⟨0x38⟩ ⟨0x40⟩ (lc.map GF256.mk) =
      (⟨(reedSolomon129Parity lc).1⟩, ⟨(reedSolomon129Parity lc).2.1⟩, ⟨(reedSolomon129Parity lc).2.2⟩) := by
  simp only [divide, reedSolomon129Parity, length, ne_eq, not_true_eq_false, if_false, List.foldl_map]
  refine @List.foldl_hom _ _ _ (fun p : UInt8 × UInt8 × UInt8 => ((⟨p.1⟩, ⟨p.2.1⟩, ⟨p.2.2⟩) : GF256 × GF256 × GF256))
    _ _ lc (0, 0, 0) ?_
  intro p c
  rfl

theorem root_of_taps : ∀ k, 1 ≤ k → k ≤ 3 →
    ((⟨alpha⟩ : GF256) ^ k) ^ 3 + ⟨0x0E⟩ * (⟨alpha⟩ ^ k) ^ 2 + ⟨0x38⟩ * ⟨alpha⟩ ^ k + ⟨0x40⟩ = 0 := by
  intro k least most
  have cases : k = 1 ∨ k = 2 ∨ k = 3 := by omega
  obtain rfl | rfl | rfl := cases <;> decide +kernel

theorem evalWord_withParity (length : lc.length = 9) {k : Nat} (least : 1 ≤ k) (most : k ≤ 3) :
    evalWord ((⟨alpha⟩ : GF256) ^ k) ((withParity lc).map GF256.mk) = 0 := by
  have vanishes := evalWord_checked (root_of_taps k least most) (lc.map GF256.mk)
  rw [divide_eq length] at vanishes
  rw [withParity, List.map_append]
  exact vanishes

theorem polynomialAt_withParity (length : lc.length = 9) {x : UInt8} {k : Nat} (least : 1 ≤ k) (most : k ≤ 3)
    (power : (⟨x⟩ : GF256) = ⟨alpha⟩ ^ k) : polynomialAt x (withParity lc) = 0 := by
  have value := polynomialAt_eq x (withParity lc)
  rw [power, evalWord_withParity length least most] at value
  exact congrArg GF256.byte value

theorem alpha_powers : ∀ i < 12, ∀ j < 12, (⟨alpha⟩ : GF256) ^ i = ⟨alpha⟩ ^ j → i = j := by
  decide +kernel

def fieldWord (lc : Vector UInt8 9) (i : Fin 12) : GF256 := ⟨(withParity lc.toList).getD i.val 0⟩

theorem length_withParity (lc : Vector UInt8 9) : (withParity lc.toList).length = 12 := by simp [withParity]

theorem ofFn_fieldWord (lc : Vector UInt8 9) : List.ofFn (fieldWord lc) = (withParity lc.toList).map GF256.mk := by
  have length := length_withParity lc
  apply List.ext_getElem
  · simp [length]
  · intro i inside inside'
    have small : i < (withParity lc.toList).length := by simpa using inside'
    simp only [List.getElem_ofFn, fieldWord, List.getElem_map]
    rw [List.getD_eq_getElem _ _ small]

theorem getD_withParity (lc : Vector UInt8 9) {i : Nat} (inside : i < 9) : (withParity lc.toList).getD i 0 = lc[i] := by
  rw [withParity, List.getD_append _ _ _ _ (by simpa using inside)]
  simp [inside]

theorem fieldWord_injective {lc : Vector UInt8 9} (same : fieldWord lc = fieldWord other) : lc = other := by
  apply Vector.ext
  intro i inside
  have entry := congrArg GF256.byte (congrFun same ⟨i, by omega⟩)
  simpa only [fieldWord, getD_withParity _ inside] using entry

theorem get_fullLC (lc : Vector UInt8 9) (dataType : UInt8) :
    (fullLC lc dataType).get = fun i => (fieldWord lc i).byte ^^^ maskAt dataType i := by
  funext i
  have read : (fullLC lc dataType).get i = (fullLC lc dataType)[i] := rfl
  rw [read]
  simp only [fullLC, Fin.getElem_fin, Vector.getElem_ofFn, fieldWord]

theorem four_le_hammingDist {lc : Vector UInt8 9} (differ : lc ≠ other) (dataType : UInt8) :
    4 ≤ hammingDist (fullLC lc dataType).get (fullLC other dataType).get := by
  have unmasked (i : Fin 12) : Function.Injective fun g : GF256 => g.byte ^^^ maskAt dataType i := by
    intro g h same
    exact GF256.ext ((UInt8.xor_left_inj _).mp same)
  rw [get_fullLC, get_fullLC, hammingDist_comp (fun i (g : GF256) => g.byte ^^^ maskAt dataType i) unmasked]
  apply lt_hammingDist (by decide : (⟨alpha⟩ : GF256) ≠ 0) alpha_powers
  · intro k least most
    rw [ofFn_fieldWord, ofFn_fieldWord, evalWord_withParity (by simp) least most, evalWord_withParity (by simp) least most]
  · exact fun same => differ (fieldWord_injective same)

theorem fullLC_injective {lc : Vector UInt8 9} {dataType otherType : UInt8} (same : fullLC lc dataType = fullLC other otherType) :
    lc = other ∧ fullLCParityMaskForDataType dataType = fullLCParityMaskForDataType otherType := by
  have entry (i : Fin 12) : (withParity lc.toList).getD i.val 0 ^^^ maskAt dataType i =
      (withParity other.toList).getD i.val 0 ^^^ maskAt otherType i := by
    have both := congrArg (fun word : Vector UInt8 12 => word[i]) same
    simpa only [fullLC, Fin.getElem_fin, Vector.getElem_ofFn] using both
  have contents : lc = other := by
    apply Vector.ext
    intro i inside
    have bytes := entry ⟨i, by omega⟩
    simpa only [maskAt, if_pos inside, UInt8.xor_zero, getD_withParity _ inside] using bytes
  refine ⟨contents, ?_⟩
  have last := entry 11
  rw [contents] at last
  exact (UInt8.xor_right_inj _).mp last

theorem full_lc_reed_solomon : (∀ lc : List UInt8, lc.length = 9 →
      polynomialAt alpha (withParity lc) = 0 ∧ polynomialAt (gf256Mul alpha alpha) (withParity lc) = 0 ∧
        polynomialAt (gf256Mul (gf256Mul alpha alpha) alpha) (withParity lc) = 0) ∧
      (∀ (lc other : Vector UInt8 9) (dataType : UInt8), lc ≠ other →
        4 ≤ hammingDist (fullLC lc dataType).get (fullLC other dataType).get) ∧
      (∀ (src dst src' dst' : UInt64) (groupCall groupCall' : Bool) (so so' dataType : UInt8),
        standardLC src dst groupCall so ≠ standardLC src' dst' groupCall' so' →
          4 ≤ hammingDist (buildStandardLCBytesForDataType src dst groupCall so dataType).get
            (buildStandardLCBytesForDataType src' dst' groupCall' so' dataType).get) ∧
      ∀ (src dst src' dst' : UInt64) (groupCall groupCall' : Bool) (so so' : UInt8),
        buildStandardLCBytesForDataType src dst groupCall so dataTypeVoiceLCHeader ≠
          buildStandardLCBytesForDataType src' dst' groupCall' so' dataTypeTerminatorWithLC := by
  refine ⟨?_, fun lc other dataType differ => four_le_hammingDist differ dataType, ?_, ?_⟩
  · intro lc length
    refine ⟨?_, ?_, ?_⟩
    · exact polynomialAt_withParity length (by decide : 1 ≤ 1) (by decide) (by decide +kernel)
    · exact polynomialAt_withParity length (by decide : 1 ≤ 2) (by decide) (by decide +kernel)
    · exact polynomialAt_withParity length (by decide : 1 ≤ 3) (by decide) (by decide +kernel)
  · intro src dst src' dst' groupCall groupCall' so so' dataType differ
    rw [buildStandardLCBytesForDataType_eq, buildStandardLCBytesForDataType_eq]
    exact four_le_hammingDist differ dataType
  · intro src dst src' dst' groupCall groupCall' so so' same
    rw [buildStandardLCBytesForDataType_eq, buildStandardLCBytesForDataType_eq] at same
    exact absurd (fullLC_injective same).2 (by decide)

theorem full_lc_reed_solomon_call_types : polynomialAt alpha (withParity [0, 0, 0x20, 0, 0, 9, 0, 0, 1]) = 0 ∧
      4 ≤ hammingDist (buildStandardLCBytesForDataType 1 9 true 0x20 dataTypeVoiceLCHeader).get
        (buildStandardLCBytesForDataType 1 9 false 0x20 dataTypeVoiceLCHeader).get := by
  obtain ⟨roots, -, built, -⟩ := full_lc_reed_solomon
  exact ⟨(roots _ rfl).1, built 1 9 1 9 true false 0x20 0x20 dataTypeVoiceLCHeader (by decide)⟩

end Ipsc2Mmdvm.Dmr
