import Ipsc2Mmdvm.Data.Distance
import Ipsc2Mmdvm.Dmr.BptcErrors

namespace Ipsc2Mmdvm.Dmr

open Data Finset

/-! The minimum distance of BPTC(196,96): a row of the grid and a column each have three ones unless
they are zero. -/

def sentAt (cell : Nat × Nat) : Fin 196 := ⟨gridIndex cell.1 cell.2 * 181 % 196, position_lt _⟩

theorem injOn_sentAt : Set.InjOn sentAt (range 13 ×ˢ range 15 : Finset (Nat × Nat)) := by
  intro cell member other member' same
  simp only [coe_product, coe_range, Set.mem_prod, Set.mem_Iio] at member member'
  have index := interleave_injective (gridIndex_lt member.1 member.2) (gridIndex_lt member'.1 member'.2) (Fin.mk.inj same)
  simp only [gridIndex] at index
  apply Prod.ext <;> omega

def differenceGrid (word other : Vector Bool 196) (r c : Nat) : Bool :=
  deinterleave word (gridIndex r c) ^^ deinterleave other (gridIndex r c)

section Codewords

variable {word other : Vector Bool 196} (valid : ValidGrid (deinterleave word)) (valid' : ValidGrid (deinterleave other))
include valid valid'

theorem three_le_row : ∀ r < 13, ∀ c < 15, differenceGrid word other r c = true →
    3 ≤ weight 15 (differenceGrid word other r) := by
  intro r row c column one
  have first : rowCode.syndrome (fun c => deinterleave word (gridIndex r c)) = 0 := valid.rows r row
  have second : rowCode.syndrome (fun c => deinterleave other (gridIndex r c)) = 0 := valid'.rows r row
  exact LineCode.three_le_weight_sum first second column one

theorem three_le_column : ∀ c < 15, ∀ r < 13, differenceGrid word other r c = true →
    3 ≤ weight 13 fun r => differenceGrid word other r c := by
  intro c column r row one
  have first : colCode.syndrome (fun r => deinterleave word (gridIndex r c)) = 0 := valid.columns c column
  have second : colCode.syndrome (fun r => deinterleave other (gridIndex r c)) = 0 := valid'.columns c column
  exact LineCode.three_le_weight_sum first second row one

omit valid valid' in
theorem exists_difference (differ : extractData (deinterleave word) ≠ extractData (deinterleave other)) :
    ∃ r < 13, ∃ c < 15, differenceGrid word other r c = true := by
  by_contra none
  simp only [not_exists, not_and, Bool.not_eq_true] at none
  apply differ
  apply extractData_congr
  intro r row c column
  have zero := none r (by omega) c (by omega)
  simpa only [differenceGrid, bne_eq_false_iff_eq] using zero

theorem nine_le_hammingDist (differ : extractData (deinterleave word) ≠ extractData (deinterleave other)) :
    9 ≤ hammingDist word.get other.get := by
  obtain ⟨r, row, c, column, one⟩ := exists_difference differ
  calc 9 ≤ (gridOnes 13 15 (differenceGrid word other)).card :=
        mul_le_card_gridOnes (three_le_column valid valid') (three_le_row valid valid') row column one
    _ ≤ hammingDist word.get other.get :=
        @card_gridOnes_le_hammingDist 13 (Fin 196) _ word.get other.get 15 sentAt injOn_sentAt

end Codewords

theorem bptc_minimum_distance {data other : Vector Bool 96} (differ : data ≠ other) :
    9 ≤ hammingDist (encode data).get (encode other).get := by
  apply nine_le_hammingDist (validGrid_encode data) (validGrid_encode other)
  rwa [extractData_encode, extractData_encode]

theorem bptc_minimum_distance_first_bit :
    9 ≤ hammingDist (encode (Vector.replicate 96 false)).get (encode ((Vector.replicate 96 false).set 0 true)).get :=
  bptc_minimum_distance (by decide)

end Ipsc2Mmdvm.Dmr
