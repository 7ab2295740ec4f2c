import Ipsc2Mmdvm.Dmr.Bptc
import Ipsc2Mmdvm.Data.LineCode

namespace Ipsc2Mmdvm.Dmr

open Data
open List hiding Vector

/-! Decoding of BPTC(196,96), and which words are codewords. -/

def gridIndex (r c : Nat) : Nat := 1 + r * 15 + c

def deinterleave (bits : Vector Bool 196) (a : Nat) : Bool :=
  have inside : a * 181 % 196 < 196 := position_lt a
  bits[a * 181 % 196]

def syndromeOf (s0 s1 s2 s3 : Bool) : Nat :=
  s0.toNat ||| s1.toNat <<< 1 ||| s2.toNat <<< 2 ||| s3.toNat <<< 3

def rowSyndrome (b : Line) : Nat :=
  syndromeOf (b 0 ^^ b 1 ^^ b 2 ^^ b 3 ^^ b 5 ^^ b 7 ^^ b 8 ^^ b 11)
    (b 1 ^^ b 2 ^^ b 3 ^^ b 4 ^^ b 6 ^^ b 8 ^^ b 9 ^^ b 12)
    (b 2 ^^ b 3 ^^ b 4 ^^ b 5 ^^ b 7 ^^ b 9 ^^ b 10 ^^ b 13)
    (b 0 ^^ b 1 ^^ b 2 ^^ b 4 ^^ b 6 ^^ b 7 ^^ b 10 ^^ b 14)

def colSyndrome (b : Line) : Nat :=
  syndromeOf (b 0 ^^ b 1 ^^ b 3 ^^ b 5 ^^ b 6 ^^ b 9)
    (b 0 ^^ b 1 ^^ b 2 ^^ b 4 ^^ b 6 ^^ b 7 ^^ b 10)
    (b 0 ^^ b 1 ^^ b 2 ^^ b 3 ^^ b 5 ^^ b 7 ^^ b 8 ^^ b 11)
    (b 0 ^^ b 2 ^^ b 4 ^^ b 5 ^^ b 8 ^^ b 12)

def hamming15_11SyndromeTable : List Int :=
  [-1, 11, 12, 8, 13, 5, 9, 3, 14, 0, 6, 1, 10, 7, 4, 2]

def hamming13_9SyndromeTable : List Int :=
  [-1, 9, 10, 6, 11, 3, 7, 1, 12, -1, 4, -1, 8, 5, 2, 0]

theorem syndromeOf_eq_zero (s0 s1 s2 s3 : Bool) :
    syndromeOf s0 s1 s2 s3 = 0 ↔ s0 = false ∧ s1 = false ∧ s2 = false ∧ s3 = false := by
  revert s0 s1 s2 s3
  decide

theorem rowSyndrome_eq (b : Line) :
    rowSyndrome b = syndromeOf (parity [0, 1, 2, 3, 5, 7, 8, 11] b) (parity [1, 2, 3, 4, 6, 8, 9, 12] b)
      (parity [2, 3, 4, 5, 7, 9, 10, 13] b) (parity [0, 1, 2, 4, 6, 7, 10, 14] b) := by
  simp only [rowSyndrome, parity, foldr_cons, foldr_nil, Bool.xor_false, Bool.xor_assoc]

theorem colSyndrome_eq (b : Line) :
    colSyndrome b = syndromeOf (parity [0, 1, 3, 5, 6, 9] b) (parity [0, 1, 2, 4, 6, 7, 10] b)
      (parity [0, 1, 2, 3, 5, 7, 8, 11] b) (parity [0, 2, 4, 5, 8, 12] b) := by
  simp only [colSyndrome, parity, foldr_cons, foldr_nil, Bool.xor_false, Bool.xor_assoc]

variable {other d : Line} {a c r : Nat} {grid : Nat → Bool}

theorem rowSyndrome_congr {line : Line} (same : ∀ c < 15, line c = other c) : rowSyndrome line = rowSyndrome other := by
  rw [rowSyndrome_eq, rowSyndrome_eq]
  congr 1 <;> exact parity_congr fun i member => same i (by revert i; decide)

theorem colSyndrome_congr {line : Line} (same : ∀ r < 13, line r = other r) : colSyndrome line = colSyndrome other := by
  rw [colSyndrome_eq, colSyndrome_eq]
  congr 1 <;> exact parity_congr fun i member => same i (by revert i; decide)

def rowCode : LineCode where
  length := 15
  syndrome := rowSyndrome
  table := hamming15_11SyndromeTable
  syndrome_congr := rowSyndrome_congr
  syndrome_xorBits := by
    intro word error valid
    rw [rowSyndrome_eq, syndromeOf_eq_zero] at valid
    obtain ⟨p0, p1, p2, p3⟩ := valid
    simp only [rowSyndrome_eq, parity_xorBits, p0, p1, p2, p3, Bool.false_xor]
  syndrome_zero := rfl
  syndrome_oneBit := by decide
  table_oneBit := by decide
  table_lt := by decide

def colCode : LineCode where
  length := 13
  syndrome := colSyndrome
  table := hamming13_9SyndromeTable
  syndrome_congr := colSyndrome_congr
  syndrome_xorBits := by
    intro word error valid
    rw [colSyndrome_eq, syndromeOf_eq_zero] at valid
    obtain ⟨p0, p1, p2, p3⟩ := valid
    simp only [colSyndrome_eq, parity_xorBits, p0, p1, p2, p3, Bool.false_xor]
  syndrome_zero := rfl
  syndrome_oneBit := by decide
  table_oneBit := by decide
  table_lt := by decide

def correctRows (grid : Nat → Bool) : Correction :=
  rowCode.sweep gridIndex 9 { bits := grid }

def hammingCorrect (grid : Nat → Bool) : Correction :=
  colCode.sweep (fun c r => gridIndex r c) 15 (correctRows grid)

def extractData (grid : Nat → Bool) : Vector Bool 96 :=
  Vector.ofFn fun k =>
    if k.val < 8 then grid (gridIndex 0 (3 + k.val))
    else grid (gridIndex (1 + (k.val - 8) / 11) ((k.val - 8) % 11))

/-- `Decode`: the data, the number of bits corrected, and whether a line was uncorrectable. -/
def decode (bits : Vector Bool 196) : Vector Bool 96 × Nat × Bool :=
  let corrected := hammingCorrect (deinterleave bits)
  (extractData corrected.bits, corrected.corrected, corrected.uncorrectable)

def decodeLCFromBurst (dmrData : Vector UInt8 33) : Option (Vector UInt8 12) :=
  let allBits := unpackBits dmrData.toList
  let dataBits : Vector Bool 196 := Vector.ofFn fun i =>
    if i.val < 98 then allBits.getD i false else allBits.getD (166 + (i - 98)) false
  let (info, _, uncorrectable) := decode dataBits
  if uncorrectable then none else some (packBits 12 info.toList)

theorem interleave_injective {b : Nat} (insideA : a < 196) (insideB : b < 196) (same : a * 181 % 196 = b * 181 % 196) :
    a = b := by
  omega

theorem interleave_surjective {p : Nat} (inside : p < 196) : p * 13 % 196 * 181 % 196 = p := by
  omega

theorem deinterleave_encode (data : Vector Bool 96) (inside : a < 196) :
    deinterleave (encode data) a = gridBit data a := by
  have written : ∀ n ≤ 196, ∀ a < n,
      deinterleave ((range n).foldl (fun out a => out.set (a * 181 % 196) (gridBit data a)
        (Nat.mod_lt _ (by decide))) (Vector.replicate 196 false)) a = gridBit data a := by
    intro n
    induction n with
    | zero =>
      intro _ a below
      exact absurd below (Nat.not_lt_zero a)
    | succ n ih =>
      intro bound a below
      simp only [range_succ, foldl_append, foldl_cons, foldl_nil]
      by_cases last : a = n
      · subst last
        simp [deinterleave]
      · have apart : n * 181 % 196 ≠ a * 181 % 196 := fun same =>
          last (interleave_injective (by omega) (by omega) same).symm
        have earlier := ih (by omega) a (by omega)
        rw [deinterleave, Vector.getElem_set_ne _ _ apart]
        exact earlier
  exact written 196 (Nat.le_refl 196) a inside

theorem deinterleave_ext {bits other : Vector Bool 196} (same : ∀ a < 196, deinterleave bits a = deinterleave other a) :
    bits = other := by
  apply Vector.ext
  intro p inside
  have equal := same (p * 13 % 196) (Nat.mod_lt _ (by decide))
  simpa only [deinterleave, interleave_surjective inside] using equal

theorem computeRowParity_data (inside : c < 11) : computeRowParity d c = d c := by
  simp only [computeRowParity]
  split <;> first | rfl | omega

theorem computeColParity_data (inside : r < 9) : computeColParity d r = d r := by
  simp only [computeColParity]
  split <;> first | rfl | omega

theorem computeRowParity_congr (same : ∀ c < 11, d c = other c) (inside : c < 15) :
    computeRowParity d c = computeRowParity other c := by
  by_cases data : c < 11
  · rw [computeRowParity_data data, computeRowParity_data data, same c data]
  · have cases : c = 11 ∨ c = 12 ∨ c = 13 ∨ c = 14 := by omega
    obtain rfl | rfl | rfl | rfl := cases <;> simp [computeRowParity, same]

theorem computeColParity_congr (same : ∀ r < 9, d r = other r) (inside : r < 13) :
    computeColParity d r = computeColParity other r := by
  by_cases data : r < 9
  · rw [computeColParity_data data, computeColParity_data data, same r data]
  · have cases : r = 9 ∨ r = 10 ∨ r = 11 ∨ r = 12 := by omega
    obtain rfl | rfl | rfl | rfl := cases <;> simp [computeColParity, same]

theorem rowSyndrome_computeRowParity (d : Line) : rowSyndrome (computeRowParity d) = 0 := by
  simp [rowSyndrome, syndromeOf_eq_zero, computeRowParity]

theorem colSyndrome_computeColParity (d : Line) : colSyndrome (computeColParity d) = 0 := by
  simp [colSyndrome, syndromeOf_eq_zero, computeColParity]

theorem computeRowParity_of_valid {b : Line} (valid : rowSyndrome b = 0) (inside : c < 15) :
    computeRowParity b c = b c := by
  simp only [rowSyndrome, syndromeOf_eq_zero, bne_eq_false_iff_eq] at valid
  by_cases data : c < 11
  · exact computeRowParity_data data
  · have cases : c = 11 ∨ c = 12 ∨ c = 13 ∨ c = 14 := by omega
    obtain rfl | rfl | rfl | rfl := cases
    · exact valid.1
    · exact valid.2.1
    · exact valid.2.2.1
    · exact valid.2.2.2

theorem computeColParity_of_valid {b : Line} (valid : colSyndrome b = 0) (inside : r < 13) :
    computeColParity b r = b r := by
  simp only [colSyndrome, syndromeOf_eq_zero, bne_eq_false_iff_eq] at valid
  by_cases data : r < 9
  · exact computeColParity_data data
  · have cases : r = 9 ∨ r = 10 ∨ r = 11 ∨ r = 12 := by omega
    obtain rfl | rfl | rfl | rfl := cases
    · exact valid.1
    · exact valid.2.1
    · exact valid.2.2.1
    · exact valid.2.2.2

structure ValidGrid (grid : Nat → Bool) : Prop where
  reserved : grid 0 = false
  shortRow : ∀ c < 3, grid (gridIndex 0 c) = false
  rows : ∀ r < 13, rowSyndrome (fun c => grid (gridIndex r c)) = 0
  columns : ∀ c < 15, colSyndrome (fun r => grid (gridIndex r c)) = 0

theorem gridIndex_lt (row : r < 13) (column : c < 15) : gridIndex r c < 196 := by
  simp only [gridIndex]
  omega

theorem gridIndex_ne_zero (r c : Nat) : gridIndex r c ≠ 0 := by
  simp only [gridIndex]
  omega

theorem eq_gridIndex (outside : a ≠ 0) (inside : a < 196) : ∃ r < 13, ∃ c < 15, a = gridIndex r c := by
  refine ⟨(a - 1) / 15, by omega, (a - 1) % 15, by omega, ?_⟩
  simp only [gridIndex]
  omega

theorem gridBit_gridIndex (data : Vector Bool 96) (r : Nat) (column : c < 15) :
    gridBit data (gridIndex r c) = encodeGrid data r c := by
  have row : (gridIndex r c - 1) / 15 = r := by
    simp only [gridIndex]
    omega
  have place : (gridIndex r c - 1) % 15 = c := by
    simp only [gridIndex]
    omega
  rw [gridBit, if_neg (gridIndex_ne_zero r c), row, place]

theorem encodeGrid_of_data (data : Vector Bool 96) (row : r < 9) (c : Nat) :
    encodeGrid data r c = computeRowParity (placeData data r) c :=
  computeColParity_data row

theorem rowSyndrome_encodeGrid (data : Vector Bool 96) (row : r < 13) : rowSyndrome (encodeGrid data r) = 0 := by
  by_cases carries : r < 9
  · have same : encodeGrid data r = computeRowParity (placeData data r) := funext (encodeGrid_of_data data carries)
    rw [same]
    exact rowSyndrome_computeRowParity _
  · have sum : ∃ positions, encodeGrid data r =
        fun c => parity positions fun r => computeRowParity (placeData data r) c := by
      have cases : r = 9 ∨ r = 10 ∨ r = 11 ∨ r = 12 := by omega
      obtain rfl | rfl | rfl | rfl := cases
      · exact ⟨[0, 1, 3, 5, 6], funext fun c => by simp [encodeGrid, computeColParity, parity]⟩
      · exact ⟨[0, 1, 2, 4, 6, 7], funext fun c => by simp [encodeGrid, computeColParity, parity]⟩
      · exact ⟨[0, 1, 2, 3, 5, 7, 8], funext fun c => by simp [encodeGrid, computeColParity, parity]⟩
      · exact ⟨[0, 2, 4, 5, 8], funext fun c => by simp [encodeGrid, computeColParity, parity]⟩
    obtain ⟨positions, equal⟩ := sum
    rw [equal]
    exact rowCode.syndrome_parity (fun r => rowSyndrome_computeRowParity (placeData data r)) positions

theorem validGrid_congr {other : Nat → Bool} (same : ∀ a < 196, grid a = other a) (valid : ValidGrid other) :
    ValidGrid grid where
  reserved := (same 0 (by decide)).trans valid.reserved
  shortRow c below := (same _ (gridIndex_lt (by decide) (by omega))).trans (valid.shortRow c below)
  rows r row := (rowSyndrome_congr fun _ column => same _ (gridIndex_lt row column)).trans (valid.rows r row)
  columns c column := (colSyndrome_congr fun _ row => same _ (gridIndex_lt row column)).trans (valid.columns c column)

theorem validGrid_gridBit (data : Vector Bool 96) : ValidGrid (gridBit data) where
  reserved := rfl
  shortRow c below := by
    rw [gridBit_gridIndex data 0 (by omega), encodeGrid_of_data data (by decide), computeRowParity_data (by omega)]
    simp [placeData, below]
  rows r row := by
    rw [rowSyndrome_congr fun c column => gridBit_gridIndex data r column]
    exact rowSyndrome_encodeGrid data row
  columns c column := by
    rw [colSyndrome_congr fun r _ => gridBit_gridIndex data r column]
    exact colSyndrome_computeColParity fun r => computeRowParity (placeData data r) c

theorem extractData_congr {other : Nat → Bool} (same : ∀ r < 9, ∀ c < 11, grid (gridIndex r c) = other (gridIndex r c)) :
    extractData grid = extractData other := by
  apply Vector.ext
  intro k inside
  simp only [extractData, Vector.getElem_ofFn]
  split
  · exact same 0 (by decide) (3 + k) (by omega)
  · exact same (1 + (k - 8) / 11) (by omega) ((k - 8) % 11) (by omega)

section

variable (data : Vector Bool 96)

include data

theorem gridBit_data (row : r < 9) (column : c < 11) : gridBit data (gridIndex r c) = placeData data r c := by
  rw [gridBit_gridIndex data r (by omega), encodeGrid_of_data data row, computeRowParity_data column]

theorem placeData_first {k : Nat} (inside : k < 8) : placeData data 0 (3 + k) = data.toList.getD k false := by
  have place : 3 ≤ 3 + k ∧ 3 + k ≤ 10 := by omega
  simp only [placeData, if_true, if_pos place, Nat.add_sub_cancel_left]

theorem placeData_later (row : r < 8) (column : c < 11) :
    placeData data (1 + r) c = data.toList.getD (8 + r * 11 + c) false := by
  have notFirst : 1 + r ≠ 0 := by omega
  have place : 1 + r ≤ 8 ∧ c ≤ 10 := by omega
  simp only [placeData, if_neg notFirst, if_pos place, Nat.add_sub_cancel_left]

theorem extractData_gridBit : extractData (gridBit data) = data := by
  apply Vector.ext
  intro k inside
  simp only [extractData, Vector.getElem_ofFn]
  split
  · rename_i first
    rw [gridBit_data data (by decide) (by omega), placeData_first data first]
    simp [inside]
  · rename_i later
    rw [gridBit_data data (by omega) (by omega), placeData_later data (by omega) (by omega)]
    have index : 8 + (k - 8) / 11 * 11 + (k - 8) % 11 = k := by omega
    rw [index]
    simp [inside]

end

theorem extractData_first (grid : Nat → Bool) {k : Nat} (inside : k < 8) :
    (extractData grid).toList.getD k false = grid (gridIndex 0 (3 + k)) := by
  have bound : k < 96 := by omega
  simp [extractData, inside, bound]

theorem extractData_later (grid : Nat → Bool) (row : r < 8) (column : c < 11) :
    (extractData grid).toList.getD (8 + r * 11 + c) false = grid (gridIndex (1 + r) c) := by
  have bound : 8 + r * 11 + c < 96 := by omega
  have later : ¬ 8 + r * 11 + c < 8 := by omega
  have sameRow : (8 + r * 11 + c - 8) / 11 = r := by omega
  have sameColumn : (8 + r * 11 + c - 8) % 11 = c := by omega
  simp [extractData, bound, later, sameRow, sameColumn]

theorem placeData_extractData (valid : ValidGrid grid) (row : r < 9) (column : c < 11) :
    placeData (extractData grid) r c = grid (gridIndex r c) := by
  by_cases first : r = 0
  · subst first
    by_cases used : 3 ≤ c
    · obtain ⟨k, rfl⟩ := Nat.exists_eq_add_of_le used
      rw [placeData_first _ (by omega), extractData_first grid (by omega)]
    · rw [valid.shortRow c (by omega)]
      simp [placeData, used]
  · obtain ⟨k, rfl⟩ := Nat.exists_eq_add_of_le (Nat.one_le_iff_ne_zero.mpr first)
    rw [placeData_later _ (by omega) column, extractData_later grid (by omega) column]

theorem gridBit_extractData (valid : ValidGrid grid) (inside : a < 196) : gridBit (extractData grid) a = grid a := by
  by_cases reserved : a = 0
  · subst reserved
    exact valid.reserved.symm
  · obtain ⟨r, row, c, column, rfl⟩ := eq_gridIndex reserved inside
    have dataRows : ∀ r < 9, computeRowParity (placeData (extractData grid) r) c = grid (gridIndex r c) := by
      intro r row
      rw [computeRowParity_congr (fun c column => placeData_extractData valid row column) column]
      exact computeRowParity_of_valid (valid.rows r (by omega)) column
    rw [gridBit_gridIndex _ r column, encodeGrid, computeColParity_congr dataRows row]
    exact computeColParity_of_valid (valid.columns c column) row

theorem codeword_characterisation (w : Vector Bool 196) :
    ((∃ data, encode data = w) ↔ ValidGrid (deinterleave w)) ∧
      ∀ data, encode data = w → data = extractData (deinterleave w) := by
  refine ⟨⟨?_, ?_⟩, ?_⟩
  · intro coded
    obtain ⟨data, rfl⟩ := coded
    exact validGrid_congr (fun a inside => deinterleave_encode data inside) (validGrid_gridBit data)
  · intro valid
    refine ⟨extractData (deinterleave w), deinterleave_ext fun a inside => ?_⟩
    rw [deinterleave_encode _ inside]
    exact gridBit_extractData valid inside
  · intro data coded
    subst coded
    rw [extractData_congr fun r row c column => deinterleave_encode data (gridIndex_lt (by omega) (by omega))]
    exact (extractData_gridBit data).symm

end Ipsc2Mmdvm.Dmr
