import Ipsc2Mmdvm.Data.Distance
import Ipsc2Mmdvm.Dmr.BptcDecode
import Ipsc2Mmdvm.Ipsc.EmbeddedLC
import Mathlib.Data.UInt

namespace Ipsc2Mmdvm.Ipsc

open Data Dmr
open List hiding Vector

/-! A receiver writes the fragments into a matrix of eight rows and sixteen columns.  Each row is a
word of the extended Hamming(16,11,4) code and each column has even parity. -/

def fragmentBits (fragments : Fragments) : Fin 4 × Fin 4 × Fin 8 → Bool :=
  fun place => bitOf fragments[place.1][place.2.1] place.2.2

def matrixPlace (cell : Nat × Nat) : Fin 4 × Fin 4 × Fin 8 :=
  (Fin.ofNat 4 (cell.2 / 4), Fin.ofNat 4 (cell.2 % 4), Fin.ofNat 8 cell.1)

def matrixBit (fragments : Fragments) (r c : Nat) : Bool := fragmentBits fragments (matrixPlace (r, c))

def IsExtendedHamming (line : Line) : Prop :=
  rowSyndrome line = 0 ∧ parity (List.range 16) line = false

def dataBits (fragments : Fragments) : List Bool :=
  (List.range 77).map fun i => matrixBit fragments (i / 11) (i % 11)

theorem foldl_xor_eq_parity (positions : List Nat) (line : Nat → Bool) (start : Bool) :
    positions.foldl (fun p i => p ^^ line i) start = (start ^^ parity positions line) := by
  induction positions generalizing start with
  | nil => simp [parity]
  | cons i rest ih =>
    rw [foldl_cons, ih]
    simp only [parity, foldr_cons, Bool.xor_assoc]

theorem computeRowParity_eq_parity (c : Nat) : ∃ positions, ∀ d : Line, computeRowParity d c = parity positions d := by
  by_cases check : c = 11 ∨ c = 12 ∨ c = 13 ∨ c = 14
  · obtain rfl | rfl | rfl | rfl := check
    · exact ⟨[0, 1, 2, 3, 5, 7, 8], fun d => by simp [computeRowParity, parity]⟩
    · exact ⟨[1, 2, 3, 4, 6, 8, 9], fun d => by simp [computeRowParity, parity]⟩
    · exact ⟨[2, 3, 4, 5, 7, 9, 10], fun d => by simp [computeRowParity, parity]⟩
    · exact ⟨[0, 1, 2, 4, 6, 7, 10], fun d => by simp [computeRowParity, parity]⟩
  · refine ⟨[c], fun d => ?_⟩
    simp only [computeRowParity, parity, foldr_cons, foldr_nil, Bool.xor_false]
    split <;> first | rfl | omega

theorem computeRowParity_xorBits (d e : Line) (c : Nat) :
    computeRowParity (xorBits d e) c = (computeRowParity d c ^^ computeRowParity e c) := by
  obtain ⟨positions, sum⟩ := computeRowParity_eq_parity c
  rw [sum, sum, sum, parity_xorBits]

theorem extendRow_eq (d : Line) (c : Nat) :
    extendRow d c = if c = 15 then parity (range 15) (computeRowParity d) else computeRowParity d c := by
  simp only [extendRow, foldl_xor_eq_parity, Bool.false_xor]

theorem extendRow_xorBits (d e : Line) (c : Nat) : extendRow (xorBits d e) c = (extendRow d c ^^ extendRow e c) := by
  rw [extendRow_eq, extendRow_eq, extendRow_eq]
  split
  · rw [← parity_xorBits]
    exact parity_congr fun c _ => computeRowParity_xorBits d e c
  · exact computeRowParity_xorBits d e c

theorem extendRow_zero (c : Nat) : extendRow (fun _ => false) c = false := by
  have same : (fun _ => false : Line) = xorBits (fun _ => false) fun _ => false := rfl
  rw [same, extendRow_xorBits, Bool.xor_self]

theorem extendRow_parity (rows : Nat → Line) (positions : List Nat) (c : Nat) :
    extendRow (fun c => parity positions fun r => rows r c) c = parity positions fun r => extendRow (rows r) c := by
  induction positions with
  | nil => exact extendRow_zero c
  | cons r rest ih =>
    have split : (fun c => parity (r :: rest) fun r => rows r c) =
        xorBits (rows r) fun c => parity rest fun r => rows r c := rfl
    rw [split, extendRow_xorBits, ih]
    rfl

theorem isExtendedHamming_extendRow (d : Line) : IsExtendedHamming (extendRow d) := by
  have first : ∀ c < 15, extendRow d c = computeRowParity d c := by
    intro c inside
    rw [extendRow_eq, if_neg (by omega)]
  refine ⟨(rowSyndrome_congr first).trans (rowSyndrome_computeRowParity d), ?_⟩
  rw [parity_range_succ, parity_congr fun c member => first c (mem_range.mp member), extendRow_eq, if_pos rfl,
    Bool.xor_self]

theorem isExtendedHamming_congr {line other : Line} (same : ∀ c < 16, line c = other c) (valid : IsExtendedHamming other) :
    IsExtendedHamming line := by
  refine ⟨(rowSyndrome_congr fun c inside => same c (by omega)).trans valid.1, ?_⟩
  rw [parity_congr fun c member => same c (mem_range.mp member)]
  exact valid.2

theorem matrixBit_encodeEmbeddedLC (src dst : UInt64) (groupCall : Bool) {r c : Nat} (row : r < 8) (column : c < 16) :
    matrixBit (encodeEmbeddedLC src dst groupCall) r c = extendRow (embeddedLCRow (embeddedLCBits src dst groupCall) r) c := by
  have fragment : c / 4 % 4 = c / 4 := by omega
  have index : 4 * (c / 4) + c % 4 = c := by omega
  simp only [matrixBit, fragmentBits, matrixPlace, encodeEmbeddedLC]
  simp only [Fin.getElem_fin, Vector.getElem_ofFn, Fin.val_ofNat, fragment, Nat.mod_mod, index, Nat.mod_eq_of_lt row]
  rw [bitOf_byteOf _ row]

theorem embeddedLCRow_last (bits : List Bool) :
    embeddedLCRow bits 7 = fun c => parity (range 7) fun r => embeddedLCRow bits r c := by
  funext c
  simp only [embeddedLCRow, Nat.lt_irrefl, if_false, foldl_xor_eq_parity, Bool.false_xor]
  apply parity_congr
  intro r member
  rw [if_pos (mem_range.mp member)]

theorem column_even (bits : List Bool) (c : Nat) :
    parity (range 8) (fun r => extendRow (embeddedLCRow bits r) c) = false := by
  rw [parity_range_succ, embeddedLCRow_last, extendRow_parity, Bool.xor_self]

theorem length_embeddedLCBits (src dst : UInt64) (groupCall : Bool) : (embeddedLCBits src dst groupCall).length = 77 := by
  simp [embeddedLCBits, length_unpackBits]

theorem dataBits_encodeEmbeddedLC (src dst : UInt64) (groupCall : Bool) :
    dataBits (encodeEmbeddedLC src dst groupCall) = embeddedLCBits src dst groupCall := by
  have length := length_embeddedLCBits src dst groupCall
  apply ext_getElem
  · simp [dataBits, length]
  · intro i inside inside'
    have small : i < 77 := by omega
    have row : i / 11 < 7 := by omega
    have column : i % 11 < 11 := Nat.mod_lt i (by decide)
    simp only [dataBits, getElem_map, getElem_range]
    rw [matrixBit_encodeEmbeddedLC src dst groupCall (by omega) (by omega), extendRow_eq, if_neg (by omega),
      computeRowParity_data column, embeddedLCRow, if_pos row, Nat.div_add_mod]
    exact getD_eq_getElem _ _ inside'

theorem take_embeddedLCBits (src dst : UInt64) (groupCall : Bool) : (embeddedLCBits src dst groupCall).take 72 =
      unpackBits [if groupCall then 0x00 else 0x03, 0x00, 0x20, (dst >>> 16).toUInt8, (dst >>> 8).toUInt8, dst.toUInt8,
        (src >>> 16).toUInt8, (src >>> 8).toUInt8, src.toUInt8] := by
  simp only [embeddedLCBits]
  exact take_left' (by simp [length_unpackBits])

theorem eq_of_low_bytes {a b : UInt64} (small : a < 2 ^ 24) (small' : b < 2 ^ 24)
    (high : (a >>> 16).toUInt8 = (b >>> 16).toUInt8) (middle : (a >>> 8).toUInt8 = (b >>> 8).toUInt8)
    (low : a.toUInt8 = b.toUInt8) : a = b := by
  have bound : a.toNat < 2 ^ 24 := UInt64.lt_iff_toNat_lt.mp small
  have bound' : b.toNat < 2 ^ 24 := UInt64.lt_iff_toNat_lt.mp small'
  have highs := congrArg UInt8.toNat high
  have middles := congrArg UInt8.toNat middle
  have lows := congrArg UInt8.toNat low
  simp [Nat.shiftRight_eq_div_pow] at highs middles lows
  apply UInt64.toNat_inj.mp
  omega

theorem embeddedLCBits_injective {src dst src' dst' : UInt64} {groupCall groupCall' : Bool} (srcSmall : src < 2 ^ 24)
    (dstSmall : dst < 2 ^ 24) (srcSmall' : src' < 2 ^ 24) (dstSmall' : dst' < 2 ^ 24)
    (same : embeddedLCBits src dst groupCall = embeddedLCBits src' dst' groupCall') :
    (src, dst, groupCall) = (src', dst', groupCall') := by
  have lc := congrArg (take 72) same
  rw [take_embeddedLCBits, take_embeddedLCBits] at lc
  have bytes (k : Nat) := getD_eq_of_unpackBits (fun j _ => congrArg (getD · (8 * k + j) false) lc)
  have sameDst := eq_of_low_bytes dstSmall dstSmall' (bytes 3) (bytes 4) (bytes 5)
  have sameSrc := eq_of_low_bytes srcSmall srcSmall' (bytes 6) (bytes 7) (bytes 8)
  have sameCall : groupCall = groupCall' := by
    have flco := bytes 0
    revert flco
    cases groupCall <;> cases groupCall' <;> simp
  rw [sameDst, sameSrc, sameCall]

theorem injOn_matrixPlace : Set.InjOn matrixPlace (Finset.range 8 ×ˢ Finset.range 16 : Finset (Nat × Nat)) := by
  intro cell member other member' same
  simp only [Finset.coe_product, Finset.coe_range, Set.mem_prod, Set.mem_Iio] at member member'
  simp only [matrixPlace, Prod.mk.injEq, Fin.ext_iff, Fin.val_ofNat] at same
  apply Prod.ext <;> omega

section Codewords

variable {fragments other : Fragments}

def sumGrid (fragments other : Fragments) (r c : Nat) : Bool := matrixBit fragments r c ^^ matrixBit other r c

theorem four_le_row (rows : ∀ r < 8, IsExtendedHamming (matrixBit fragments r))
    (rows' : ∀ r < 8, IsExtendedHamming (matrixBit other r)) :
    ∀ r < 8, ∀ c < 16, sumGrid fragments other r c = true → 4 ≤ weight 16 (sumGrid fragments other r) := by
  intro r row c column one
  have first : rowCode.syndrome (matrixBit fragments r) = 0 := (rows r row).1
  have second : rowCode.syndrome (matrixBit other r) = 0 := (rows' r row).1
  exact LineCode.four_le_weight_sum first second (rows r row).2 (rows' r row).2 column one

theorem two_le_column (columns : ∀ c < 16, parity (range 8) (fun r => matrixBit fragments r c) = false)
    (columns' : ∀ c < 16, parity (range 8) (fun r => matrixBit other r c) = false) :
    ∀ c < 16, ∀ r < 8, sumGrid fragments other r c = true → 2 ≤ weight 8 fun r => sumGrid fragments other r c := by
  intro c column r row one
  exact two_le_weight_sum (columns c column) (columns' c column) row one

theorem exists_sumGrid (differ : dataBits fragments ≠ dataBits other) :
    ∃ r < 8, ∃ c < 16, sumGrid fragments other r c = true := by
  by_contra none
  simp only [not_exists, not_and, Bool.not_eq_true] at none
  apply differ
  apply map_congr_left
  intro i member
  have inside := mem_range.mp member
  have zero := none (i / 11) (by omega) (i % 11) (by omega)
  simpa only [sumGrid, bne_eq_false_iff_eq] using zero

end Codewords

theorem rows_encodeEmbeddedLC (src dst : UInt64) (groupCall : Bool) :
    ∀ r < 8, IsExtendedHamming (matrixBit (encodeEmbeddedLC src dst groupCall) r) := by
  intro r row
  exact isExtendedHamming_congr (fun c column => matrixBit_encodeEmbeddedLC src dst groupCall row column)
    (isExtendedHamming_extendRow _)

theorem columns_encodeEmbeddedLC (src dst : UInt64) (groupCall : Bool) :
    ∀ c < 16, parity (range 8) (fun r => matrixBit (encodeEmbeddedLC src dst groupCall) r c) = false := by
  intro c column
  rw [parity_congr fun r member => matrixBit_encodeEmbeddedLC src dst groupCall (mem_range.mp member) column]
  exact column_even _ c

theorem embedded_lc_product_code : (∀ (src dst : UInt64) (groupCall : Bool),
      (∀ r < 8, IsExtendedHamming (matrixBit (encodeEmbeddedLC src dst groupCall) r)) ∧
        (∀ c < 16, parity (List.range 8) (fun r => matrixBit (encodeEmbeddedLC src dst groupCall) r c) = false) ∧
        (dataBits (encodeEmbeddedLC src dst groupCall)).take 72 =
          unpackBits [if groupCall then 0x00 else 0x03, 0x00, 0x20, (dst >>> 16).toUInt8, (dst >>> 8).toUInt8, dst.toUInt8,
            (src >>> 16).toUInt8, (src >>> 8).toUInt8, src.toUInt8]) ∧
      ∀ (src dst src' dst' : UInt64) (groupCall groupCall' : Bool), src < 2 ^ 24 → dst < 2 ^ 24 → src' < 2 ^ 24 →
        dst' < 2 ^ 24 → (src, dst, groupCall) ≠ (src', dst', groupCall') →
          8 ≤ hammingDist (fragmentBits (encodeEmbeddedLC src dst groupCall))
            (fragmentBits (encodeEmbeddedLC src' dst' groupCall')) := by
  constructor
  · intro src dst groupCall
    refine ⟨rows_encodeEmbeddedLC src dst groupCall, columns_encodeEmbeddedLC src dst groupCall, ?_⟩
    rw [dataBits_encodeEmbeddedLC, take_embeddedLCBits]
  · intro src dst src' dst' groupCall groupCall' srcSmall dstSmall srcSmall' dstSmall' differ
    have rows := four_le_row (rows_encodeEmbeddedLC src dst groupCall) (rows_encodeEmbeddedLC src' dst' groupCall')
    have columns := two_le_column (columns_encodeEmbeddedLC src dst groupCall)
      (columns_encodeEmbeddedLC src' dst' groupCall')
    have data : dataBits (encodeEmbeddedLC src dst groupCall) ≠ dataBits (encodeEmbeddedLC src' dst' groupCall') := by
      rw [dataBits_encodeEmbeddedLC, dataBits_encodeEmbeddedLC]
      exact fun same => differ (embeddedLCBits_injective srcSmall dstSmall srcSmall' dstSmall' same)
    generalize encodeEmbeddedLC src dst groupCall = fragments at rows columns data ⊢
    generalize encodeEmbeddedLC src' dst' groupCall' = other at rows columns data ⊢
    obtain ⟨r, row, c, column, one⟩ := exists_sumGrid data
    calc 8 ≤ (gridOnes 8 16 (sumGrid fragments other)).card := mul_le_card_gridOnes columns rows row column one
      _ ≤ hammingDist (fragmentBits fragments) (fragmentBits other) :=
          @card_gridOnes_le_hammingDist 8 _ _ (fragmentBits fragments) (fragmentBits other) 16 matrixPlace injOn_matrixPlace

theorem embedded_lc_product_code_call_types :
    8 ≤ hammingDist (fragmentBits (encodeEmbeddedLC 1 2 true)) (fragmentBits (encodeEmbeddedLC 1 2 false)) :=
  embedded_lc_product_code.2 1 2 1 2 true false (by decide) (by decide) (by decide) (by decide) (by decide)

end Ipsc2Mmdvm.Ipsc
