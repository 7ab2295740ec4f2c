import Ipsc2Mmdvm.Dmr.BptcDecode

namespace Ipsc2Mmdvm.Dmr

open Data Data.LineCode Finset

/-! The decoder does to a codeword with errors what it does to the errors alone, so that the passes
over rows and columns are followed on the errors. -/

def addError (w e : Vector Bool 196) : Vector Bool 196 := Vector.zipWith (· ^^ ·) w e

/-- At most one error in each of rows 0 to 8, and in rows 9 to 12 at most one in a column. -/
structure ScatteredErrors (error : Nat → Bool) : Prop where
  rows : ∀ r < 9, AtMostOne 15 fun c => error (gridIndex r c)
  columns : ∀ c < 15, AtMostOne 4 fun r => error (gridIndex (9 + r) c)

def OneRowErrors (error : Nat → Bool) : Prop :=
  ∃ r < 13, ∀ k < 13, ∀ c < 15, error (gridIndex k c) = true → k = r

def errorCount (error : Nat → Bool) : Nat :=
  ((Finset.range 196).filter fun a => a ≠ 0 ∧ error a = true).card

theorem deinterleave_addError (w e : Vector Bool 196) :
    deinterleave (addError w e) = xorBits (deinterleave w) (deinterleave e) := by
  funext a
  simp [deinterleave, addError, xorBits]

theorem hammingCorrect_xorBits {word : Nat → Bool} (valid : ValidGrid word) (error : Nat → Bool) :
    hammingCorrect (xorBits word error) = (hammingCorrect error).add word := by
  have validRows : ∀ r < 9, rowCode.syndrome (fun c => word (gridIndex r c)) = 0 :=
    fun r row => valid.rows r (Nat.lt_of_lt_of_le row (by decide))
  have validColumns : ∀ c < 15, colCode.syndrome (fun r => word (gridIndex r c)) = 0 := valid.columns
  have rows : correctRows (xorBits word error) = (correctRows error).add word :=
    rowCode.sweep_add validRows { bits := error }
  rw [hammingCorrect, rows]
  exact colCode.sweep_add validColumns (correctRows error)

theorem validGrid_encode (data : Vector Bool 96) : ValidGrid (deinterleave (encode data)) :=
  validGrid_congr (fun _ inside => deinterleave_encode data inside) (validGrid_gridBit data)

theorem decode_addError (data : Vector Bool 96) (e : Vector Bool 196) : decode (addError (encode data) e) =
      (extractData (xorBits (deinterleave (encode data)) (hammingCorrect (deinterleave e)).bits),
        (hammingCorrect (deinterleave e)).corrected, (hammingCorrect (deinterleave e)).uncorrectable) := by
  rw [decode, deinterleave_addError, hammingCorrect_xorBits (validGrid_encode data)]
  simp only [Correction.add]

theorem extractData_encode (data : Vector Bool 96) : extractData (deinterleave (encode data)) = data := by
  rw [extractData_congr fun r row c column => deinterleave_encode data (gridIndex_lt (by omega) (by omega))]
  exact extractData_gridBit data

variable {error : Nat → Bool} {r c : Nat} {e : Vector Bool 196} {i j : Fin 196}
  {slot sync slot' first : List Bool}

theorem extractData_xorBits_clean (data : Vector Bool 96) (clean : ∀ r < 9, ∀ c < 11, error (gridIndex r c) = false) :
    extractData (xorBits (deinterleave (encode data)) error) = data := by
  have same : ∀ r < 9, ∀ c < 11, xorBits (deinterleave (encode data)) error (gridIndex r c) =
      deinterleave (encode data) (gridIndex r c) := by
    intro r row c column
    rw [xorBits, clean r row c column, Bool.xor_false]
  rw [extractData_congr same]
  exact extractData_encode data

theorem extractData_xorBits_spoiled (data : Vector Bool 96) (row : r < 8) (column : c < 11)
    (spoiled : error (gridIndex (1 + r) c) = true) :
    extractData (xorBits (deinterleave (encode data)) error) ≠ data := by
  intro same
  have read := extractData_later (xorBits (deinterleave (encode data)) error) row column
  have sent := extractData_later (deinterleave (encode data)) row column
  rw [same] at read
  rw [extractData_encode, read, xorBits, spoiled, Bool.xor_true] at sent
  exact Bool.not_ne_self _ sent

theorem rows_apart : rowCode.Apart gridIndex 9 := by
  intro k _ l _ i inside j inside' same
  have first : i < 15 := inside
  have second : j < 15 := inside'
  simp only [gridIndex] at same
  omega

theorem columns_apart : colCode.Apart (fun c r => gridIndex r c) 15 := by
  intro k _ l _ i _ j _ same
  simp only [gridIndex] at same
  omega

theorem rows_swept (error : Nat → Bool) : rowCode.Swept gridIndex 9 9 { bits := error } (correctRows error) :=
  sweep_swept rows_apart _

theorem columns_swept (error : Nat → Bool) :
    colCode.Swept (fun c r => gridIndex r c) 15 15 (correctRows error) (hammingCorrect error) :=
  sweep_swept columns_apart _

theorem correctRows_parity (error : Nat → Bool) (row : 9 ≤ r) (column : c < 15) :
    (correctRows error).bits (gridIndex r c) = error (gridIndex r c) := by
  apply (rows_swept error).outside
  intro k below i inside same
  have inLine : i < 15 := inside
  simp only [gridIndex] at same
  omega

theorem rowCode_fails (line : Nat → Bool) : rowCode.fails line = false := by
  have table : ∀ s0 s1 s2 s3, (syndromeOf s0 s1 s2 s3 != 0 &&
      !decide (0 ≤ hamming15_11SyndromeTable.getD (syndromeOf s0 s1 s2 s3) (-1))) = false := by
    decide
  exact table _ _ _ _

theorem correctRows_uncorrectable (error : Nat → Bool) : (correctRows error).uncorrectable = false := by
  rw [Bool.eq_false_iff]
  intro uncorrectable
  obtain before | ⟨r, _, fails⟩ := (rows_swept error).uncorrectable.mp uncorrectable
  · exact Bool.noConfusion before
  · rw [rowCode_fails] at fails
    exact Bool.noConfusion fails

theorem hammingCorrect_clean (lone : ∀ c < 15, AtMostOne 13 fun r => (correctRows error).bits (gridIndex r c)) :
    (∀ r < 13, ∀ c < 15, (hammingCorrect error).bits (gridIndex r c) = false) ∧
      (hammingCorrect error).uncorrectable = false := by
  have swept := columns_swept error
  constructor
  · intro r row c column
    rw [swept.fixed c column r row]
    exact fixed_of_atMostOne colCode (lone c column) r row
  · rw [Bool.eq_false_iff]
    intro uncorrectable
    obtain before | ⟨c, column, fails⟩ := swept.uncorrectable.mp uncorrectable
    · rw [correctRows_uncorrectable] at before
      exact Bool.noConfusion before
    · rw [fails_of_atMostOne colCode (lone c column)] at fails
      exact Bool.noConfusion fails

theorem correctRows_of_lone (row : r < 9) (lone : AtMostOne 15 fun c => error (gridIndex r c)) (column : c < 15) :
    (correctRows error).bits (gridIndex r c) = false := by
  rw [(rows_swept error).fixed r row c column]
  exact fixed_of_atMostOne rowCode lone c column

namespace ScatteredErrors

variable {error : Nat → Bool} (scattered : ScatteredErrors error)

include scattered

theorem lone_columns (c : Nat) (column : c < 15) : AtMostOne 13 fun r => (correctRows error).bits (gridIndex r c) := by
  have below : ∀ r < 13, (correctRows error).bits (gridIndex r c) = true →
      ∃ k < 4, r = 9 + k ∧ error (gridIndex (9 + k) c) = true := by
    intro r row left
    by_cases dataRow : r < 9
    · rw [correctRows_of_lone dataRow (scattered.rows r dataRow) column] at left
      exact Bool.noConfusion left
    · rw [correctRows_parity error (by omega) column] at left
      obtain ⟨k, rfl⟩ := Nat.exists_eq_add_of_le (Nat.le_of_not_lt dataRow)
      exact ⟨k, by omega, rfl, left⟩
  intro i rowI j rowJ leftI leftJ
  obtain ⟨k, insideK, rfl, errorK⟩ := below i rowI leftI
  obtain ⟨l, insideL, rfl, errorL⟩ := below j rowJ leftJ
  rw [scattered.columns c column k insideK l insideL errorK errorL]

theorem rows_corrected : (correctRows error).corrected =
    ∑ r ∈ range 9, ∑ c ∈ range 15, if error (gridIndex r c) then 1 else 0 := by
  rw [(rows_swept error).corrected, Nat.zero_add]
  apply sum_congr rfl
  intro r member
  exact flips_of_atMostOne rowCode (scattered.rows r (mem_range.mp member))

theorem column_left {c : Nat} (column : c < 15) :
    (∑ r ∈ range 13, if (correctRows error).bits (gridIndex r c) then 1 else 0) =
      ∑ r ∈ range 4, if error (gridIndex (9 + r) c) then 1 else 0 := by
  have zero : ∀ r ∈ range 9, (if (correctRows error).bits (gridIndex r c) then 1 else 0) = 0 := by
    intro r member
    have row := mem_range.mp member
    rw [correctRows_of_lone row (scattered.rows r row) column]
    rfl
  rw [sum_range_add _ 9 4, sum_eq_zero zero, Nat.zero_add]
  apply sum_congr rfl
  intro r _
  rw [correctRows_parity error (Nat.le_add_right 9 r) column]

theorem columns_corrected :
    (∑ c ∈ range 15, if colCode.flips (fun r => (correctRows error).bits (gridIndex r c)) then 1 else 0) =
      ∑ r ∈ range 4, ∑ c ∈ range 15, if error (gridIndex (9 + r) c) then 1 else 0 := by
  rw [sum_comm]
  apply sum_congr rfl
  intro c member
  have column := mem_range.mp member
  rw [← scattered.column_left column]
  exact flips_of_atMostOne colCode (scattered.lone_columns c column)

theorem corrected : (hammingCorrect error).corrected =
    (∑ r ∈ range 9, ∑ c ∈ range 15, if error (gridIndex r c) then 1 else 0) +
      ∑ r ∈ range 4, ∑ c ∈ range 15, if error (gridIndex (9 + r) c) then 1 else 0 := by
  rw [(columns_swept error).corrected, scattered.rows_corrected, scattered.columns_corrected]

end ScatteredErrors

theorem errorCount_eq (error : Nat → Bool) :
    errorCount error = ∑ r ∈ range 13, ∑ c ∈ range 15, if error (gridIndex r c) then 1 else 0 := by
  have shifted : ∀ r c, (if r * 15 + c + 1 ≠ 0 ∧ error (r * 15 + c + 1) = true then 1 else 0) =
      if error (gridIndex r c) = true then 1 else 0 := by
    intro r c
    have index : r * 15 + c + 1 = gridIndex r c := by
      simp only [gridIndex]
      omega
    simp only [index, ne_eq, gridIndex_ne_zero, not_false_eq_true, true_and]
  rw [errorCount, card_filter, sum_range_succ', sum_lines _ 15 13]
  simp only [shifted]
  simp

theorem ScatteredErrors.corrected_eq (scattered : ScatteredErrors error) :
    (hammingCorrect error).corrected = errorCount error := by
  rw [scattered.corrected, errorCount_eq, sum_range_add _ 9 4]

theorem decode_scattered (data : Vector Bool 96) (scattered : ScatteredErrors (deinterleave e)) :
    decode (addError (encode data) e) = (data, errorCount (deinterleave e), false) := by
  obtain ⟨clean, correctable⟩ := hammingCorrect_clean scattered.lone_columns
  rw [decode_addError, correctable, scattered.corrected_eq,
    extractData_xorBits_clean data fun r row c column => clean r (by omega) c (by omega)]

theorem lone_columns_of_oneRow (oneRow : OneRowErrors error) (c : Nat) (column : c < 15) :
    AtMostOne 13 fun r => (correctRows error).bits (gridIndex r c) := by
  obtain ⟨r, row, only⟩ := oneRow
  have left : ∀ k < 13, (correctRows error).bits (gridIndex k c) = true → k = r := by
    intro k inside left
    by_cases dataRow : k < 9
    · by_contra other
      have lone : AtMostOne 15 fun c => error (gridIndex k c) :=
        fun i columnI _ _ errorI => absurd (only k inside i columnI errorI) other
      rw [correctRows_of_lone dataRow lone column] at left
      exact Bool.noConfusion left
    · rw [correctRows_parity error (Nat.le_of_not_lt dataRow) column] at left
      exact only k inside c column left
  intro i rowI j rowJ leftI leftJ
  rw [left i rowI leftI, left j rowJ leftJ]

theorem decode_oneRow (data : Vector Bool 96) (oneRow : OneRowErrors (deinterleave e)) :
    (decode (addError (encode data) e)).1 = data ∧ (decode (addError (encode data) e)).2.2 = false := by
  obtain ⟨clean, correctable⟩ := hammingCorrect_clean (lone_columns_of_oneRow oneRow)
  rw [decode_addError]
  exact ⟨extractData_xorBits_clean data fun r row c column => clean r (by omega) c (by omega), correctable⟩

def noError : Vector Bool 196 := Vector.replicate 196 false

theorem deinterleave_noError (a : Nat) : deinterleave noError a = false := by
  simp [deinterleave, noError]

theorem scattered_noError : ScatteredErrors (deinterleave noError) where
  rows r _ i _ j _ errorI := by simp [deinterleave_noError] at errorI
  columns c _ i _ j _ errorI := by simp [deinterleave_noError] at errorI

theorem decode_noError (data : Vector Bool 96) : decode (addError (encode data) noError) = (data, 0, false) := by
  have none : errorCount (deinterleave noError) = 0 := by simp [errorCount, deinterleave_noError]
  rw [decode_scattered data scattered_noError, none]

theorem decode_encode (data : Vector Bool 96) : decode (encode data) = (data, 0, false) := by
  have same : addError (encode data) noError = encode data := by
    apply Vector.ext
    intro i inside
    simp [addError, noError]
  rw [← decode_noError data, same]

theorem decode_corrects (data : Vector Bool 96) (e : Vector Bool 196) : (ScatteredErrors (deinterleave e) →
        decode (addError (encode data) e) = (data, errorCount (deinterleave e), false)) ∧
      (OneRowErrors (deinterleave e) →
        (decode (addError (encode data) e)).1 = data ∧ (decode (addError (encode data) e)).2.2 = false) ∧
      decode (addError (encode data) noError) = (data, 0, false) := by
  exact ⟨decode_scattered data, decode_oneRow data, decode_noError data⟩

def diagonalErrors : Vector Bool 196 :=
  Vector.ofFn fun p => p.val * 13 % 196 != 0 && (p.val * 13 % 196 - 1) / 15 == (p.val * 13 % 196 - 1) % 15

theorem deinterleave_diagonalErrors {a : Nat} (inside : a < 196) :
    deinterleave diagonalErrors a = (a != 0 && (a - 1) / 15 == (a - 1) % 15) := by
  have place : a * 181 % 196 * 13 % 196 = a := by omega
  simp [deinterleave, diagonalErrors, place]

theorem diagonal_of_error (row : r < 13) (column : c < 15) (error : deinterleave diagonalErrors (gridIndex r c) = true) :
    r = c := by
  rw [deinterleave_diagonalErrors (gridIndex_lt row column)] at error
  simp only [Bool.and_eq_true, beq_iff_eq, gridIndex] at error
  omega

theorem scattered_diagonalErrors : ScatteredErrors (deinterleave diagonalErrors) where
  rows r row i first j second left right := by
    have here := diagonal_of_error (by omega) first left
    have there := diagonal_of_error (by omega) second right
    omega
  columns c column i first j second left right := by
    have here := diagonal_of_error (by omega) column left
    have there := diagonal_of_error (by omega) column right
    omega

theorem errorCount_diagonalErrors : errorCount (deinterleave diagonalErrors) = 13 := by
  have same : ∀ a ∈ range 196, (a ≠ 0 ∧ deinterleave diagonalErrors a = true ↔
      a ≠ 0 ∧ (a != 0 && (a - 1) / 15 == (a - 1) % 15) = true) := by
    intro a member
    rw [deinterleave_diagonalErrors (mem_range.mp member)]
  rw [errorCount, filter_congr same]
  decide +kernel

theorem decode_corrects_diagonal :
    decode (addError (encode (Vector.replicate 96 true)) diagonalErrors) = (Vector.replicate 96 true, 13, false) := by
  have scattered := scattered_diagonalErrors
  have count := errorCount_diagonalErrors
  have corrected := (decode_corrects (Vector.replicate 96 true) diagonalErrors).1 scattered
  rw [count] at corrected
  exact corrected

def errorsAt (i j : Fin 196) : Vector Bool 196 := Vector.ofFn fun p => p == i || p == j

def gridPlace (p : Nat) : Nat := p * 13 % 196

def gridRow (p : Nat) : Nat := (gridPlace p - 1) / 15

def gridColumn (p : Nat) : Nat := (gridPlace p - 1) % 15

/-- Two errors in the parity rows of a column that carries data, unless they are in rows 9 and 12. -/
structure MisleadingPair (i j : Fin 196) : Prop where
  distinct : i ≠ j
  column : gridColumn i = gridColumn j
  dataColumn : gridColumn i < 11
  first : 9 ≤ gridRow i
  second : 9 ≤ gridRow j
  located : ¬ (gridRow i = 9 ∧ gridRow j = 12) ∧ ¬ (gridRow i = 12 ∧ gridRow j = 9)

instance (i j : Fin 196) : Decidable (MisleadingPair i j) :=
  decidable_of_iff (i ≠ j ∧ gridColumn i = gridColumn j ∧ gridColumn i < 11 ∧ 9 ≤ gridRow i ∧ 9 ≤ gridRow j ∧
      ¬ (gridRow i = 9 ∧ gridRow j = 12) ∧ ¬ (gridRow i = 12 ∧ gridRow j = 9))
    ⟨fun ⟨distinct, column, dataColumn, first, second, located⟩ =>
        { distinct, column, dataColumn, first, second, located },
      fun pair => ⟨pair.distinct, pair.column, pair.dataColumn, pair.first, pair.second, pair.located⟩⟩

theorem deinterleave_errorsAt (i j : Fin 196) {a : Nat} (inside : a < 196) :
    deinterleave (errorsAt i j) a = true ↔ a = gridPlace i ∨ a = gridPlace j := by
  have place : ∀ p : Fin 196, a * 181 % 196 = p.val ↔ a = gridPlace p := by
    intro p
    have bound := p.isLt
    simp only [gridPlace]
    omega
  simp [deinterleave, errorsAt, Fin.ext_iff, place]

def pairLine (first second : Nat) : Line := fun r => r == first || r == second

theorem pairLine_unlocated {first second : Nat} (rows : first = 9 ∧ second = 12 ∨ first = 12 ∧ second = 9) :
    colCode.fails (pairLine first second) = true := by
  obtain ⟨rfl, rfl⟩ | ⟨rfl, rfl⟩ := rows <;> rfl

structure PointsAtData (line : Line) : Prop where
  located : colCode.fails line = false
  notShort : 1 ≤ (colCode.position line).toNat
  dataRow : (colCode.position line).toNat < 9
  spoiled : colCode.fixed line (colCode.position line).toNat = true

theorem pairLine_located {first second : Nat} (firstRow : first < 13) (secondRow : second < 13) (first_ge : 9 ≤ first)
    (second_ge : 9 ≤ second) (distinct : first ≠ second)
    (located : ¬ (first = 9 ∧ second = 12) ∧ ¬ (first = 12 ∧ second = 9)) :
    PointsAtData (pairLine first second) := by
  have firstCases : first = 9 ∨ first = 10 ∨ first = 11 ∨ first = 12 := by omega
  have secondCases : second = 9 ∨ second = 10 ∨ second = 11 ∨ second = 12 := by omega
  obtain rfl | rfl | rfl | rfl := firstCases <;> obtain rfl | rfl | rfl | rfl := secondCases <;>
    first
    | omega
    | exact ⟨by decide, by decide, by decide, by decide⟩

section Pair

variable {error : Nat → Bool} {first second column r c : Nat}

structure ParityPair (error : Nat → Bool) (first second column : Nat) : Prop where
  column_lt : column < 15
  first_ge : 9 ≤ first
  second_ge : 9 ≤ second
  errors : ∀ r < 13, ∀ c < 15, error (gridIndex r c) = (c == column && pairLine first second r)

section

variable (pair : ParityPair error first second column)

include pair

theorem ParityPair.correctRows_bits (row : r < 13) (inside : c < 15) :
    (correctRows error).bits (gridIndex r c) = (c == column && pairLine first second r) := by
  by_cases dataRow : r < 9
  · have noError : ∀ c < 15, error (gridIndex r c) = false := by
      intro c inside
      have := pair.first_ge
      have := pair.second_ge
      have notFirst : (r == first) = false := beq_false_of_ne (by omega)
      have notSecond : (r == second) = false := beq_false_of_ne (by omega)
      rw [pair.errors r row c inside, pairLine, notFirst, notSecond, Bool.or_false, Bool.and_false]
    have lone : AtMostOne 15 fun c => error (gridIndex r c) := by
      intro i columnI _ _ errorI
      exact Bool.noConfusion ((noError i columnI).symm.trans errorI)
    rw [correctRows_of_lone dataRow lone inside, ← pair.errors r row c inside, noError c inside]
  · rw [correctRows_parity error (Nat.le_of_not_lt dataRow) inside, pair.errors r row c inside]

theorem ParityPair.own_column : ∀ r < 13, (correctRows error).bits (gridIndex r column) = pairLine first second r := by
  intro r row
  rw [pair.correctRows_bits row pair.column_lt, beq_self_eq_true, Bool.true_and]

theorem ParityPair.other_column (inside : c < 15) (other : c ≠ column) :
    ∀ r < 13, (correctRows error).bits (gridIndex r c) = false := by
  intro r row
  rw [pair.correctRows_bits row inside, beq_false_of_ne other, Bool.false_and]

theorem ParityPair.uncorrectable_iff :
    (hammingCorrect error).uncorrectable = true ↔ colCode.fails (pairLine first second) = true := by
  rw [(columns_swept error).uncorrectable, correctRows_uncorrectable]
  constructor
  · intro failed
    obtain before | ⟨c, inside, fails⟩ := failed
    · exact Bool.noConfusion before
    · by_cases own : c = column
      · subst own
        rw [fails_congr pair.own_column] at fails
        exact fails
      · rw [fails_of_clean (pair.other_column inside own)] at fails
        exact Bool.noConfusion fails
  · intro fails
    refine .inr ⟨column, pair.column_lt, ?_⟩
    rw [fails_congr pair.own_column]
    exact fails

theorem ParityPair.bits_own (row : r < 13) :
    (hammingCorrect error).bits (gridIndex r column) = colCode.fixed (pairLine first second) r := by
  rw [(columns_swept error).fixed column pair.column_lt r row]
  exact fixed_congr pair.own_column r row

theorem ParityPair.bits_other (row : r < 13) (inside : c < 15)
    (other : c ≠ column) : (hammingCorrect error).bits (gridIndex r c) = false := by
  rw [(columns_swept error).fixed c inside r row]
  exact fixed_of_clean (pair.other_column inside other) r row

end

end Pair

theorem gridIndex_eq_gridPlace {p : Nat} (column : c < 15) :
    gridIndex r c = gridPlace p ↔ gridPlace p ≠ 0 ∧ r = gridRow p ∧ c = gridColumn p := by
  simp only [gridIndex, gridRow, gridColumn]
  omega

theorem gridPlace_injective (same : gridPlace i = gridPlace j) : i = j := by
  have boundI := i.isLt
  have boundJ := j.isLt
  simp only [gridPlace] at same
  apply Fin.ext
  omega

theorem gridRow_lt (p : Nat) : gridRow p < 13 := by
  simp only [gridRow, gridPlace]
  omega

theorem errorsAt_gridIndex (i j : Fin 196) (row : r < 13) (column : c < 15) :
    deinterleave (errorsAt i j) (gridIndex r c) = true ↔
      (gridPlace i ≠ 0 ∧ r = gridRow i ∧ c = gridColumn i) ∨ gridPlace j ≠ 0 ∧ r = gridRow j ∧ c = gridColumn j := by
  rw [deinterleave_errorsAt i j (gridIndex_lt row column), gridIndex_eq_gridPlace column, gridIndex_eq_gridPlace column]

structure Stacked (i j : Fin 196) : Prop where
  distinct : i ≠ j
  column : gridColumn i = gridColumn j
  first : 9 ≤ gridRow i
  second : 9 ≤ gridRow j

theorem Stacked.rows_ne (stacked : Stacked i j) : gridRow i ≠ gridRow j := by
  intro sameRow
  have sameColumn := stacked.column
  have first := stacked.first
  have second := stacked.second
  apply stacked.distinct
  apply gridPlace_injective
  simp only [gridRow, gridColumn] at sameRow sameColumn first second
  omega

theorem Stacked.parityPair (stacked : Stacked i j) :
    ParityPair (deinterleave (errorsAt i j)) (gridRow i) (gridRow j) (gridColumn i) where
  column_lt := Nat.mod_lt _ (by decide)
  first_ge := stacked.first
  second_ge := stacked.second
  errors := by
    intro r row c column
    have placeI : gridPlace i ≠ 0 := by
      have first := stacked.first
      simp only [gridRow] at first
      omega
    have placeJ : gridPlace j ≠ 0 := by
      have second := stacked.second
      simp only [gridRow] at second
      omega
    rw [Bool.eq_iff_iff, errorsAt_gridIndex i j row column, ← stacked.column]
    simp only [pairLine, Bool.and_eq_true, Bool.or_eq_true, beq_iff_eq]
    tauto

theorem oneRow_or_scattered (notStacked : ¬ Stacked i j) :
    OneRowErrors (deinterleave (errorsAt i j)) ∨ ScatteredErrors (deinterleave (errorsAt i j)) := by
  by_cases reservedI : gridPlace i = 0
  · refine .inl ⟨gridRow j, gridRow_lt j, fun k row c column error => ?_⟩
    obtain ⟨used, _⟩ | ⟨_, sameRow, _⟩ := (errorsAt_gridIndex i j row column).mp error
    · exact absurd reservedI used
    · exact sameRow
  by_cases reservedJ : gridPlace j = 0
  · refine .inl ⟨gridRow i, gridRow_lt i, fun k row c column error => ?_⟩
    obtain ⟨_, sameRow, _⟩ | ⟨used, _⟩ := (errorsAt_gridIndex i j row column).mp error
    · exact sameRow
    · exact absurd reservedJ used
  by_cases sameRow : gridRow i = gridRow j
  · refine .inl ⟨gridRow i, gridRow_lt i, fun k row c column error => ?_⟩
    obtain ⟨_, inRow, _⟩ | ⟨_, inRow, _⟩ := (errorsAt_gridIndex i j row column).mp error
    · exact inRow
    · exact inRow.trans sameRow.symm
  · have distinct : i ≠ j := fun same => sameRow (congrArg (fun p : Fin 196 => gridRow p) same)
    refine .inr { rows := ?_, columns := ?_ }
    · intro r row c column d column' errorC errorD
      rw [errorsAt_gridIndex i j (by omega) column] at errorC
      rw [errorsAt_gridIndex i j (by omega) column'] at errorD
      omega
    · intro c column k inside l inside' errorK errorL
      rw [errorsAt_gridIndex i j (by omega) column] at errorK errorL
      by_contra differ
      apply notStacked
      exact ⟨distinct, by omega, by omega, by omega⟩

theorem Stacked.detected_iff (stacked : Stacked i j) (data : Vector Bool 96) :
    ((decode (addError (encode data) (errorsAt i j))).1 = data ∨
        (decode (addError (encode data) (errorsAt i j))).2.2 = true) ↔ ¬ MisleadingPair i j := by
  have pair := stacked.parityPair
  rw [decode_addError]
  dsimp only
  rw [pair.uncorrectable_iff]
  by_cases unlocated : gridRow i = 9 ∧ gridRow j = 12 ∨ gridRow i = 12 ∧ gridRow j = 9
  · have notMisleading : ¬ MisleadingPair i j := fun misleading =>
      unlocated.elim misleading.located.1 misleading.located.2
    exact iff_of_true (.inr (pairLine_unlocated unlocated)) notMisleading
  · rw [not_or] at unlocated
    by_cases dataColumn : gridColumn i < 11
    · have misleading : MisleadingPair i j :=
        { distinct := stacked.distinct, column := stacked.column, dataColumn, first := stacked.first
          second := stacked.second, located := unlocated }
      have points := pairLine_located (gridRow_lt i) (gridRow_lt j) stacked.first stacked.second stacked.rows_ne unlocated
      have notShort := points.notShort
      have dataRow := points.dataRow
      have spoiled : (hammingCorrect (deinterleave (errorsAt i j))).bits
          (gridIndex (1 + ((colCode.position (pairLine (gridRow i) (gridRow j))).toNat - 1)) (gridColumn i)) = true := by
        rw [Nat.add_sub_cancel' notShort, pair.bits_own (by omega)]
        exact points.spoiled
      refine iff_of_false ?_ (not_not_intro misleading)
      rw [not_or, points.located]
      exact ⟨extractData_xorBits_spoiled data (by omega) dataColumn spoiled, Bool.false_ne_true⟩
    · have clean : ∀ r < 9, ∀ c < 11, (hammingCorrect (deinterleave (errorsAt i j))).bits (gridIndex r c) = false :=
        fun r row c column => pair.bits_other (by omega) (by omega) (by omega)
      exact iff_of_true (.inl (extractData_xorBits_clean data clean)) fun misleading =>
        dataColumn misleading.dataColumn

theorem two_errors_detected_iff (data : Vector Bool 96) (i j : Fin 196) :
    ((decode (addError (encode data) (errorsAt i j))).1 = data ∨
        (decode (addError (encode data) (errorsAt i j))).2.2 = true) ↔ ¬ MisleadingPair i j := by
  by_cases stacked : Stacked i j
  · exact stacked.detected_iff data
  · have notMisleading : ¬ MisleadingPair i j := fun misleading =>
      stacked ⟨misleading.distinct, misleading.column, misleading.first, misleading.second⟩
    refine iff_of_true (.inl ?_) notMisleading
    obtain oneRow | scattered := oneRow_or_scattered stacked
    · exact (decode_oneRow data oneRow).1
    · rw [decode_scattered data scattered]

/-- Bits 116 and 87 are in rows 9 and 10 of column 0. -/
theorem two_errors_undetected :
    (decode (addError (encode (Vector.replicate 96 false)) (errorsAt 116 87))).1 ≠ Vector.replicate 96 false ∧
      (decode (addError (encode (Vector.replicate 96 false)) (errorsAt 116 87))).2.2 = false := by
  have stacked : Stacked 116 87 := ⟨by decide, by decide, by decide, by decide⟩
  have misleading : MisleadingPair 116 87 := by decide
  have undetected := (not_congr (stacked.detected_iff (Vector.replicate 96 false))).mpr (not_not_intro misleading)
  rw [not_or] at undetected
  exact ⟨undetected.1, Bool.eq_false_iff.mpr undetected.2⟩

theorem getD_burst_first {last : List Bool} (length : first.length = 98) {i : Nat} (inside : i < 98) :
    (first ++ slot ++ sync ++ slot' ++ last).getD i false = first.getD i false := by
  simp only [List.append_assoc]
  exact List.getD_append _ _ _ _ (by omega)

theorem getD_burst_last {last : List Bool} (length : (first ++ slot ++ sync ++ slot').length = 166) (i : Nat) :
    (first ++ slot ++ sync ++ slot' ++ last).getD (166 + i) false = last.getD i false := by
  rw [List.getD_append_right _ _ _ _ (by omega), length, Nat.add_sub_cancel_left]

theorem golayEncode208_length (input : UInt8) : (golayEncode208 input).length = 20 := by simp [golayEncode208]

theorem burst_dataBits (encoded : Vector Bool 196) (slotLength : slot.length = 10) (slotLength' : slot'.length = 10)
    (syncLength : sync.length = 48) :
    let allBits := unpackBits
      (packBits 33 (encoded.toList.take 98 ++ slot ++ sync ++ slot' ++ encoded.toList.drop 98)).toList
    (Vector.ofFn fun i : Fin 196 =>
      if i.val < 98 then allBits.getD i false else allBits.getD (166 + (i - 98)) false) = encoded := by
  have firstLength : (encoded.toList.take 98).length = 98 := by simp
  have frontLength : (encoded.toList.take 98 ++ slot ++ sync ++ slot').length = 166 := by
    simp [slotLength, slotLength', syncLength]
  apply Vector.ext
  intro i inside
  simp only [Vector.getElem_ofFn]
  split
  · rename_i first
    rw [unpackBits_packBits _ (by omega), getD_burst_first firstLength first]
    simp [first]
  · rename_i last
    have index : 98 + (i - 98) = i := by omega
    rw [unpackBits_packBits _ (by omega), getD_burst_last frontLength]
    simp [index, inside]

theorem decodeLCFromBurst_buildLCDataBurst (lcBytes : Vector UInt8 12) (dataType colorCode : UInt8) :
    decodeLCFromBurst (buildLCDataBurst lcBytes dataType colorCode) = some lcBytes := by
  have payload : ∀ infoBits : Vector Bool 96,
      (∀ k < 96, infoBits.toList.getD k false = (unpackBits lcBytes.toList).getD k false) →
      packBits 12 infoBits.toList = lcBytes := by
    intro infoBits same
    rw [packBits_congr same, packBits_unpackBits]
  rw [decodeLCFromBurst, buildLCDataBurst]
  simp only
  rw [burst_dataBits _ (by simp [golayEncode208_length]) (by simp [golayEncode208_length]) (by simp), decode_encode]
  simp only [Bool.false_eq_true, if_false]
  rw [payload]
  intro k inside
  simp [inside]

end Ipsc2Mmdvm.Dmr
