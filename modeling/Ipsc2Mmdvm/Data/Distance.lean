import Ipsc2Mmdvm.Data.LineCode
import Mathlib.InformationTheory.Hamming

namespace Ipsc2Mmdvm.Data

/-! The distance of two words of a linear code is the weight of their sum.  A grid whose rows and
columns are words of two codes weighs at least the product of what their words weigh. -/

def ones (n : Nat) (line : Nat → Bool) : Finset Nat := (Finset.range n).filter fun i => line i = true

def weight (n : Nat) (line : Nat → Bool) : Nat := (ones n line).card

variable {n i : Nat} {line : Nat → Bool}

open Finset

theorem mem_ones : i ∈ ones n line ↔ i < n ∧ line i = true := by
  simp only [ones, mem_filter, mem_range]

theorem weight_succ (n : Nat) (line : Nat → Bool) : weight (n + 1) line = weight n line + if line n then 1 else 0 := by
  simp only [weight, ones, card_filter, sum_range_succ]

theorem weight_pos (inside : i < n) (one : line i = true) : 0 < weight n line :=
  card_pos.mpr ⟨i, mem_ones.mpr ⟨inside, one⟩⟩

theorem weight_eq_zero (clean : ∀ i < n, line i = false) : weight n line = 0 := by
  apply card_eq_zero.mpr
  apply eq_empty_of_forall_notMem
  intro i member
  obtain ⟨inside, one⟩ := mem_ones.mp member
  rw [clean i inside] at one
  exact Bool.false_ne_true one

theorem parity_append (positions more : List Nat) (line : Nat → Bool) :
    parity (positions ++ more) line = (parity positions line ^^ parity more line) := by
  induction positions with
  | nil => simp [parity]
  | cons i rest ih =>
    simp only [parity, List.cons_append, List.foldr_cons] at ih ⊢
    rw [ih, Bool.xor_assoc]

theorem parity_range_succ (n : Nat) (line : Nat → Bool) :
    parity (List.range (n + 1)) line = (parity (List.range n) line ^^ line n) := by
  rw [List.range_succ, parity_append]
  simp [parity]

theorem parity_eq_weight (n : Nat) (line : Nat → Bool) :
    parity (List.range n) line = decide (weight n line % 2 = 1) := by
  induction n with
  | zero => rfl
  | succ n ih =>
    rw [parity_range_succ, ih, weight_succ]
    cases line n with
    | false => simp
    | true =>
      by_cases odd : weight n line % 2 = 1
      · have even : (weight n line + 1) % 2 ≠ 1 := by omega
        simp [odd, even]
      · have even : (weight n line + 1) % 2 = 1 := by omega
        simp [odd, even]

section

variable (even : parity (List.range n) line = false)

include even

theorem even_weight : weight n line % 2 = 0 := by
  rw [parity_eq_weight, decide_eq_false_iff_not] at even
  omega

theorem two_le_weight (inside : i < n) (one : line i = true) : 2 ≤ weight n line := by
  have positive := weight_pos inside one
  have halves := even_weight even
  omega

theorem two_le_weight_sum {other : Nat → Bool}
    (even' : parity (List.range n) other = false) (inside : i < n) (one : xorBits line other i = true) :
    2 ≤ weight n (xorBits line other) := by
  apply two_le_weight _ inside one
  rw [parity_xorBits, even, even', Bool.xor_false]

end

namespace LineCode

variable {code : LineCode} {line : Nat → Bool} {i : Nat}

theorem three_le_weight (valid : code.syndrome line = 0) (inside : i < code.length) (one : line i = true) :
    3 ≤ weight code.length line := by
  by_contra light
  have positive := weight_pos inside one
  have cases : weight code.length line = 1 ∨ weight code.length line = 2 := by omega
  obtain single | pair := cases
  · -- A word with one bit has a syndrome.
    obtain ⟨p, only⟩ := card_eq_one.mp single
    have member (k : Nat) : k < code.length ∧ line k = true ↔ k = p := by
      rw [← mem_ones, only, mem_singleton]
    obtain ⟨inLine, -⟩ := (member p).mpr rfl
    have same : ∀ k < code.length, line k = oneBit p k := by
      intro k below
      apply Bool.eq_iff_iff.mpr
      simp only [oneBit, beq_iff_eq, ← member k, below, true_and]
    rw [code.syndrome_congr same] at valid
    exact code.syndrome_oneBit p inLine valid
  · -- A word with two bits gives both of them the same syndrome.
    obtain ⟨p, q, apart, both⟩ := card_eq_two.mp pair
    have member (k : Nat) : k < code.length ∧ line k = true ↔ k = p ∨ k = q := by
      rw [← mem_ones, both, mem_insert, mem_singleton]
    obtain ⟨first, -⟩ := (member p).mpr (.inl rfl)
    obtain ⟨second, -⟩ := (member q).mpr (.inr rfl)
    have same : ∀ k < code.length, xorBits line (oneBit p) k = oneBit q k := by
      intro k below
      have bit : line k = (k == p || k == q) := by
        apply Bool.eq_iff_iff.mpr
        rw [Bool.or_eq_true, beq_iff_eq, beq_iff_eq, ← member k, and_iff_right below]
      simp only [xorBits, oneBit, bit]
      by_cases here : k = p
      · subst here
        simp [apart]
      · simp [beq_false_of_ne here]
    have syndromes : code.syndrome (oneBit q) = code.syndrome (oneBit p) := by
      rw [← code.syndrome_congr same, code.syndrome_xorBits valid]
    have position := code.table_oneBit q second
    rw [syndromes, code.table_oneBit p first] at position
    exact apart (Int.ofNat_inj.mp position)

theorem four_le_weight (valid : code.syndrome line = 0) (even : parity (List.range (code.length + 1)) line = false)
    (inside : i < code.length + 1) (one : line i = true) : 4 ≤ weight (code.length + 1) line := by
  have two := two_le_weight even inside one
  have halves := even_weight even
  rw [weight_succ] at two halves ⊢
  by_cases clean : ∀ k < code.length, line k = false
  · have empty : weight code.length line = 0 := weight_eq_zero clean
    split at two <;> omega
  · simp only [not_forall, Bool.not_eq_false] at clean
    obtain ⟨k, below, set⟩ := clean
    have three := three_le_weight valid below set
    split at halves
    · rw [if_pos ‹_›]
      omega
    · rw [if_neg ‹_›]
      omega

variable {other : Nat → Bool}

theorem three_le_weight_sum (valid : code.syndrome line = 0) (valid' : code.syndrome other = 0) (inside : i < code.length)
    (one : xorBits line other i = true) : 3 ≤ weight code.length (xorBits line other) :=
  three_le_weight ((code.syndrome_xorBits valid).trans valid') inside one

theorem four_le_weight_sum (valid : code.syndrome line = 0) (valid' : code.syndrome other = 0)
    (even : parity (List.range (code.length + 1)) line = false) (even' : parity (List.range (code.length + 1)) other = false)
    (inside : i < code.length + 1) (one : xorBits line other i = true) : 4 ≤ weight (code.length + 1) (xorBits line other) := by
  apply four_le_weight ((code.syndrome_xorBits valid).trans valid') _ inside one
  rw [parity_xorBits, even, even', Bool.xor_false]

end LineCode

def gridOnes (n m : Nat) (grid : Nat → Nat → Bool) : Finset (Nat × Nat) :=
  (Finset.range n ×ˢ Finset.range m).filter fun p => grid p.1 p.2 = true

theorem card_gridOnes (n m : Nat) (grid : Nat → Nat → Bool) :
    (gridOnes n m grid).card = ∑ r ∈ range n, weight m (grid r) := by
  simp only [gridOnes, weight, ones, card_filter, sum_product]

theorem mul_le_card_gridOnes {m columnWeight rowWeight : Nat} {grid : Nat → Nat → Bool}
    (columns : ∀ c < m, ∀ r < n, grid r c = true → columnWeight ≤ weight n fun r => grid r c)
    (rows : ∀ r < n, ∀ c < m, grid r c = true → rowWeight ≤ weight m (grid r)) {r c : Nat} (row : r < n) (column : c < m)
    (one : grid r c = true) : columnWeight * rowWeight ≤ (gridOnes n m grid).card := by
  let crossed := ones n fun r => grid r c
  have heavy : ∀ r ∈ crossed, rowWeight ≤ weight m (grid r) := by
    intro r member
    obtain ⟨inside, set⟩ := mem_ones.mp member
    exact rows r inside c column set
  calc columnWeight * rowWeight
      ≤ crossed.card * rowWeight := Nat.mul_le_mul_right rowWeight (columns c column r row one)
    _ ≤ ∑ r ∈ crossed, weight m (grid r) := by simpa using card_nsmul_le_sum crossed _ rowWeight heavy
    _ ≤ ∑ r ∈ range n, weight m (grid r) := sum_le_sum_of_subset (filter_subset _ _)
    _ = (gridOnes n m grid).card := (card_gridOnes n m grid).symm

theorem card_gridOnes_le_hammingDist {ι : Type*} [Fintype ι] {word other : ι → Bool} {m : Nat} {place : Nat × Nat → ι}
    (injective : Set.InjOn place (range n ×ˢ range m : Finset (Nat × Nat))) :
    (gridOnes n m fun r c => word (place (r, c)) ^^ other (place (r, c))).card ≤ hammingDist word other := by
  apply card_le_card_of_injOn place
  · intro p member
    obtain ⟨-, one⟩ := mem_filter.mp member
    simp only [coe_filter, mem_univ, true_and, Set.mem_ofPred_eq]
    intro same
    simp only [Prod.mk.eta, same, Bool.xor_self] at one
    exact Bool.false_ne_true one
  · exact injective.mono fun p member => mem_coe.mpr (mem_filter.mp (mem_coe.mp member)).1

end Ipsc2Mmdvm.Data
