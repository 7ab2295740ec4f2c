import Mathlib.InformationTheory.Hamming
import Mathlib.LinearAlgebra.Vandermonde
import Mathlib.Tactic.LinearCombination

namespace Ipsc2Mmdvm.Data

/-! A register of three cells divides a word by a polynomial of degree three; the word followed by
what is left in the register vanishes at the roots of that polynomial. -/

open List Finset

section Division

variable {R : Type*} [CommRing R]

def evalWord (x : R) (word : List R) : R := word.foldl (fun value c => value * x + c) 0

theorem evalWord_concat (x : R) (word : List R) (c : R) : evalWord x (word ++ [c]) = evalWord x word * x + c := by
  simp only [evalWord, foldl_append, foldl_cons, foldl_nil]

def divide (g2 g1 g0 : R) (word : List R) : R × R × R :=
  word.foldl (fun (p0, p1, p2) c =>
    let feedback := c - p0
    (p1 + feedback * g2, p2 + feedback * g1, feedback * g0)) (0, 0, 0)

theorem divide_concat (g2 g1 g0 : R) (word : List R) (c : R) : divide g2 g1 g0 (word ++ [c]) =
      ((divide g2 g1 g0 word).2.1 + (c - (divide g2 g1 g0 word).1) * g2,
        (divide g2 g1 g0 word).2.2 + (c - (divide g2 g1 g0 word).1) * g1, (c - (divide g2 g1 g0 word).1) * g0) := by
  simp only [divide, foldl_append, foldl_cons, foldl_nil]

theorem evalWord_divide {g2 g1 g0 r : R} (root : r ^ 3 + g2 * r ^ 2 + g1 * r + g0 = 0) (word : List R) :
    evalWord r word * r ^ 3 + (divide g2 g1 g0 word).1 * r ^ 2 + (divide g2 g1 g0 word).2.1 * r +
      (divide g2 g1 g0 word).2.2 = 0 := by
  induction word using reverseRecOn with
  | nil => simp [evalWord, divide]
  | append_singleton word c ih =>
    rw [evalWord_concat, divide_concat]
    linear_combination r * ih + (c - (divide g2 g1 g0 word).1) * root

theorem evalWord_checked {g2 g1 g0 r : R} (root : r ^ 3 + g2 * r ^ 2 + g1 * r + g0 = 0) (word : List R) :
    evalWord r (word ++ [(divide g2 g1 g0 word).1, (divide g2 g1 g0 word).2.1, (divide g2 g1 g0 word).2.2]) = 0 := by
  have value := evalWord_divide root word
  simp only [evalWord, foldl_append, foldl_cons, foldl_nil] at value ⊢
  linear_combination value

end Division

section Distance

variable {R : Type*} [CommRing R] {n : Nat}

theorem evalWord_ofFn (x : R) (word : Fin n → R) : evalWord x (ofFn word) = ∑ i, word i * x ^ (n - 1 - i.val) := by
  induction n with
  | zero => rfl
  | succ n ih =>
    rw [ofFn_succ', concat_eq_append, evalWord_concat, ih, sum_mul, Fin.sum_univ_castSucc]
    congr 1
    · apply sum_congr rfl
      intro i _
      have exponent : n + 1 - 1 - i.castSucc.val = (n - 1 - i.val) + 1 := by
        have inside := i.isLt
        rw [Fin.val_castSucc]
        omega
      rw [exponent, pow_succ, mul_assoc]
    · simp

variable [IsDomain R] [DecidableEq R]

/-- Words that agree at `a ^ 1` to `a ^ d` differ in more than `d` places.  The differences would
solve a Vandermonde system. -/
theorem lt_hammingDist {word other : Fin n → R} {a : R} {d : Nat} (nonzero : a ≠ 0)
    (powers : ∀ i < n, ∀ j < n, a ^ i = a ^ j → i = j)
    (agree : ∀ k, 1 ≤ k → k ≤ d → evalWord (a ^ k) (ofFn word) = evalWord (a ^ k) (ofFn other))
    (differ : word ≠ other) : d < hammingDist word other := by
  by_contra few
  let places : Finset (Fin n) := univ.filter fun i => word i ≠ other i
  have size : places.card ≤ d := Nat.le_of_not_lt few
  let place : Fin places.card → Fin n := fun j => (places.equivFin.symm j).val
  let node : Fin places.card → R := fun j => a ^ (n - 1 - (place j).val)
  have injective : Function.Injective node := by
    intro j k same
    have exponent := powers _ (by omega) _ (by omega) same
    have equal : place j = place k := by
      apply Fin.ext
      omega
    exact places.equivFin.symm.injective (Subtype.ext equal)
  have system : ∀ i : Fin places.card, ∑ j, (word (place j) - other (place j)) * node j * node j ^ i.val = 0 := by
    intro i
    let term : Fin n → R := fun s => (word s - other s) * (a ^ (n - 1 - s.val)) ^ (i.val + 1)
    have supported : ∀ s ∈ univ, term s ≠ 0 → word s ≠ other s := by
      intro s _ present same
      exact present (by simp only [term, same, sub_self, zero_mul])
    have power := agree (i.val + 1) (by omega) (by omega)
    calc ∑ j, (word (place j) - other (place j)) * node j * node j ^ i.val
        = ∑ j, term (place j) := by
          apply sum_congr rfl
          intro j _
          simp only [term, node, pow_succ']
          ring
      _ = ∑ s : places, term s := places.equivFin.symm.sum_comp fun s : places => term s
      _ = ∑ s ∈ places, term s := sum_coe_sort places term
      _ = ∑ s, term s := sum_filter_of_ne supported
      _ = evalWord (a ^ (i.val + 1)) (ofFn word) - evalWord (a ^ (i.val + 1)) (ofFn other) := by
          rw [evalWord_ofFn, evalWord_ofFn, ← sum_sub_distrib]
          apply sum_congr rfl
          intro s _
          simp only [term, ← pow_mul, sub_mul, Nat.mul_comm]
      _ = 0 := sub_eq_zero.mpr power
  have zero := Matrix.eq_zero_of_forall_pow_sum_mul_pow_eq_zero injective system
  obtain ⟨i, apart⟩ := Function.ne_iff.mp differ
  have member : i ∈ places := mem_filter.mpr ⟨mem_univ i, apart⟩
  have entry := congrFun zero (places.equivFin ⟨i, member⟩)
  have found : place (places.equivFin ⟨i, member⟩) = i := by
    simp only [place, Equiv.symm_apply_apply]
  simp only [node, found, Pi.zero_apply, mul_eq_zero, sub_eq_zero] at entry
  exact entry.elim apart (pow_ne_zero _ nonzero)

end Distance

end Ipsc2Mmdvm.Data
