import Mathlib.Algebra.BigOperators.Group.Finset.Basic
import Mathlib.Algebra.BigOperators.Group.Finset.Sigma
import Mathlib.Algebra.BigOperators.Ring.Finset
import Mathlib.Data.Finset.Card

namespace Ipsc2Mmdvm.Data

/-! A block of bits is read along lines; a line is corrected by flipping the bit that its syndrome
points at.  Adding a block whose lines are all codewords changes neither what is flipped nor what is
counted. -/

def flipAt (bits : Nat → Bool) (k : Nat) : Nat → Bool := fun i => if i = k then !bits i else bits i

def xorBits (word error : Nat → Bool) : Nat → Bool := fun i => word i ^^ error i

def oneBit (p : Nat) : Nat → Bool := fun i => i == p

def parity (positions : List Nat) (line : Nat → Bool) : Bool :=
  positions.foldr (fun i p => line i ^^ p) false

open List

theorem parity_congr {positions : List Nat} {line other : Nat → Bool} (same : ∀ i ∈ positions, line i = other i) :
    parity positions line = parity positions other := by
  induction positions with
  | nil => rfl
  | cons i rest ih =>
    simp only [parity, foldr_cons] at ih ⊢
    rw [same i mem_cons_self, ih fun j member => same j (mem_cons_of_mem i member)]

theorem parity_xorBits (positions : List Nat) (word error : Nat → Bool) :
    parity positions (xorBits word error) = (parity positions word ^^ parity positions error) := by
  induction positions with
  | nil => rfl
  | cons i rest ih =>
    simp only [parity, foldr_cons] at ih ⊢
    rw [ih, xorBits]
    simp only [Bool.xor_assoc, Bool.xor_left_comm]

/-- `table` has the position of the error for a syndrome, negative where there is none. -/
structure LineCode where
  length : Nat
  syndrome : (Nat → Bool) → Nat
  table : List Int
  syndrome_congr : ∀ {line other : Nat → Bool}, (∀ i < length, line i = other i) →
    syndrome line = syndrome other
  syndrome_xorBits : ∀ {word error : Nat → Bool}, syndrome word = 0 →
    syndrome (xorBits word error) = syndrome error
  syndrome_zero : syndrome (fun _ => false) = 0
  syndrome_oneBit : ∀ p < length, syndrome (oneBit p) ≠ 0
  table_oneBit : ∀ p < length, table.getD (syndrome (oneBit p)) (-1) = p
  table_lt : ∀ position ∈ table, position < length

structure Correction where
  bits : Nat → Bool
  corrected : Nat := 0
  uncorrectable : Bool := false

namespace LineCode

variable (code : LineCode)

def position (line : Nat → Bool) : Int := code.table.getD (code.syndrome line) (-1)

def correct (index : Nat → Nat) (st : Correction) : Correction :=
  let line := fun i => st.bits (index i)
  if code.syndrome line = 0 then st
  else if 0 ≤ code.position line then
    { st with bits := flipAt st.bits (index (code.position line).toNat), corrected := st.corrected + 1 }
  else { st with uncorrectable := true }

def sweep (index : Nat → Nat → Nat) (lines : Nat) (st : Correction) : Correction :=
  (List.range lines).foldl (fun st k => code.correct (index k) st) st

end LineCode

theorem LineCode.syndrome_parity (code : LineCode) {rows : Nat → Nat → Bool} (valid : ∀ r, code.syndrome (rows r) = 0)
    (positions : List Nat) : code.syndrome (fun c => parity positions fun r => rows r c) = 0 := by
  induction positions with
  | nil => exact code.syndrome_zero
  | cons r rest ih => exact (code.syndrome_xorBits (valid r)).trans ih

def Correction.add (word : Nat → Bool) (st : Correction) : Correction :=
  { st with bits := xorBits word st.bits }

theorem xorBits_flipAt (word bits : Nat → Bool) (k : Nat) :
    xorBits word (flipAt bits k) = flipAt (xorBits word bits) k := by
  funext i
  simp only [xorBits, flipAt]
  split <;> simp

section Add

variable {code : LineCode} {word : Nat → Bool}

theorem LineCode.correct_add {index : Nat → Nat} (valid : code.syndrome (fun i => word (index i)) = 0)
    (st : Correction) : code.correct index (st.add word) = (code.correct index st).add word := by
  have same : code.syndrome (fun i => (st.add word).bits (index i)) = code.syndrome fun i => st.bits (index i) :=
    code.syndrome_xorBits valid
  have samePosition : code.position (fun i => (st.add word).bits (index i)) =
      code.position fun i => st.bits (index i) := by
    rw [LineCode.position, LineCode.position, same]
  simp only [LineCode.correct, same, samePosition]
  by_cases quiet : (code.syndrome fun i => st.bits (index i)) = 0
  · rw [if_pos quiet, if_pos quiet]
  · rw [if_neg quiet, if_neg quiet]
    by_cases found : 0 ≤ code.position fun i => st.bits (index i)
    · rw [if_pos found, if_pos found]
      simp only [Correction.add, xorBits_flipAt]
    · rw [if_neg found, if_neg found]
      rfl

theorem LineCode.sweep_add {index : Nat → Nat → Nat} {lines : Nat}
    (valid : ∀ k < lines, code.syndrome (fun i => word (index k i)) = 0) (st : Correction) :
    code.sweep index lines (st.add word) = (code.sweep index lines st).add word := by
  induction lines with
  | zero => rfl
  | succ n ih =>
    simp only [LineCode.sweep, range_succ, foldl_append, foldl_cons, foldl_nil]
    have earlier := ih fun k below => valid k (Nat.lt_succ_of_lt below)
    simp only [LineCode.sweep] at earlier
    rw [earlier, code.correct_add (valid n (Nat.lt_succ_self n))]

end Add

namespace LineCode

variable (code : LineCode)

def flips (line : Nat → Bool) : Bool := code.syndrome line != 0 && decide (0 ≤ code.position line)

def fails (line : Nat → Bool) : Bool := code.syndrome line != 0 && !decide (0 ≤ code.position line)

def fixed (line : Nat → Bool) : Nat → Bool :=
  if code.flips line then flipAt line (code.position line).toNat else line

variable {code} {line other : Nat → Bool} {index : Nat → Nat}

section

variable (same : ∀ i < code.length, line i = other i)

include same

theorem position_congr : code.position line = code.position other := by
  rw [position, position, code.syndrome_congr same]

theorem flips_congr : code.flips line = code.flips other := by
  rw [flips, flips, code.syndrome_congr same, position_congr same]

theorem fails_congr : code.fails line = code.fails other := by
  rw [fails, fails, code.syndrome_congr same, position_congr same]

end

theorem position_lt_length : code.position line < code.length := by
  simp only [position, getD_eq_getElem?_getD]
  cases entry : code.table[code.syndrome line]? with
  | none =>
    simp only [Option.getD_none]
    omega
  | some position => exact code.table_lt position (mem_of_getElem? entry)

theorem position_lt (flips : code.flips line = true) : (code.position line).toNat < code.length := by
  simp only [LineCode.flips, Bool.and_eq_true, decide_eq_true_eq] at flips
  have bound : code.position line < code.length := position_lt_length
  omega

theorem fixed_congr (same : ∀ i < code.length, line i = other i) :
    ∀ i < code.length, code.fixed line i = code.fixed other i := by
  intro i inside
  simp only [fixed, flips_congr same, position_congr same]
  split
  · simp only [flipAt, same i inside]
  · exact same i inside

theorem correct_eq (index : Nat → Nat) (st : Correction) : code.correct index st =
      { bits :=
          if code.flips (fun i => st.bits (index i)) then
            flipAt st.bits (index (code.position fun i => st.bits (index i)).toNat)
          else st.bits
        corrected := st.corrected + if code.flips (fun i => st.bits (index i)) then 1 else 0
        uncorrectable := st.uncorrectable || code.fails fun i => st.bits (index i) } := by
  simp only [correct, flips, fails]
  split
  · simp [*]
  · split <;> simp [*]

theorem correct_uncorrectable (index : Nat → Nat) (st : Correction) :
    (code.correct index st).uncorrectable = (st.uncorrectable || code.fails fun i => st.bits (index i)) := by
  rw [correct_eq]

theorem correct_corrected (index : Nat → Nat) (st : Correction) : (code.correct index st).corrected =
      st.corrected + if code.flips (fun i => st.bits (index i)) then 1 else 0 := by
  rw [correct_eq]

theorem correct_bits_of_notMem {a : Nat} (outside : ∀ i < code.length, index i ≠ a) (st : Correction) :
    (code.correct index st).bits a = st.bits a := by
  rw [correct_eq]
  dsimp only
  split
  · rename_i flips
    have differ := outside _ (position_lt flips)
    simp only [flipAt, if_neg differ.symm]
  · rfl

theorem correct_bits (injective : ∀ i < code.length, ∀ j < code.length, index i = index j → i = j) (st : Correction) {i : Nat}
    (inside : i < code.length) :
    (code.correct index st).bits (index i) = code.fixed (fun i => st.bits (index i)) i := by
  rw [correct_eq]
  simp only [fixed]
  split
  · rename_i flips
    simp only [flipAt]
    by_cases same : i = (code.position fun i => st.bits (index i)).toNat
    · rw [if_pos same, if_pos (congrArg index same)]
    · have differ : index i ≠ index (code.position fun i => st.bits (index i)).toNat :=
        fun equal => same (injective i inside _ (position_lt flips) equal)
      rw [if_neg same, if_neg differ]
  · rfl

end LineCode

namespace LineCode

variable {code : LineCode} {line : Nat → Bool} {p : Nat}

def AtMostOne (n : Nat) (line : Nat → Bool) : Prop :=
  ∀ i < n, ∀ j < n, line i = true → line j = true → i = j

instance (n : Nat) (line : Nat → Bool) : Decidable (AtMostOne n line) :=
  inferInstanceAs (Decidable (∀ i < n, ∀ j < n, line i = true → line j = true → i = j))

theorem AtMostOne.cases {n : Nat} (atMostOne : AtMostOne n line) :
    (∀ i < n, line i = false) ∨ ∃ p < n, ∀ i < n, line i = oneBit p i := by
  by_cases clean : ∀ i < n, line i = false
  · exact .inl clean
  · simp only [not_forall, Bool.not_eq_false] at clean
    obtain ⟨p, inside, error⟩ := clean
    refine .inr ⟨p, inside, fun i inLine => ?_⟩
    by_cases same : i = p
    · simp [same, oneBit, error]
    · have none : line i ≠ true := fun other => same (atMostOne i inLine p inside other error)
      have apart : oneBit p i = false := beq_false_of_ne same
      rw [apart]
      exact Bool.eq_false_iff.mpr none

section

variable (clean : ∀ i < code.length, line i = false)

include clean

theorem flips_of_clean : code.flips line = false := by
  rw [flips, code.syndrome_congr clean, code.syndrome_zero]
  rfl

theorem fails_of_clean : code.fails line = false := by
  rw [fails, code.syndrome_congr clean, code.syndrome_zero]
  rfl

theorem fixed_of_clean : ∀ i < code.length, code.fixed line i = false := by
  intro i inside
  rw [fixed, flips_of_clean clean]
  exact clean i inside

end

section

variable (inside : p < code.length)

include inside

theorem position_oneBit : code.position (oneBit p) = p := code.table_oneBit p inside

theorem flips_oneBit : code.flips (oneBit p) = true := by
  simp [flips, code.syndrome_oneBit p inside, position_oneBit inside]

theorem fails_oneBit : code.fails (oneBit p) = false := by
  simp [fails, position_oneBit inside]

theorem fixed_oneBit (i : Nat) : code.fixed (oneBit p) i = false := by
  simp only [fixed, flips_oneBit inside, position_oneBit inside, if_true, flipAt, Int.toNat_natCast, oneBit]
  split <;> simp [*]

end

section

variable (code) (atMostOne : AtMostOne code.length line)

include code atMostOne

theorem fixed_of_atMostOne : ∀ i < code.length, code.fixed line i = false := by
  intro i inside
  obtain clean | ⟨p, error, same⟩ := atMostOne.cases
  · exact fixed_of_clean clean i inside
  · rw [fixed_congr same i inside]
    exact fixed_oneBit error i

theorem fails_of_atMostOne : code.fails line = false := by
  obtain clean | ⟨p, error, same⟩ := atMostOne.cases
  · exact fails_of_clean clean
  · rw [fails_congr same]
    exact fails_oneBit error

theorem flips_of_atMostOne :
    (if code.flips line then 1 else 0) = ∑ i ∈ Finset.range code.length, if line i then 1 else 0 := by
  obtain clean | ⟨p, error, same⟩ := atMostOne.cases
  · rw [flips_of_clean clean]
    symm
    apply Finset.sum_eq_zero
    intro i member
    rw [clean i (Finset.mem_range.mp member)]
    rfl
  · rw [flips_congr same, flips_oneBit error, Finset.sum_eq_single p]
    · simp [same p error, oneBit]
    · intro i member differ
      simp [same i (Finset.mem_range.mp member), oneBit, differ]
    · exact fun outside => absurd (Finset.mem_range.mpr error) outside

end

end LineCode

namespace LineCode

variable {code : LineCode} {index : Nat → Nat → Nat}

def Apart (code : LineCode) (index : Nat → Nat → Nat) (lines : Nat) : Prop :=
  ∀ k < lines, ∀ l < lines, ∀ i < code.length, ∀ j < code.length, index k i = index l j → k = l ∧ i = j

structure Swept (code : LineCode) (index : Nat → Nat → Nat) (lines n : Nat) (st result : Correction) : Prop where
  fixed : ∀ k < n, ∀ i < code.length, result.bits (index k i) = code.fixed (fun i => st.bits (index k i)) i
  later : ∀ k < lines, n ≤ k → ∀ i < code.length, result.bits (index k i) = st.bits (index k i)
  outside : ∀ a, (∀ k < n, ∀ i < code.length, index k i ≠ a) → result.bits a = st.bits a
  corrected : result.corrected =
    st.corrected + ∑ k ∈ Finset.range n, if code.flips (fun i => st.bits (index k i)) then 1 else 0
  uncorrectable : result.uncorrectable = true ↔
    st.uncorrectable = true ∨ ∃ k < n, code.fails (fun i => st.bits (index k i)) = true

theorem swept_step {lines n : Nat} (apart : code.Apart index lines) (inside : n < lines) {st result : Correction}
    (swept : code.Swept index lines n st result) :
    code.Swept index lines (n + 1) st (code.correct (index n) result) := by
  have unread : ∀ i < code.length, result.bits (index n i) = st.bits (index n i) := swept.later n inside (Nat.le_refl n)
  have other : ∀ k < lines, k ≠ n → ∀ i < code.length,
      (code.correct (index n) result).bits (index k i) = result.bits (index k i) := by
    intro k below differ i inLine
    apply correct_bits_of_notMem
    intro j inLine' same
    exact differ (apart n inside k below j inLine' i inLine same).1.symm
  exact
    { fixed := by
        intro k below i inLine
        by_cases last : k = n
        · subst last
          rw [correct_bits (fun i hi j hj same => (apart k inside k inside i hi j hj same).2) result inLine]
          exact fixed_congr unread i inLine
        · rw [other k (by omega) last i inLine]
          exact swept.fixed k (by omega) i inLine
      later := by
        intro k below above i inLine
        rw [other k below (by omega) i inLine]
        exact swept.later k below (by omega) i inLine
      outside := by
        intro a notLine
        rw [correct_bits_of_notMem (notLine n (Nat.lt_succ_self n))]
        exact swept.outside a fun k below => notLine k (Nat.lt_succ_of_lt below)
      corrected := by
        rw [correct_corrected, swept.corrected, Finset.sum_range_succ, flips_congr unread, Nat.add_assoc]
      uncorrectable := by
        rw [correct_uncorrectable, Bool.or_eq_true, swept.uncorrectable, fails_congr unread, or_assoc]
        simp only [Nat.lt_succ_iff_lt_or_eq]
        constructor
        · intro failed
          obtain before | ⟨k, below, fails⟩ | fails := failed
          · exact .inl before
          · exact .inr ⟨k, .inl below, fails⟩
          · exact .inr ⟨n, .inr rfl, fails⟩
        · intro failed
          obtain before | ⟨k, below | rfl, fails⟩ := failed
          · exact .inl before
          · exact .inr (.inl ⟨k, below, fails⟩)
          · exact .inr (.inr fails) }

theorem sweep_swept {lines : Nat} (apart : code.Apart index lines) (st : Correction) :
    code.Swept index lines lines st (code.sweep index lines st) := by
  have upTo : ∀ n ≤ lines, code.Swept index lines n st (code.sweep index n st) := by
    intro n
    induction n with
    | zero =>
      intro _
      exact
        { fixed := by simp
          later := fun _ _ _ _ _ => rfl
          outside := fun _ _ => rfl
          corrected := rfl
          uncorrectable := by simp [sweep] }
    | succ n ih =>
      intro below
      have stepped := swept_step apart below (ih (Nat.le_of_succ_le below))
      simpa only [sweep, range_succ, foldl_append, foldl_cons, foldl_nil] using stepped
  exact upTo lines (Nat.le_refl lines)

end LineCode

theorem sum_lines (f : Nat → Nat) (width n : Nat) :
    ∑ a ∈ Finset.range (n * width), f a = ∑ r ∈ Finset.range n, ∑ c ∈ Finset.range width, f (r * width + c) := by
  induction n with
  | zero => simp
  | succ n ih => rw [Nat.succ_mul, Finset.sum_range_add, ih, Finset.sum_range_succ]

end Ipsc2Mmdvm.Data
