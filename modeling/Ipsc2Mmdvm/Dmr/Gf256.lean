import Ipsc2Mmdvm.Data.Bits
import Ipsc2Mmdvm.Dmr.LinkControl
import Mathlib.Algebra.BigOperators.Group.Finset.Basic
import Mathlib.Algebra.Group.Hom.End
import Mathlib.Algebra.Ring.Commute
import Mathlib.Algebra.BigOperators.Ring.Finset
import Mathlib.Dynamics.PeriodicPts.Defs
import Mathlib.NumberTheory.Divisors
import Mathlib.Order.Interval.Finset.Nat

namespace Ipsc2Mmdvm.Dmr

open Data Finset Function

/-! A product is a sum of iterated doublings that the other factor selects, so that the laws of
`GF256Mul` come from the ring of additive maps. -/

@[ext] structure GF256 where
  byte : UInt8
deriving DecidableEq

namespace GF256

instance : Zero GF256 := ⟨⟨0⟩⟩

instance : One GF256 := ⟨⟨1⟩⟩

instance : Add GF256 := ⟨fun a b => ⟨a.byte ^^^ b.byte⟩⟩

instance : Neg GF256 := ⟨fun a => a⟩

instance : Mul GF256 := ⟨fun a b => ⟨gf256Mul a.byte b.byte⟩⟩

instance : AddCommGroup GF256 where
  add_assoc a b c := GF256.ext (UInt8.xor_assoc a.byte b.byte c.byte)
  zero_add a := GF256.ext UInt8.zero_xor
  add_zero a := GF256.ext UInt8.xor_zero
  neg_add_cancel a := GF256.ext UInt8.xor_self
  add_comm a b := GF256.ext (UInt8.xor_comm a.byte b.byte)
  nsmul := nsmulRec
  zsmul := zsmulRec

def doubled (a : UInt8) : UInt8 := if a &&& 0x80 != 0 then a <<< 1 ^^^ 0x1D else a <<< 1

theorem top_bit : ∀ a : UInt8, (a &&& 0x80 != 0) = bitOf a 0 := forall_byte (by decide +kernel)

theorem low_bit : ∀ b : UInt8, (b &&& 1 != 0) = b.toNat.testBit 0 := forall_byte (by decide +kernel)

theorem doubled_xor (a b : UInt8) : doubled (a ^^^ b) = doubled a ^^^ doubled b := by
  have bit : bitOf (a ^^^ b) 0 = (bitOf a 0 ^^ bitOf b 0) := by
    simp only [bitOf, UInt8.toNat_xor, Nat.testBit_xor]
  have cancel (x y z : UInt8) : x ^^^ z ^^^ (y ^^^ z) = x ^^^ y := by
    rw [UInt8.xor_comm y z, ← UInt8.xor_assoc, UInt8.xor_assoc x z z, UInt8.xor_self, UInt8.xor_zero]
  simp only [doubled, top_bit, bit, UInt8.shiftLeft_xor]
  cases bitOf a 0 <;> cases bitOf b 0
  · rfl
  · exact UInt8.xor_assoc _ _ _
  · simp only [Bool.true_xor, Bool.not_false, if_true, Bool.false_eq_true, if_false, UInt8.xor_assoc]
    rw [UInt8.xor_comm (b <<< 1) 0x1D]
  · simp only [Bool.xor_self, Bool.false_eq_true, if_false, if_true, cancel]

def double : AddMonoid.End GF256 :=
  AddMonoidHom.mk' (fun a => ⟨doubled a.byte⟩) fun a b => GF256.ext (doubled_xor a.byte b.byte)

def select (n : Nat) (b : UInt8) : AddMonoid.End GF256 :=
  ∑ i ∈ Finset.range n, if b.toNat.testBit i then double ^ i else 0

theorem repeat_gf256Round (a b : UInt8) (n : Nat) : (⟨(Nat.repeat gf256Round n (0, a, b)).1⟩ : GF256) = select n b ⟨a⟩ ∧
      (⟨(Nat.repeat gf256Round n (0, a, b)).2.1⟩ : GF256) = (double ^ n) ⟨a⟩ ∧
      (Nat.repeat gf256Round n (0, a, b)).2.2.toNat = b.toNat >>> n := by
  induction n with
  | zero => exact ⟨rfl, rfl, rfl⟩
  | succ n ih =>
    obtain ⟨product, factor, rest⟩ := ih
    have step : Nat.repeat gf256Round (n + 1) (0, a, b) = gf256Round (Nat.repeat gf256Round n (0, a, b)) := rfl
    rw [step]
    generalize Nat.repeat gf256Round n (0, a, b) = s at product factor rest ⊢
    obtain ⟨p, aa, bb⟩ := s
    have bit : (bb &&& 1 != 0) = b.toNat.testBit n := by
      rw [low_bit, rest, Nat.testBit_shiftRight, Nat.add_zero]
    refine ⟨?_, ?_, ?_⟩
    · have sum : select (n + 1) b ⟨a⟩ =
          select n b ⟨a⟩ + (if b.toNat.testBit n then double ^ n else 0 : AddMonoid.End GF256) ⟨a⟩ := by
        simp only [select, sum_range_succ]
        rfl
      rw [sum, ← product]
      simp only [gf256Round, bit]
      cases b.toNat.testBit n with
      | false => exact (add_zero _).symm
      | true =>
        simp only [if_true, ← factor]
        rfl
    · rw [pow_succ']
      exact congrArg double factor
    · simp only [gf256Round, UInt8.toNat_shiftRight, rest]
      exact Nat.shiftRight_add b.toNat n 1

theorem mul_eq (a b : GF256) : a * b = select 8 b.byte a := (repeat_gf256Round a.byte b.byte 8).1

theorem select_commute (b c : UInt8) : Commute (select 8 b) (select 8 c) := by
  have powers (i j : Nat) : Commute (if b.toNat.testBit i then double ^ i else 0 : AddMonoid.End GF256)
      (if c.toNat.testBit j then double ^ j else 0) := by
    split
    · split
      · exact (Commute.refl double).pow_pow i j
      · exact Commute.zero_right _
    · exact Commute.zero_left _
  exact Commute.sum_left _ _ _ fun i _ => Commute.sum_right _ _ _ fun j _ => powers i j

theorem one_mul_byte : ∀ b : UInt8, gf256Mul 1 b = b := forall_byte (by decide +kernel)

protected theorem one_mul (a : GF256) : 1 * a = a := GF256.ext (one_mul_byte a.byte)

theorem select_one (a : GF256) : select 8 a.byte 1 = a := by rw [← mul_eq, GF256.one_mul]

theorem select_select (a : GF256) (b c : UInt8) : select 8 b (select 8 c a) = select 8 c (select 8 b a) :=
  DFunLike.congr_fun (select_commute b c).eq a

protected theorem mul_comm (a b : GF256) : a * b = b * a := by
  calc a * b = select 8 b.byte (select 8 a.byte 1) := by rw [select_one, mul_eq]
    _ = select 8 a.byte (select 8 b.byte 1) := select_select 1 b.byte a.byte
    _ = b * a := by rw [select_one, mul_eq]

protected theorem mul_assoc (a b c : GF256) : a * b * c = a * (b * c) := by
  calc a * b * c = select 8 c.byte (select 8 a.byte b) := by rw [GF256.mul_comm a b, mul_eq, mul_eq]
    _ = select 8 a.byte (select 8 c.byte b) := select_select b c.byte a.byte
    _ = a * (b * c) := by rw [GF256.mul_comm a, mul_eq, mul_eq]

protected theorem add_mul (a b c : GF256) : (a + b) * c = a * c + b * c := by
  rw [mul_eq, mul_eq, mul_eq, map_add]

protected theorem zero_mul (a : GF256) : 0 * a = 0 := by rw [mul_eq, map_zero]

instance : CommRing GF256 where
  left_distrib a b c := by
    rw [GF256.mul_comm a (b + c), GF256.add_mul, GF256.mul_comm b, GF256.mul_comm c]
  right_distrib := GF256.add_mul
  zero_mul := GF256.zero_mul
  mul_zero a := by rw [GF256.mul_comm, GF256.zero_mul]
  mul_assoc := GF256.mul_assoc
  one_mul := GF256.one_mul
  mul_one a := by rw [GF256.mul_comm, GF256.one_mul]
  mul_comm := GF256.mul_comm
  zsmul := zsmulRec
  neg_add_cancel := neg_add_cancel

theorem eq_zero_of_doubled : ∀ a : UInt8, doubled a = 0 → a = 0 := forall_byte (by decide +kernel)

theorem minimalPeriod_doubled : minimalPeriod doubled 1 = 255 := by
  have periodic : Function.IsPeriodicPt doubled 255 1 := by
    simp only [Function.IsPeriodicPt, Function.IsFixedPt]
    decide +kernel
  have back : doubled^[minimalPeriod doubled 1] 1 = 1 := isPeriodicPt_minimalPeriod doubled 1
  have divisor : minimalPeriod doubled 1 ∈ Nat.divisors 255 :=
    Nat.mem_divisors.mpr ⟨periodic.minimalPeriod_dvd, by decide⟩
  have shorter : ∀ m ∈ Nat.divisors 255, m = 255 ∨ doubled^[m] 1 ≠ 1 := by decide +kernel
  exact (shorter _ divisor).resolve_right fun other => other back

theorem eq_zero_of_iterate {a : UInt8} {i : Nat} (zero : doubled^[i] a = 0) : a = 0 := by
  induction i with
  | zero => exact zero
  | succ i ih =>
    rw [iterate_succ_apply'] at zero
    exact ih (eq_zero_of_doubled _ zero)

theorem iterate_doubled_ne_zero (i : Nat) : doubled^[i] 1 ≠ 0 :=
  fun zero => absurd (eq_zero_of_iterate zero) (by decide)

theorem exists_iterate_doubled {a : UInt8} (nonzero : a ≠ 0) : ∃ i, doubled^[i] 1 = a := by
  let powers : Finset Nat := (range 255).image fun i => (doubled^[i] 1).toNat
  have injective : Set.InjOn (fun i => (doubled^[i] 1).toNat) (range 255) := by
    intro i inside j inside' same
    have within := @iterate_injOn_Iio_minimalPeriod _ doubled 1
    rw [minimalPeriod_doubled] at within
    exact within (by simpa using inside) (by simpa using inside') (UInt8.toNat_inj.mp same)
  have size : powers.card = 255 := by rw [card_image_of_injOn injective, card_range]
  have nonzeros : powers ⊆ Finset.Ico 1 256 := by
    intro n member
    obtain ⟨i, -, rfl⟩ := mem_image.mp member
    have positive : (doubled^[i] 1).toNat ≠ 0 := fun zero => iterate_doubled_ne_zero i (UInt8.toNat_inj.mp zero)
    exact mem_Ico.mpr ⟨Nat.one_le_iff_ne_zero.mpr positive, UInt8.toNat_lt _⟩
  have all : powers = Finset.Ico 1 256 := eq_of_subset_of_card_le nonzeros (by rw [size, Nat.card_Ico])
  have positive : a.toNat ≠ 0 := fun zero => nonzero (UInt8.toNat_inj.mp zero)
  have member : a.toNat ∈ powers := by
    rw [all, mem_Ico]
    exact ⟨Nat.one_le_iff_ne_zero.mpr positive, a.toNat_lt⟩
  obtain ⟨i, -, same⟩ := mem_image.mp member
  exact ⟨i, UInt8.toNat_inj.mp same⟩

theorem mul_two (a : GF256) : a * ⟨2⟩ = ⟨doubled a.byte⟩ := by
  have round : ∀ a : UInt8, gf256Mul a 2 = doubled a := forall_byte (by decide +kernel)
  exact GF256.ext (round a.byte)

theorem mul_two_pow (a : GF256) (i : Nat) : a * ⟨2⟩ ^ i = ⟨doubled^[i] a.byte⟩ := by
  induction i with
  | zero => rw [pow_zero, mul_one, iterate_zero_apply]
  | succ i ih => rw [pow_succ, ← mul_assoc, ih, mul_two, iterate_succ_apply']

instance : Nontrivial GF256 := ⟨0, 1, by decide⟩

instance : NoZeroDivisors GF256 where
  eq_zero_or_eq_zero_of_mul_eq_zero := by
    intro a b product
    by_cases zero : b = 0
    · exact .inr zero
    · obtain ⟨i, power⟩ := exists_iterate_doubled fun byte => zero (GF256.ext byte)
      have same : b = ⟨2⟩ ^ i := by
        rw [← one_mul (⟨2⟩ ^ i : GF256), mul_two_pow]
        exact GF256.ext power.symm
      rw [same, mul_two_pow] at product
      exact .inl (GF256.ext (eq_zero_of_iterate (congrArg GF256.byte product)))

instance : IsDomain GF256 := NoZeroDivisors.to_isDomain GF256

end GF256

end Ipsc2Mmdvm.Dmr
