import Ipsc2Mmdvm.Data.Bytes

namespace Ipsc2Mmdvm.Data

/-! Bits and the bytes they are packed into, most significant bit first. -/

def bitIndex (b : Bool) : Fin 2 :=
  if b then 1 else 0

def bitOf (b : UInt8) (j : Nat) : Bool := b.toNat.testBit (7 - j)

def unpackBits (bytes : List UInt8) : List Bool :=
  bytes.flatMap fun b => (List.range 8).map (bitOf b)

def byteOf (bit : Nat → Bool) : UInt8 :=
  (List.range 8).foldl (fun b j => if bit j then b ||| 1 <<< (7 - j).toUInt8 else b) 0

def packBits (n : Nat) (bits : List Bool) : Vector UInt8 n :=
  Vector.ofFn fun i => byteOf fun j => bits.getD (8 * i + j) false

theorem bitOf_byteOf (bit : Nat → Bool) {j : Nat} (inside : j < 8) : bitOf (byteOf bit) j = bit j := by
  have table : ∀ b0 b1 b2 b3 b4 b5 b6 b7 : Bool, ∀ j < 8,
      bitOf (byteOf fun k => [b0, b1, b2, b3, b4, b5, b6, b7].getD k false) j =
        [b0, b1, b2, b3, b4, b5, b6, b7].getD j false := by
    decide +kernel
  have cases : j = 0 ∨ j = 1 ∨ j = 2 ∨ j = 3 ∨ j = 4 ∨ j = 5 ∨ j = 6 ∨ j = 7 := by omega
  have entry := table (bit 0) (bit 1) (bit 2) (bit 3) (bit 4) (bit 5) (bit 6) (bit 7) j inside
  obtain rfl | rfl | rfl | rfl | rfl | rfl | rfl | rfl := cases <;> exact entry

theorem byteOf_bitOf : ∀ b : UInt8, byteOf (bitOf b) = b := forall_byte (by decide +kernel)

open List hiding Vector

theorem byteOf_congr {bit other : Nat → Bool} (same : ∀ j < 8, bit j = other j) : byteOf bit = byteOf other := by
  simp [byteOf, range_succ, same]

theorem bitOf_zero (j : Nat) : bitOf 0 j = false := by simp [bitOf]

theorem length_unpackBits (bytes : List UInt8) : (unpackBits bytes).length = 8 * bytes.length := by
  induction bytes with
  | nil => rfl
  | cons b rest ih =>
    have split : unpackBits (b :: rest) = (range 8).map (bitOf b) ++ unpackBits rest := rfl
    rw [split, length_append, ih, length_map, length_range, length_cons]
    omega

theorem getD_unpackBits (bytes : List UInt8) (i : Nat) :
    (unpackBits bytes).getD i false = bitOf (bytes.getD (i / 8) 0) (i % 8) := by
  induction bytes generalizing i with
  | nil => simp [unpackBits, bitOf_zero]
  | cons b rest ih =>
    have split : unpackBits (b :: rest) = (range 8).map (bitOf b) ++ unpackBits rest := rfl
    rw [split]
    by_cases first : i < 8
    · have zero : i / 8 = 0 := by omega
      have small : i % 8 = i := by omega
      rw [getD_append _ _ _ _ (by simpa using first), zero, small]
      simp [first]
    · have later : i / 8 = (i - 8) / 8 + 1 := by omega
      have same : (i - 8) % 8 = i % 8 := by omega
      rw [getD_append_right _ _ _ _ (by simpa using Nat.le_of_not_lt first), later, getD_cons_succ]
      simp only [length_map, length_range]
      rw [ih, same]

variable {n : Nat}

theorem unpackBits_packBits {i : Nat} (bits : List Bool) (inside : i < 8 * n) :
    (unpackBits (packBits n bits).toList).getD i false = bits.getD i false := by
  have byte : (packBits n bits).toList.getD (i / 8) 0 = byteOf fun j => bits.getD (8 * (i / 8) + j) false := by
    have bound : i / 8 < n := by omega
    simp [packBits, bound]
  rw [getD_unpackBits, byte, bitOf_byteOf _ (Nat.mod_lt i (by decide)), Nat.div_add_mod]

theorem packBits_congr {bits other : List Bool} (same : ∀ i < 8 * n, bits.getD i false = other.getD i false) :
    packBits n bits = packBits n other := by
  apply Vector.ext
  intro i inside
  simp only [packBits, Vector.getElem_ofFn]
  exact byteOf_congr fun j small => same (8 * i + j) (by omega)

theorem packBits_unpackBits (bytes : Vector UInt8 n) : packBits n (unpackBits bytes.toList) = bytes := by
  apply Vector.ext
  intro i inside
  simp only [packBits, Vector.getElem_ofFn]
  have bits : ∀ j < 8, (unpackBits bytes.toList).getD (8 * i + j) false = bitOf bytes[i] j := by
    intro j small
    have byte : (8 * i + j) / 8 = i := by omega
    have bit : (8 * i + j) % 8 = j := by omega
    rw [getD_unpackBits, byte, bit]
    simp [inside]
  rw [byteOf_congr bits]
  exact byteOf_bitOf bytes[i]

theorem byte_eq_of_bits {a b : UInt8} (same : ∀ j < 8, bitOf a j = bitOf b j) : a = b := by
  rw [← byteOf_bitOf a, ← byteOf_bitOf b]
  exact byteOf_congr same

theorem getD_eq_of_unpackBits {bytes other : List UInt8} {k m : Nat}
    (same : ∀ j < 8, (unpackBits bytes).getD (8 * k + j) false = (unpackBits other).getD (8 * m + j) false) :
    bytes.getD k 0 = other.getD m 0 := by
  apply byte_eq_of_bits
  intro j inside
  have entry := same j inside
  rw [getD_unpackBits, getD_unpackBits] at entry
  have quotient (n : Nat) : (8 * n + j) / 8 = n := by omega
  have remainder (n : Nat) : (8 * n + j) % 8 = j := by omega
  rwa [quotient, quotient, remainder, remainder] at entry

end Ipsc2Mmdvm.Data
