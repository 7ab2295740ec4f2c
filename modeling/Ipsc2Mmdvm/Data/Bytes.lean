import Mathlib.Data.List.DropRight
import Mathlib.Data.List.GetD
import Mathlib.Data.Nat.Notation
import Mathlib.Data.Vector.Defs
import Mathlib.Logic.Function.Iterate

namespace Ipsc2Mmdvm.Data

/-! Byte strings and the library functions that read them. -/

def ascii (text : String) : List UInt8 := text.toList.map fun c => c.toNat.toUInt8

def utf8 (text : String) : List UInt8 := text.toList.flatMap String.utf8EncodeChar

abbrev Digest := Vector UInt8 32

def padRight (width : Nat) (text : String) : List UInt8 :=
  utf8 text ++ List.replicate (width - text.length) 0x20

def padZeros (width n : Nat) : List UInt8 :=
  List.replicate (width - (toString n).length) 0x30 ++ utf8 (toString n)

def slice (data : List UInt8) (lo hi : Nat) : List UInt8 := (data.take hi).drop lo

variable {data : List UInt8}

open List hiding Vector

theorem length_slice {lo hi : Nat} (inside : hi ≤ data.length) : (slice data lo hi).length = hi - lo := by
  rw [slice, length_drop, length_take, Nat.min_eq_left inside]

theorem slice_middle (front middle back : List UInt8) :
    slice (front ++ middle ++ back) front.length (front.length + middle.length) = middle := by
  rw [slice, append_assoc, take_length_add_append, drop_left, take_left]

theorem slice_append_right (front back : List UInt8) (lo hi : Nat) :
    slice (front ++ back) (front.length + lo) (front.length + hi) = slice back lo hi := by
  rw [slice, take_length_add_append, drop_length_add_append, slice]

theorem ofFn_getD_toList {n : Nat} (bytes : Vector UInt8 n) : (Vector.ofFn fun i : Fin n => bytes.toList.getD i 0) = bytes := by
  apply Vector.ext
  intro i inside
  simp

theorem ofFn_getD {start count : Nat} (inside : start + count ≤ data.length) :
    (ofFn fun i : Fin count => data.getD (start + i) 0) = (data.drop start).take count := by
  apply ext_getElem
  · simp
    omega
  · intro i first second
    have below : start + i < data.length := by
      simp only [length_ofFn] at first
      omega
    simp [getD_eq_getElem?_getD, getElem?_eq_getElem below]

def uint32At (data : List UInt8) (i : Nat) : UInt32 :=
  (data.getD i 0).toUInt32 <<< 24 ||| (data.getD (i + 1) 0).toUInt32 <<< 16 |||
    (data.getD (i + 2) 0).toUInt32 <<< 8 ||| (data.getD (i + 3) 0).toUInt32

def putUint32 (v : UInt32) : List UInt8 :=
  [(v >>> 24).toUInt8, (v >>> 16).toUInt8, (v >>> 8).toUInt8, v.toUInt8]

theorem forall_byte {P : UInt8 → Prop} (each : ∀ n : Fin 256, P (UInt8.ofNat n)) (b : UInt8) : P b := by
  have same := each ⟨b.toNat, b.toNat_lt⟩
  rwa [UInt8.ofNat_toNat] at same

theorem shiftLeft_or_byte (n : Nat) {b : Nat} (small : b < 256) : n <<< 8 ||| b = n * 256 + b := by
  have sum := Nat.shiftLeft_add_eq_or_of_lt (show b < 2 ^ 8 from small) n
  rw [← sum, Nat.shiftLeft_eq]

theorem or_bytes3 {x y z : Nat} (second : y < 256) (third : z < 256) :
    x <<< 16 ||| y <<< 8 ||| z = (x * 256 + y) * 256 + z := by
  have pair : x <<< 16 ||| y <<< 8 = (x <<< 8 ||| y) <<< 8 := by
    rw [Nat.shiftLeft_or_distrib, ← Nat.shiftLeft_add]
  rw [pair, shiftLeft_or_byte _ third, shiftLeft_or_byte _ second]

theorem or_bytes4 {w x y z : Nat} (first : x < 256) (second : y < 256) (third : z < 256) :
    w <<< 24 ||| x <<< 16 ||| y <<< 8 ||| z = ((w * 256 + x) * 256 + y) * 256 + z := by
  have triple : w <<< 24 ||| x <<< 16 ||| y <<< 8 = (w <<< 16 ||| x <<< 8 ||| y) <<< 8 := by
    rw [Nat.shiftLeft_or_distrib, Nat.shiftLeft_or_distrib, ← Nat.shiftLeft_add, ← Nat.shiftLeft_add]
  rw [triple, shiftLeft_or_byte _ third, or_bytes3 first second]

theorem uint32At_putUint32 (v : UInt32) : uint32At (putUint32 v) 0 = v := by
  have fits : ∀ n, (n % 256) <<< 24 % 4294967296 = (n % 256) <<< 24 ∧ (n % 256) <<< 16 % 4294967296 = (n % 256) <<< 16 ∧
      (n % 256) <<< 8 % 4294967296 = (n % 256) <<< 8 := by
    intro n
    simp only [Nat.shiftLeft_eq]
    omega
  have bound := v.toNat_lt
  apply UInt32.toNat.inj
  simp only [uint32At, putUint32, getD_cons_zero, getD_cons_succ, Nat.zero_add, UInt32.toNat_or,
    UInt32.toNat_shiftLeft, UInt8.toNat_toUInt32, UInt32.toNat_toUInt8, UInt32.toNat_shiftRight]
  simp [fits]
  rw [or_bytes4 (Nat.mod_lt _ (by decide)) (Nat.mod_lt _ (by decide)) (Nat.mod_lt _ (by decide))]
  simp only [Nat.shiftRight_eq_div_pow]
  omega

theorem uint32At_append (front rest : List UInt8) (id : UInt32) :
    uint32At (front ++ (putUint32 id ++ rest)) front.length = id := by
  have byte (i : Nat) : (front ++ (putUint32 id ++ rest)).getD (front.length + i) 0 = (putUint32 id ++ rest).getD i 0 := by
    rw [getD_append_right _ _ _ _ (by omega), Nat.add_sub_cancel_left]
  have first : (front ++ (putUint32 id ++ rest)).getD front.length 0 = (putUint32 id ++ rest).getD 0 0 := byte 0
  rw [uint32At, first, byte, byte, byte]
  exact uint32At_putUint32 id

def trimZeros (data : List UInt8) : List UInt8 := (data.dropWhile (· == 0)).rdropWhile (· == 0)

def spaces : List (List UInt8) :=
  [[0x09], [0x0A], [0x0B], [0x0C], [0x0D], [0x20], [0xC2, 0x85], [0xC2, 0xA0], [0xE1, 0x9A, 0x80],
    [0xE2, 0x80, 0x80], [0xE2, 0x80, 0x81], [0xE2, 0x80, 0x82], [0xE2, 0x80, 0x83],
    [0xE2, 0x80, 0x84], [0xE2, 0x80, 0x85], [0xE2, 0x80, 0x86], [0xE2, 0x80, 0x87],
    [0xE2, 0x80, 0x88], [0xE2, 0x80, 0x89], [0xE2, 0x80, 0x8A], [0xE2, 0x80, 0xA8],
    [0xE2, 0x80, 0xA9], [0xE2, 0x80, 0xAF], [0xE2, 0x81, 0x9F], [0xE3, 0x80, 0x80]]

def dropOne (characters : List (List UInt8)) (data : List UInt8) : List UInt8 :=
  match characters.find? (·.isPrefixOf data) with
  | none => data
  | some character => data.drop character.length

def trimLeft (characters : List (List UInt8)) (data : List UInt8) : List UInt8 :=
  (dropOne characters)^[data.length] data

def trimSpace (data : List UInt8) : List UInt8 :=
  (trimLeft (spaces.map List.reverse) (trimLeft spaces data).reverse).reverse

example : trimSpace (ascii " \tN0CALL \r\n") = ascii "N0CALL" := by decide

end Ipsc2Mmdvm.Data
