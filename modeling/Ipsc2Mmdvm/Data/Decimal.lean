import Mathlib.Data.Char
import Mathlib.Data.List.DropRight
import Mathlib.Order.Lattice.Nat
import Mathlib.Tactic.Ring

namespace Ipsc2Mmdvm.Data

/-! `decimal width n` has the last `width` digits of `n`, so texts of one width are ordered as the
numbers are.  Digits whose trailing zeros are removed are not. -/

def decimal : Nat → Nat → List Char
  | 0, _ => []
  | width + 1, n => Nat.digitChar (n / 10 ^ width % 10) :: decimal width n

@[simp] theorem length_decimal (width n : Nat) : (decimal width n).length = width := by
  induction width with
  | zero => rfl
  | succ width ih => simp [decimal, ih]

open List

theorem decimal_concat (width n : Nat) :
    decimal (width + 1) n = decimal width (n / 10) ++ [Nat.digitChar (n % 10)] := by
  induction width with
  | zero => simp [decimal]
  | succ width ih =>
    have digit : n / 10 ^ (width + 1) = n / 10 / 10 ^ width := by
      rw [Nat.div_div_eq_div_mul, Nat.pow_succ']
    rw [decimal, ih, decimal, digit, cons_append]

variable {width n m : Nat}

theorem decimal_mod {bound : Nat} (n : Nat) (within : width ≤ bound) :
    decimal width (n % 10 ^ bound) = decimal width n := by
  induction width with
  | zero => rfl
  | succ width ih =>
    obtain ⟨rest, rfl⟩ := Nat.exists_eq_add_of_le within
    have digit : n % 10 ^ (width + 1 + rest) / 10 ^ width % 10 = n / 10 ^ width % 10 := by
      rw [pow_add, pow_succ, Nat.mul_assoc, Nat.mod_mul_right_div_self, Nat.mod_mod_of_dvd _ (Nat.dvd_mul_right ..)]
    rw [decimal, decimal, digit, ih (by omega)]

theorem toDigits_pow_add (width : Nat) (small : n < 10 ^ width) :
    Nat.toDigits 10 (10 ^ width + n) = '1' :: decimal width n := by
  induction width generalizing n with
  | zero =>
    obtain rfl : n = 0 := by simpa using small
    rfl
  | succ width ih =>
    have positive : 0 < 10 ^ width := Nat.pow_pos (by decide)
    have split : 10 ^ (width + 1) + n = 10 * (10 ^ width + n / 10) + n % 10 := by
      rw [Nat.pow_succ]
      omega
    have upper : n / 10 < 10 ^ width := by
      rw [Nat.pow_succ] at small
      omega
    rw [split, ← Nat.toDigits_append_toDigits (by decide) (by omega) (Nat.mod_lt n (by decide)), ih upper,
      Nat.toDigits_of_lt_base (Nat.mod_lt n (by decide)), decimal_concat, cons_append]

theorem digitChar_lt_iff {d e : Nat} (first : d < 10) (second : e < 10) :
    Nat.digitChar d < Nat.digitChar e ↔ d < e := by
  rw [Char.lt_def, UInt32.lt_iff_toNat_lt]
  change (Nat.digitChar d).toNat < (Nat.digitChar e).toNat ↔ d < e
  rw [Nat.toNat_digitChar_of_lt_ten first, Nat.toNat_digitChar_of_lt_ten second]
  omega

theorem digitChar_inj {d e : Nat} (first : d < 10) (second : e < 10) (same : Nat.digitChar d = Nat.digitChar e) :
    d = e := by
  have codes := congrArg Char.toNat same
  rw [Nat.toNat_digitChar_of_lt_ten first, Nat.toNat_digitChar_of_lt_ten second] at codes
  omega

section Lexicographic

variable {α : Type} [LinearOrder α] {a b l m : List α}

theorem append_lt_of_lt (length : a.length = b.length) (below : a < b) : a ++ l < b ++ m := by
  induction a generalizing b with
  | nil =>
    rw [length_nil, eq_comm, length_eq_zero_iff] at length
    subst length
    exact absurd below (lt_irrefl _)
  | cons x a ih =>
    cases b with
    | nil => cases length
    | cons y b =>
      rw [cons_append, cons_append, cons_lt_cons_iff]
      rcases cons_lt_cons_iff.mp below with head | ⟨same, tail⟩
      · exact .inl head
      · exact .inr ⟨same, ih (by simpa using length) tail⟩

theorem append_left_lt_iff : a ++ l < a ++ m ↔ l < m := by
  induction a with
  | nil => rfl
  | cons x a ih => simp [ih]

end Lexicographic

theorem mod_pow_succ (width n : Nat) : n % 10 ^ (width + 1) = n / 10 ^ width % 10 * 10 ^ width + n % 10 ^ width := by
  rw [Nat.pow_succ, Nat.mod_mul]
  ring

theorem decimal_lt (below : n % 10 ^ width < m % 10 ^ width) : decimal width n < decimal width m := by
  induction width with
  | zero =>
    simp only [Nat.pow_zero, Nat.mod_one] at below
    omega
  | succ width ih =>
    have positive : 0 < 10 ^ width := Nat.pow_pos (by decide)
    rw [mod_pow_succ, mod_pow_succ] at below
    rw [decimal, decimal, cons_lt_cons_iff, digitChar_lt_iff (Nat.mod_lt _ (by decide)) (Nat.mod_lt _ (by decide))]
    have last := Nat.mod_lt n positive
    have last' := Nat.mod_lt m positive
    rcases Nat.lt_trichotomy (n / 10 ^ width % 10) (m / 10 ^ width % 10) with less | same | greater
    · exact .inl less
    · rw [same] at below
      exact .inr ⟨by rw [same], ih (by omega)⟩
    · exfalso
      have step := Nat.mul_le_mul_right (10 ^ width) (show m / 10 ^ width % 10 + 1 ≤ n / 10 ^ width % 10 from greater)
      rw [Nat.add_mul] at step
      omega

def appendInt (width n : Nat) : List Char := if n < 10 ^ width then decimal width n else Nat.toDigits 10 n

def layoutText : List (Nat × List Char) → List Nat → List Char
  | (width, separator) :: layout, value :: values =>
    appendInt width value ++ (separator ++ layoutText layout values)
  | _, _ => []

def Fits (layout : List (Nat × List Char)) (values : List Nat) : Prop :=
  List.Forall₂ (fun field value => value < 10 ^ field.1) layout values

theorem layoutText_lt {layout : List (Nat × List Char)} {values values' : List Nat} (fits : Fits layout values)
    (fits' : Fits layout values') (below : values < values') (l m : List Char) :
    layoutText layout values ++ l < layoutText layout values' ++ m := by
  induction fits generalizing values' with
  | nil =>
    cases fits'
    exact absurd below (lt_irrefl _)
  | @cons field value layout values small fits ih =>
    cases fits' with
    | @cons _ value' _ values' small' fits' =>
      simp only [layoutText, appendInt, if_pos small, if_pos small', append_assoc]
      rcases cons_lt_cons_iff.mp below with less | ⟨rfl, rest⟩
      · refine append_lt_of_lt (by simp) (decimal_lt ?_)
        rwa [Nat.mod_eq_of_lt small, Nat.mod_eq_of_lt small']
      · rw [append_left_lt_iff, append_left_lt_iff]
        exact ih fits' rest

def trimmedDecimal (width n : Nat) : List Char := (decimal width n).rdropWhile (· == '0')

theorem rdropWhile_cons {α : Type} (p : α → Bool) (x : α) (l : List α) :
    (x :: l).rdropWhile p = if l.rdropWhile p = [] ∧ p x = true then [] else x :: l.rdropWhile p := by
  induction l using reverseRecOn with
  | nil => simp [rdropWhile_singleton]
  | append_singleton l y ih =>
    rw [← cons_append, rdropWhile_concat, rdropWhile_concat]
    cases trimmed : p y with
    | true => simpa using ih
    | false => simp

theorem trimmedDecimal_eq_nil_iff (width n : Nat) : trimmedDecimal width n = [] ↔ 10 ^ width ∣ n := by
  induction width with
  | zero => simp [trimmedDecimal, decimal]
  | succ width ih =>
    have zero : Nat.digitChar (n / 10 ^ width % 10) = '0' ↔ n / 10 ^ width % 10 = 0 :=
      ⟨fun same => digitChar_inj (Nat.mod_lt _ (by decide)) (by decide) same, fun same => by rw [same]; rfl⟩
    have digits : 10 ^ (width + 1) ∣ n ↔ 10 ^ width ∣ n ∧ n / 10 ^ width % 10 = 0 := by
      rw [← Nat.dvd_iff_mod_eq_zero]
      constructor
      · intro divides
        exact ⟨(pow_dvd_pow 10 (Nat.le_succ width)).trans divides, Nat.dvd_div_of_mul_dvd (Nat.pow_succ .. ▸ divides)⟩
      · intro ⟨block, digit⟩
        rw [Nat.pow_succ]
        exact Nat.mul_dvd_of_dvd_div block digit
    rw [digits, ← ih, ← zero, trimmedDecimal, decimal, rdropWhile_cons]
    simp [trimmedDecimal]

theorem trimmedDecimal_succ (rest : ¬10 ^ (width + 1) ∣ n) :
    trimmedDecimal (width + 1) n = Nat.digitChar (n / 10 ^ width % 10) :: trimmedDecimal width n := by
  rw [← trimmedDecimal_eq_nil_iff, trimmedDecimal, decimal, rdropWhile_cons] at rest
  rw [trimmedDecimal, decimal, rdropWhile_cons]
  split at rest
  · exact absurd rfl rest
  · next kept => rw [if_neg kept, trimmedDecimal]

/-- The digits of `n`, up to its last `k`, which are zeros, begin those of `m`. -/
def Begins (width n m : Nat) : Prop := ∃ k, 1 ≤ k ∧ k ≤ width ∧ 10 ^ k ∣ n ∧ m < n + 10 ^ k

theorem div_pow_eq_of_zeros {k : Nat} (bound : k ≤ width) (zeros : 10 ^ k ∣ n) (below : n ≤ m) (close : m < n + 10 ^ k) :
    n / 10 ^ width = m / 10 ^ width := by
  obtain ⟨rest, rfl⟩ := Nat.exists_eq_add_of_le bound
  obtain ⟨head, rfl⟩ := zeros
  obtain ⟨tail, rfl⟩ := Nat.exists_eq_add_of_le below
  have positive : 0 < 10 ^ k := Nat.pow_pos (by decide)
  have small : tail / 10 ^ k = 0 := Nat.div_eq_of_lt (by omega)
  rw [pow_add, ← Nat.div_div_eq_div_mul, ← Nat.div_div_eq_div_mul, Nat.mul_add_div positive, small, Nat.add_zero,
    Nat.mul_div_cancel_left head positive]

theorem begins_succ_iff (rest : ¬10 ^ (width + 1) ∣ n) : Begins (width + 1) n m ↔ Begins width n m := by
  constructor
  · intro ⟨k, least, bound, zeros, close⟩
    obtain bound | rfl := Nat.le_succ_iff.mp bound
    · exact ⟨k, least, bound, zeros, close⟩
    · exact absurd zeros rest
  · intro ⟨k, least, bound, zeros, close⟩
    exact ⟨k, least, by omega, zeros, close⟩

theorem trimmedDecimal_order {stop : Char} (above : ∀ d < 10, Nat.digitChar d < stop) (below : n < m)
    (block : n / 10 ^ width = m / 10 ^ width) :
    (¬Begins width n m → trimmedDecimal width n ++ [stop] < trimmedDecimal width m ++ [stop]) ∧
      (Begins width n m → trimmedDecimal width m ++ [stop] < trimmedDecimal width n ++ [stop]) := by
  induction width with
  | zero =>
    simp only [Nat.pow_zero, Nat.div_one] at block
    omega
  | succ width ih =>
    have positive : 0 < 10 ^ (width + 1) := Nat.pow_pos (by decide)
    have within : m < n / 10 ^ (width + 1) * 10 ^ (width + 1) + 10 ^ (width + 1) := by
      rw [block]
      exact Nat.lt_div_mul_add positive
    have start : n / 10 ^ (width + 1) * 10 ^ (width + 1) ≤ n := Nat.div_mul_le_self ..
    -- the block of `10 ^ (width + 1)` numbers has one multiple, its first number
    have rest : ¬10 ^ (width + 1) ∣ m := by
      intro divides
      rw [block, Nat.div_mul_cancel divides] at start
      omega
    rw [trimmedDecimal_succ rest]
    have digit := Nat.mod_lt (n / 10 ^ width) (show 0 < 10 by decide)
    have digit' := Nat.mod_lt (m / 10 ^ width) (show 0 < 10 by decide)
    by_cases divides : 10 ^ (width + 1) ∣ n
    · rw [(trimmedDecimal_eq_nil_iff _ _).mpr divides, nil_append]
      rw [Nat.div_mul_cancel divides] at within
      refine ⟨fun none => absurd ⟨width + 1, by omega, le_rfl, divides, within⟩ none, fun _ => ?_⟩
      exact cons_lt_cons_iff.mpr (.inl (above _ digit'))
    · rw [trimmedDecimal_succ divides]
      simp only [cons_append, cons_lt_cons_iff, digitChar_lt_iff digit digit', digitChar_lt_iff digit' digit]
      have upper : n / 10 ^ width / 10 = m / 10 ^ width / 10 := by
        rw [Nat.div_div_eq_div_mul, Nat.div_div_eq_div_mul, ← Nat.pow_succ, block]
      have order : n / 10 ^ width ≤ m / 10 ^ width := Nat.div_le_div_right below.le
      rw [begins_succ_iff divides]
      by_cases same : n / 10 ^ width = m / 10 ^ width
      · obtain ⟨less, greater⟩ := ih same
        rw [same]
        exact ⟨fun none => .inr ⟨rfl, less none⟩, fun begins => .inr ⟨rfl, greater begins⟩⟩
      · refine ⟨fun _ => .inl (by omega), fun begins => ?_⟩
        obtain ⟨k, -, bound, zeros, close⟩ := begins
        exact absurd (div_pow_eq_of_zeros bound zeros below.le close) same

end Ipsc2Mmdvm.Data
