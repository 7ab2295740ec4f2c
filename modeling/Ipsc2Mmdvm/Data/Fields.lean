import Ipsc2Mmdvm.Data.Bytes
import Ipsc2Mmdvm.Data.Decimal
import Ipsc2Mmdvm.Data.Text
import Mathlib.Algebra.BigOperators.Group.List.Lemmas
import Mathlib.Algebra.Order.BigOperators.Group.List

namespace Ipsc2Mmdvm.Data

/-! `fmt` pads a text or a number to a width but never shortens it, and it counts characters where a
reader counts bytes. -/

def IsAscii (text : String) : Prop := ∀ c ∈ text.toList, c.toNat < 128

instance instDecidableIsAscii (text : String) : Decidable (IsAscii text) :=
  @List.decidableBAll Char (fun c => c.toNat < 128) (fun c => Nat.decLt c.toNat 128) text.toList

theorem length_utf8EncodeChar_eq_one_iff (c : Char) : (String.utf8EncodeChar c).length = 1 ↔ c.toNat < 128 := by
  rw [String.length_utf8EncodeChar, Char.utf8Size_eq_one_iff, UInt32.le_iff_toNat_le]
  exact Nat.lt_succ_iff.symm

open List

theorem length_flatMap_utf8 (chars : List Char) : chars.length ≤ (chars.flatMap String.utf8EncodeChar).length ∧
      ((chars.flatMap String.utf8EncodeChar).length = chars.length ↔ ∀ c ∈ chars, c.toNat < 128) := by
  induction chars with
  | nil => simp
  | cons c chars ih =>
    have positive : 0 < (String.utf8EncodeChar c).length := by
      rw [String.length_utf8EncodeChar]
      exact Char.utf8Size_pos c
    have one := length_utf8EncodeChar_eq_one_iff c
    rw [flatMap_cons, length_append, length_cons, forall_mem_cons, ← one, ← ih.2]
    omega

theorem length_le_utf8 (text : String) : text.length ≤ (utf8 text).length := (length_flatMap_utf8 text.toList).1

theorem length_utf8_eq_iff (text : String) : (utf8 text).length = text.length ↔ IsAscii text :=
  (length_flatMap_utf8 text.toList).2

variable {text : String} {width n : Nat} {widths : List Nat}

theorem utf8_of_isAscii (isAscii : IsAscii text) : utf8 text = ascii text := by
  have each (chars : List Char) (small : ∀ c ∈ chars, c.toNat < 128) :
      chars.flatMap String.utf8EncodeChar = chars.map fun c => c.toNat.toUInt8 := by
    induction chars with
    | nil => rfl
    | cons c chars ih =>
      rw [forall_mem_cons] at small
      have one : c.utf8Size = 1 := by
        rw [← String.length_utf8EncodeChar]
        exact (length_utf8EncodeChar_eq_one_iff c).mpr small.1
      rw [flatMap_cons, ih small.2, String.utf8EncodeChar_eq_singleton one]
      rfl
  exact each text.toList isAscii

theorem utf8_lt_of_isAscii (isAscii : IsAscii text) : ∀ b ∈ utf8 text, b < 0x80 := by
  intro b member
  rw [utf8_of_isAscii isAscii] at member
  obtain ⟨c, found, rfl⟩ := mem_map.mp member
  have small := isAscii c found
  rw [UInt8.lt_iff_toNat_lt]
  change c.toNat % 256 < 128
  omega

theorem width_le_padRight (width : Nat) (text : String) : width ≤ (padRight width text).length := by
  have bytes := length_le_utf8 text
  rw [padRight, length_append, length_replicate]
  omega

theorem length_padRight_eq_iff : (padRight width text).length = width ↔ IsAscii text ∧ text.length ≤ width := by
  have bytes := length_le_utf8 text
  rw [← length_utf8_eq_iff, padRight, length_append, length_replicate]
  omega

theorem toDigits_step (large : 10 ≤ n) : Nat.toDigits 10 n = Nat.toDigits 10 (n / 10) ++ [Nat.digitChar (n % 10)] := by
  have last := Nat.mod_lt n (show 0 < 10 by decide)
  have split := Nat.toDigits_append_toDigits (show 1 < 10 by decide) (show 0 < n / 10 by omega) last
  rw [Nat.div_add_mod, Nat.toDigits_of_lt_base last] at split
  exact split.symm

theorem decimal_zero (width : Nat) : decimal width 0 = replicate width '0' := by
  induction width with
  | zero => rfl
  | succ width ih =>
    rw [decimal, ih, Nat.zero_div, replicate_succ]
    rfl

theorem padded_digits (small : n < 10 ^ (width + 1)) :
    replicate (width + 1 - (Nat.toDigits 10 n).length) '0' ++ Nat.toDigits 10 n = decimal (width + 1) n := by
  induction width generalizing n with
  | zero =>
    have small : n < 10 := small
    rw [Nat.toDigits_of_lt_base small, decimal, decimal, Nat.pow_zero, Nat.div_one, Nat.mod_eq_of_lt small]
    rfl
  | succ width ih =>
    rw [decimal_concat]
    by_cases single : n < 10
    · rw [Nat.toDigits_of_lt_base single, Nat.div_eq_of_lt single, Nat.mod_eq_of_lt single, decimal_zero]
      rfl
    · have upper : n / 10 < 10 ^ (width + 1) := by
        rw [Nat.pow_succ] at small
        omega
      rw [toDigits_step (Nat.le_of_not_lt single), ← ih upper, length_append, length_singleton,
        Nat.add_sub_add_right, append_assoc]

theorem lt_pow_length_toDigits (n : Nat) : n < 10 ^ (Nat.toDigits 10 n).length := by
  induction n using Nat.strongRecOn with
  | ind n ih =>
    by_cases single : n < 10
    · rw [Nat.toDigits_of_lt_base single]
      exact single
    · have upper := ih (n / 10) (by omega)
      rw [toDigits_step (Nat.le_of_not_lt single), length_append, length_singleton, Nat.pow_succ]
      omega

theorem length_toDigits_le_iff : (Nat.toDigits 10 n).length ≤ width + 1 ↔ n < 10 ^ (width + 1) := by
  constructor
  · intro short
    exact (lt_pow_length_toDigits n).trans_le (Nat.pow_le_pow_right (by decide) short)
  · intro small
    have length := congrArg length (padded_digits small)
    rw [length_append, length_replicate, length_decimal] at length
    omega

theorem isAscii_toString (n : Nat) : IsAscii (toString n) := by
  intro c member
  rw [Nat.toString_eq_repr, Nat.toList_repr] at member
  have digit := Nat.isDigit_of_mem_toDigits (by decide) (by decide) member
  simp only [Char.isDigit, Bool.and_eq_true, decide_eq_true_eq] at digit
  have most : c.val.toNat ≤ 57 := UInt32.le_iff_toNat_le.mp digit.2
  exact most.trans_lt (by decide)

theorem length_toString (n : Nat) : (toString n).length = (Nat.toDigits 10 n).length := by
  rw [← String.length_toList, Nat.toString_eq_repr, Nat.toList_repr]

theorem length_utf8_toString (n : Nat) : (utf8 (toString n)).length = (Nat.toDigits 10 n).length := by
  rw [(length_utf8_eq_iff _).mpr (isAscii_toString n), length_toString]

theorem width_le_padZeros (width n : Nat) : width ≤ (padZeros width n).length := by
  rw [padZeros, length_append, length_replicate, length_utf8_toString, length_toString]
  omega

theorem length_padZeros_eq_iff : (padZeros (width + 1) n).length = width + 1 ↔ n < 10 ^ (width + 1) := by
  rw [← length_toDigits_le_iff, padZeros, length_append, length_replicate, length_utf8_toString, length_toString]
  omega

theorem padZeros_eq (small : n < 10 ^ (width + 1)) :
    padZeros (width + 1) n = (decimal (width + 1) n).map fun c => c.toNat.toUInt8 := by
  rw [padZeros, utf8_of_isAscii (isAscii_toString n), length_toString, ascii, Nat.toString_eq_repr, Nat.toList_repr,
    ← padded_digits small, map_append, map_replicate]
  rfl

theorem utf8_toString_eq (n : Nat) : utf8 (toString n) = padZeros 1 n := by
  have positive : 1 ≤ (toString n).length := by
    rw [length_toString]
    exact Nat.length_toDigits_pos
  rw [padZeros, Nat.sub_eq_zero_of_le positive]
  rfl

def isBlank (b : UInt8) : Bool := [0x09, 0x0A, 0x0B, 0x0C, 0x0D, 0x20].contains b

section

variable {characters : List (List UInt8)} {data : List UInt8}

structure Blanks (characters : List (List UInt8)) : Prop where
  classified : ∀ character ∈ characters, (∃ b, character = [b] ∧ isBlank b = true) ∨ ∃ b rest, character = b :: rest ∧ ¬b < 0x80
  complete : ∀ b, isBlank b = true → [b] ∈ characters

theorem blanks_spaces : Blanks spaces where
  classified := by
    simp only [spaces, forall_mem_cons]
    simp [isBlank]
  complete := by
    intro b blank
    simp only [isBlank, contains_iff_mem, mem_cons, not_mem_nil, or_false] at blank
    rcases blank with rfl | rfl | rfl | rfl | rfl | rfl <;> decide

theorem blanks_reversed : Blanks (spaces.map reverse) where
  classified := by
    simp only [spaces, map_cons, map_nil, forall_mem_cons]
    simp [isBlank]
  complete := by
    intro b blank
    exact mem_map.mpr ⟨[b], blanks_spaces.complete b blank, rfl⟩

theorem Blanks.dropOne_cons (blanks : Blanks characters) {b : UInt8} (small : b < 0x80) (rest : List UInt8) :
    dropOne characters (b :: rest) = if isBlank b then rest else b :: rest := by
  simp only [dropOne]
  cases found : characters.find? (·.isPrefixOf (b :: rest)) with
  | none =>
    have plain : isBlank b = false := by
      cases blank : isBlank b with
      | false => rfl
      | true =>
        have missing := find?_eq_none.mp found [b] (blanks.complete b blank)
        simp [isPrefixOf] at missing
    simp [plain]
  | some character =>
    have starts := find?_some found
    rcases blanks.classified character (mem_of_find?_eq_some found) with ⟨first, rfl, blank⟩ | ⟨first, rest, rfl, large⟩
    · simp only [isPrefixOf, Bool.and_true, beq_iff_eq] at starts
      rw [← starts, blank]
      rfl
    · simp only [isPrefixOf, Bool.and_eq_true, beq_iff_eq] at starts
      rw [starts.1] at large
      exact absurd small large

theorem Blanks.trimLeft_eq (blanks : Blanks characters) (small : ∀ b ∈ data, b < 0x80) :
    trimLeft characters data = data.dropWhile isBlank := by
  induction data with
  | nil => rfl
  | cons b rest ih =>
    rw [forall_mem_cons] at small
    have first := blanks.dropOne_cons small.1 rest
    rw [trimLeft, length_cons, dropWhile_cons]
    cases blank : isBlank b with
    | true =>
      rw [blank] at first
      rw [Function.iterate_succ_apply, first]
      exact ih small.2
    | false =>
      rw [blank] at first
      exact Function.iterate_fixed first _

theorem trimSpace_eq (small : ∀ b ∈ data, b < 0x80) : trimSpace data = (data.dropWhile isBlank).rdropWhile isBlank := by
  rw [trimSpace, blanks_spaces.trimLeft_eq small, blanks_reversed.trimLeft_eq, rdropWhile]
  intro b member
  exact small b ((dropWhile_sublist _).subset (mem_reverse.mp member))

end

def EdgesAvoid (p : UInt8 → Bool) (data : List UInt8) : Prop :=
  (∀ b, data.head? = some b → p b = false) ∧ ∀ b, data.getLast? = some b → p b = false

section

variable {p : UInt8 → Bool} {data padding : List UInt8}

theorem edgesAvoid_of_forall (each : ∀ b ∈ data, p b = false) : EdgesAvoid p data :=
  ⟨fun b first => each b (mem_of_head? first), fun b last => each b (mem_of_getLast? last)⟩

theorem EdgesAvoid.mono {q : UInt8 → Bool} (avoids : EdgesAvoid p data) (weaker : ∀ b, p b = false → q b = false) :
    EdgesAvoid q data :=
  ⟨fun b first => weaker b (avoids.1 b first), fun b last => weaker b (avoids.2 b last)⟩

theorem EdgesAvoid.append (left : EdgesAvoid p data) (right : EdgesAvoid p padding) : EdgesAvoid p (data ++ padding) := by
  constructor
  · intro b first
    rw [head?_append, Option.or_eq_some_iff] at first
    rcases first with first | ⟨-, first⟩
    · exact left.1 b first
    · exact right.1 b first
  · intro b last
    rw [getLast?_append, Option.or_eq_some_iff] at last
    rcases last with last | ⟨-, last⟩
    · exact right.2 b last
    · exact left.2 b last

theorem trim_padded_iff (padded : ∀ b ∈ padding, p b = true) :
    ((data ++ padding).dropWhile p).rdropWhile p = data ↔ EdgesAvoid p data := by
  constructor
  · intro same
    have left : data.dropWhile p = data := by
      rw [← same]
      exact dropWhile_trimmed _ _
    have right : data.rdropWhile p = data := by
      rw [← same]
      exact rdropWhile_idempotent p _
    constructor
    · intro b first
      cases data with
      | nil => cases first
      | cons head rest =>
        cases first
        have kept := dropWhile_eq_self_iff.mp left (Nat.succ_pos _)
        exact Bool.eq_false_iff.mpr kept
    · intro b last
      have nonempty : data ≠ [] := by
        rintro rfl
        cases last
      rw [getLast?_eq_some_getLast nonempty] at last
      cases last
      simpa using rdropWhile_eq_self_iff.mp right nonempty
  · intro ⟨first, last⟩
    cases data with
    | nil =>
      rw [nil_append, dropWhile_eq_nil_iff.mpr padded, rdropWhile_nil]
    | cons head rest =>
      have front : ¬p head = true := by simp [first head rfl]
      have back : ((head :: rest) ++ padding).rdropWhile p = (head :: rest).rdropWhile p := by
        rw [rdropWhile, reverse_append, dropWhile_append_of_pos, rdropWhile]
        simpa using padded
      rw [cons_append, dropWhile_cons_of_neg front, ← cons_append, back, rdropWhile_eq_self_iff]
      intro nonempty
      simp [last _ (getLast?_eq_some_getLast nonempty)]

end

theorem slice_flatten {fields : List (List UInt8)} (lengths : fields.map length = widths) {i lo hi : Nat}
    {field : List UInt8} (place : fields[i]? = some field) (start : (widths.take i).sum = lo)
    (stop : (widths.take (i + 1)).sum = hi) : slice fields.flatten lo hi = field := by
  obtain ⟨inside, rfl⟩ := List.getElem?_eq_some_iff.mp place
  rw [slice, ← start, ← stop, ← lengths]
  exact drop_take_succ_flatten_eq_getElem fields i inside

theorem lengths_eq_of_sum_eq {lengths : List Nat} (each : List.Forall₂ (· ≤ ·) widths lengths)
    (whole : lengths.sum = widths.sum) : lengths = widths := by
  induction each with
  | nil => rfl
  | @cons width length widths lengths first rest ih =>
    have least := rest.sum_le_sum
    rw [sum_cons, sum_cons] at whole
    obtain rfl : length = width := by omega
    rw [ih (by omega)]

end Ipsc2Mmdvm.Data
