import Mathlib.Data.List.Count
import Mathlib.Data.List.DropRight
import Mathlib.Data.String.Basic

namespace Ipsc2Mmdvm.Data

/-! Composite keys are built by joining printed fields with `:`.  Counting the colons tells keys of
different shapes apart whatever the fields hold. -/

def colons (text : String) : Nat := text.toList.count ':'

@[simp] theorem colons_append (left right : String) : colons (left ++ right) = colons left + colons right := by
  simp [colons]

open List

@[simp] theorem colons_toString_nat (n : Nat) : colons (toString n) = 0 := by
  simp only [colons, count_eq_zero]
  intro member
  have digits : ':' ∈ Nat.toDigits 10 n := by
    simpa [Nat.toString_eq_ofList_toDigits] using member
  have digit := Nat.isDigit_of_mem_toDigits (by decide) (by decide) digits
  simp [Char.isDigit] at digit

theorem toString_nat_inj {m n : Nat} : toString m = toString n ↔ m = n := by
  constructor
  · intro same
    simp only [Nat.toString_eq_ofList_toDigits, String.ofList_inj] at same
    calc m = Nat.ofDigitChars 10 (Nat.toDigits 10 m) 0 := Nat.ofDigitChars_ten_toDigits.symm
      _ = Nat.ofDigitChars 10 (Nat.toDigits 10 n) 0 := by rw [same]
      _ = n := Nat.ofDigitChars_ten_toDigits
  · intro same
    rw [same]

@[simp] theorem colons_toString_bool (b : Bool) : colons (toString b) = 0 := by
  cases b <;> decide

def hexDigit (n : Nat) : Char :=
  "0123456789abcdef".toList.getD n '0'

def hexEncodeToString (bytes : List UInt8) : String :=
  String.ofList (bytes.flatMap fun b => [hexDigit (b.toNat / 16), hexDigit (b.toNat % 16)])

theorem hexDigit_ne_colon (n : Nat) : hexDigit n ≠ ':' := by
  have digits : ∀ k : Fin 16, hexDigit k ≠ ':' := by decide
  by_cases small : n < 16
  · exact digits ⟨n, small⟩
  · have outside : "0123456789abcdef".toList.length ≤ n := by
      have size : "0123456789abcdef".toList.length = 16 := by decide
      omega
    rw [hexDigit, getD_eq_getElem?_getD, getElem?_eq_none outside]
    decide

@[simp] theorem colons_hexEncodeToString (bytes : List UInt8) : colons (hexEncodeToString bytes) = 0 := by
  simp only [colons, hexEncodeToString, String.toList_ofList, count_eq_zero]
  intro member
  obtain ⟨b, _, digit⟩ := mem_flatMap.mp member
  rcases mem_cons.mp digit with high | low
  · exact hexDigit_ne_colon _ high.symm
  · exact hexDigit_ne_colon _ (mem_singleton.mp low).symm

theorem hexEncodeToString_inj {bytes other : List UInt8} : hexEncodeToString bytes = hexEncodeToString other ↔ bytes = other := by
  refine ⟨fun same => ?_, fun same => by rw [same]⟩
  have digits : ∀ m < 16, ∀ n < 16, hexDigit m = hexDigit n → m = n := by decide
  have codes := String.ofList_inj.mp same
  clear same
  induction bytes generalizing other with
  | nil =>
    cases other with
    | nil => rfl
    | cons b rest => cases codes
  | cons a bytes ih =>
    cases other with
    | nil => cases codes
    | cons b rest =>
      simp only [flatMap_cons, cons_append, nil_append, cons.injEq] at codes
      obtain ⟨high, low, later⟩ := codes
      have high := digits _ (by have := a.toNat_lt; omega) _ (by have := b.toNat_lt; omega) high
      have low := digits _ (Nat.mod_lt _ (by decide)) _ (Nat.mod_lt _ (by decide)) low
      have same : a = b := UInt8.toNat_inj.mp (by omega)
      rw [same, ih later]

theorem append_colon_inj {left left' right right' : String} (plain : colons right = 0) (plain' : colons right' = 0) :
    left ++ ":" ++ right = left' ++ ":" ++ right' ↔ left = left' ∧ right = right' := by
  refine ⟨fun same => ?_, fun both => by rw [both.1, both.2]⟩
  have absent := count_eq_zero.mp plain
  have absent' := count_eq_zero.mp plain'
  have chars : left.toList ++ ':' :: right.toList = left'.toList ++ ':' :: right'.toList := by
    simpa using congrArg String.toList same
  rw [← String.toList_inj, ← @String.toList_inj right]
  -- one of the colons is the other or stands in a text that has none
  rcases append_eq_append_iff.mp chars with ⟨between, front, back⟩ | ⟨between, front, back⟩
  · cases between <;> simp_all
  · cases between <;> simp_all

/-! Case mapping is that of the ASCII letters. -/

def isSpace (c : Char) : Bool :=
  [0x09, 0x0A, 0x0B, 0x0C, 0x0D, 0x20, 0x85, 0xA0, 0x1680, 0x2028, 0x2029, 0x202F, 0x205F, 0x3000].contains
    c.toNat || (0x2000 ≤ c.toNat && c.toNat ≤ 0x200A)

def trimText (text : String) : String :=
  String.ofList (((text.toList.dropWhile isSpace).reverse.dropWhile isSpace).reverse)

theorem dropWhile_trimmed {α : Type} (chars : List α) (p : α → Bool) :
    ((chars.dropWhile p).rdropWhile p).dropWhile p = (chars.dropWhile p).rdropWhile p := by
  rw [dropWhile_eq_self_iff]
  intro nonempty
  have front : (chars.dropWhile p).rdropWhile p <+: chars.dropWhile p := rdropWhile_prefix p _
  have first := front.getElem (i := 0) nonempty
  rw [first]
  exact dropWhile_get_zero_not p chars _

theorem trimText_trimText (text : String) : trimText (trimText text) = trimText text := by
  have trimmed := dropWhile_trimmed text.toList isSpace
  simp only [rdropWhile] at trimmed
  simp only [trimText, String.toList_ofList, trimmed, reverse_reverse, dropWhile_idempotent]

theorem trimText_eq_empty_iff {text : String} : trimText text = "" ↔ ∀ c ∈ text.toList, isSpace c = true := by
  have blank : trimText text = "" ↔ ∀ c ∈ text.toList.dropWhile isSpace, isSpace c = true := by
    simp only [trimText, String.ofList_eq_empty_iff, reverse_eq_nil_iff, dropWhile_eq_nil_iff, mem_reverse]
  rw [blank]
  constructor
  · intro rest c member
    rw [← @takeWhile_append_dropWhile _ isSpace text.toList, mem_append] at member
    exact member.elim mem_takeWhile_imp (rest c)
  · intro each c member
    exact each c ((dropWhile_sublist _).subset member)

theorem trimText_enclosed {first last : Char} (front : isSpace first = false) (back : isSpace last = false) (middle : List Char) :
    trimText (String.ofList (first :: (middle ++ [last]))) = String.ofList (first :: (middle ++ [last])) := by
  simp [trimText, front, back]

def upperText (text : String) : String := text.map Char.toUpper

def equalFold (left right : String) : Bool := upperText left == upperText right

end Ipsc2Mmdvm.Data
