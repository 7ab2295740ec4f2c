import Ipsc2Mmdvm.Data.Bytes

namespace Ipsc2Mmdvm.Data

/-! Reads of a byte string with the bounds checked: an index or a slice outside the string panics.
-/

inductive OutOfRange where
  | index (i len : Nat)
  | slice (lo hi len : Nat)
deriving DecidableEq

abbrev Checked (α : Type) := Except OutOfRange α

def index (data : List UInt8) (i : Nat) : Checked UInt8 :=
  if i < data.length then .ok (data.getD i 0) else .error (.index i data.length)

def checkedSlice (data : List UInt8) (lo hi : Nat) : Checked (List UInt8) :=
  if lo ≤ hi ∧ hi ≤ data.length then .ok (slice data lo hi) else .error (.slice lo hi data.length)

def store (data : List UInt8) (i : Nat) (value : UInt8) : Checked (List UInt8) :=
  if i < data.length then .ok (data.set i value) else .error (.index i data.length)

def Checked.InRange {α : Type} (computation : Checked α) : Prop :=
  ∃ result, computation = .ok result

section

variable {α β : Type} {computation : Checked α} {rest : α → Checked β} {data : List UInt8} {i lo hi : Nat}
  {post middle : α → Prop}

@[simp] theorem inRange_pure (result : α) : Checked.InRange (pure result) := ⟨result, rfl⟩

@[simp] theorem inRange_ok (result : α) : Checked.InRange (.ok result) := ⟨result, rfl⟩

@[simp] theorem not_inRange_error (reason : OutOfRange) : ¬ Checked.InRange (.error reason : Checked α) := by
  intro inRange
  obtain ⟨result, equal⟩ := inRange
  cases equal

theorem Checked.InRange.bind (first : computation.InRange) (second : ∀ result, (rest result).InRange) :
    Checked.InRange (computation >>= rest) := by
  obtain ⟨result, equal⟩ := first
  rw [equal]
  exact second result

theorem index_inRange_iff : (index data i).InRange ↔ i < data.length := by
  simp only [index]
  split <;> simp [*]

theorem checkedSlice_inRange_iff : (checkedSlice data lo hi).InRange ↔ lo ≤ hi ∧ hi ≤ data.length := by
  simp only [checkedSlice]
  split <;> simp [*]

theorem index_eq_ok (inside : i < data.length) : index data i = .ok (data.getD i 0) := if_pos inside

theorem checkedSlice_eq (order : lo ≤ hi) (inside : hi ≤ data.length) :
    checkedSlice data lo hi = .ok (slice data lo hi) := if_pos ⟨order, inside⟩

theorem bind_eq_ok {result : β} (computed : computation >>= rest = .ok result) :
    ∃ value, computation = .ok value ∧ rest value = .ok result := by
  cases computation with
  | error reason => cases computed
  | ok value => exact ⟨value, rfl, computed⟩

theorem Checked.not_inRange_bind (fails : ∀ result, ¬ (rest result).InRange) : ¬ Checked.InRange (computation >>= rest) := by
  rintro ⟨result, computed⟩
  obtain ⟨value, _, later⟩ := bind_eq_ok computed
  exact fails value ⟨result, later⟩

theorem Checked.not_inRange_bind_left (fails : ¬ computation.InRange) : ¬ Checked.InRange (computation >>= rest) := by
  rintro ⟨result, computed⟩
  obtain ⟨value, first, _⟩ := bind_eq_ok computed
  exact fails ⟨value, first⟩

def Checked.Ensures (computation : Checked α) (post : α → Prop) : Prop :=
  ∀ result, computation = .ok result → post result

theorem ensures_pure {result : α} (holds : post result) : Checked.Ensures (pure result) post := by
  intro other equal
  cases equal
  exact holds

theorem Checked.Ensures.bind {post : β → Prop} (first : computation.Ensures middle)
    (second : ∀ result, middle result → (rest result).Ensures post) :
    Checked.Ensures (computation >>= rest) post := by
  intro result computed
  obtain ⟨value, done, later⟩ := bind_eq_ok computed
  exact second value (first value done) result later

theorem ensures_bind {post : β → Prop} (each : ∀ result, computation = .ok result → (rest result).Ensures post) :
    Checked.Ensures (computation >>= rest) post :=
  Checked.Ensures.bind (fun _ computed => computed) each

def Checked.Returns (computation : Checked α) (post : α → Prop) : Prop :=
  ∃ result, computation = .ok result ∧ post result

theorem returns_pure {result : α} (holds : post result) : Checked.Returns (pure result) post := ⟨result, rfl, holds⟩

theorem Checked.Returns.inRange (returns : computation.Returns post) : computation.InRange := by
  obtain ⟨result, computed, -⟩ := returns
  exact ⟨result, computed⟩

theorem Checked.Returns.bind {post : β → Prop} (first : computation.Returns middle)
    (second : ∀ result, middle result → (rest result).Returns post) :
    Checked.Returns (computation >>= rest) post := by
  obtain ⟨result, computed, holds⟩ := first
  rw [computed]
  exact second result holds

theorem Checked.Returns.bind_inRange (first : computation.Returns middle)
    (second : ∀ result, middle result → (rest result).InRange) :
    Checked.InRange (computation >>= rest) := by
  obtain ⟨result, computed, holds⟩ := first
  rw [computed]
  exact second result holds

theorem store_returns (inside : i < data.length) (value : UInt8) :
    (store data i value).Returns fun stored => stored.length = data.length :=
  ⟨data.set i value, if_pos inside, List.length_set⟩

end

end Ipsc2Mmdvm.Data
