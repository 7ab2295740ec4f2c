import Mathlib.Data.List.Basic
import Mathlib.Data.List.Nodup

namespace Ipsc2Mmdvm.Data

/-! A table holds rows with a unique key and a unique number that the database never gives out
again.  A query that needs an order sorts its result. -/

structure Table {R K : Type} (key : R → K) (number : R → Nat) where
  rows : List R
  next : Nat
  nodupKeys : (rows.map key).Nodup
  nodupNumbers : (rows.map number).Nodup
  bounded : ∀ row ∈ rows, number row < next

namespace Table

variable {R K : Type} {key : R → K} {number : R → Nat}

def empty (key : R → K) (number : R → Nat) : Table key number where
  rows := []
  next := 1
  nodupKeys := List.nodup_nil
  nodupNumbers := List.nodup_nil
  bounded := by simp

def find [DecidableEq K] (t : Table key number) (k : K) : Option R :=
  t.rows.find? fun row => key row = k

def findNumber (t : Table key number) (n : Nat) : Option R :=
  t.rows.find? fun row => number row = n

def deleteWhere (t : Table key number) (drop : R → Bool) : Table key number where
  rows := t.rows.filter fun row => !drop row
  next := t.next
  nodupKeys := t.nodupKeys.sublist (List.filter_sublist.map key)
  nodupNumbers := t.nodupNumbers.sublist (List.filter_sublist.map number)
  bounded row member := t.bounded row (List.mem_filter.mp member).1

def update (t : Table key number) (set : R → R) (sameKey : ∀ row, key (set row) = key row)
    (sameNumber : ∀ row, number (set row) = number row) : Table key number where
  rows := t.rows.map set
  next := t.next
  nodupKeys := by
    rw [List.map_map, show key ∘ set = key from funext sameKey]
    exact t.nodupKeys
  nodupNumbers := by
    rw [List.map_map, show number ∘ set = number from funext sameNumber]
    exact t.nodupNumbers
  bounded row member := by
    obtain ⟨old, inRows, rfl⟩ := List.mem_map.mp member
    rw [sameNumber]
    exact t.bounded old inRows

section Find

variable {t : Table key number} {k : K} {n : Nat} {row other : R}

theorem number_injective (member : row ∈ t.rows) (member' : other ∈ t.rows)
    (same : number row = number other) : row = other :=
  List.inj_on_of_nodup_map t.nodupNumbers member member' same

theorem find?_eq_some_of_nodup {β : Type} [DecidableEq β] {f : R → β} {l : List R} (nodup : (l.map f).Nodup) {b : β} :
    l.find? (fun row => f row = b) = some row ↔ row ∈ l ∧ f row = b := by
  constructor
  · intro found
    exact ⟨List.mem_of_find?_eq_some found, by simpa using List.find?_some found⟩
  · intro present
    obtain ⟨member, rfl⟩ := present
    cases found : l.find? fun other => f other = f row with
    | none =>
      have absent := List.find?_eq_none.mp found row member
      simp at absent
    | some other =>
      have same : f other = f row := by simpa using List.find?_some found
      rw [List.inj_on_of_nodup_map nodup (List.mem_of_find?_eq_some found) member same]

theorem findNumber_eq_some : t.findNumber n = some row ↔ row ∈ t.rows ∧ number row = n :=
  find?_eq_some_of_nodup t.nodupNumbers

theorem findNumber_update (t : Table key number) {set : R → R} (sameKey : ∀ row, key (set row) = key row)
    (sameNumber : ∀ row, number (set row) = number row) (n : Nat) :
    (t.update set sameKey sameNumber).findNumber n = (t.findNumber n).map set := by
  simp only [findNumber, update, List.find?_map, Function.comp_def, sameNumber]

variable [DecidableEq K]

theorem find_eq_some : t.find k = some row ↔ row ∈ t.rows ∧ key row = k := find?_eq_some_of_nodup t.nodupKeys

theorem find_eq_none : t.find k = none ↔ ∀ row ∈ t.rows, key row ≠ k := by
  simp [find, List.find?_eq_none]

def insert (t : Table key number) (row : R) (fresh : t.find (key row) = none)
    (numbered : number row = t.next) : Table key number where
  rows := t.rows ++ [row]
  next := t.next + 1
  nodupKeys := by
    rw [List.map_append, List.nodup_append]
    refine ⟨t.nodupKeys, List.nodup_singleton _, ?_⟩
    intro k old k' new
    obtain ⟨other, member, rfl⟩ := List.mem_map.mp old
    rw [List.mem_singleton.mp new]
    exact find_eq_none.mp fresh other member
  nodupNumbers := by
    rw [List.map_append, List.nodup_append]
    refine ⟨t.nodupNumbers, List.nodup_singleton _, ?_⟩
    intro n old n' new
    obtain ⟨other, member, rfl⟩ := List.mem_map.mp old
    rw [List.mem_singleton.mp new, numbered]
    exact Nat.ne_of_lt (t.bounded other member)
  bounded other member := by
    rcases List.mem_append.mp member with old | new
    · exact Nat.lt_succ_of_lt (t.bounded other old)
    · rw [List.mem_singleton.mp new, numbered]
      exact Nat.lt_succ_self t.next

theorem find_deleteWhere (t : Table key number) (drop : R → Bool) (k : K) :
    (t.deleteWhere drop).find k = (t.find k).filter fun row => !drop row := by
  apply Option.ext
  intro row
  simp only [find_eq_some, Option.filter_eq_some_iff, deleteWhere, List.mem_filter]
  tauto

theorem find_update (t : Table key number) {set : R → R} (sameKey : ∀ row, key (set row) = key row)
    (sameNumber : ∀ row, number (set row) = number row) (k : K) :
    (t.update set sameKey sameNumber).find k = (t.find k).map set := by
  simp only [find, update, List.find?_map, Function.comp_def, sameKey]

theorem find_insert (t : Table key number) (row : R) (fresh : t.find (key row) = none)
    (numbered : number row = t.next) (k : K) :
    (t.insert row fresh numbered).find k = if k = key row then some row else t.find k := by
  have added : (t.insert row fresh numbered).find k = (t.find k).or (if k = key row then some row else none) := by
    simp [find, insert, eq_comm]
  rw [added]
  split
  · rename_i same
    rw [same, fresh, Option.none_or]
  · rw [Option.or_none]

end Find

end Table

end Ipsc2Mmdvm.Data
