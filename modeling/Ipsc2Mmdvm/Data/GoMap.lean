import Mathlib.Data.Finmap
import Mathlib.Data.Finset.Sort

namespace Ipsc2Mmdvm.Data

/-! Go maps as finite partial functions.  A `range` loop visits the keys in an order the runtime
picks, so every loop whose body could depend on it takes an `Enumeration`. -/

abbrev GoMap (K V : Type) := Finmap fun _ : K => V

open List Option

namespace GoMap

variable {K V : Type} [DecidableEq K] {m : GoMap K V} {key : K} {value : V}

omit [DecidableEq K] in
theorem nodupKeys_filter (m : GoMap K V) (keep : (Σ _ : K, V) → Bool) :
    (m.entries.filter fun entry => keep entry = true).NodupKeys := by
  have bounded : (m.entries.filter fun entry => keep entry = true).keys ≤ m.entries.keys :=
    Multiset.map_le_map (Multiset.filter_le _ _)
  exact Multiset.nodup_keys.mp (Multiset.nodup_of_le bounded (Multiset.nodup_keys.mpr m.nodupKeys))

def deleteWhere (m : GoMap K V) (drop : K → V → Bool) : GoMap K V where
  entries := m.entries.filter fun entry => (!drop entry.1 entry.2) = true
  nodupKeys := nodupKeys_filter m fun entry => !drop entry.1 entry.2

theorem lookup_deleteWhere (m : GoMap K V) (drop : K → V → Bool) (key : K) :
    (m.deleteWhere drop).lookup key = (m.lookup key).filter fun value => !drop key value := by
  apply ext
  intro value
  simp only [← mem_def, Finmap.mem_lookup_iff, deleteWhere, Multiset.mem_filter]
  simp [mem_def, filter_eq_some_iff, ← Finmap.mem_lookup_iff]

@[simp] theorem lookup_deleteWhere_eq_some {drop : K → V → Bool} :
    (m.deleteWhere drop).lookup key = some value ↔ m.lookup key = some value ∧ drop key value = false := by
  simp [lookup_deleteWhere, filter_eq_some_iff]

theorem erase_eq_self_iff : m.erase key = m ↔ m.lookup key = none := by
  constructor
  · intro same
    rw [← same, Finmap.lookup_erase]
  · intro absent
    apply Finmap.ext_lookup
    intro other
    by_cases same : other = key
    · rw [same, Finmap.lookup_erase, absent]
    · exact Finmap.lookup_erase_ne same

theorem insert_eq_self_iff : m.insert key value = m ↔ m.lookup key = some value := by
  constructor
  · intro same
    rw [← same, Finmap.lookup_insert]
  · intro present
    apply Finmap.ext_lookup
    intro other
    by_cases same : other = key
    · rw [same, Finmap.lookup_insert, present]
    · exact Finmap.lookup_insert_of_ne m same

theorem lookup_congr (m : GoMap K V) {key' : K} (same : key = key') : (m.lookup key : Option V) = m.lookup key' := by
  subst same
  rfl

theorem mem_keys_iff : key ∈ m.keys ↔ ∃ value, m.lookup key = some value := by
  rw [Finmap.mem_keys, ← Finmap.lookup_isSome, isSome_iff_exists]

theorem keys_eq_empty_iff : m.keys = ∅ ↔ ∀ key, m.lookup key = none := by
  simp [Finset.eq_empty_iff_forall_notMem, mem_keys_iff, eq_none_iff_forall_ne_some]

theorem lookup_insert_eq (m : GoMap K V) (key other : K) (value : V) :
    (m.insert key value).lookup other = if other = key then some value else m.lookup other := by
  split
  · subst other
    exact Finmap.lookup_insert m
  · exact Finmap.lookup_insert_of_ne m ‹_›

theorem lookup_insert_eq_some {other : K} {found : V} : (m.insert key value).lookup other = some found ↔
      other = key ∧ found = value ∨ other ≠ key ∧ m.lookup other = some found := by
  rw [lookup_insert_eq]
  split
  · simp [*, eq_comm]
  · simp [*]

theorem lookup_insert_of_absent {other : K} {found : V} (absent : m.lookup key = none) :
    (m.insert key value).lookup other = some found ↔ m.lookup other = some found ∨ other = key ∧ found = value := by
  rw [lookup_insert_eq]
  split
  · subst other
    simp [absent, eq_comm]
  · simp [*]

theorem lookup_erase_eq (m : GoMap K V) (key other : K) :
    (m.erase key).lookup other = if other = key then none else m.lookup other := by
  split
  · subst other
    exact Finmap.lookup_erase key m
  · exact Finmap.lookup_erase_ne ‹_›

theorem lookup_erase_eq_some {other : K} {found : V} :
    (m.erase key).lookup other = some found ↔ other ≠ key ∧ m.lookup other = some found := by
  rw [lookup_erase_eq]
  split <;> simp [*]

theorem lookup_foldl_insert (m : GoMap K Unit) (keys : List K) (key : K) :
    (keys.foldl (fun m key => m.insert key ()) m).lookup key = if key ∈ keys then some () else m.lookup key := by
  induction keys generalizing m with
  | nil => simp
  | cons first keys ih =>
    simp only [foldl_cons, ih, lookup_insert_eq, mem_cons]
    grind

section Load

variable {ι : Type} {key : ι → K} {value : ι → V} {items : List ι}

theorem lookup_load_of_notMem (m : GoMap K V) {k : K} (absent : ∀ item ∈ items, key item ≠ k) :
    (items.foldl (fun m item => m.insert (key item) (value item)) m).lookup k = m.lookup k := by
  induction items generalizing m with
  | nil => rfl
  | cons first items ih =>
    rw [foldl_cons, ih _ fun item member => absent item (mem_cons_of_mem _ member)]
    exact Finmap.lookup_insert_of_ne m (absent first mem_cons_self).symm

theorem lookup_load_of_mem (m : GoMap K V) {item : ι} (distinct : (items.map key).Nodup) (member : item ∈ items) :
    (items.foldl (fun m item => m.insert (key item) (value item)) m).lookup (key item) = some (value item) := by
  induction items generalizing m with
  | nil => cases member
  | cons first items ih =>
    obtain ⟨fresh, distinct⟩ := nodup_cons.mp distinct
    rcases mem_cons.mp member with rfl | later
    · have absent : ∀ other ∈ items, key other ≠ key item := fun other member same =>
        fresh (mem_map.mpr ⟨other, member, same⟩)
      rw [foldl_cons, lookup_load_of_notMem _ absent, Finmap.lookup_insert]
    · exact ih _ distinct later

end Load

/-! A missing row reads as an empty one, as a nil map does. -/

section Rows

variable {J : Type} [DecidableEq J] {m : GoMap K (GoMap J V)}

def row (m : GoMap K (GoMap J V)) (k : K) : GoMap J V :=
  (m.lookup k).getD ∅

def cell (m : GoMap K (GoMap J V)) (k : K) (j : J) : Option V :=
  (m.row k).lookup j

def put (m : GoMap K (GoMap J V)) (k : K) (j : J) (v : V) : GoMap K (GoMap J V) :=
  m.insert k ((m.row k).insert j v)

def drop (m : GoMap K (GoMap J V)) (k : K) (j : J) : GoMap K (GoMap J V) :=
  match m.lookup k with
  | none => m
  | some cells => m.insert k (cells.erase j)

def prune (m : GoMap K (GoMap J V)) (k : K) (j : J) : GoMap K (GoMap J V) :=
  match m.lookup k with
  | none => m
  | some cells =>
    if (cells.erase j).keys = ∅ then m.erase k else m.insert k (cells.erase j)

def NoEmptyRows (m : GoMap K (GoMap J V)) : Prop :=
  ∀ k cells, m.lookup k = some cells → cells.keys ≠ ∅

omit [DecidableEq J] in
theorem row_insert (m : GoMap K (GoMap J V)) (k k' : K) (cells : GoMap J V) :
    row (m.insert k cells) k' = if k' = k then cells else m.row k' := by
  simp only [row]
  rw [lookup_insert_eq]
  split <;> rfl

theorem cell_insert (m : GoMap K (GoMap J V)) (k k' : K) (cells : GoMap J V)
    (j : J) : cell (m.insert k cells) k' j = if k' = k then cells.lookup j else m.cell k' j := by
  simp only [cell]
  rw [row_insert]
  split <;> rfl

theorem cell_put (m : GoMap K (GoMap J V)) (k k' : K) (j j' : J) (v : V) :
    (m.put k j v).cell k' j' = if k' = k ∧ j' = j then some v else m.cell k' j' := by
  simp only [cell, put]
  rw [row_insert]
  by_cases same : k' = k
  · subst k'
    simp [lookup_insert_eq]
  · simp [same]

theorem cell_drop (m : GoMap K (GoMap J V)) (k k' : K) (j j' : J) :
    (m.drop k j).cell k' j' = if k' = k ∧ j' = j then none else m.cell k' j' := by
  simp only [drop, cell]
  by_cases same : k' = k
  · subst k'
    cases found : m.lookup k with
    | none => simp [row, found]
    | some cells => simp [row, found, lookup_erase_eq]
  · cases m.lookup k <;> simp [row_insert, same]

theorem cell_prune (m : GoMap K (GoMap J V)) (k k' : K) (j j' : J) :
    (m.prune k j).cell k' j' = if k' = k ∧ j' = j then none else m.cell k' j' := by
  rw [← cell_drop]
  simp only [prune, drop]
  cases found : m.lookup k with
  | none => rfl
  | some cells =>
    by_cases emptied : (cells.erase j).keys = ∅
    · simp only [emptied, if_true, cell, row_insert]
      by_cases same : k' = k
      · subst k'
        simp [row, Finmap.lookup_erase, keys_eq_empty_iff.mp emptied j']
      · simp [row, same]
    · simp only [emptied, if_false]

theorem NoEmptyRows.put (full : m.NoEmptyRows) (k : K) (j : J) (v : V) : (m.put k j v).NoEmptyRows := by
  intro k' cells found
  rcases lookup_insert_eq_some.mp found with ⟨rfl, rfl⟩ | ⟨_, found⟩
  · intro emptied
    have absent := keys_eq_empty_iff.mp emptied j
    rw [Finmap.lookup_insert] at absent
    cases absent
  · exact full k' cells found

theorem NoEmptyRows.prune (full : m.NoEmptyRows) (k : K) (j : J) : (m.prune k j).NoEmptyRows := by
  intro k' cells found
  simp only [GoMap.prune] at found
  cases present : m.lookup k with
  | none =>
    simp only [present] at found
    exact full k' cells found
  | some before =>
    simp only [present] at found
    split at found
    · exact full k' cells (lookup_erase_eq_some.mp found).2
    · rcases lookup_insert_eq_some.mp found with ⟨rfl, rfl⟩ | ⟨_, found⟩
      · assumption
      · exact full k' cells found

theorem cell_foldl_prune (m : GoMap K (GoMap J V)) (cells : List (K × J)) (k : K) (j : J) :
    (cells.foldl (fun m c => m.prune c.1 c.2) m).cell k j = if (k, j) ∈ cells then none else m.cell k j := by
  induction cells generalizing m with
  | nil => simp
  | cons c cells ih =>
    simp only [foldl_cons, ih, cell_prune, mem_cons, Prod.ext_iff]
    grind

theorem NoEmptyRows.foldl_prune (full : m.NoEmptyRows) (cells : List (K × J)) :
    (cells.foldl (fun m c => m.prune c.1 c.2) m).NoEmptyRows := by
  induction cells generalizing m with
  | nil => exact full
  | cons c cells ih => exact ih (full.prune c.1 c.2)

theorem cell_foldl_put (m : GoMap K (GoMap J V)) (cells : List (K × J)) (v : V) (k : K) (j : J) :
    (cells.foldl (fun m c => m.put c.1 c.2 v) m).cell k j = if (k, j) ∈ cells then some v else m.cell k j := by
  induction cells generalizing m with
  | nil => simp
  | cons c cells ih =>
    simp only [foldl_cons, ih, cell_put, mem_cons, Prod.ext_iff]
    grind

theorem NoEmptyRows.foldl_put (full : m.NoEmptyRows) (cells : List (K × J)) (v : V) :
    (cells.foldl (fun m c => m.put c.1 c.2 v) m).NoEmptyRows := by
  induction cells generalizing m with
  | nil => exact full
  | cons c cells ih => exact ih (full.put c.1 c.2 v)

theorem mem_keys_of_cell {k : K} {j : J} {v : V} (found : m.cell k j = some v) : k ∈ m.keys ∧ j ∈ (m.row k).keys := by
  refine ⟨?_, mem_keys_iff.mpr ⟨v, found⟩⟩
  rw [mem_keys_iff]
  cases present : m.lookup k with
  | none => simp [cell, row, present] at found
  | some cells => exact ⟨cells, rfl⟩

end Rows

end GoMap

/-- The order in which one `range` loop visits a set of keys: each key once. -/
structure Enumeration (K : Type) where
  order : Finset K → List K
  nodup : ∀ keys, (order keys).Nodup
  mem_order : ∀ {keys key}, key ∈ order keys ↔ key ∈ keys

theorem Enumeration.filter_flatMap {K α : Type} (order : Enumeration K) {keys : Finset K} {key : K} (member : key ∈ keys)
    {body : K → List α} {select : α → Bool}
    (others : ∀ other ∈ keys, other ≠ key → (body other).filter select = []) :
    ((order.order keys).flatMap body).filter select = (body key).filter select := by
  obtain ⟨before, after, split⟩ := append_of_mem (order.mem_order.mpr member)
  have distinct := order.nodup keys
  rw [split, nodup_append, nodup_cons] at distinct
  obtain ⟨-, ⟨notAfter, -⟩, apart⟩ := distinct
  have silent : ∀ part : List K, (∀ other ∈ part, other ∈ order.order keys ∧ other ≠ key) →
      (part.flatMap body).filter select = [] := by
    intro part within
    rw [List.filter_flatMap, flatMap_eq_nil_iff]
    intro other among
    exact others other (order.mem_order.mp (within other among).1) (within other among).2
  have front := silent before fun other among =>
    ⟨by rw [split]; simp [among], apart other among key mem_cons_self⟩
  have back := silent after fun other among =>
    ⟨by rw [split]; simp [among], fun same => notAfter (same ▸ among)⟩
  rw [split, flatMap_append, flatMap_cons, filter_append, filter_append, front, back, nil_append, append_nil]

def Enumeration.increasing (K : Type) [LinearOrder K] : Enumeration K where
  order keys := keys.sort (· ≤ ·)
  nodup keys := keys.sort_nodup (· ≤ ·)
  mem_order := Finset.mem_sort (· ≤ ·)

def Enumeration.startingAt {K : Type} [DecidableEq K] (order : Enumeration K) (first : K) : Enumeration K where
  order keys := if first ∈ keys then first :: (order.order keys).erase first else order.order keys
  nodup keys := by
    split
    · exact List.nodup_cons.mpr ⟨(order.nodup keys).not_mem_erase, (order.nodup keys).erase first⟩
    · exact order.nodup keys
  mem_order := by
    intro keys key
    split
    · rename_i member
      by_cases same : key = first
      · simp [same, member]
      · simp [same, List.mem_erase_of_ne, order.mem_order]
    · exact order.mem_order

def Enumeration.along {K : Type} [DecidableEq K] (listed : List K) (distinct : listed.Nodup) (order : Enumeration K) :
    Enumeration K where
  order keys := if ∀ key ∈ keys, key ∈ listed then listed.filter (· ∈ keys) else order.order keys
  nodup keys := by
    split
    · exact distinct.filter _
    · exact order.nodup keys
  mem_order := by
    intro keys key
    split
    · rename_i all
      simpa using all key
    · exact order.mem_order

theorem injective_toNat_uint8 : Function.Injective UInt8.toNat := fun _ _ => UInt8.toNat_inj.mp

theorem injective_toNat_uint32 : Function.Injective UInt32.toNat := fun _ _ => UInt32.toNat_inj.mp

def Enumeration.ranked {K L : Type} [LinearOrder L] (rank : K → L)
    (injective : Function.Injective rank) : Enumeration K :=
  @increasing K (LinearOrder.lift' rank injective)

end Ipsc2Mmdvm.Data
