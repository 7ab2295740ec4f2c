import Ipsc2Mmdvm.Data.GoMap

namespace Ipsc2Mmdvm.Data

/-! A Go map of type `map[K]*V` shares its values, so the pointers are kept apart from the values
they point to.  Values are never freed; a pointer is the number of its allocation. -/

abbrev Ref := Nat

structure PtrMap (K V : Type) [DecidableEq K] where
  refs : GoMap K Ref
  heap : Ref → V
  next : Ref
  allocated : ∀ {key ref}, refs.lookup key = some ref → ref < next

namespace PtrMap

variable {K V : Type} [DecidableEq K]

def empty (K V : Type) [DecidableEq K] [Inhabited V] : PtrMap K V where
  refs := ∅
  heap := fun _ => default
  next := 0
  allocated := by simp

def find (m : PtrMap K V) (key : K) : Option Ref := m.refs.lookup key

def deref (m : PtrMap K V) (ref : Ref) : V := m.heap ref

def modify (m : PtrMap K V) (ref : Ref) (f : V → V) : PtrMap K V where
  refs := m.refs
  heap := fun other => if other = ref then f (m.heap ref) else m.heap other
  next := m.next
  allocated := m.allocated

def delete (m : PtrMap K V) (key : K) : PtrMap K V where
  refs := m.refs.erase key
  heap := m.heap
  next := m.next
  allocated := by
    intro other ref present
    rw [GoMap.lookup_erase_eq] at present
    split at present
    · cases present
    · exact m.allocated present

def store (m : PtrMap K V) (key : K) (ref : Ref) : PtrMap K V :=
  if known : ref < m.next then
    { refs := m.refs.insert key ref
      heap := m.heap
      next := m.next
      allocated := by
        intro other stored present
        rw [GoMap.lookup_insert_eq] at present
        split at present
        · cases present
          exact known
        · exact m.allocated present }
  else m

def alloc (m : PtrMap K V) (value : V) : PtrMap K V where
  refs := m.refs
  heap := fun other => if other = m.next then value else m.heap other
  next := m.next + 1
  allocated := fun present => Nat.lt_succ_of_lt (m.allocated present)

def deleteWhere (m : PtrMap K V) (drop : K → Ref → Bool) : PtrMap K V where
  refs := GoMap.deleteWhere m.refs drop
  heap := m.heap
  next := m.next
  allocated := fun present => m.allocated (GoMap.lookup_deleteWhere_eq_some.mp present).1

def findWhere (m : PtrMap K V) (order : Enumeration K) (pick : K → V → Bool) : Option (K × Ref) :=
  (order.order m.refs.keys).findSome? fun key =>
    match m.find key with
    | none => none
    | some ref => if pick key (m.deref ref) then some (key, ref) else none

section

variable {m : PtrMap K V} {key other : K} {ref shared : Ref} {value : V} {f : V → V} {pick : K → V → Bool}
  {order : Enumeration K}

theorem lt_next (present : m.find key = some ref) : ref < m.next := m.allocated present

@[simp] theorem find_empty [Inhabited V] : (empty K V).find key = none := by simp [empty, find]

@[simp] theorem find_modify : (m.modify ref f).find key = m.find key := rfl

@[simp] theorem find_delete : (m.delete key).find other = if other = key then none else m.find other :=
  GoMap.lookup_erase_eq _ _ _

theorem find_store (known : ref < m.next) :
    (m.store key ref).find other = if other = key then some ref else m.find other := by
  simp only [store, known, dif_pos]
  exact GoMap.lookup_insert_eq _ _ _ _

@[simp] theorem find_deleteWhere {drop : K → Ref → Bool} :
    (m.deleteWhere drop).find key = some ref ↔ m.find key = some ref ∧ drop key ref = false :=
  GoMap.lookup_deleteWhere_eq_some

@[simp] theorem deref_modify :
    (m.modify ref f).deref shared = if shared = ref then f (m.deref ref) else m.deref shared := rfl

@[simp] theorem deref_delete : (m.delete key).deref ref = m.deref ref := rfl

@[simp] theorem deref_store : (m.store key ref).deref shared = m.deref shared := by
  simp only [store]
  split <;> rfl

@[simp] theorem deref_alloc : (m.alloc value).deref ref = if ref = m.next then value else m.deref ref := rfl

@[simp] theorem next_store : (m.store key ref).next = m.next := by
  simp only [store]
  split <;> rfl

@[simp] theorem next_alloc : (m.alloc value).next = m.next + 1 := rfl

theorem findWhere_some (found : m.findWhere order pick = some (key, ref)) :
    m.find key = some ref ∧ pick key (m.deref ref) = true := by
  obtain ⟨candidate, _, result⟩ := List.exists_of_findSome?_eq_some found
  cases present : m.find candidate with
  | none => simp [present] at result
  | some stored =>
    simp only [present] at result
    split at result
    · cases result
      exact ⟨present, by assumption⟩
    · cases result

theorem findWhere_isSome (order : Enumeration K) (pick : K → V → Bool) (present : m.find key = some ref)
    (picked : pick key (m.deref ref) = true) : (m.findWhere order pick).isSome = true := by
  rw [findWhere, List.findSome?_isSome_iff]
  refine ⟨key, order.mem_order.mpr (GoMap.mem_keys_iff.mpr ⟨ref, present⟩), ?_⟩
  simp [present, picked]

theorem findWhere_order (unique : ∀ key other ref shared, m.find key = some ref → m.find other = some shared →
      pick key (m.deref ref) = true → pick other (m.deref shared) = true → ref = shared)
    (order order' : Enumeration K) :
    (m.findWhere order pick).map Prod.snd = (m.findWhere order' pick).map Prod.snd := by
  cases found : m.findWhere order pick with
  | none =>
    cases found' : m.findWhere order' pick with
    | none => rfl
    | some pair =>
      obtain ⟨present, picked⟩ := findWhere_some found'
      simpa [found] using findWhere_isSome order pick present picked
  | some pair =>
    obtain ⟨present, picked⟩ := findWhere_some found
    obtain ⟨pair', found'⟩ := Option.isSome_iff_exists.mp (findWhere_isSome order' pick present picked)
    obtain ⟨present', picked'⟩ := findWhere_some found'
    rw [found', Option.map_some, Option.map_some, unique _ _ _ _ present present' picked picked']

theorem findWhere_eq_none :
    m.findWhere order pick = none ↔ ∀ key ref, m.find key = some ref → pick key (m.deref ref) = false := by
  refine ⟨?_, ?_⟩
  · intro absent key ref present
    by_contra picked
    have found := findWhere_isSome order pick present (by simpa using picked)
    simp [absent] at found
  · intro unpicked
    cases found : m.findWhere order pick with
    | none => rfl
    | some pair =>
      obtain ⟨present, picked⟩ := findWhere_some found
      simp [unpicked _ _ present] at picked

theorem findWhere_startingAt (order : Enumeration K) (present : m.find key = some ref) (picked : pick key (m.deref ref) = true) :
    m.findWhere (order.startingAt key) pick = some (key, ref) := by
  have member : key ∈ m.refs.keys := GoMap.mem_keys_iff.mpr ⟨ref, present⟩
  simp [findWhere, Enumeration.startingAt, member, present, picked]

end

def PicksOne (m : PtrMap K V) (pick : K → V → Bool) : Prop :=
  ∀ key other ref shared, m.find key = some ref → m.find other = some shared →
    pick key (m.deref ref) = true → pick other (m.deref shared) = true → ref = shared

/-! Such a map is a plain map of values, and changing a value through its pointer changes it at one
key only. -/

def view (m : PtrMap K V) (key : K) : Option V := (m.find key).map m.deref

def Unshared (m : PtrMap K V) : Prop :=
  ∀ ⦃key other ref⦄, m.find key = some ref → m.find other = some ref → key = other

section

variable {m : PtrMap K V} {key old : K} {ref : Ref} {value : V} {f : V → V}

theorem view_eq_some : m.view key = some value ↔ ∃ ref, m.find key = some ref ∧ m.deref ref = value := by
  simp [view]

theorem view_of_find (found : m.find key = some ref) : m.view key = some (m.deref ref) := by
  simp [view, found]

theorem view_delete : (m.delete key).view = Function.update m.view key none := by
  funext other
  have kept : (m.delete key).deref = m.deref := rfl
  by_cases same : other = key <;> simp [view, kept, same]

theorem Unshared.view_modify (unshared : m.Unshared) (found : m.find key = some ref) :
    (m.modify ref f).view = Function.update m.view key (some (f (m.deref ref))) := by
  funext other
  by_cases same : other = key
  · subst same
    simp [view, found]
  · rw [Function.update_of_ne same]
    cases present : m.find other with
    | none => simp [view, present]
    | some shared =>
      have differs : shared ≠ ref := fun shares => same (unshared (shares ▸ present) found)
      simp [view, present, differs]

theorem view_modify_of_absent (absent : ∀ key, m.find key ≠ some ref) : (m.modify ref f).view = m.view := by
  funext key
  cases present : m.find key with
  | none => simp [view, present]
  | some other =>
    have differs : other ≠ ref := fun same => absent key (same ▸ present)
    simp [view, present, differs]

theorem find_create (other : K) :
    ((m.alloc value).store key m.next).find other = if other = key then some m.next else m.find other :=
  find_store (Nat.lt_succ_self _)

theorem view_create : ((m.alloc value).store key m.next).view = Function.update m.view key (some value) := by
  funext other
  by_cases same : other = key
  · subst same
    simp [view, find_create]
  · rw [Function.update_of_ne same, view, find_create, if_neg same]
    cases present : m.find other with
    | none => simp [view, present]
    | some ref => simp [view, present, (lt_next present).ne]

theorem view_store (known : ref < m.next) :
    (m.store key ref).view = Function.update m.view key (some (m.deref ref)) := by
  funext other
  by_cases same : other = key
  · subst same
    simp [view, find_store known]
  · have kept : (m.store key ref).deref = m.deref := funext fun _ => deref_store
    simp [view, find_store known, kept, same]

section

variable (unshared : m.Unshared)

include unshared

theorem Unshared.delete (key : K) : (m.delete key).Unshared := by
  intro first second ref at' at''
  simp only [find_delete] at at' at''
  split at at'
  · cases at'
  · split at at''
    · cases at''
    · exact unshared at' at''

theorem Unshared.modify (ref : Ref) (f : V → V) : (m.modify ref f).Unshared := unshared

theorem Unshared.create (key : K) (value : V) : ((m.alloc value).store key m.next).Unshared := by
  intro first second ref at' at''
  rw [find_create] at at' at''
  split at at' <;> split at at''
  · exact Eq.trans ‹_› (Eq.symm ‹_›)
  · cases at'
    exact absurd rfl (lt_next at'').ne
  · cases at''
    exact absurd rfl (lt_next at').ne
  · exact unshared at' at''

theorem Unshared.store (known : ref < m.next)
    (fresh : ∀ other, m.find other = some ref → other = key) : (m.store key ref).Unshared := by
  intro first second shared at' at''
  rw [find_store known] at at' at''
  split at at' <;> split at at''
  · exact Eq.trans ‹_› (Eq.symm ‹_›)
  · cases at'
    exact absurd (fresh _ at'') ‹_›
  · cases at''
    exact absurd (fresh _ at') ‹_›
  · exact unshared at' at''

theorem Unshared.absent_delete (found : m.find key = some ref) (other : K) : (m.delete key).find other ≠ some ref := by
  simp only [find_delete]
  split
  · simp
  · intro present
    exact absurd (unshared present found) ‹_›

end

theorem unshared_empty [Inhabited V] : (empty K V).Unshared := by
  intro key other ref at'
  simp at at'

end

end PtrMap

end Ipsc2Mmdvm.Data
