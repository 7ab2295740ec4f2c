import Ipsc2Mmdvm.Data.SortSlice
import Ipsc2Mmdvm.Data.Table
import Ipsc2Mmdvm.Registry.Device

namespace Ipsc2Mmdvm.Registry

open Data List Table Device

/-! A transaction that fails leaves the database as it was; a statement fails when it violates a
constraint. -/

@[ext] structure StaticGroup where
  sourceKey : String
  slot : Int
  groupID : UInt32
deriving DecidableEq

structure StaticGroups where
  rows : List StaticGroup
  nodup : rows.Nodup

namespace StaticGroups

def empty : StaticGroups := ⟨[], List.nodup_nil⟩

def deleteWhere (t : StaticGroups) (drop : StaticGroup → Bool) : StaticGroups :=
  ⟨t.rows.filter fun row => !drop row, t.nodup.filter _⟩

def insert (t : StaticGroups) (row : StaticGroup) : Option StaticGroups :=
  if present : row ∈ t.rows then none else some ⟨row :: t.rows, List.nodup_cons.mpr ⟨present, t.nodup⟩⟩

def insertOrIgnore (t : StaticGroups) (row : StaticGroup) : StaticGroups :=
  (t.insert row).getD t

def copy (t : StaticGroups) (target source : String) : StaticGroups :=
  (t.rows.filter fun row => row.sourceKey == source).foldl
    (fun t row => t.insertOrIgnore { row with sourceKey := target }) t

def replace (t : StaticGroups) (sourceKey : String) (slot : Int) (groups : List UInt32) :
    Option StaticGroups :=
  (groups.filter (· ≠ 0)).foldlM (fun t groupID => t.insert ⟨sourceKey, slot, groupID⟩)
    (t.deleteWhere fun row => row.sourceKey == sourceKey && row.slot == slot)

def less (a b : StaticGroup) : Bool :=
  if a.sourceKey = b.sourceKey then
    if a.slot = b.slot then a.groupID < b.groupID else a.slot < b.slot
  else a.sourceKey < b.sourceKey

section

variable {t t' : StaticGroups} {row added : StaticGroup} {sourceKey : String} {groups : List UInt32}

@[simp] theorem mem_deleteWhere {drop : StaticGroup → Bool} :
    row ∈ (t.deleteWhere drop).rows ↔ row ∈ t.rows ∧ drop row = false := by
  simp [deleteWhere]

theorem mem_insert (inserted : t.insert added = some t') : row ∈ t'.rows ↔ row = added ∨ row ∈ t.rows := by
  simp only [insert] at inserted
  split at inserted
  · cases inserted
  · cases inserted
    simp

theorem insert_eq_none : t.insert row = none ↔ row ∈ t.rows := by
  simp only [insert]
  split <;> simp_all

@[simp] theorem mem_insertOrIgnore : row ∈ (t.insertOrIgnore added).rows ↔ row = added ∨ row ∈ t.rows := by
  cases inserted : t.insert added with
  | some t' =>
    rw [insertOrIgnore, inserted]
    exact mem_insert inserted
  | none =>
    have present := insert_eq_none.mp inserted
    rw [insertOrIgnore, inserted]
    exact ⟨.inr, fun either => either.elim (fun same => same ▸ present) id⟩

theorem mem_foldl_insertOrIgnore {added : List StaticGroup} {f : StaticGroup → StaticGroup} :
    row ∈ (added.foldl (fun t row => t.insertOrIgnore (f row)) t).rows ↔
      row ∈ t.rows ∨ ∃ source ∈ added, row = f source := by
  induction added generalizing t with
  | nil => simp
  | cons first added ih =>
    simp only [foldl_cons, ih, mem_insertOrIgnore, exists_mem_cons_iff]
    tauto

theorem mem_copy {target source : String} : row ∈ (t.copy target source).rows ↔
      row ∈ t.rows ∨ row.sourceKey = target ∧ { row with sourceKey := source } ∈ t.rows := by
  simp only [copy, mem_foldl_insertOrIgnore, mem_filter, beq_iff_eq]
  apply or_congr_right
  constructor
  · intro copied
    obtain ⟨old, ⟨member, rfl⟩, rfl⟩ := copied
    exact ⟨rfl, member⟩
  · intro copied
    obtain ⟨rfl, member⟩ := copied
    exact ⟨_, ⟨member, rfl⟩, rfl⟩

theorem mem_foldlM_insert {slot : Int}
    (inserted : groups.foldlM (fun t groupID => t.insert ⟨sourceKey, slot, groupID⟩) t = some t') :
    row ∈ t'.rows ↔ row ∈ t.rows ∨ row.sourceKey = sourceKey ∧ row.slot = slot ∧ row.groupID ∈ groups := by
  induction groups generalizing t with
  | nil =>
    cases inserted
    simp
  | cons first groups ih =>
    simp only [foldlM_cons, Option.bind_eq_bind, Option.bind_eq_some_iff] at inserted
    obtain ⟨next, added, rest⟩ := inserted
    rw [ih rest, mem_insert added, mem_cons, StaticGroup.ext_iff]
    tauto

theorem foldlM_insert_isSome {slot : Int} :
    (groups.foldlM (fun (t : StaticGroups) groupID => t.insert ⟨sourceKey, slot, groupID⟩) t).isSome = true ↔
      groups.Nodup ∧ ∀ groupID ∈ groups, ⟨sourceKey, slot, groupID⟩ ∉ t.rows := by
  induction groups generalizing t with
  | nil => simp
  | cons first groups ih =>
    rw [foldlM_cons, nodup_cons, forall_mem_cons]
    cases inserted : t.insert ⟨sourceKey, slot, first⟩ with
    | none =>
      simp [insert_eq_none.mp inserted]
    | some next =>
      have absent : ⟨sourceKey, slot, first⟩ ∉ t.rows := fun present => by
        simp [insert_eq_none.mpr present] at inserted
      simp only [Option.bind_eq_bind, Option.bind_some, ih, mem_insert inserted, StaticGroup.mk.injEq,
        true_and, not_or, absent, not_false_eq_true, true_and]
      grind

section Replace

variable {sourceKey : String} {slot : Int} {groups : List UInt32}

theorem mem_replace {t' : StaticGroups} (replaced : t.replace sourceKey slot groups = some t') :
    row ∈ t'.rows ↔ if row.sourceKey = sourceKey ∧ row.slot = slot then row.groupID ∈ groups ∧ row.groupID ≠ 0
      else row ∈ t.rows := by
  rw [mem_foldlM_insert replaced, mem_deleteWhere, mem_filter]
  split
  · rename_i own
    simp [own.1, own.2]
  · rename_i other
    simp only [Bool.and_eq_false_iff, beq_eq_false_iff_ne]
    tauto

theorem replace_isSome : (t.replace sourceKey slot groups).isSome = true ↔ (groups.filter (· ≠ 0)).Nodup := by
  simp [replace, foldlM_insert_isSome]

end Replace

end

end StaticGroups

structure Store where
  devices : Table Device.sourceKey Device.id
  staticGroups : StaticGroups

namespace Store

def empty : Store := ⟨.empty _ _, .empty⟩

def loadStaticGroups (s : Store) : List StaticGroup :=
  sortSlice StaticGroups.less s.staticGroups.rows

def replaceStaticGroups (s : Store) (sourceKey : String) (slot : Int) (groups : List UInt32) :
    Option Store :=
  (s.staticGroups.replace sourceKey slot groups).map fun staticGroups => { s with staticGroups }

def loadDevices (s : Store) : List Device := sortSlice lastSeenFirst s.devices.rows

def deviceByID (s : Store) (id : Nat) : Option Device := s.devices.findNumber id

def deviceBySourceKey (s : Store) (sourceKey : String) : Option Device := s.devices.find sourceKey

def isDuplicate (dev row : Device) : Bool :=
  row.dmrID == dev.dmrID && row.sourceKey != dev.sourceKey && row.protocol != "mmdvm-upstream"

def duplicates (s : Store) (dev : Device) : List Device :=
  if dev.dmrID = 0 ∨ dev.sourceKey = "" ∨ dedupeByDMRID dev.protocol = false then []
  else sortSlice lastSeenFirst (s.devices.rows.filter (isDuplicate dev))

def absorb (acc : Store × Device) (dup : Device) : Store × Device :=
  let (s, dev) := acc
  ({ devices := s.devices.deleteWhere fun row => row.id == dup.id
     staticGroups := (s.staticGroups.copy dev.sourceKey dup.sourceKey).deleteWhere
       fun row => row.sourceKey == dup.sourceKey },
    mergePreferredDevice dev dup)

def mergeDuplicateDMRID (s : Store) (dev : Device) : Store × Device :=
  (s.duplicates dev).foldl absorb (s, dev)

def insertOrUpdate (t : Table Device.sourceKey Device.id) (dev : Device) :
    Table Device.sourceKey Device.id :=
  match found : t.find dev.sourceKey with
  | some _ =>
    t.update (fun row => if row.sourceKey = dev.sourceKey then onConflict row dev else row)
      (fun row => by split <;> rfl) (fun row => by split <;> rfl)
  | none => t.insert { dev with id := t.next } found rfl

def upsertDevice (s : Store) (now : Time) (dev : Device) : Store × Option Device :=
  let dev := { dev with
    firstSeenAt := orElse 0 dev.firstSeenAt now
    lastSeenAt := orElse 0 dev.lastSeenAt now }
  let (s, dev) := s.mergeDuplicateDMRID dev
  let s := { s with devices := insertOrUpdate s.devices dev }
  (s, s.deviceBySourceKey dev.sourceKey)

def setDevice (s : Store) (id : Nat) (set : Device → Device)
    (sameKey : ∀ row, (set row).sourceKey = row.sourceKey) (sameID : ∀ row, (set row).id = row.id) :
    Store :=
  { s with
    devices := s.devices.update (fun row => if row.id = id then set row else row)
      (fun row => by split <;> simp [sameKey]) (fun row => by split <;> simp [sameID]) }

def updateDeviceMetadata (s : Store) (id : Nat) (patch : DevicePatch) : Option (Store × Device) :=
  match s.deviceByID id with
  | none => none
  | some _ =>
    let s := s.setDevice id patch.apply patch.apply_sourceKey patch.apply_id
    (s.deviceByID id).map fun dev => (s, dev)

def assignDeviceOwner (s : Store) (id : Nat) (ownerUserID : Int) : Store × Option Device :=
  let s := s.setDevice id (fun row => { row with ownerUserID }) (fun _ => rfl) (fun _ => rfl)
  (s, s.deviceByID id)

def deleteDevice (s : Store) (id : Nat) : Option (Store × Device) :=
  match s.deviceByID id with
  | none => none
  | some current =>
    some ({ devices := s.devices.deleteWhere fun row => row.id == id
            staticGroups := s.staticGroups.deleteWhere fun row => row.sourceKey == current.sourceKey },
      current)

def stamped (now : Time) (dev : Device) : Device :=
  { dev with
    firstSeenAt := orElse 0 dev.firstSeenAt now
    lastSeenAt := orElse 0 dev.lastSeenAt now }

def merged (s : Store) (now : Time) (dev : Device) : Device :=
  (s.duplicates dev).foldl mergePreferredDevice (stamped now dev)

def writtenRow (old : Option Device) (next : Nat) (dev : Device) : Device :=
  match old with
  | some row => onConflict row dev
  | none => { dev with id := next }

def upserted (s : Store) (now : Time) (dev : Device) : Device :=
  writtenRow (s.devices.find dev.sourceKey) s.devices.next (s.merged now dev)

section Upsert

variable {s : Store} {dev row : Device} {now : Time} {k : String}

theorem mem_duplicates : row ∈ s.duplicates dev ↔
    (dev.dmrID ≠ 0 ∧ dev.sourceKey ≠ "" ∧ dedupeByDMRID dev.protocol = true) ∧
      row ∈ s.devices.rows ∧ isDuplicate dev row = true := by
  simp only [duplicates]
  split
  · simp only [not_mem_nil, false_iff]
    intro both
    obtain ⟨⟨identified, named, deduped⟩, _⟩ := both
    simp_all
  · simp_all [mem_filter]

theorem duplicate_key (duplicate : row ∈ s.duplicates dev) : row.sourceKey ≠ dev.sourceKey := by
  have picked := (mem_duplicates.mp duplicate).2.2
  simp only [isDuplicate, Bool.and_eq_true, bne_iff_ne] at picked
  exact picked.1.2

@[simp] theorem duplicates_stamped : s.duplicates (stamped now dev) = s.duplicates dev := rfl

theorem foldl_mergePreferredDevice (dups : List Device) (dev : Device) :
    (dups.foldl mergePreferredDevice dev).sourceKey = dev.sourceKey ∧
      (dups.foldl mergePreferredDevice dev).protocol = dev.protocol ∧
      (dups.foldl mergePreferredDevice dev).dmrID = dev.dmrID ∧
      (dups.foldl mergePreferredDevice dev).disabled = (dev.disabled || dups.any disabled) := by
  induction dups generalizing dev with
  | nil => simp
  | cons dup dups ih =>
    obtain ⟨key, protocol, id, disabled⟩ := ih (mergePreferredDevice dev dup)
    exact ⟨key, protocol, id, by simpa [Bool.or_assoc] using disabled⟩

theorem foldl_mergePreferredDevice_notes (dups : List Device) (dev : Device) :
    (dups.foldl mergePreferredDevice dev).notes = firstNonEmpty (dev.notes :: dups.map notes) := by
  induction dups generalizing dev with
  | nil =>
    by_cases empty : dev.notes = "" <;> simp [firstNonEmpty, empty]
  | cons dup dups ih =>
    rw [foldl_cons, ih]
    by_cases empty : dev.notes = "" <;> simp [firstNonEmpty, mergePreferredDevice, orElse, empty]

@[simp] theorem merged_sourceKey : (s.merged now dev).sourceKey = dev.sourceKey := (foldl_mergePreferredDevice _ _).1

@[simp] theorem merged_protocol : (s.merged now dev).protocol = dev.protocol := (foldl_mergePreferredDevice _ _).2.1

@[simp] theorem merged_dmrID : (s.merged now dev).dmrID = dev.dmrID := (foldl_mergePreferredDevice _ _).2.2.1

@[simp] theorem upserted_sourceKey : (s.upserted now dev).sourceKey = dev.sourceKey := by
  simp only [upserted, writtenRow]
  split
  · rename_i row found
    exact (find_eq_some.mp found).2
  · exact merged_sourceKey

@[simp] theorem upserted_protocol : (s.upserted now dev).protocol = dev.protocol := by
  simp only [upserted, writtenRow]
  split
  · exact merged_protocol
  · exact merged_protocol

theorem upserted_disabled : (s.upserted now dev).disabled = (dev.disabled || (s.duplicates dev).any disabled) := by
  simp only [upserted, writtenRow]
  split <;> exact (foldl_mergePreferredDevice _ _).2.2.2

theorem upserted_notes : (s.upserted now dev).notes = firstNonEmpty (dev.notes :: (s.duplicates dev).map notes) := by
  simp only [upserted, writtenRow]
  split <;> exact foldl_mergePreferredDevice_notes _ _

theorem foldl_absorb_device (dups : List Device) (s : Store) (dev : Device) :
    (dups.foldl absorb (s, dev)).2 = dups.foldl mergePreferredDevice dev := by
  induction dups generalizing s dev with
  | nil => rfl
  | cons dup dups ih => exact ih _ _

theorem foldl_absorb_devices (dups : List Device) (s : Store) (dev : Device) : (dups.foldl absorb (s, dev)).1.devices =
      s.devices.deleteWhere fun row => dups.any fun dup => row.id == dup.id := by
  induction dups generalizing s dev with
  | nil => simp [deleteWhere]
  | cons dup dups ih =>
    rw [foldl_cons, absorb, ih]
    simp [deleteWhere, filter_filter, Bool.and_comm]

theorem mem_foldl_absorb_staticGroups (dups : List Device) (s : Store) (dev : Device)
    (others : ∀ dup ∈ dups, dup.sourceKey ≠ dev.sourceKey)
    (nodup : (dups.map sourceKey).Nodup) (group : StaticGroup) :
    group ∈ (dups.foldl absorb (s, dev)).1.staticGroups.rows ↔
      (group ∈ s.staticGroups.rows ∧ ∀ dup ∈ dups, group.sourceKey ≠ dup.sourceKey) ∨ group.sourceKey = dev.sourceKey ∧
          ∃ dup ∈ dups, { group with sourceKey := dup.sourceKey } ∈ s.staticGroups.rows := by
  induction dups generalizing s dev with
  | nil => simp
  | cons dup dups ih =>
    have differs := others dup (by simp)
    have distinct := nodup_cons.mp nodup
    have rest : ∀ other ∈ dups, other.sourceKey ≠ (mergePreferredDevice dev dup).sourceKey := fun other member =>
      others other (mem_cons_of_mem _ member)
    rw [foldl_cons, absorb, ih _ _ rest distinct.2]
    have apart : ∀ other ∈ dups, other.sourceKey ≠ dup.sourceKey := fun other member same =>
      distinct.1 (mem_map.mpr ⟨other, member, same⟩)
    simp only [StaticGroups.mem_deleteWhere, StaticGroups.mem_copy, beq_eq_false_iff_ne,
      mergePreferredDevice_sourceKey, forall_mem_cons, exists_mem_cons_iff]
    grind

theorem duplicates_nodup_keys : ((s.duplicates dev).map sourceKey).Nodup := by
  simp only [duplicates]
  split
  · simp
  · rw [((sortSlice_perm _).map sourceKey).nodup_iff]
    exact s.devices.nodupKeys.sublist (filter_sublist.map _)

theorem any_duplicate_id (member : row ∈ s.devices.rows) :
    ((s.duplicates dev).any fun dup => row.id == dup.id) = decide (row ∈ s.duplicates dev) := by
  rw [Bool.eq_iff_iff, any_eq_true, decide_eq_true_iff]
  constructor
  · intro found
    obtain ⟨dup, duplicate, same⟩ := found
    have stored := (mem_duplicates.mp duplicate).2.1
    rwa [number_injective member stored (by simpa using same)]
  · intro duplicate
    exact ⟨row, duplicate, by simp⟩

theorem find_mergeDuplicateDMRID : (s.mergeDuplicateDMRID dev).1.devices.find k =
      (s.devices.find k).filter fun row => decide (row ∉ s.duplicates dev) := by
  rw [mergeDuplicateDMRID, foldl_absorb_devices, find_deleteWhere]
  cases found : s.devices.find k with
  | none => rfl
  | some row =>
    have stored := (find_eq_some.mp found).1
    simp [Option.filter, any_duplicate_id stored]

theorem find_insertOrUpdate (t : Table sourceKey id) (dev : Device) (k : String) :
    (insertOrUpdate t dev).find k = if k = dev.sourceKey then
        some (writtenRow (t.find dev.sourceKey) t.next dev)
      else t.find k := by
  simp only [insertOrUpdate]
  split
  · rename_i row found
    rw [find_update, found]
    split
    · rename_i same
      subst same
      have named := (find_eq_some.mp found).2
      simp [found, named, writtenRow]
    · rename_i differs
      cases there : t.find k with
      | none => rfl
      | some other =>
        have named := (find_eq_some.mp there).2
        simp [named, differs]
  · rename_i found
    rw [find_insert, found]
    rfl

theorem find_upsertDevice (s : Store) (now : Time) (dev : Device) (k : String) :
    (s.upsertDevice now dev).1.devices.find k = if k = dev.sourceKey then some (s.upserted now dev)
      else (s.devices.find k).filter fun row => decide (row ∉ s.duplicates dev) := by
  have device : (s.mergeDuplicateDMRID (stamped now dev)).2 = s.merged now dev := foldl_absorb_device _ _ _
  have next : (s.mergeDuplicateDMRID (stamped now dev)).1.devices.next = s.devices.next := by
    rw [mergeDuplicateDMRID, foldl_absorb_devices]
    rfl
  have kept : (s.mergeDuplicateDMRID (stamped now dev)).1.devices.find dev.sourceKey =
      s.devices.find dev.sourceKey := by
    rw [find_mergeDuplicateDMRID, duplicates_stamped]
    cases found : s.devices.find dev.sourceKey with
    | none => rfl
    | some row =>
      have named := (find_eq_some.mp found).2
      have kept : row ∉ s.duplicates dev := fun duplicate => duplicate_key duplicate named
      simp [Option.filter, kept]
  change (insertOrUpdate (s.mergeDuplicateDMRID (stamped now dev)).1.devices
    (s.mergeDuplicateDMRID (stamped now dev)).2).find k = _
  rw [find_insertOrUpdate, device, merged_sourceKey, kept, next, find_mergeDuplicateDMRID, duplicates_stamped]
  rfl

theorem upsertDevice_result (s : Store) (now : Time) (dev : Device) :
    (s.upsertDevice now dev).2 = some (s.upserted now dev) := by
  have device : (s.mergeDuplicateDMRID (stamped now dev)).2 = s.merged now dev := foldl_absorb_device _ _ _
  have found := find_upsertDevice s now dev dev.sourceKey
  rw [if_pos rfl] at found
  rw [← found]
  change (s.upsertDevice now dev).1.devices.find (s.mergeDuplicateDMRID (stamped now dev)).2.sourceKey = _
  rw [device, merged_sourceKey]

theorem upsertDevice_eq (s : Store) (now : Time) (dev : Device) :
    s.upsertDevice now dev = ((s.upsertDevice now dev).1, some (s.upserted now dev)) :=
  Prod.ext rfl (upsertDevice_result s now dev)

theorem mem_upsertDevice_staticGroups (s : Store) (now : Time) (dev : Device) (group : StaticGroup) :
    group ∈ (s.upsertDevice now dev).1.staticGroups.rows ↔
      (group ∈ s.staticGroups.rows ∧ ∀ dup ∈ s.duplicates dev, group.sourceKey ≠ dup.sourceKey) ∨
        group.sourceKey = dev.sourceKey ∧
          ∃ dup ∈ s.duplicates dev, { group with sourceKey := dup.sourceKey } ∈ s.staticGroups.rows :=
  mem_foldl_absorb_staticGroups (s.duplicates dev) s (stamped now dev) (fun _ => duplicate_key)
    duplicates_nodup_keys group

end Upsert

section Change

variable {s s' : Store} {id : Nat} {set : Device → Device}
  {sameKey : ∀ row, (set row).sourceKey = row.sourceKey} {sameID : ∀ row, (set row).id = row.id}
  {dev : Device} {k : String}

theorem find_setDevice (k : String) : (s.setDevice id set sameKey sameID).devices.find k =
      (s.devices.find k).map fun row => if row.id = id then set row else row := by
  rw [setDevice, find_update]

theorem deviceByID_setDevice : (s.setDevice id set sameKey sameID).deviceByID id = (s.deviceByID id).map set := by
  rw [deviceByID, setDevice, findNumber_update]
  cases found : s.devices.findNumber id with
  | none => simp [deviceByID, found]
  | some row =>
    have numbered := (findNumber_eq_some.mp found).2
    simp [deviceByID, found, numbered]

theorem find_of_deviceByID (found : s.deviceByID id = some dev) :
    s.devices.find dev.sourceKey = some dev ∧ dev.id = id := by
  obtain ⟨member, numbered⟩ := findNumber_eq_some.mp found
  exact ⟨find_eq_some.mpr ⟨member, rfl⟩, numbered⟩

theorem deviceByID_of_find (found : s.devices.find k = some dev) : s.deviceByID dev.id = some dev :=
  findNumber_eq_some.mpr ⟨(find_eq_some.mp found).1, rfl⟩

theorem id_injective {k' : String} {row row' : Device} (found : s.devices.find k = some row)
    (found' : s.devices.find k' = some row') (same : row.id = row'.id) : k = k' := by
  obtain ⟨member, rfl⟩ := find_eq_some.mp found
  obtain ⟨member', rfl⟩ := find_eq_some.mp found'
  rw [number_injective member member' same]

theorem find_setDevice_of_find (found : s.devices.find dev.sourceKey = some dev) (numbered : dev.id = id) :
    (s.setDevice id set sameKey sameID).devices.find k =
      if k = dev.sourceKey then some (set dev) else s.devices.find k := by
  rw [find_setDevice]
  split
  · rename_i same
    subst same
    simp [found, numbered]
  · rename_i differs
    cases there : s.devices.find k with
    | none => rfl
    | some row =>
      have other : row.id ≠ id := fun same =>
        differs (id_injective there found (same.trans numbered.symm))
      simp [other]

theorem updateDeviceMetadata_eq_some {patch : DevicePatch} : s.updateDeviceMetadata id patch = some (s', dev) ↔
      ∃ current, s.deviceByID id = some current ∧ dev = patch.apply current ∧
        s' = s.setDevice id patch.apply patch.apply_sourceKey patch.apply_id := by
  simp only [updateDeviceMetadata]
  cases found : s.deviceByID id with
  | none => simp
  | some current =>
    rw [deviceByID_setDevice, found]
    simp only [Option.map_some, Option.some.injEq, Prod.mk.injEq, exists_eq_left']
    tauto

theorem deleteDevice_eq_some : s.deleteDevice id = some (s', dev) ↔ s.deviceByID id = some dev ∧
        s' = { devices := s.devices.deleteWhere fun row => row.id == id
               staticGroups := s.staticGroups.deleteWhere fun row => row.sourceKey == dev.sourceKey } := by
  simp only [deleteDevice]
  cases found : s.deviceByID id with
  | none => simp
  | some current =>
    simp only [Option.some.injEq, Prod.mk.injEq]
    constructor
    · intro same
      obtain ⟨rfl, rfl⟩ := same
      exact ⟨rfl, rfl⟩
    · intro same
      obtain ⟨rfl, rfl⟩ := same
      exact ⟨rfl, rfl⟩

theorem find_deleteDevice (deleted : s.deleteDevice id = some (s', dev)) (k : String) :
    s'.devices.find k = if k = dev.sourceKey then none else s.devices.find k := by
  obtain ⟨found, rfl⟩ := deleteDevice_eq_some.mp deleted
  obtain ⟨present, numbered⟩ := find_of_deviceByID found
  rw [find_deleteWhere]
  cases there : s.devices.find k with
  | none => simp
  | some row =>
    split
    · rename_i same
      rw [same, present] at there
      cases there
      simp [Option.filter, numbered]
    · rename_i differs
      have other : row.id ≠ id := fun same =>
        differs (id_injective there present (same.trans numbered.symm))
      simp [Option.filter, other]

end Change

end Store

end Ipsc2Mmdvm.Registry
