import Ipsc2Mmdvm.Data.GoMap
import Ipsc2Mmdvm.Registry.Device
import Ipsc2Mmdvm.Registry.Store

namespace Ipsc2Mmdvm.Registry

open Data Option

/-! The device table with a cache before it.  A duplicate DMR ID is merged by the store over its
rows and by the service over its cache.  `lookup` is `Resolver.Lookup` and `ownerOf` is
`FindUserIDByCallsign`, zero where it fails. -/

structure Service where
  store : Store
  devices : GoMap String Device

structure Reply where
  service : Service
  device : Device
  published : Event

def enrichDevice (lookup : UInt32 → String) (dev : Device) : Device :=
  if dev.callsign = "" ∧ dev.dmrID ≠ 0 then { dev with callsign := lookup dev.dmrID } else dev

namespace Service

def newService (lookup : UInt32 → String) (store : Store) : Service :=
  { store
    devices := store.loadDevices.foldl (fun devices dev =>
      devices.insert dev.sourceKey (enrichDevice lookup dev)) ∅ }

def findDevice (svc : Service) (sourceKey : String) : Option Device :=
  svc.devices.lookup sourceKey

def assignOwner (ownerOf : String → Int) (store : Store) (stored : Device) : Store × Device :=
  if stored.ownerUserID = 0 ∧ stored.callsign ≠ "" ∧ ownerOf stored.callsign ≠ 0 then
    match store.assignDeviceOwner stored.id (ownerOf stored.callsign) with
    | (store, some reassigned) => (store, reassigned)
    | (store, none) => (store, stored)
  else (store, stored)

def isCachedDuplicate (stored : Device) (sourceKey : String) (existing : Device) : Bool :=
  sourceKey != stored.sourceKey && existing.dmrID == stored.dmrID && dedupeByDMRID existing.protocol

def dropDuplicates (devices : GoMap String Device) (stored : Device) : GoMap String Device :=
  if stored.dmrID ≠ 0 ∧ dedupeByDMRID stored.protocol = true then
    devices.deleteWhere (isCachedDuplicate stored)
  else devices

def cacheStored (lookup : UInt32 → String) (devices : GoMap String Device) (store : Store)
    (stored : Device) : Reply :=
  let devices := (dropDuplicates devices stored).insert stored.sourceKey stored
  let stored := enrichDevice lookup stored
  ⟨⟨store, devices⟩, stored, .deviceUpdated stored⟩

def upsertDevice (lookup : UInt32 → String) (ownerOf : String → Int) (now : Time) (svc : Service)
    (dev : Device) : Option Reply :=
  match svc.store.upsertDevice now (enrichDevice lookup dev) with
  | (_, none) => none
  | (store, some stored) =>
    let assigned := assignOwner ownerOf store stored
    some (cacheStored lookup svc.devices assigned.1 assigned.2)

def updateDeviceMetadata (lookup : UInt32 → String) (svc : Service) (id : Nat) (patch : DevicePatch) :
    Option Reply :=
  (svc.store.updateDeviceMetadata id patch).map fun (store, dev) =>
    let dev := enrichDevice lookup dev
    ⟨⟨store, svc.devices.insert dev.sourceKey dev⟩, dev, .deviceUpdated dev⟩

def deleteDevice (lookup : UInt32 → String) (svc : Service) (id : Nat) : Option Reply :=
  (svc.store.deleteDevice id).map fun (store, dev) =>
    let devices := svc.devices.erase dev.sourceKey
    let dev := enrichDevice lookup dev
    ⟨⟨store, devices⟩, dev, .deviceDeleted dev⟩

def touchDevice (svc : Service) (sourceKey : String) (createdAt : Time) : Service :=
  match svc.devices.lookup sourceKey with
  | some dev =>
    { svc with devices := svc.devices.insert sourceKey { dev with lastCallAt := createdAt } }
  | none => svc

/-- The calls that change devices.  Of a recorded call only what it does to the
cached device matters here. -/
inductive Call where
  | upsertDevice (now : Time) (ownerOf : String → Int) (dev : Device)
  | updateDeviceMetadata (id : Nat) (patch : DevicePatch)
  | deleteDevice (id : Nat)
  | recordCall (sourceKey : String) (createdAt : Time)

def perform (lookup : UInt32 → String) (svc : Service) : Call → Service
  | .upsertDevice now ownerOf dev =>
    ((svc.upsertDevice lookup ownerOf now dev).map Reply.service).getD svc
  | .updateDeviceMetadata id patch =>
    ((svc.updateDeviceMetadata lookup id patch).map Reply.service).getD svc
  | .deleteDevice id => ((svc.deleteDevice lookup id).map Reply.service).getD svc
  | .recordCall sourceKey createdAt => svc.touchDevice sourceKey createdAt

def owned (ownerOf : String → Int) (dev : Device) : Device :=
  if dev.ownerUserID = 0 ∧ dev.callsign ≠ "" ∧ ownerOf dev.callsign ≠ 0 then
    { dev with ownerUserID := ownerOf dev.callsign }
  else dev

def stored (ownerOf : String → Int) (now : Time) (store : Store) (dev : Device) : Device :=
  owned ownerOf (store.upserted now dev)

def keptDMRID (store : Store) (dev : Device) : UInt32 :=
  orElse 0 dev.dmrID (((store.devices.find dev.sourceKey).map Device.dmrID).getD 0)

def dropsCached (store : Store) (dev existing : Device) : Bool :=
  keptDMRID store dev != 0 && dedupeByDMRID dev.protocol &&
    (existing.dmrID == keptDMRID store dev && dedupeByDMRID existing.protocol)

section Upsert

variable {lookup : UInt32 → String} {ownerOf : String → Int} {now : Time} {store : Store}
  {svc : Service} {dev existing : Device}

@[simp] theorem enrichDevice_sourceKey : (enrichDevice lookup dev).sourceKey = dev.sourceKey := by
  simp only [enrichDevice]
  split <;> rfl

@[simp] theorem enrichDevice_protocol : (enrichDevice lookup dev).protocol = dev.protocol := by
  simp only [enrichDevice]
  split <;> rfl

@[simp] theorem enrichDevice_dmrID : (enrichDevice lookup dev).dmrID = dev.dmrID := by
  simp only [enrichDevice]
  split <;> rfl

@[simp] theorem enrichDevice_nrlSlot : (enrichDevice lookup dev).nrlSlot = dev.nrlSlot := by
  simp only [enrichDevice]
  split <;> rfl

@[simp] theorem enrichDevice_disabled : (enrichDevice lookup dev).disabled = dev.disabled := by
  simp only [enrichDevice]
  split <;> rfl

@[simp] theorem enrichDevice_notes : (enrichDevice lookup dev).notes = dev.notes := by
  simp only [enrichDevice]
  split <;> rfl

@[simp] theorem enrichDevice_lastSeenAt : (enrichDevice lookup dev).lastSeenAt = dev.lastSeenAt := by
  simp only [enrichDevice]
  split <;> rfl

@[simp] theorem stored_sourceKey : (stored ownerOf now store dev).sourceKey = dev.sourceKey := by
  simp only [stored, owned]
  split <;> exact Store.upserted_sourceKey

@[simp] theorem stored_protocol : (stored ownerOf now store dev).protocol = dev.protocol := by
  simp only [stored, owned]
  split <;> exact Store.upserted_protocol

theorem upserted_dmrID : (store.upserted now dev).dmrID = keptDMRID store dev := by
  simp only [Store.upserted, Store.writtenRow, keptDMRID]
  cases store.devices.find dev.sourceKey with
  | none => simp [orElse]
  | some row => simp [onConflict]

@[simp] theorem stored_dmrID : (stored ownerOf now store dev).dmrID = keptDMRID store dev := by
  simp only [stored, owned]
  split <;> exact upserted_dmrID

theorem stored_disabled : (stored ownerOf now store dev).disabled =
    (dev.disabled || (store.duplicates dev).any Device.disabled) := by
  simp only [stored, owned]
  split <;> exact Store.upserted_disabled

theorem stored_notes : (stored ownerOf now store dev).notes =
    firstNonEmpty (dev.notes :: (store.duplicates dev).map Device.notes) := by
  simp only [stored, owned]
  split <;> exact Store.upserted_notes

theorem assignOwner_spec (ownerOf : String → Int) (found : store.devices.find dev.sourceKey = some dev) :
    (assignOwner ownerOf store dev).2 = owned ownerOf dev ∧
      (assignOwner ownerOf store dev).1.staticGroups = store.staticGroups ∧
      ∀ k, (assignOwner ownerOf store dev).1.devices.find k =
        if k = dev.sourceKey then some (owned ownerOf dev) else store.devices.find k := by
  simp only [assignOwner, owned]
  split
  · have there := Store.deviceByID_of_find found
    simp only [Store.assignDeviceOwner, Store.deviceByID_setDevice, there, map_some, true_and]
    exact ⟨rfl, fun k => Store.find_setDevice_of_find found rfl⟩
  · refine ⟨rfl, rfl, fun k => ?_⟩
    split
    · rename_i same
      rw [same, found]
    · rfl

@[simp] theorem keptDMRID_enrichDevice : keptDMRID store (enrichDevice lookup dev) = keptDMRID store dev := by
  simp only [keptDMRID, enrichDevice_dmrID, enrichDevice_sourceKey]

@[simp] theorem duplicates_enrichDevice : store.duplicates (enrichDevice lookup dev) = store.duplicates dev := by
  have same : Store.isDuplicate (enrichDevice lookup dev) = Store.isDuplicate dev := by
    funext row
    simp only [Store.isDuplicate, enrichDevice_dmrID, enrichDevice_sourceKey]
  simp only [Store.duplicates, enrichDevice_dmrID, enrichDevice_sourceKey, enrichDevice_protocol, same]

theorem lookup_dropDuplicates {k : String} (other : k ≠ dev.sourceKey) :
    (dropDuplicates svc.devices (stored ownerOf now store dev)).lookup k =
      (svc.devices.lookup k).filter fun existing => !dropsCached store dev existing := by
  simp only [dropDuplicates, stored_dmrID, stored_protocol]
  split
  · rename_i merging
    have same : ∀ existing, isCachedDuplicate (stored ownerOf now store dev) k existing =
        dropsCached store dev existing := by
      intro existing
      simp [isCachedDuplicate, dropsCached, bne_iff_ne.mpr other, bne_iff_ne.mpr merging.1, merging.2]
    rw [GoMap.lookup_deleteWhere]
    simp only [same]
  · rename_i alone
    have spared : ∀ existing, dropsCached store dev existing = false := by
      intro existing
      simp only [dropsCached, Bool.and_eq_false_iff, bne_eq_false_iff_eq]
      grind
    cases svc.devices.lookup k with
    | none => rfl
    | some existing => simp [Option.filter, spared]

structure Upserts (lookup : UInt32 → String) (ownerOf : String → Int) (now : Time) (svc : Service)
    (dev : Device) (reply : Reply) : Prop where
  find : ∀ k, reply.service.store.devices.find k =
    if k = dev.sourceKey then some (stored ownerOf now svc.store (enrichDevice lookup dev))
    else (svc.store.devices.find k).filter fun row => decide (row ∉ svc.store.duplicates dev)
  cached : ∀ k, reply.service.devices.lookup k =
    if k = dev.sourceKey then some (stored ownerOf now svc.store (enrichDevice lookup dev))
    else (svc.devices.lookup k).filter fun existing => !dropsCached svc.store dev existing
  staticGroups : reply.service.store.staticGroups =
    (svc.store.upsertDevice now (enrichDevice lookup dev)).1.staticGroups
  device : reply.device = enrichDevice lookup (stored ownerOf now svc.store (enrichDevice lookup dev))
  published : reply.published = .deviceUpdated reply.device

theorem upsertDevice_spec (lookup : UInt32 → String) (ownerOf : String → Int) (now : Time)
    (svc : Service) (dev : Device) :
    ∃ reply, svc.upsertDevice lookup ownerOf now dev = some reply ∧ Upserts lookup ownerOf now svc dev reply := by
  have written := Store.find_upsertDevice svc.store now (enrichDevice lookup dev)
  simp only [enrichDevice_sourceKey, duplicates_enrichDevice] at written
  have found : (svc.store.upsertDevice now (enrichDevice lookup dev)).1.devices.find
      (svc.store.upserted now (enrichDevice lookup dev)).sourceKey =
        some (svc.store.upserted now (enrichDevice lookup dev)) := by
    rw [Store.upserted_sourceKey, written, enrichDevice_sourceKey, if_pos rfl]
  obtain ⟨device, groups, rows⟩ := assignOwner_spec ownerOf found
  rw [upsertDevice, Store.upsertDevice_eq]
  refine ⟨_, rfl, ?_, ?_, groups, ?_, rfl⟩
  · intro k
    change (assignOwner ownerOf _ _).1.devices.find k = _
    rw [rows, Store.upserted_sourceKey, enrichDevice_sourceKey, written]
    split <;> rfl
  · intro k
    simp only [device, cacheStored]
    change ((dropDuplicates svc.devices (stored ownerOf now svc.store (enrichDevice lookup dev))).insert
      (stored ownerOf now svc.store (enrichDevice lookup dev)).sourceKey _).lookup k = _
    rw [GoMap.lookup_insert_eq, stored_sourceKey, enrichDevice_sourceKey]
    split
    · rfl
    · rename_i other
      rw [lookup_dropDuplicates (by simpa using other)]
      simp only [dropsCached, keptDMRID_enrichDevice, enrichDevice_protocol]
  · simp only [cacheStored, device]
    rfl

end Upsert

def patched (lookup : UInt32 → String) (svc : Service) (patch : DevicePatch) (row : Device) : Reply :=
  let dev := enrichDevice lookup (patch.apply row)
  ⟨⟨svc.store.setDevice row.id patch.apply patch.apply_sourceKey patch.apply_id,
    svc.devices.insert row.sourceKey dev⟩, dev, .deviceUpdated dev⟩

section Change

variable {lookup : UInt32 → String} {svc : Service} {id : Nat} {reply : Reply} {patch : DevicePatch}

theorem updateDeviceMetadata_eq_some : svc.updateDeviceMetadata lookup id patch = some reply ↔
      ∃ row, svc.store.deviceByID id = some row ∧ reply = patched lookup svc patch row := by
  simp only [updateDeviceMetadata, map_eq_some_iff, Prod.exists, Store.updateDeviceMetadata_eq_some]
  constructor
  · intro updated
    obtain ⟨_, _, ⟨row, found, rfl, rfl⟩, rfl⟩ := updated
    obtain ⟨_, rfl⟩ := Store.find_of_deviceByID found
    exact ⟨row, found, by simp [patched]⟩
  · intro updated
    obtain ⟨row, found, rfl⟩ := updated
    obtain ⟨_, rfl⟩ := Store.find_of_deviceByID found
    exact ⟨_, _, ⟨row, found, rfl, rfl⟩, by simp [patched]⟩

theorem find_patched {row : Device} (found : svc.store.deviceByID id = some row) (k : String) :
    (patched lookup svc patch row).service.store.devices.find k =
      if k = row.sourceKey then some (patch.apply row) else svc.store.devices.find k := by
  rw [patched, Store.find_setDevice_of_find (Store.find_of_deviceByID found).1 rfl]

theorem deleteDevice_eq_some : svc.deleteDevice lookup id = some reply ↔
      ∃ store row, svc.store.deleteDevice id = some (store, row) ∧
        reply = ⟨⟨store, svc.devices.erase row.sourceKey⟩, enrichDevice lookup row,
          .deviceDeleted (enrichDevice lookup row)⟩ := by
  simp only [deleteDevice, map_eq_some_iff, Prod.exists, eq_comm (a := reply)]

end Change

end Service

end Ipsc2Mmdvm.Registry
