import Ipsc2Mmdvm.Data.Tasks
import Ipsc2Mmdvm.Registry.Agreement
import Ipsc2Mmdvm.Registry.Sweep

namespace Ipsc2Mmdvm.Registry

open Data Store DeviceTask UpsertStage Service GoMap Option

/-! An execution that puts a device offline writes a copy it took before, first to the table and
then to the cache, over whatever is there by then. -/

structure DevicePatch.KeptBy (patch : DevicePatch) (before after : Device) : Prop where
  notes : ∀ notes ∈ patch.notes, before.notes = notes → after.notes = notes
  disabled : ∀ disabled ∈ patch.disabled, before.disabled = disabled → after.disabled = disabled
  name : ∀ name ∈ patch.name, before.name = name → after.name = name

theorem DevicePatch.KeptBy.refl (patch : DevicePatch) (dev : Device) : patch.KeptBy dev dev :=
  ⟨fun _ _ held => held, fun _ _ held => held, fun _ _ held => held⟩

/-- What writing the copy must leave alone: a sweep replaces no record that was seen
after the one it examined, and no record loses what a patch wrote to it that was
completed since. -/
structure OfflineCopy.Spares (copy : OfflineCopy) (completed : List (String × DevicePatch))
    (before after : String → Option Device) : Prop where
  seen : copy.bySweep = true → ∀ key record, before key = some record → after key ≠ some record →
    record.lastSeenAt ≤ copy.examined.lastSeenAt
  patched : ∀ key record patch, before key = some record → (key, patch) ∈ completed.drop copy.seen →
    ∃ record', after key = some record' ∧ patch.KeptBy record record'

def DeviceTask.offlineWrite : DeviceTask → Option OfflineCopy
  | .upsert (.store _) copy _ => copy
  | .upsert (.cache _) copy _ => copy
  | _ => none

def DeviceStep.offlineWrite (s : DeviceService) : DeviceStep → Option OfflineCopy
  | .advance i _ _ => s.tasks[i]?.bind DeviceTask.offlineWrite
  | _ => none

def DeviceService.rows (s : DeviceService) (key : String) : Option Device := s.store.devices.find key

def DeviceService.cached (s : DeviceService) (key : String) : Option Device := s.devices.lookup key

def DeviceService.LosesNoUpdate (lookup : UInt32 → String) (s : DeviceService) (event : DeviceStep) : Prop :=
  ∀ copy, event.offlineWrite s = some copy →
    copy.Spares s.completed s.rows (s.step lookup event).rows ∧
      copy.Spares s.completed s.cached (s.step lookup event).cached

def DeviceTask.keys : DeviceTask → List String
  | .upsert stage _ rest => stage.device.sourceKey :: rest.map fun copy => copy.examined.sourceKey
  | .patch dev _ => [dev.sourceKey]
  | .done => []

def DeviceTask.ApartFrom (task other : DeviceTask) : Prop := task.keys.Disjoint other.keys

instance : Std.Symm DeviceTask.ApartFrom := ⟨fun _ _ apart => apart.symm⟩

def DeviceService.Idle (s : DeviceService) (key : String) : Prop := ∀ task ∈ s.tasks, key ∉ task.keys

instance DeviceService.decidableIdle (s : DeviceService) (key : String) : Decidable (s.Idle key) :=
  inferInstanceAs (Decidable (∀ task ∈ s.tasks, key ∉ task.keys))

def DeviceService.MergesNone (s : DeviceService) : DeviceTask → Prop
  | .upsert (.store dev) (some _) _ => s.store.duplicates dev = []
  | .upsert (.cache stored) (some _) _ => Service.dropDuplicates s.devices stored = s.devices
  | _ => True

instance DeviceService.decidableMergesNone (s : DeviceService) : (task : DeviceTask) → Decidable (s.MergesNone task)
  | .upsert (.store _) (some _) _ => inferInstanceAs (Decidable (_ = _))
  | .upsert (.cache _) (some _) _ => inferInstanceAs (Decidable (_ = _))
  | .upsert (.store _) none _ | .upsert (.cache _) none _ => .isTrue trivial
  | .upsert (.findOwner _) _ _ | .upsert (.assignOwner _ _) _ _ => .isTrue trivial
  | .patch _ _ | .done => .isTrue trivial

/-- No execution takes up a device that another one is busy with, and a device that
is put offline shares its DMR ID with no other. -/
def DeviceService.KeepsApart (s : DeviceService) : DeviceStep → Prop
  | .upsertDevice dev => s.Idle dev.sourceKey
  | .updateDeviceMetadata id _ => ∀ row ∈ s.store.deviceByID id, s.Idle row.sourceKey
  | .markDeviceOffline sourceKey _ _ => ∀ _dev ∈ s.devices.lookup sourceKey, s.Idle sourceKey
  | .expireDevices now order => ∀ dev ∈ s.expired now order, s.Idle dev.sourceKey
  | .advance i _ _ => ∀ task ∈ s.tasks[i]?, s.MergesNone task

instance DeviceService.decidableKeepsApart (s : DeviceService) :
    (event : DeviceStep) → Decidable (s.KeepsApart event)
  | .upsertDevice dev => inferInstanceAs (Decidable (s.Idle dev.sourceKey))
  | .updateDeviceMetadata id _ =>
    inferInstanceAs (Decidable (∀ row ∈ s.store.deviceByID id, s.Idle row.sourceKey))
  | .markDeviceOffline sourceKey _ _ =>
    inferInstanceAs (Decidable (∀ _dev ∈ s.devices.lookup sourceKey, s.Idle sourceKey))
  | .expireDevices now order =>
    inferInstanceAs (Decidable (∀ dev ∈ s.expired now order, s.Idle dev.sourceKey))
  | .advance i _ _ => inferInstanceAs (Decidable (∀ task ∈ s.tasks[i]?, s.MergesNone task))

def SeenBy (records : String → Option Device) (key : String) (time : Time) : Prop :=
  ∀ record, records key = some record → record.lastSeenAt ≤ time

def Numbered (store : Store) (id : Nat) (key : String) : Prop :=
  id < store.devices.next ∧ ∀ row ∈ store.devices.rows, row.id = id → row.sourceKey = key

section Store

variable {store : Store} {id : Nat} {key : String} {now : Time} {dev row : Device}

theorem numbered_of_find (found : store.devices.find key = some row) : Numbered store row.id row.sourceKey := by
  obtain ⟨member, _⟩ := Table.find_eq_some.mp found
  exact ⟨store.devices.bounded row member, fun other listed same =>
    congrArg Device.sourceKey (Table.number_injective listed member same)⟩

theorem next_insertOrUpdate (t : Table Device.sourceKey Device.id) (dev : Device) :
    t.next ≤ (insertOrUpdate t dev).next := by
  simp only [insertOrUpdate]
  split
  · exact Nat.le_refl _
  · exact Nat.le_succ _

theorem next_upsertDevice (store : Store) (now : Time) (dev : Device) :
    store.devices.next ≤ (store.upsertDevice now dev).1.devices.next := by
  have merged : (store.mergeDuplicateDMRID (stamped now dev)).1.devices.next = store.devices.next := by
    rw [mergeDuplicateDMRID, foldl_absorb_devices]
    rfl
  rw [← merged]
  exact next_insertOrUpdate _ _

theorem Numbered.upsertDevice (numbered : Numbered store id key) (now : Time) (dev : Device) :
    Numbered (store.upsertDevice now dev).1 id key := by
  obtain ⟨given, unique⟩ := numbered
  refine ⟨Nat.lt_of_lt_of_le given (next_upsertDevice store now dev), fun row member same => ?_⟩
  have found := Table.find_eq_some.mpr ⟨member, rfl⟩
  rw [find_upsertDevice] at found
  split at found
  · rename_i mine
    rw [mine]
    cases old : store.devices.find dev.sourceKey with
    | none =>
      -- a new row gets a number that was not given out before
      simp only [upserted, writtenRow, old, Option.some.injEq] at found
      subst found
      exact absurd same (Nat.ne_of_gt given)
    | some previous =>
      simp only [upserted, writtenRow, old, Option.some.injEq] at found
      subst found
      obtain ⟨listed, named⟩ := Table.find_eq_some.mp old
      exact named.symm.trans (unique previous listed same)
  · exact unique row (Table.find_eq_some.mp (filter_eq_some_iff.mp found).1).1 same

theorem Numbered.setDevice (numbered : Numbered store id key) (other : Nat) (set : Device → Device)
    (sameKey : ∀ row, (set row).sourceKey = row.sourceKey) (sameID : ∀ row, (set row).id = row.id) :
    Numbered (store.setDevice other set sameKey sameID) id key := by
  refine ⟨numbered.1, fun row member same => ?_⟩
  obtain ⟨old, listed, rfl⟩ := List.mem_map.mp member
  have unchanged := numbered.2 old listed
  split at same
  · rename_i mine
    rw [if_pos mine, sameKey]
    exact unchanged ((sameID old).symm.trans same)
  · rename_i mine
    rw [if_neg mine]
    exact unchanged same

theorem SeenBy.setDevice {time : Time} (seen : SeenBy store.devices.find key time) (other : Nat)
    (set : Device → Device) (sameKey : ∀ row, (set row).sourceKey = row.sourceKey)
    (sameID : ∀ row, (set row).id = row.id) (sameTime : ∀ row, (set row).lastSeenAt = row.lastSeenAt) :
    SeenBy (store.setDevice other set sameKey sameID).devices.find key time := by
  intro row found
  rw [find_setDevice, map_eq_some_iff] at found
  obtain ⟨old, there, rfl⟩ := found
  have before := seen old there
  split
  · rw [sameTime]
    exact before
  · exact before

theorem Numbered.assignDeviceOwner (numbered : Numbered store id key) (other : Nat) (ownerID : Int) :
    Numbered (store.assignDeviceOwner other ownerID).1 id key :=
  numbered.setDevice other (fun row => { row with ownerUserID := ownerID }) (fun _ => rfl) fun _ => rfl

theorem SeenBy.assignDeviceOwner {time : Time} (seen : SeenBy store.devices.find key time) (other : Nat)
    (ownerID : Int) : SeenBy (store.assignDeviceOwner other ownerID).1.devices.find key time :=
  seen.setDevice other (fun row => { row with ownerUserID := ownerID }) (fun _ => rfl) (fun _ => rfl) fun _ => rfl

end Store

namespace DeviceService

structure Caught (s : DeviceService) (copy : OfflineCopy) : Prop where
  cached : SeenBy s.cached copy.examined.sourceKey copy.examined.lastSeenAt
  unpatched : ∀ patch, (copy.examined.sourceKey, patch) ∉ s.completed.drop copy.seen

structure Pending (s : DeviceService) (copy : OfflineCopy) : Prop extends s.Caught copy where
  sameKey : copy.offline.sourceKey = copy.examined.sourceKey
  rows : SeenBy s.rows copy.examined.sourceKey copy.examined.lastSeenAt

structure Written (s : DeviceService) (stored : Device) : Prop where
  rows : SeenBy s.rows stored.sourceKey stored.lastSeenAt
  numbered : Numbered s.store stored.id stored.sourceKey

def StageFits (s : DeviceService) (copy : Option OfflineCopy) : UpsertStage → Prop
  | .store dev => ∀ c ∈ copy, dev.sourceKey = c.examined.sourceKey ∧ s.Pending c
  | stage => s.Written stage.device ∧ ∀ c ∈ copy, stage.device.sourceKey = c.examined.sourceKey ∧ s.Caught c

def TaskFits (s : DeviceService) : DeviceTask → Prop
  | .upsert stage copy rest => s.StageFits copy stage ∧ ∀ c ∈ rest, s.Pending c
  | .patch dev _ => SeenBy s.rows dev.sourceKey dev.lastSeenAt
  | .done => True

structure Apart (s : DeviceService) : Prop where
  keyed : ∀ key dev, s.cached key = some dev → dev.sourceKey = key
  disjoint : s.tasks.Pairwise DeviceTask.ApartFrom
  distinct : ∀ task ∈ s.tasks, task.keys.Nodup
  idle : ∀ key, s.Idle key → ∀ dev, s.cached key = some dev → SeenBy s.rows key dev.lastSeenAt
  fits : ∀ task ∈ s.tasks, s.TaskFits task

structure Frame (s s' : DeviceService) (keys : List String) : Prop where
  rows : ∀ key ∉ keys, ∀ time, SeenBy s.rows key time → SeenBy s'.rows key time
  cached : ∀ key ∉ keys, ∀ dev, s'.cached key = some dev → s.cached key = some dev
  numbered : ∀ id key, Numbered s.store id key → Numbered s'.store id key
  completed : ∀ key ∉ keys, ∀ patch n, (key, patch) ∈ s'.completed.drop n → (key, patch) ∈ s.completed.drop n

section Frame

variable {s s' : DeviceService} {keys : List String} {copy : OfflineCopy} {stored : Device} {task task' : DeviceTask}
  {key : String} {i : Nat}

theorem Caught.frame (caught : s.Caught copy) (frame : Frame s s' keys) (other : copy.examined.sourceKey ∉ keys) :
    s'.Caught copy :=
  ⟨fun dev found => caught.cached dev (frame.cached _ other dev found),
    fun patch since => caught.unpatched patch (frame.completed _ other patch _ since)⟩

theorem Pending.frame (pending : s.Pending copy) (frame : Frame s s' keys)
    (other : copy.examined.sourceKey ∉ keys) : s'.Pending copy :=
  ⟨pending.toCaught.frame frame other, pending.sameKey, frame.rows _ other _ pending.rows⟩

theorem Written.frame (written : s.Written stored) (frame : Frame s s' keys) (other : stored.sourceKey ∉ keys) :
    s'.Written stored :=
  ⟨frame.rows _ other _ written.rows, frame.numbered _ _ written.numbered⟩

theorem pending_rest_frame {rest : List OfflineCopy} (pending : ∀ c ∈ rest, s.Pending c) (frame : Frame s s' keys)
    (others : ∀ c ∈ rest, c.examined.sourceKey ∉ keys) : ∀ c ∈ rest, s'.Pending c :=
  fun c member => (pending c member).frame frame (others c member)

theorem StageFits.frame {copy : Option OfflineCopy} {stage : UpsertStage} (fits : s.StageFits copy stage)
    (frame : Frame s s' keys) (other : stage.device.sourceKey ∉ keys) : s'.StageFits copy stage := by
  cases stage with
  | store dev =>
    intro c member
    obtain ⟨same, pending⟩ := fits c member
    exact ⟨same, pending.frame frame (same ▸ other)⟩
  | findOwner stored | assignOwner stored _ | cache stored =>
    obtain ⟨written, copied⟩ := fits
    refine ⟨written.frame frame other, fun c member => ?_⟩
    obtain ⟨same, caught⟩ := copied c member
    exact ⟨same, caught.frame frame (same ▸ other)⟩

theorem TaskFits.frame (fits : s.TaskFits task) (frame : Frame s s' keys) (others : ∀ key ∈ task.keys, key ∉ keys) :
    s'.TaskFits task := by
  cases task with
  | upsert stage copy rest =>
    refine ⟨StageFits.frame fits.1 frame (others _ List.mem_cons_self),
      pending_rest_frame fits.2 frame fun c member => others _ (List.mem_cons_of_mem _ ?_)⟩
    exact List.mem_map_of_mem member
  | patch dev patch => exact frame.rows _ (others _ List.mem_cons_self) _ fits
  | done => trivial

theorem Apart.replace (apart : s.Apart) (at' : s.tasks[i]? = some task) (frame : Frame s s' [key])
    (tasks : s'.tasks = s.tasks.set i task') (held : key ∈ task.keys)
    (kept : task.keys = task'.keys ∨ task.keys = key :: task'.keys) (fits : s'.TaskFits task')
    (keyed : ∀ dev, s'.cached key = some dev → dev.sourceKey = key)
    (idle : key ∉ task'.keys → ∀ dev, s'.cached key = some dev → SeenBy s'.rows key dev.lastSeenAt) :
    s'.Apart := by
  have fewer : task'.keys.Sublist task.keys := by
    rcases kept with same | rest
    · rw [same]
    · rw [rest]
      exact List.sublist_cons_self _ _
  have member : task' ∈ s'.tasks := by
    rw [tasks]
    exact List.mem_set (List.getElem?_eq_some_iff.mp at').1 task'
  refine ⟨?_, ?_, ?_, ?_, ?_⟩
  · intro other dev found
    by_cases same : other = key
    · rw [same] at found ⊢
      exact keyed dev found
    · exact apart.keyed other dev (frame.cached other (by simpa using same) dev found)
  · rw [tasks]
    exact pairwise_set apart.disjoint at' (fun _ apart => List.disjoint_of_subset_right fewer.subset apart)
      fun _ apart => List.disjoint_of_subset_left fewer.subset apart
  · rw [tasks]
    exact forall_mem_set apart.distinct ((apart.distinct task (List.mem_of_getElem? at')).sublist fewer)
  · intro other free dev found
    by_cases same : other = key
    · subst same
      exact idle (free task' member) dev found
    · have outside : other ∉ [key] := by simpa using same
      have wasFree : s.Idle other := by
        intro task₁ listed
        by_cases acting : task₁ = task
        · rw [acting]
          rcases kept with same' | rest
          · rw [same']
            exact free task' member
          · rw [rest, List.mem_cons, not_or]
            exact ⟨same, free task' member⟩
        · exact free task₁ (tasks ▸ mem_set_of_ne listed at' acting)
      exact frame.rows other outside _ (apart.idle other wasFree dev (frame.cached other outside dev found))
  · intro task₁ listed
    rcases rel_of_mem_set apart.disjoint at' (tasks ▸ listed) with rfl | disjoint
    · exact fits
    · rw [tasks] at listed
      rcases List.mem_or_eq_of_mem_set listed with old | rfl
      · refine TaskFits.frame (apart.fits task₁ old) frame fun other there => ?_
        rw [List.mem_singleton]
        intro same
        exact disjoint held (same ▸ there)
      · exact fits

theorem Apart.spawned (apart : s.Apart) (frame : Frame s s' task.keys) (tasks : s'.tasks = s.tasks ++ [task])
    (devices : s'.devices = s.devices) (free : ∀ key ∈ task.keys, s.Idle key) (distinct : task.keys.Nodup)
    (fits : s'.TaskFits task) : s'.Apart := by
  have sameCache : s'.cached = s.cached := by
    funext key
    rw [cached, cached, devices]
  refine ⟨?_, ?_, ?_, ?_, ?_⟩
  · rw [sameCache]
    exact apart.keyed
  · rw [tasks, List.pairwise_append]
    refine ⟨apart.disjoint, List.pairwise_singleton _ _, fun other listed task₁ new => ?_⟩
    rw [List.mem_singleton.mp new]
    exact fun key there mine => free key mine other listed there
  · intro task₁ listed
    rcases List.mem_append.mp (tasks ▸ listed) with old | new
    · exact apart.distinct task₁ old
    · rw [List.mem_singleton.mp new]
      exact distinct
  · intro key idle dev found
    have mine : key ∉ task.keys := idle task (by simp [tasks])
    have wasIdle : s.Idle key := fun other listed => idle other (by simp [tasks, listed])
    exact frame.rows key mine _ (apart.idle key wasIdle dev (sameCache ▸ found))
  · intro task₁ listed
    rcases List.mem_append.mp (tasks ▸ listed) with old | new
    · exact TaskFits.frame (apart.fits task₁ old) frame fun key there mine => free key mine task₁ old there
    · rw [List.mem_singleton.mp new]
      exact fits

end Frame

section Steps

variable {lookup : UInt32 → String} {s s' : DeviceService} {i : Nat} {now : Time} {ownerOf : String → Int}
  {copy : Option OfflineCopy} {rest : List OfflineCopy} {dev stored : Device} {patch : DevicePatch}
  {ownerID : Int} {stage : UpsertStage} {c : OfflineCopy} {order : Enumeration String} {event : DeviceStep}

theorem Frame.same (store : s'.store = s.store) (devices : s'.devices = s.devices) (completed : s'.completed = s.completed)
    (keys : List String) : Frame s s' keys := by
  refine ⟨fun key _ time seen => ?_, fun key _ dev found => ?_, fun id key numbered => ?_, fun key _ patch n since => ?_⟩
  · simpa only [SeenBy, DeviceService.rows, store] using seen
  · simpa only [DeviceService.cached, devices] using found
  · rw [store]
    exact numbered
  · rw [← completed]
    exact since

theorem keys_next (pending : ∀ c ∈ rest, s.Pending c) :
    (next lookup rest).keys = rest.map fun c => c.examined.sourceKey := by
  cases rest with
  | nil => rfl
  | cons c rest =>
    have same := (pending c List.mem_cons_self).sameKey
    simp [next, keys, device, same]

theorem taskFits_next (pending : ∀ c ∈ rest, s.Pending c) : s.TaskFits (.next lookup rest) := by
  cases rest with
  | nil => trivial
  | cons c rest =>
    refine ⟨fun c' member => ?_, fun c' member => pending c' (List.mem_cons_of_mem _ member)⟩
    cases member
    have first := pending c List.mem_cons_self
    exact ⟨by simpa using first.sameKey, first⟩

@[simp] theorem afterStore_device : (afterStore stored).device = stored := by
  simp only [afterStore]
  split <;> rfl

@[simp] theorem afterFind_device : (afterFind stored ownerID).device = stored := by
  simp only [afterFind]
  split <;> rfl

section

variable (written : s.Written stored) (copied : ∀ c ∈ copy, stored.sourceKey = c.examined.sourceKey ∧ s.Caught c)

include written copied

theorem stageFits_afterStore : s.StageFits copy (.afterStore stored) := by
  simp only [afterStore]
  split
  · exact ⟨written, copied⟩
  · exact ⟨written, copied⟩

theorem stageFits_afterFind : s.StageFits copy (.afterFind stored ownerID) := by
  simp only [afterFind]
  split
  · exact ⟨written, copied⟩
  · exact ⟨written, copied⟩

end

theorem Apart.rest_differs (apart : s.Apart) (at' : s.tasks[i]? = some (.upsert stage copy rest)) :
    ∀ c ∈ rest, c.examined.sourceKey ∉ [stage.device.sourceKey] := by
  have distinct := List.nodup_cons.mp (apart.distinct _ (List.mem_of_getElem? at'))
  intro c member same
  exact distinct.1 (List.mem_map.mpr ⟨c, member, List.mem_singleton.mp same⟩)

theorem Apart.sameDevice {stage' : UpsertStage} (apart : s.Apart) (at' : s.tasks[i]? = some (.upsert stage copy rest))
    (frame : Frame s s' [stage.device.sourceKey]) (tasks : s'.tasks = s.tasks.set i (.upsert stage' copy rest))
    (devices : s'.devices = s.devices) (same : stage'.device.sourceKey = stage.device.sourceKey)
    (fits : s'.StageFits copy stage') : s'.Apart := by
  have rested := (apart.fits _ (List.mem_of_getElem? at')).2
  refine apart.replace at' frame tasks List.mem_cons_self (.inl ?_)
    ⟨fits, pending_rest_frame rested frame (apart.rest_differs at')⟩ ?_ ?_
  · simp only [keys, same]
  · intro dev found
    rw [cached, devices] at found
    exact apart.keyed _ dev found
  · intro ended
    exact absurd (by simp [keys, same]) ended

theorem frame_store (s : DeviceService) (now : Time) (dev : Device) (tasks : List DeviceTask) :
    Frame s { s with store := (s.store.upsertDevice now dev).1, tasks } [dev.sourceKey] := by
  refine ⟨fun key other time seen row found => ?_, fun _ _ _ found => found,
    fun _ _ numbered => numbered.upsertDevice now dev, fun _ _ _ _ since => since⟩
  have differs : key ≠ dev.sourceKey := by simpa using other
  rw [rows, find_upsertDevice, if_neg differs, filter_eq_some_iff] at found
  exact seen row found.1

theorem Apart.store (apart : s.Apart) (at' : s.tasks[i]? = some (.upsert (.store dev) copy rest)) :
    (s.advanceUpsert lookup i now ownerOf copy rest (.store dev)).Apart := by
  have fits := apart.fits _ (List.mem_of_getElem? at')
  rw [advanceUpsert, upsertDevice_eq]
  have found := find_upsertDevice s.store now dev dev.sourceKey
  rw [if_pos rfl] at found
  refine apart.sameDevice at' (frame_store s now dev _) rfl rfl ?_ (stageFits_afterStore ⟨?_, ?_⟩ ?_)
  · rw [afterStore_device]
    exact upserted_sourceKey
  · intro row there
    rw [upserted_sourceKey, rows, found] at there
    cases there
    exact Nat.le_refl _
  · exact numbered_of_find found
  · intro c member
    obtain ⟨same, pending⟩ := fits.1 c member
    exact ⟨upserted_sourceKey.trans same, pending.cached, pending.unpatched⟩

theorem Apart.findOwner (apart : s.Apart) (at' : s.tasks[i]? = some (.upsert (.findOwner stored) copy rest)) :
    (s.advanceUpsert lookup i now ownerOf copy rest (.findOwner stored)).Apart := by
  have fits := apart.fits _ (List.mem_of_getElem? at')
  have frame : ∀ keys, Frame s (s.advanceUpsert lookup i now ownerOf copy rest (.findOwner stored)) keys :=
    Frame.same rfl rfl rfl
  refine apart.sameDevice at' (frame _) rfl rfl ?_ (stageFits_afterFind ?_ ?_)
  · rw [afterFind_device]
    rfl
  · exact fits.1.1.frame (frame []) List.not_mem_nil
  · intro c member
    obtain ⟨same, caught⟩ := fits.1.2 c member
    exact ⟨same, caught.frame (frame []) List.not_mem_nil⟩

theorem frame_assignOwner (s : DeviceService) (id : Nat) (ownerID : Int) (tasks : List DeviceTask) (keys : List String) :
    Frame s { s with store := (s.store.assignDeviceOwner id ownerID).1, tasks } keys :=
  ⟨fun _ _ _ seen => seen.assignDeviceOwner id ownerID, fun _ _ _ found => found,
    fun _ _ numbered => numbered.assignDeviceOwner id ownerID, fun _ _ _ _ since => since⟩

theorem Written.reassigned {reassigned : Device} (written : s.Written stored)
    (assigned : (s.store.assignDeviceOwner stored.id ownerID).2 = some reassigned) (tasks : List DeviceTask) :
    reassigned.sourceKey = stored.sourceKey ∧
      Written { s with store := (s.store.assignDeviceOwner stored.id ownerID).1, tasks } reassigned := by
  have byID := find_of_deviceByID assigned
  have numbered := written.numbered.assignDeviceOwner stored.id ownerID
  have same : reassigned.sourceKey = stored.sourceKey := numbered.2 reassigned (Table.find_eq_some.mp byID.1).1 byID.2
  refine ⟨same, fun row found => ?_, ?_⟩
  · have : row = reassigned := Option.some.inj (found.symm.trans byID.1)
    rw [this]
  · rw [byID.2, same]
    exact numbered

theorem Apart.assignOwner (apart : s.Apart) (at' : s.tasks[i]? = some (.upsert (.assignOwner stored ownerID) copy rest)) :
    (s.advanceUpsert lookup i now ownerOf copy rest (.assignOwner stored ownerID)).Apart := by
  have fits := apart.fits _ (List.mem_of_getElem? at')
  have cachedNext : ∀ dev, dev.sourceKey = stored.sourceKey →
      (∀ tasks, Written { s with store := (s.store.assignDeviceOwner stored.id ownerID).1, tasks } dev) →
      Apart { s with
        store := (s.store.assignDeviceOwner stored.id ownerID).1
        tasks := s.tasks.set i (.upsert (.cache dev) copy rest) } := by
    intro dev same written
    have frame := frame_assignOwner s stored.id ownerID (s.tasks.set i (.upsert (.cache dev) copy rest))
    refine apart.sameDevice at' (frame _) rfl rfl same ⟨written _, fun c member => ?_⟩
    obtain ⟨named, caught⟩ := fits.1.2 c member
    exact ⟨same.trans named, caught.frame (frame []) List.not_mem_nil⟩
  cases assigned : (s.store.assignDeviceOwner stored.id ownerID).2 with
  | none =>
    have result : s.store.assignDeviceOwner stored.id ownerID =
        ((s.store.assignDeviceOwner stored.id ownerID).1, none) := Prod.ext rfl assigned
    rw [advanceUpsert, result]
    exact cachedNext stored rfl fun tasks =>
      fits.1.1.frame (frame_assignOwner s stored.id ownerID tasks []) List.not_mem_nil
  | some reassigned =>
    have result : s.store.assignDeviceOwner stored.id ownerID =
        ((s.store.assignDeviceOwner stored.id ownerID).1, some reassigned) := Prod.ext rfl assigned
    rw [advanceUpsert, result]
    exact cachedNext reassigned (fits.1.1.reassigned assigned []).1 fun tasks =>
      (fits.1.1.reassigned assigned tasks).2

theorem cached_cache (key : String) : (s.advanceUpsert lookup i now ownerOf copy rest (.cache stored)).cached key =
      if key = stored.sourceKey then some stored else (dropDuplicates s.devices stored).lookup key :=
  lookup_insert_eq _ _ _ _

theorem lookup_of_dropDuplicates {key : String} (found : (dropDuplicates s.devices stored).lookup key = some dev) :
    s.devices.lookup key = some dev := by
  simp only [dropDuplicates] at found
  split at found
  · exact (lookup_deleteWhere_eq_some.mp found).1
  · exact found

theorem Apart.cache (apart : s.Apart) (at' : s.tasks[i]? = some (.upsert (.cache stored) copy rest)) :
    (s.advanceUpsert lookup i now ownerOf copy rest (.cache stored)).Apart := by
  have fits := apart.fits _ (List.mem_of_getElem? at')
  have frame : Frame s (s.advanceUpsert lookup i now ownerOf copy rest (.cache stored)) [stored.sourceKey] := by
    refine ⟨fun _ _ _ seen => seen, fun key other dev found => ?_, fun _ _ numbered => numbered,
      fun _ _ _ _ since => since⟩
    have differs : key ≠ stored.sourceKey := by simpa using other
    rw [cached_cache, if_neg differs] at found
    exact lookup_of_dropDuplicates found
  have mine : ∀ dev,
      (s.advanceUpsert lookup i now ownerOf copy rest (.cache stored)).cached stored.sourceKey = some dev →
        dev = stored := by
    intro dev found
    rw [cached_cache, if_pos rfl] at found
    exact (Option.some.inj found).symm
  have pending := pending_rest_frame fits.2 frame (apart.rest_differs at')
  refine apart.replace at' frame rfl List.mem_cons_self (.inr ?_) (taskFits_next pending) ?_ ?_
  · rw [keys_next pending]
    rfl
  · intro dev found
    rw [mine dev found]
  · intro _ dev found
    rw [mine dev found]
    exact fits.1.1.rows

theorem mem_drop_append_singleton {α : Type} {l : List α} {a b : α} {n : Nat} (member : a ∈ (l ++ [b]).drop n)
    (differs : a ≠ b) : a ∈ l.drop n := by
  rw [List.drop_append] at member
  rcases List.mem_append.mp member with old | new
  · exact old
  · exact absurd (List.mem_singleton.mp (List.mem_of_mem_drop new)) differs

theorem Apart.patched (apart : s.Apart) (at' : s.tasks[i]? = some (.patch dev patch)) :
    (s.advancePatch lookup i dev patch).Apart := by
  have fits := apart.fits _ (List.mem_of_getElem? at')
  have inserted : ∀ key, (s.advancePatch lookup i dev patch).cached key =
      if key = dev.sourceKey then some (enrichDevice lookup dev) else s.cached key := by
    intro key
    rw [cached, advancePatch, lookup_insert_eq, enrichDevice_sourceKey]
    rfl
  refine @Apart.replace _ _ _ done dev.sourceKey _ apart at' ⟨?_, ?_, ?_, ?_⟩ rfl List.mem_cons_self
    (.inr rfl) trivial ?_ ?_
  · exact fun _ _ _ seen => seen
  · intro key other found there
    rw [inserted, if_neg (by simpa using other)] at there
    exact there
  · exact fun _ _ numbered => numbered
  · intro key other patch' n since
    refine mem_drop_append_singleton since fun same => other ?_
    simpa using congrArg Prod.fst same
  · intro found there
    rw [inserted, if_pos rfl] at there
    cases there
    exact enrichDevice_sourceKey
  · intro _ found there
    rw [inserted, if_pos rfl] at there
    cases there
    rw [enrichDevice_lastSeenAt]
    exact fits

theorem Apart.advance (apart : s.Apart) : (s.advance lookup i now ownerOf).Apart := by
  simp only [DeviceService.advance]
  cases at' : s.tasks[i]? with
  | none => exact apart
  | some task =>
    cases task with
    | upsert stage copy rest =>
      cases stage with
      | store dev => exact apart.store at'
      | findOwner stored => exact apart.findOwner at'
      | assignOwner stored ownerID => exact apart.assignOwner at'
      | cache stored => exact apart.cache at'
    | patch dev patch => exact apart.patched at'
    | done => exact apart

theorem Apart.upsertDevice (apart : s.Apart) (free : s.Idle dev.sourceKey) :
    (s.spawn (.upsert (.store (enrichDevice lookup dev)) none [])).Apart := by
  have keys : (upsert (.store (enrichDevice lookup dev)) none []).keys = [dev.sourceKey] := by
    simp [keys, device]
  have frame : ∀ keys, Frame s (s.spawn (.upsert (.store (enrichDevice lookup dev)) none [])) keys :=
    Frame.same rfl rfl rfl
  refine apart.spawned (frame _) rfl rfl ?_ ?_ ⟨?_, ?_⟩
  · rw [keys]
    simpa using free
  · rw [keys]
    exact List.nodup_singleton _
  · intro c member
    cases member
  · intro c member
    cases member

theorem Apart.offline {copies : List OfflineCopy} (apart : s.Apart) (pending : ∀ c ∈ copies, s.Pending c)
    (free : ∀ c ∈ copies, s.Idle c.examined.sourceKey)
    (distinct : (copies.map fun c => c.examined.sourceKey).Nodup) : (s.spawn (.next lookup copies)).Apart := by
  have keys := @keys_next lookup s copies pending
  have frame : ∀ keys, Frame s (s.spawn (.next lookup copies)) keys := Frame.same rfl rfl rfl
  refine apart.spawned (frame _) rfl rfl ?_ (keys ▸ distinct) ?_
  · rw [keys]
    intro key member
    obtain ⟨c, listed, rfl⟩ := List.mem_map.mp member
    exact free c listed
  · exact taskFits_next (pending_rest_frame pending (frame []) fun _ _ => List.not_mem_nil)

theorem Apart.pending {key : String} (apart : s.Apart) (found : s.cached key = some c.examined) (free : s.Idle key)
    (sameKey : c.offline.sourceKey = c.examined.sourceKey) (seen : c.seen = s.completed.length) :
    s.Pending c := by
  have named := apart.keyed key c.examined found
  refine ⟨⟨?_, ?_⟩, sameKey, ?_⟩
  · intro record there
    rw [named, found] at there
    cases there
    exact Nat.le_refl _
  · intro patch since
    rw [seen, List.drop_length] at since
    cases since
  · rw [named]
    exact apart.idle key free _ found

theorem mem_expired : dev ∈ s.expired now order ↔ ∃ key, s.cached key = some dev ∧ isExpired now dev = true := by
  simp only [expired, List.mem_filterMap, order.mem_order, mem_keys_iff, filter_eq_some_iff]
  constructor
  · intro copied
    obtain ⟨key, _, found, late⟩ := copied
    exact ⟨key, found, late⟩
  · intro copied
    obtain ⟨key, found, late⟩ := copied
    exact ⟨key, ⟨dev, found⟩, found, late⟩

theorem Apart.expired_nodup (apart : s.Apart) (order : Enumeration String) :
    ((s.expired now order).map Device.sourceKey).Nodup := by
  have sublist : ∀ keys : List String,
      ((keys.filterMap fun key => (s.devices.lookup key).filter (isExpired now)).map Device.sourceKey).Sublist keys := by
    intro keys
    induction keys with
    | nil => exact List.Sublist.refl _
    | cons key keys ih =>
      cases late : (s.devices.lookup key).filter (isExpired now) with
      | none =>
        simp only [List.filterMap_cons, late]
        exact ih.cons key
      | some dev =>
        simp only [List.filterMap_cons, late, List.map_cons]
        rw [apart.keyed key dev (filter_eq_some_iff.mp late).1]
        exact ih.cons_cons key
  exact (order.nodup _).sublist (sublist _)

theorem Apart.expireDevices (apart : s.Apart) (free : ∀ dev ∈ s.expired now order, s.Idle dev.sourceKey) :
    (s.expireDevices lookup now order).Apart := by
  refine apart.offline ?_ ?_ ?_
  · intro c member
    obtain ⟨dev, listed, rfl⟩ := List.mem_map.mp member
    obtain ⟨key, found, _⟩ := mem_expired.mp listed
    exact apart.pending found (apart.keyed key dev found ▸ free dev listed) rfl rfl
  · intro c member
    obtain ⟨dev, listed, rfl⟩ := List.mem_map.mp member
    exact free dev listed
  · rw [List.map_map]
    exact apart.expired_nodup order

theorem Apart.markDeviceOffline {sourceKey status : String} (apart : s.Apart)
    (free : ∀ _dev ∈ s.devices.lookup sourceKey, s.Idle sourceKey) :
    (s.markDeviceOffline lookup sourceKey status now).Apart := by
  simp only [DeviceService.markDeviceOffline]
  cases found : s.devices.lookup sourceKey with
  | none => exact apart
  | some dev =>
    have idle := free dev found
    refine apart.offline ?_ ?_ (List.nodup_singleton _)
    · intro c member
      rw [List.mem_singleton.mp member]
      exact apart.pending found idle rfl rfl
    · intro c member
      rw [List.mem_singleton.mp member]
      exact (apart.keyed sourceKey dev found).symm ▸ idle

theorem Apart.updateDeviceMetadata {id : Nat} (apart : s.Apart)
    (free : ∀ row ∈ s.store.deviceByID id, s.Idle row.sourceKey) :
    (s.updateDeviceMetadata id patch).Apart := by
  simp only [DeviceService.updateDeviceMetadata]
  cases updated : s.store.updateDeviceMetadata id patch with
  | none => exact apart
  | some result =>
    obtain ⟨store, dev⟩ := result
    obtain ⟨current, found, rfl, rfl⟩ := updateDeviceMetadata_eq_some.mp updated
    obtain ⟨there, numbered⟩ := find_of_deviceByID found
    refine @Apart.spawned _ _ (.patch (patch.apply current) patch) apart ⟨?_, ?_, ?_, ?_⟩ rfl rfl ?_
      (List.nodup_singleton _) ?_
    · exact fun _ _ _ seen => seen.setDevice id patch.apply patch.apply_sourceKey patch.apply_id fun _ => rfl
    · exact fun _ _ _ found => found
    · exact fun _ _ held => held.setDevice id patch.apply patch.apply_sourceKey patch.apply_id
    · exact fun _ _ _ _ since => since
    · intro key member
      rw [List.mem_singleton.mp member]
      exact free current found
    · intro row written
      rw [DeviceService.rows, find_setDevice_of_find there numbered, DevicePatch.apply_sourceKey, if_pos rfl] at written
      cases written
      exact Nat.le_refl _

theorem Apart.step (apart : s.Apart) (keepsApart : s.KeepsApart event) : (s.step lookup event).Apart := by
  cases event with
  | upsertDevice dev => exact apart.upsertDevice keepsApart
  | updateDeviceMetadata id patch => exact apart.updateDeviceMetadata keepsApart
  | markDeviceOffline sourceKey status now => exact apart.markDeviceOffline keepsApart
  | expireDevices now order => exact apart.expireDevices keepsApart
  | advance i now ownerOf => exact apart.advance

theorem spares_refl (copy : OfflineCopy) (completed : List (String × DevicePatch)) (records : String → Option Device) :
    copy.Spares completed records records :=
  ⟨fun _ _ _ there gone => absurd there gone, fun _ record patch there _ => ⟨record, there, .refl patch record⟩⟩

theorem spares_of_elsewhere {before after : String → Option Device}
    (elsewhere : ∀ key ≠ c.examined.sourceKey, after key = before key)
    (seen : SeenBy before c.examined.sourceKey c.examined.lastSeenAt)
    (unpatched : ∀ patch, (c.examined.sourceKey, patch) ∉ s.completed.drop c.seen) :
    c.Spares s.completed before after := by
  constructor
  · intro _ key record there gone
    by_cases mine : key = c.examined.sourceKey
    · exact seen record (mine ▸ there)
    · exact absurd ((elsewhere key mine).trans there) gone
  · intro key record patch there since
    by_cases mine : key = c.examined.sourceKey
    · exact absurd (mine ▸ since) (unpatched patch)
    · exact ⟨record, (elsewhere key mine).trans there, .refl patch record⟩

theorem losesNoUpdate_store (fits : s.StageFits (some c) (.store dev)) (alone : s.store.duplicates dev = []) :
    c.Spares s.completed s.rows (s.advanceUpsert lookup i now ownerOf (some c) rest (.store dev)).rows ∧
      c.Spares s.completed s.cached (s.advanceUpsert lookup i now ownerOf (some c) rest (.store dev)).cached := by
  obtain ⟨same, pending⟩ := fits c rfl
  rw [advanceUpsert, upsertDevice_eq]
  refine ⟨spares_of_elsewhere ?_ pending.rows pending.unpatched, spares_refl c _ _⟩
  intro key other
  rw [← same] at other
  rw [rows, find_upsertDevice, if_neg other, alone]
  change Option.filter _ (s.store.devices.find key) = s.store.devices.find key
  cases s.store.devices.find key <;> simp

theorem losesNoUpdate_cache (fits : s.StageFits (some c) (.cache stored))
    (alone : dropDuplicates s.devices stored = s.devices) :
    c.Spares s.completed s.rows (s.advanceUpsert lookup i now ownerOf (some c) rest (.cache stored)).rows ∧
      c.Spares s.completed s.cached (s.advanceUpsert lookup i now ownerOf (some c) rest (.cache stored)).cached := by
  obtain ⟨same, caught⟩ := fits.2 c rfl
  refine ⟨spares_refl c _ _, spares_of_elsewhere ?_ caught.cached caught.unpatched⟩
  intro key other
  rw [cached_cache, if_neg (same ▸ other), alone]
  rfl

theorem Apart.losesNoUpdate (apart : s.Apart) (keepsApart : s.KeepsApart event) : s.LosesNoUpdate lookup event := by
  intro c written
  cases event with
  | advance i now ownerOf =>
    obtain ⟨task, at', copied⟩ := bind_eq_some_iff.mp written
    have fits := apart.fits task (List.mem_of_getElem? at')
    have alone := keepsApart task at'
    simp only [DeviceService.step, DeviceService.advance, at']
    cases task with
    | upsert stage copy rest =>
      cases stage with
      | store dev =>
        obtain rfl : copy = some c := copied
        exact losesNoUpdate_store fits.1 alone
      | cache stored =>
        obtain rfl : copy = some c := copied
        exact losesNoUpdate_cache fits.1 alone
      | findOwner | assignOwner => cases copied
    | patch | done => cases copied
  | upsertDevice | updateDeviceMetadata | markDeviceOffline | expireDevices => cases written

end Steps

theorem apart_start (lookup : UInt32 → String) (store : Store) : (start lookup store).Apart := by
  have agree := agreement_newService lookup store
  have row : ∀ key dev, (start lookup store).cached key = some dev → ∃ row, store.devices.find key = some row ∧
      SameRecord lookup dev row := by
    intro key dev found
    have there : (store.devices.find key).isSome := by
      rw [show store.devices.find key = (newService lookup store).store.devices.find key from rfl, ← agree.keys key]
      exact isSome_iff_exists.mpr ⟨dev, found⟩
    obtain ⟨row, present⟩ := isSome_iff_exists.mp there
    exact ⟨row, present, agree.records key dev row found present⟩
  refine ⟨?_, List.Pairwise.nil, by simp [start], ?_, by simp [start]⟩
  · intro key dev found
    obtain ⟨row, present, same, _⟩ := row key dev found
    rw [← (Table.find_eq_some.mp present).2, ← same]
  · intro key _ dev found record present
    obtain ⟨row, there, same, _⟩ := row key dev found
    obtain rfl : row = record := Option.some.inj (there.symm.trans present)
    rw [← same]

end DeviceService

/-- However the sections and store calls of any number of executions interleave, no
copy that puts a device offline undoes a later update, if no execution takes up a
device that another is busy with and no other device has the DMR ID of one that is
put offline. -/
theorem device_updates_kept (lookup : UInt32 → String) (store : Store) (events : List DeviceStep)
    (keepsApart : EachStep (DeviceService.step lookup) DeviceService.KeepsApart (.start lookup store) events) :
    EachStep (DeviceService.step lookup) (DeviceService.LosesNoUpdate lookup) (.start lookup store) events :=
  keepsApart.of_invariant (fun _ _ apart => apart.step) (fun _ _ apart => apart.losesNoUpdate)
    (DeviceService.apart_start lookup store)

private def seenAt (count : Nat) : Time := count * 1000000000

private def siteRepeater (seen : Nat) : Device :=
  { category := .moto, protocol := "ipsc", sourceKey := "moto:5", dmrID := 5, online := true
    firstSeenAt := seenAt 1, lastSeenAt := seenAt seen }

private def onTheRoof : DevicePatch := { notes := some "roof", disabled := some true, name := some "North" }

private def advanceAt (task : Nat) : DeviceStep := .advance task (seenAt 1) fun _ => 0

private def sweepAt (count : Nat) : DeviceStep := .expireDevices (seenAt count) (.increasing String)

private def firstContact : List DeviceStep := [.upsertDevice (siteRepeater 1), advanceAt 0, advanceAt 0]

theorem device_updates_kept_in_turn :
    let events := firstContact ++ [.updateDeviceMetadata 1 onTheRoof, advanceAt 1, sweepAt 100, advanceAt 2, advanceAt 2]
    let last := runFrom (DeviceService.step fun _ => "") (.start (fun _ => "") .empty) events
    (last.cached "moto:5").map (fun dev => (dev.online, dev.notes, dev.disabled, dev.name)) =
        some (false, "roof", true, "North") ∧
      EachStep (DeviceService.step fun _ => "") (DeviceService.LosesNoUpdate fun _ => "")
        (.start (fun _ => "") .empty) events :=
  ⟨by decide +kernel, device_updates_kept _ _ _ (by decide +kernel)⟩

private def swept : OfflineCopy :=
  ⟨{ siteRepeater 1 with id := 1 }, { siteRepeater 1 with id := 1, online := false, status := "offline" }, true, 0⟩

private def marked : OfflineCopy :=
  ⟨{ siteRepeater 1 with id := 1 },
    { siteRepeater 1 with id := 1, online := false, status := "disconnected", lastSeenAt := seenAt 2 }, false, 0⟩

/-- A sweep writes its copy after a keepalive, and a sweep and a disconnect write
theirs after a patch. -/
theorem device_updates_lost :
    ¬ EachStep (DeviceService.step fun _ => "") (DeviceService.LosesNoUpdate fun _ => "") (.start (fun _ => "") .empty)
        (firstContact ++ [sweepAt 100, .upsertDevice (siteRepeater 100), advanceAt 2, advanceAt 2, advanceAt 1]) ∧
      ¬ EachStep (DeviceService.step fun _ => "") (DeviceService.LosesNoUpdate fun _ => "") (.start (fun _ => "") .empty)
        (firstContact ++ [sweepAt 100, .updateDeviceMetadata 1 onTheRoof, advanceAt 2, advanceAt 1]) ∧
      ¬ EachStep (DeviceService.step fun _ => "") (DeviceService.LosesNoUpdate fun _ => "") (.start (fun _ => "") .empty)
        (firstContact ++ [.markDeviceOffline "moto:5" "disconnected" (seenAt 2), .updateDeviceMetadata 1 onTheRoof,
          advanceAt 2, advanceAt 1]) := by
  refine ⟨?_, ?_, ?_⟩
  · intro kept
    have spares := (kept.2.2.2.2.2.2.2.1 swept (by decide +kernel)).1
    have late := spares.seen rfl "moto:5" { siteRepeater 100 with id := 1 } (by decide +kernel) (by decide +kernel)
    exact absurd late (by decide)
  · intro kept
    have spares := (kept.2.2.2.2.2.2.1 swept (by decide +kernel)).1
    obtain ⟨record, found, same⟩ := spares.patched "moto:5" (onTheRoof.apply { siteRepeater 1 with id := 1 }) onTheRoof
      (by decide +kernel) (by decide +kernel)
    have reverted := congrArg (Option.map Device.notes) found
    rw [Option.map_some, same.notes "roof" rfl rfl] at reverted
    exact absurd reverted (by decide +kernel)
  · intro kept
    have spares := (kept.2.2.2.2.2.2.1 marked (by decide +kernel)).1
    obtain ⟨record, found, same⟩ := spares.patched "moto:5" (onTheRoof.apply { siteRepeater 1 with id := 1 }) onTheRoof
      (by decide +kernel) (by decide +kernel)
    have reverted := congrArg (Option.map Device.notes) found
    rw [Option.map_some, same.notes "roof" rfl rfl] at reverted
    exact absurd reverted (by decide +kernel)

end Ipsc2Mmdvm.Registry
