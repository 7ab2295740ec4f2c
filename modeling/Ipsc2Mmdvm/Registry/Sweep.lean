import Ipsc2Mmdvm.Data.Transitions
import Ipsc2Mmdvm.Registry.Service

namespace Ipsc2Mmdvm.Registry

open Data

/-! `UpsertDevice` and `UpdateDeviceMetadata` call the store without the lock of the service.
`MarkDeviceOffline` and the sweeper copy devices under the lock and give the copies to
`UpsertDevice` afterwards. -/

def deviceTimeout : DeviceCategory → Duration
  | .mmdvm => 5 * minute
  | .moto | .hytera => 90 * second
  | _ => 60 * second

def isExpired (now : Time) (dev : Device) : Bool :=
  dev.online && deviceTimeout dev.category != 0 &&
    decide (deviceTimeout dev.category < Time.sub now dev.lastSeenAt)

/-- A cached device that was copied to be put offline.  `seen` counts the patches
that were completed by then. -/
structure OfflineCopy where
  examined : Device
  offline : Device
  bySweep : Bool
  seen : Nat
deriving DecidableEq

inductive UpsertStage where
  | store (dev : Device)
  | findOwner (stored : Device)
  | assignOwner (stored : Device) (ownerID : Int)
  | cache (stored : Device)

def UpsertStage.device : UpsertStage → Device
  | .store dev => dev
  | .findOwner stored => stored
  | .assignOwner stored _ => stored
  | .cache stored => stored

def UpsertStage.afterStore (stored : Device) : UpsertStage :=
  if stored.ownerUserID = 0 ∧ stored.callsign ≠ "" then .findOwner stored else .cache stored

def UpsertStage.afterFind (stored : Device) (ownerID : Int) : UpsertStage :=
  if ownerID ≠ 0 then .assignOwner stored ownerID else .cache stored

/-- An upsert has a copy if it puts a device offline, and then the copies that the
same execution has still to write. -/
inductive DeviceTask where
  | upsert (stage : UpsertStage) (copy : Option OfflineCopy) (rest : List OfflineCopy)
  | patch (dev : Device) (patch : DevicePatch)
  | done

def DeviceTask.next (lookup : UInt32 → String) : List OfflineCopy → DeviceTask
  | [] => .done
  | copy :: rest => .upsert (.store (enrichDevice lookup copy.offline)) (some copy) rest

/-- `completed` records the patches whose execution has ended, with the keys of
their devices. -/
structure DeviceService extends Service where
  published : List Event
  tasks : List DeviceTask
  completed : List (String × DevicePatch)

inductive DeviceStep where
  | upsertDevice (dev : Device)
  | updateDeviceMetadata (id : Nat) (patch : DevicePatch)
  | markDeviceOffline (sourceKey status : String) (now : Time)
  | expireDevices (now : Time) (order : Enumeration String)
  | advance (task : Nat) (now : Time) (ownerOf : String → Int)

namespace DeviceService

def start (lookup : UInt32 → String) (store : Store) : DeviceService :=
  { Service.newService lookup store with published := [], tasks := [], completed := [] }

def spawn (s : DeviceService) (task : DeviceTask) : DeviceService := { s with tasks := s.tasks ++ [task] }

def expired (s : DeviceService) (now : Time) (order : Enumeration String) : List Device :=
  (order.order s.devices.keys).filterMap fun key => (s.devices.lookup key).filter (isExpired now)

def sweepCopy (s : DeviceService) (dev : Device) : OfflineCopy :=
  ⟨dev, { dev with online := false, status := "offline" }, true, s.completed.length⟩

def markCopy (s : DeviceService) (status : String) (now : Time) (dev : Device) : OfflineCopy :=
  ⟨dev, { dev with online := false, status, lastSeenAt := now }, false, s.completed.length⟩

def updateDeviceMetadata (s : DeviceService) (id : Nat) (patch : DevicePatch) : DeviceService :=
  match s.store.updateDeviceMetadata id patch with
  | none => s
  | some (store, dev) => { s with store, tasks := s.tasks ++ [.patch dev patch] }

def markDeviceOffline (lookup : UInt32 → String) (s : DeviceService) (sourceKey status : String) (now : Time) :
    DeviceService :=
  match s.devices.lookup sourceKey with
  | none => s
  | some dev => s.spawn (.next lookup [s.markCopy status now dev])

def expireDevices (lookup : UInt32 → String) (s : DeviceService) (now : Time) (order : Enumeration String) :
    DeviceService :=
  s.spawn (.next lookup ((s.expired now order).map s.sweepCopy))

def advanceUpsert (lookup : UInt32 → String) (s : DeviceService) (i : Nat) (now : Time)
    (ownerOf : String → Int) (copy : Option OfflineCopy) (rest : List OfflineCopy) :
    UpsertStage → DeviceService
  | .store dev =>
    match s.store.upsertDevice now dev with
    | (store, none) => { s with store, tasks := s.tasks.set i (.next lookup rest) }
    | (store, some stored) => { s with store, tasks := s.tasks.set i (.upsert (.afterStore stored) copy rest) }
  | .findOwner stored =>
    { s with tasks := s.tasks.set i (.upsert (.afterFind stored (ownerOf stored.callsign)) copy rest) }
  | .assignOwner stored ownerID =>
    match s.store.assignDeviceOwner stored.id ownerID with
    | (store, some reassigned) => { s with store, tasks := s.tasks.set i (.upsert (.cache reassigned) copy rest) }
    | (store, none) => { s with store, tasks := s.tasks.set i (.upsert (.cache stored) copy rest) }
  | .cache stored =>
    let reply := Service.cacheStored lookup s.devices s.store stored
    { s with
      devices := reply.service.devices
      published := s.published ++ [reply.published]
      tasks := s.tasks.set i (.next lookup rest) }

def advancePatch (lookup : UInt32 → String) (s : DeviceService) (i : Nat) (dev : Device) (patch : DevicePatch) :
    DeviceService :=
  let dev := enrichDevice lookup dev
  { s with
    devices := s.devices.insert dev.sourceKey dev
    published := s.published ++ [.deviceUpdated dev]
    tasks := s.tasks.set i .done
    completed := s.completed ++ [(dev.sourceKey, patch)] }

def advance (lookup : UInt32 → String) (s : DeviceService) (i : Nat) (now : Time) (ownerOf : String → Int) :
    DeviceService :=
  match s.tasks[i]? with
  | some (.upsert stage copy rest) => s.advanceUpsert lookup i now ownerOf copy rest stage
  | some (.patch dev patch) => s.advancePatch lookup i dev patch
  | _ => s

def step (lookup : UInt32 → String) (s : DeviceService) : DeviceStep → DeviceService
  | .upsertDevice dev => s.spawn (.upsert (.store (enrichDevice lookup dev)) none [])
  | .updateDeviceMetadata id patch => s.updateDeviceMetadata id patch
  | .markDeviceOffline sourceKey status now => s.markDeviceOffline lookup sourceKey status now
  | .expireDevices now order => s.expireDevices lookup now order
  | .advance i now ownerOf => s.advance lookup i now ownerOf

end DeviceService

end Ipsc2Mmdvm.Registry
