import Ipsc2Mmdvm.Data.Clock
import Ipsc2Mmdvm.Data.GoMap
import Ipsc2Mmdvm.Data.SortSlice
import Mathlib.Data.Prod.Lex
import Mathlib.Data.String.Basic

namespace Ipsc2Mmdvm.Routing

open Data

/-! Each device subscribes to talkgroups per slot, statically by configuration or dynamically until
an expiry.  Two indexes keep the same entries by slot and talkgroup.  A `range` loop deletes at most
the key it is visiting, so it visits the keys the map had when the loop began. -/

abbrev Slot := UInt8

def slot1 : Slot := 1

def slot2 : Slot := 2

def validSlot (slot : Slot) : Bool :=
  slot == slot1 || slot == slot2

inductive SubscriptionKind where
  | static | dynamic
deriving DecidableEq

def SubscriptionKind.text : SubscriptionKind → String
  | .static => "static"
  | .dynamic => "dynamic"

structure GroupSubscription where
  groupID : UInt32
  kind : SubscriptionKind
  expiresAt : Time := 0
deriving DecidableEq

structure DeviceSubscriptions where
  deviceKey : String
  slots : GoMap Slot (List GroupSubscription)

structure TargetRoute where
  deviceKey : String
  slot : Slot
deriving DecidableEq

structure RouteKey where
  slot : Slot
  group : UInt32
deriving DecidableEq

structure DeviceState where
  static : GoMap Slot (GoMap UInt32 Unit)
  dynamic : GoMap Slot (GoMap UInt32 Time)

structure SubscriptionManager where
  dynamicTTL : Duration
  devices : GoMap String DeviceState
  staticIndex : GoMap RouteKey (GoMap String Unit)
  dynamicIndex : GoMap RouteKey (GoMap String Time)

@[ext] structure Entry where
  device : String
  slot : Slot
  group : UInt32
deriving DecidableEq

def Entry.key (e : Entry) : RouteKey := ⟨e.slot, e.group⟩

structure Orders where
  groups : Enumeration UInt32
  devices : Enumeration String
  staticSlots : String → Enumeration Slot
  dynamicSlots : String → Enumeration Slot
  staticGroups : String → Slot → Enumeration UInt32
  dynamicGroups : String → Slot → Enumeration UInt32
  staticRow : Slot → Enumeration String
  dynamicRow : Slot → Enumeration String
  routes : Enumeration TargetRoute

def Orders.increasing : Orders where
  groups := .ranked UInt32.toNat injective_toNat_uint32
  devices := .increasing String
  staticSlots _ := .ranked UInt8.toNat injective_toNat_uint8
  dynamicSlots _ := .ranked UInt8.toNat injective_toNat_uint8
  staticGroups _ _ := .ranked UInt32.toNat injective_toNat_uint32
  dynamicGroups _ _ := .ranked UInt32.toNat injective_toNat_uint32
  staticRow _ := .increasing String
  dynamicRow _ := .increasing String
  routes := .ranked (fun r => toLex (r.deviceKey, r.slot.toNat)) fun a b same => by
    cases a
    cases b
    simp_all [UInt8.toNat_inj]

def uniqueGroups (orders : Orders) (groups : List UInt32) : List UInt32 :=
  sortSlice (fun a b => a < b) (orders.groups.order (groups.filter (· ≠ 0)).toFinset)

namespace DeviceState

def fresh : DeviceState where
  static := (∅ : GoMap _ _).insert slot1 ∅ |>.insert slot2 ∅
  dynamic := (∅ : GoMap _ _).insert slot1 ∅ |>.insert slot2 ∅

def staticSlot (st : DeviceState) (orders : Orders) (device : String) (slot : Slot) : List Entry :=
  ((orders.staticGroups device slot).order (st.static.row slot).keys).map fun group =>
    ⟨device, slot, group⟩

def dynamicSlot (st : DeviceState) (orders : Orders) (device : String) (slot : Slot) :
    List (Entry × Time) :=
  ((orders.dynamicGroups device slot).order (st.dynamic.row slot).keys).filterMap fun group =>
    (st.dynamic.cell slot group).map fun expiresAt => (⟨device, slot, group⟩, expiresAt)

def statics (st : DeviceState) (orders : Orders) (device : String) : List Entry :=
  ((orders.staticSlots device).order st.static.keys).flatMap (st.staticSlot orders device)

def dynamics (st : DeviceState) (orders : Orders) (device : String) : List (Entry × Time) :=
  ((orders.dynamicSlots device).order st.dynamic.keys).flatMap (st.dynamicSlot orders device)

end DeviceState

namespace SubscriptionManager

def new (dynamicTTL : Duration) : SubscriptionManager where
  dynamicTTL := if dynamicTTL ≤ 0 then 5 * minute else dynamicTTL
  devices := ∅
  staticIndex := ∅
  dynamicIndex := ∅

def getOrCreateLocked (m : SubscriptionManager) (deviceKey : String) :
    SubscriptionManager × DeviceState :=
  match m.devices.lookup deviceKey with
  | some st => (m, st)
  | none => ({ m with devices := m.devices.insert deviceKey .fresh }, .fresh)

def addStaticIndexLocked (m : SubscriptionManager) (e : Entry) : SubscriptionManager :=
  { m with staticIndex := m.staticIndex.put e.key e.device () }

def removeStaticIndexLocked (m : SubscriptionManager) (e : Entry) : SubscriptionManager :=
  { m with staticIndex := m.staticIndex.prune e.key e.device }

def removeDynamicLocked (m : SubscriptionManager) (e : Entry) : SubscriptionManager :=
  { m with
    devices :=
      match m.devices.lookup e.device with
      | none => m.devices
      | some st => m.devices.insert e.device { st with dynamic := st.dynamic.drop e.slot e.group }
    dynamicIndex := m.dynamicIndex.prune e.key e.device }

def replaceStatic (m : SubscriptionManager) (orders : Orders) (deviceKey : String) (slot : Slot)
    (groups : List UInt32) : SubscriptionManager :=
  if deviceKey = "" ∨ validSlot slot = false then m
  else
    let unique := uniqueGroups orders groups
    let (m, st) := m.getOrCreateLocked deviceKey
    let m := (st.staticSlot orders deviceKey slot).foldl removeStaticIndexLocked m
    let next := unique.foldl (fun next group => next.insert group ()) (∅ : GoMap UInt32 Unit)
    let m := (unique.map fun group => ⟨deviceKey, slot, group⟩).foldl addStaticIndexLocked m
    { m with devices := m.devices.insert deviceKey { st with static := st.static.insert slot next } }

def orWallClock (now wall : Time) : Time :=
  if Time.isZero now then wall else now

def activateDynamic (m : SubscriptionManager) (deviceKey : String) (slot : Slot) (groupID : UInt32)
    (now wall : Time) : SubscriptionManager × Time :=
  if deviceKey = "" ∨ validSlot slot = false ∨ groupID = 0 then (m, 0)
  else
    let expiresAt := Time.add (orWallClock now wall) m.dynamicTTL
    let (m, st) := m.getOrCreateLocked deviceKey
    if (st.static.cell slot groupID).isSome then (m.removeDynamicLocked ⟨deviceKey, slot, groupID⟩, 0)
    else
      ({ m with
          devices := m.devices.insert deviceKey
            { st with dynamic := st.dynamic.put slot groupID expiresAt }
          dynamicIndex := m.dynamicIndex.put ⟨slot, groupID⟩ deviceKey expiresAt }, expiresAt)

def removeDynamic (m : SubscriptionManager) (deviceKey : String) (slot : Slot) (groupID : UInt32) :
    SubscriptionManager :=
  if deviceKey = "" ∨ validSlot slot = false ∨ groupID = 0 then m
  else m.removeDynamicLocked ⟨deviceKey, slot, groupID⟩

def removeDevice (m : SubscriptionManager) (orders : Orders) (deviceKey : String) :
    SubscriptionManager :=
  if deviceKey = "" then m
  else
    match m.devices.lookup deviceKey with
    | none => m
    | some st =>
      let m := (st.statics orders deviceKey).foldl removeStaticIndexLocked m
      let m := ((st.dynamics orders deviceKey).map Prod.fst).foldl removeDynamicLocked m
      { m with devices := m.devices.erase deviceKey }

/-- The body shared by the loops over dynamic entries that read them: an entry
that has expired is removed, any other is passed on. -/
def sweep {β : Type} (now : Time) (emit : β → Entry × Time → β) (acc : SubscriptionManager × β)
    (visited : Entry × Time) : SubscriptionManager × β :=
  if Time.isZero visited.2 || !Time.after visited.2 now then
    (acc.1.removeDynamicLocked visited.1, acc.2)
  else (acc.1, emit acc.2 visited)

def addTarget (sourceDevice : String) (targets : Finset TargetRoute) (e : Entry) :
    Finset TargetRoute :=
  if e.device = sourceDevice then targets else insert ⟨e.device, e.slot⟩ targets

def resolveSlot (orders : Orders) (sourceDevice : String) (groupID : UInt32) (now : Time)
    (acc : SubscriptionManager × Finset TargetRoute) (slot : Slot) :
    SubscriptionManager × Finset TargetRoute :=
  let statics := (orders.staticRow slot).order (acc.1.staticIndex.row ⟨slot, groupID⟩).keys
  let targets := statics.foldl
    (fun targets device => addTarget sourceDevice targets ⟨device, slot, groupID⟩) acc.2
  let row := acc.1.dynamicIndex.row ⟨slot, groupID⟩
  let dynamics := ((orders.dynamicRow slot).order row.keys).filterMap fun device =>
    (row.lookup device).map fun expiresAt => (Entry.mk device slot groupID, expiresAt)
  dynamics.foldl (sweep now fun targets visited => addTarget sourceDevice targets visited.1)
    (acc.1, targets)

def routeLess (a b : TargetRoute) : Bool :=
  if a.deviceKey = b.deviceKey then a.slot < b.slot else a.deviceKey < b.deviceKey

def resolveRoutes (m : SubscriptionManager) (orders : Orders) (sourceDevice : String)
    (groupID : UInt32) (now wall : Time) : SubscriptionManager × List TargetRoute :=
  if groupID = 0 then (m, [])
  else
    let (m, targets) :=
      [slot1, slot2].foldl (resolveSlot orders sourceDevice groupID (orWallClock now wall)) (m, ∅)
    (m, sortSlice routeLess (orders.routes.order targets))

def expire (m : SubscriptionManager) (orders : Orders) (now wall : Time) : SubscriptionManager :=
  let now := orWallClock now wall
  let visits := (orders.devices.order m.devices.keys).flatMap fun deviceKey =>
    match m.devices.lookup deviceKey with
    | none => []
    | some st => st.dynamics orders deviceKey
  visits.foldl
    (fun m visited =>
      if Time.isZero visited.2 || Time.after visited.2 now then m
      else m.removeDynamicLocked visited.1) m

def groupLess (a b : GroupSubscription) : Bool :=
  if a.groupID = b.groupID then a.kind.text < b.kind.text else a.groupID < b.groupID

def snapshotSlot (orders : Orders) (deviceKey : String) (st : DeviceState) (now : Time)
    (acc : SubscriptionManager × GoMap Slot (List GroupSubscription)) (slot : Slot) :
    SubscriptionManager × GoMap Slot (List GroupSubscription) :=
  let statics := (st.staticSlot orders deviceKey slot).map fun e =>
    ({ groupID := e.group, kind := .static } : GroupSubscription)
  let swept := (st.dynamicSlot orders deviceKey slot).foldl
    (sweep now fun subscriptions visited =>
      subscriptions ++ [{ groupID := visited.1.group, kind := .dynamic, expiresAt := visited.2 }])
    (acc.1, (acc.2.lookup slot).getD [] ++ statics)
  (swept.1, acc.2.insert slot (sortSlice groupLess swept.2))

def snapshotDeviceLocked (m : SubscriptionManager) (orders : Orders) (deviceKey : String)
    (now : Time) : SubscriptionManager × DeviceSubscriptions :=
  let empty : GoMap Slot (List GroupSubscription) := (∅ : GoMap _ _).insert slot1 [] |>.insert slot2 []
  match m.devices.lookup deviceKey with
  | none => (m, ⟨deviceKey, empty⟩)
  | some st =>
    let (m, slots) := [slot1, slot2].foldl (snapshotSlot orders deviceKey st now) (m, empty)
    (m, ⟨deviceKey, slots⟩)

def snapshotDevice (m : SubscriptionManager) (orders : Orders) (deviceKey : String)
    (now wall : Time) : SubscriptionManager × DeviceSubscriptions :=
  m.snapshotDeviceLocked orders deviceKey (orWallClock now wall)

def snapshotAll (m : SubscriptionManager) (orders : Orders) (now wall : Time) :
    SubscriptionManager × GoMap String DeviceSubscriptions :=
  let now := orWallClock now wall
  (orders.devices.order m.devices.keys).foldl
    (fun acc deviceKey =>
      let (m, snapshot) := acc.1.snapshotDeviceLocked orders deviceKey now
      (m, acc.2.insert deviceKey snapshot)) (m, ∅)

end SubscriptionManager

end Ipsc2Mmdvm.Routing
