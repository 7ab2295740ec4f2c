import Ipsc2Mmdvm.Routing.Refinement
import Ipsc2Mmdvm.Web.Devices

namespace Ipsc2Mmdvm.Web

open Data Registry Routing SubscriptionManager Store StaticGroups List Option Service GoMap

/-! Every request that changes static groups writes the table and then the router.  An upsert that
merges a device moves the rows of the merged device to another source key, and the router never
hears of it. -/

structure LoadOrders where
  devices : Enumeration String
  slots : String → Enumeration Slot
  calls : String → Slot → Orders

def addStatic (byDevice : GoMap String (GoMap Slot (List UInt32))) (group : StaticGroup) :
    GoMap String (GoMap Slot (List UInt32)) :=
  let slot := toSlot group.slot
  if validSlot slot = false then byDevice
  else byDevice.put group.sourceKey slot ((byDevice.cell group.sourceKey slot).getD [] ++ [group.groupID])

def staticByDevice (groups : List StaticGroup) : GoMap String (GoMap Slot (List UInt32)) :=
  groups.foldl addStatic ∅

def loadedSlots (orders : LoadOrders) (byDevice : GoMap String (GoMap Slot (List UInt32))) :
    List (String × Slot × List UInt32) :=
  (orders.devices.order byDevice.keys).flatMap fun sourceKey =>
    ((orders.slots sourceKey).order (byDevice.row sourceKey).keys).filterMap fun slot =>
      (byDevice.cell sourceKey slot).map fun groups => (sourceKey, slot, groups)

def loadStatic (orders : LoadOrders) (store : Store) : SubscriptionManager :=
  (loadedSlots orders (staticByDevice store.loadStaticGroups)).foldl
    (fun router loaded =>
      router.replaceStatic (orders.calls loaded.1 loaded.2.1) loaded.1 loaded.2.1 loaded.2.2)
    (.new (15 * minute))

def System.start (lookup : UInt32 → String) (orders : LoadOrders) (store : Store) : System :=
  ⟨.newService lookup store, loadStatic orders store⟩

def Routed (router : SubscriptionManager) (e : Entry) : Prop := router.staticAt e = some ()

def Stored (store : Store) (e : Entry) : Prop :=
  e.group ≠ 0 ∧ ⟨e.device, e.slot.toNat, e.group⟩ ∈ store.staticGroups.rows

def StaticAgree (sys : System) : Prop :=
  ∀ e, validSlot e.slot = true → (Routed sys.router e ↔ Stored sys.service.store e)

structure Sound (router : SubscriptionManager) : Prop where
  holds : router.Holds {e | Routed router e} router.dynamicAt
  names : ∀ e, Routed router e → Subscriptions.Names e.device e.slot e.group

section Router

variable {router : SubscriptionManager} {orders : Orders} {sourceKey : String} {slot : Slot}
  {groups : List UInt32} {e : Entry}

theorem sound_of_holds {static : Set Entry} {dynamic : Entry → Option Time} (holds : router.Holds static dynamic)
    (names : ∀ e ∈ static, Subscriptions.Names e.device e.slot e.group) : Sound router := by
  have same : static = {e | Routed router e} := Set.ext fun e => (holds.statics e).symm
  have same' : dynamic = router.dynamicAt := funext fun e => (holds.dynamics e).symm
  subst same same'
  exact ⟨holds, names⟩

theorem sound_new (ttl : Duration) : Sound (.new ttl) := sound_of_holds (holds_new ttl) fun _ member => member.elim

theorem replaceStatic_of_not_named (unnamed : ¬ (sourceKey ≠ "" ∧ validSlot slot = true)) :
    router.replaceStatic orders sourceKey slot groups = router := by
  rw [replaceStatic, if_pos]
  rw [not_and_or, not_not, Bool.not_eq_true] at unnamed
  exact unnamed

theorem routed_replaceStatic (sound : Sound router) : Routed (router.replaceStatic orders sourceKey slot groups) e ↔
      if sourceKey ≠ "" ∧ validSlot slot = true ∧ e.device = sourceKey ∧ e.slot = slot then
        e.group ∈ groups ∧ e.group ≠ 0
      else Routed router e := by
  by_cases named : sourceKey ≠ "" ∧ validSlot slot = true
  · have replaced := (sound.holds.replaceStatic orders groups named.1 named.2).statics e
    rw [Routed, replaced]
    simp [named.1, named.2]
  · rw [replaceStatic_of_not_named named, if_neg]
    tauto

theorem Sound.replaceStatic (sound : Sound router) (orders : Orders) (sourceKey : String) (slot : Slot)
    (groups : List UInt32) :
    Sound (router.replaceStatic orders sourceKey slot groups) := by
  by_cases named : sourceKey ≠ "" ∧ validSlot slot = true
  · apply sound_of_holds (sound.holds.replaceStatic orders groups named.1 named.2)
    intro e member
    simp only [Set.mem_ofPred_eq] at member
    split at member
    · rename_i own
      exact ⟨own.1 ▸ named.1, own.2 ▸ named.2, member.2⟩
    · exact sound.names e member
  · rwa [replaceStatic_of_not_named named]

theorem removeDevice_of_empty : router.removeDevice orders "" = router := by
  simp [removeDevice]

theorem Sound.removeDevice (sound : Sound router) : Sound (router.removeDevice orders sourceKey) := by
  by_cases named : sourceKey = ""
  · subst named
    rwa [removeDevice_of_empty]
  · exact sound_of_holds (sound.holds.removeDevice orders named) fun e member => sound.names e member.1

end Router

/-! What a change of a device writes, slot by slot: the groups given for a slot, unless one is given
twice and the database refuses them. -/

def storable (groups : List UInt32) : Bool := decide (groups.filter (· ≠ 0)).Nodup

def System.write (req : Request) (sourceKey : String) (sys : System) (written : Int × List UInt32) :
    System :=
  (sys.replaceStaticGroups (req.orders (toSlot written.1)) sourceKey written.1 written.2).getD sys

section Writes

variable {req : Request} {sys : System} {sourceKey : String} {device : Device}
  {payload : DeviceUpdatePayload} {slot : Int} {groups : List UInt32} {e : Entry}
  {written : Int × List UInt32} {writes : List (Int × List UInt32)}

theorem replaceStaticGroups_isSome (store : Store) (sourceKey : String) (slot : Int) (groups : List UInt32) :
    (store.replaceStaticGroups sourceKey slot groups).isSome = storable groups := by
  rw [replaceStaticGroups, isSome_map, Bool.eq_iff_iff, replace_isSome, storable, decide_eq_true_iff]

theorem validSlot_toSlot (isSlot : slot = 1 ∨ slot = 2) : validSlot (toSlot slot) = true := by
  rcases isSlot with rfl | rfl <;> rfl

theorem eq_toSlot_iff (isSlot : slot = 1 ∨ slot = 2) {s : Slot} : s = toSlot slot ↔ (s.toNat : Int) = slot := by
  rw [← UInt8.toNat_inj]
  obtain rfl | rfl := isSlot
  · have one : (toSlot 1).toNat = 1 := rfl
    omega
  · have two : (toSlot 2).toNat = 2 := rfl
    omega

def IsWrite (written : Int × List UInt32) : Prop :=
  (written.1 = 1 ∨ written.1 = 2) ∧ storable written.2 = true

theorem write_eq (isWrite : IsWrite written) : ∃ store,
    sys.service.store.replaceStaticGroups sourceKey written.1 written.2 = some store ∧ sys.write req sourceKey written =
        (sys.setStore store).setStatic (req.orders (toSlot written.1)) sourceKey (toSlot written.1) written.2 := by
  have taken := replaceStaticGroups_isSome sys.service.store sourceKey written.1 written.2
  rw [isWrite.2, isSome_iff_exists] at taken
  obtain ⟨store, taken⟩ := taken
  exact ⟨store, taken, by simp [System.write, System.replaceStaticGroups, taken]⟩

theorem stored_replaceStaticGroups {store store' : Store}
    (replaced : store.replaceStaticGroups sourceKey slot groups = some store') :
    Stored store' e ↔ if e.device = sourceKey ∧ (e.slot.toNat : Int) = slot then e.group ∈ groups ∧ e.group ≠ 0
      else Stored store e := by
  simp only [replaceStaticGroups, map_eq_some_iff] at replaced
  obtain ⟨table, replaced, rfl⟩ := replaced
  simp only [Stored, mem_replace replaced]
  split
  · tauto
  · rfl

theorem stored_write (isWrite : IsWrite written) : Stored (sys.write req sourceKey written).service.store e ↔
      if e.device = sourceKey ∧ (e.slot.toNat : Int) = written.1 then e.group ∈ written.2 ∧ e.group ≠ 0
      else Stored sys.service.store e := by
  obtain ⟨store, replaced, written⟩ := write_eq isWrite
  rw [written]
  exact stored_replaceStaticGroups replaced

theorem routed_write (sound : Sound sys.router) (isWrite : IsWrite written) :
    Routed (sys.write req sourceKey written).router e ↔
      if sourceKey ≠ "" ∧ e.device = sourceKey ∧ (e.slot.toNat : Int) = written.1 then
        e.group ∈ written.2 ∧ e.group ≠ 0
      else Routed sys.router e := by
  obtain ⟨store, _, same⟩ := write_eq isWrite
  rw [same]
  refine (routed_replaceStatic sound).trans ?_
  simp only [validSlot_toSlot isWrite.1, eq_toSlot_iff isWrite.1, true_and]

theorem Sound.write (sound : Sound sys.router) (isWrite : IsWrite written) :
    Sound (sys.write req sourceKey written).router := by
  obtain ⟨store, _, same⟩ := write_eq isWrite
  rw [same]
  exact sound.replaceStatic _ _ _ _

theorem StaticAgree.write (agree : StaticAgree sys) (sound : Sound sys.router) (isWrite : IsWrite written)
    (routable : sourceKey = "" → ∀ group ∈ written.2, group = 0) :
    StaticAgree (sys.write req sourceKey written) := by
  intro e valid
  rw [stored_write isWrite, routed_write sound isWrite]
  by_cases own : e.device = sourceKey ∧ (e.slot.toNat : Int) = written.1
  · rw [if_pos own]
    by_cases named : sourceKey = ""
    · rw [if_neg fun both => both.1 named]
      have unrouted : ¬ Routed sys.router e := fun routed =>
        (sound.names e routed).1 (own.1.trans named)
      exact iff_of_false unrouted fun kept => kept.2 (routable named _ kept.1)
    · rw [if_pos ⟨named, own⟩]
  · rw [if_neg own, if_neg fun both => own both.2]
    exact agree e valid

end Writes

inductive Operation where
  | upsertDevice (now : Time) (ownerOf : String → Int) (dev : Device)
  | create (req : Request) (payload : Option DeviceCreatePayload)
  | update (req : Request) (id : Nat) (payload : Option DeviceUpdatePayload)
  | delete (req : Request) (id : Nat)

def System.perform (lookup : UInt32 → String) (sys : System) : Operation → System
  | .upsertDevice now ownerOf dev =>
    { sys with service := sys.service.perform lookup (.upsertDevice now ownerOf dev) }
  | .create req payload => (sys.handleDeviceCreate lookup req payload).1
  | .update req id payload => (sys.handleDeviceUpdate lookup req id payload).1
  | .delete req id => (sys.handleDeviceDelete lookup req id).1

section Operations

variable {lookup : UInt32 → String} {sys sys' : System} {dev stored : Device} {e : Entry} {req : Request}
  {ownerOf : String → Int} {keeps : Prop} {sourceKey : String} {id : Nat}

theorem stored_upsertDevice {now : Time} {svc : Service} {reply : Reply}
    (upserts : Service.Upserts lookup ownerOf now svc dev reply) :
    Stored reply.service.store e ↔ (Stored svc.store e ∧ ∀ dup ∈ svc.store.duplicates dev, e.device ≠ dup.sourceKey) ∨
        e.device = dev.sourceKey ∧
          ∃ dup ∈ svc.store.duplicates dev, Stored svc.store { e with device := dup.sourceKey } := by
  simp only [Stored, upserts.staticGroups, mem_upsertDevice_staticGroups,
    duplicates_enrichDevice, enrichDevice_sourceKey]
  grind

theorem duplicates_of_not_deduped {store : Store} (alone : dedupeByDMRID dev.protocol = false) :
    store.duplicates dev = [] := by
  simp [duplicates, alone]

theorem upsert_done (sys : System) (lookup : UInt32 → String) (req : Request) (dev : Device) :
    ∃ sys' stored, sys.upsert lookup req dev = some (sys', stored) := by
  obtain ⟨reply, replied, _⟩ := upsertDevice_spec lookup req.ownerOf req.now sys.service dev
  exact ⟨_, _, by rw [System.upsert, replied]; rfl⟩

theorem upsert_eq_some (done : sys.upsert lookup req dev = some (sys', stored)) :
    ∃ reply, Service.Upserts lookup req.ownerOf req.now sys.service dev reply ∧
      sys' = { sys with service := reply.service } ∧ stored = reply.device := by
  obtain ⟨reply, replied, upserts⟩ := upsertDevice_spec lookup req.ownerOf req.now sys.service dev
  simp only [System.upsert, replied, map_some, some.injEq, Prod.mk.injEq] at done
  exact ⟨reply, upserts, done.1.symm, done.2.symm⟩

structure Follows (sys : System) (keeps : Prop) (after : System) : Prop where
  sound : Sound sys.router → Sound after.router
  agree : StaticAgree sys → Sound sys.router → (StaticAgree after ↔ keeps)

theorem Follows.refl (holds : keeps) : Follows sys keeps sys := ⟨id, fun agree _ => iff_of_true agree holds⟩

theorem stored_upsert (alone : dedupeByDMRID dev.protocol = false) (done : sys.upsert lookup req dev = some (sys', stored)) :
    (∀ e, Stored sys'.service.store e ↔ Stored sys.service.store e) ∧ sys'.router = sys.router ∧
      stored.sourceKey = dev.sourceKey := by
  obtain ⟨reply, upserts, rfl, rfl⟩ := upsert_eq_some done
  refine ⟨fun e => (stored_upsertDevice upserts).trans ?_, rfl, ?_⟩
  · simp [duplicates_of_not_deduped alone]
  · simp [upserts.device]

theorem StaticAgree.upsert (agree : StaticAgree sys) (alone : dedupeByDMRID dev.protocol = false)
    (done : sys.upsert lookup req dev = some (sys', stored)) :
    StaticAgree sys' := by
  obtain ⟨stored, routed, _⟩ := stored_upsert alone done
  intro e valid
  rw [routed, stored, agree e valid]

theorem Follows.upsert (alone : dedupeByDMRID dev.protocol = false) (done : sys.upsert lookup req dev = some (sys', stored))
    (holds : keeps) : Follows sys keeps sys' := by
  refine ⟨fun sound => ?_, fun agree _ => iff_of_true (agree.upsert alone done) holds⟩
  rwa [(stored_upsert alone done).2.1]

end Operations

section Load

variable {router : SubscriptionManager} {orders : LoadOrders} {store : Store} {e : Entry}

end Load

end Ipsc2Mmdvm.Web
