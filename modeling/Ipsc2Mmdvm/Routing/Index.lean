import Ipsc2Mmdvm.Routing.Subscriptions

namespace Ipsc2Mmdvm.Routing

open Data GoMap Function List Enumeration

/-! `Holds m static dynamic` says that both copies of the tables are exactly the given entries. -/

theorem Entry.key_eq_iff {e e' : Entry} : e.key = e'.key ∧ e.device = e'.device ↔ e = e' := by
  cases e
  cases e'
  simp [Entry.key]
  tauto

namespace DeviceState

variable {st : DeviceState} {orders : Orders} {device : String} {slot : Slot} {e : Entry}
  {expiresAt : Time}

theorem mem_staticSlot : e ∈ st.staticSlot orders device slot ↔
      e.device = device ∧ e.slot = slot ∧ st.static.cell e.slot e.group = some () := by
  simp only [staticSlot, mem_map, mem_order]
  constructor
  · intro visited
    obtain ⟨group, member, rfl⟩ := visited
    obtain ⟨_, found⟩ := mem_keys_iff.mp member
    exact ⟨rfl, rfl, found⟩
  · intro stored
    obtain ⟨rfl, rfl, found⟩ := stored
    exact ⟨e.group, (mem_keys_of_cell found).2, rfl⟩

theorem mem_dynamicSlot : (e, expiresAt) ∈ st.dynamicSlot orders device slot ↔
      e.device = device ∧ e.slot = slot ∧ st.dynamic.cell e.slot e.group = some expiresAt := by
  simp only [dynamicSlot, mem_filterMap, mem_order, Option.map_eq_some_iff, Prod.mk.injEq]
  constructor
  · intro visited
    obtain ⟨group, _, _, found, rfl, rfl⟩ := visited
    exact ⟨rfl, rfl, found⟩
  · intro stored
    obtain ⟨rfl, rfl, found⟩ := stored
    exact ⟨e.group, (mem_keys_of_cell found).2, expiresAt, found, rfl, rfl⟩

theorem mem_statics : e ∈ st.statics orders device ↔ e.device = device ∧ st.static.cell e.slot e.group = some () := by
  simp only [statics, mem_flatMap, mem_order, mem_staticSlot]
  constructor
  · intro visited
    obtain ⟨_, _, rfl, rfl, found⟩ := visited
    exact ⟨rfl, found⟩
  · intro stored
    obtain ⟨rfl, found⟩ := stored
    exact ⟨e.slot, (mem_keys_of_cell found).1, rfl, rfl, found⟩

theorem mem_dynamics : (e, expiresAt) ∈ st.dynamics orders device ↔
      e.device = device ∧ st.dynamic.cell e.slot e.group = some expiresAt := by
  simp only [dynamics, mem_flatMap, mem_order, mem_dynamicSlot]
  constructor
  · intro visited
    obtain ⟨_, _, rfl, rfl, found⟩ := visited
    exact ⟨rfl, found⟩
  · intro stored
    obtain ⟨rfl, found⟩ := stored
    exact ⟨e.slot, (mem_keys_of_cell found).1, rfl, rfl, found⟩

end DeviceState

theorem mem_uniqueGroups {orders : Orders} {groups : List UInt32} {group : UInt32} :
    group ∈ uniqueGroups orders groups ↔ group ∈ groups ∧ group ≠ 0 := by
  simp [uniqueGroups, mem_order]

namespace SubscriptionManager

def staticAt (m : SubscriptionManager) (e : Entry) : Option Unit :=
  (m.devices.lookup e.device).bind fun st => st.static.cell e.slot e.group

def dynamicAt (m : SubscriptionManager) (e : Entry) : Option Time :=
  (m.devices.lookup e.device).bind fun st => st.dynamic.cell e.slot e.group

structure Holds (m : SubscriptionManager) (static : Set Entry) (dynamic : Entry → Option Time) :
    Prop where
  statics : ∀ e, m.staticAt e = some () ↔ e ∈ static
  dynamics : ∀ e, m.dynamicAt e = dynamic e
  staticIndex : ∀ e, m.staticIndex.cell e.key e.device = some () ↔ e ∈ static
  dynamicIndex : ∀ e, m.dynamicIndex.cell e.key e.device = dynamic e
  staticRows : m.staticIndex.NoEmptyRows
  dynamicRows : m.dynamicIndex.NoEmptyRows

variable {m m' : SubscriptionManager} {static : Set Entry} {dynamic : Entry → Option Time} {st : DeviceState}
  {e : Entry} {deviceKey : String} {slot : Slot}

theorem holds_new (ttl : Duration) : (new ttl).Holds ∅ fun _ => none where
  statics e := by simp [staticAt, new]
  dynamics e := by simp [dynamicAt, new]
  staticIndex e := by simp [new, cell, row]
  dynamicIndex e := by simp [new, cell, row]
  staticRows k cells found := by simp [new] at found
  dynamicRows k cells found := by simp [new] at found

theorem staticAt_setDevice {device : String} (set : m'.devices = m.devices.insert device st) (e : Entry) :
    m'.staticAt e = if e.device = device then st.static.cell e.slot e.group else m.staticAt e := by
  simp only [staticAt, set, lookup_insert_eq]
  split <;> rfl

theorem dynamicAt_setDevice {device : String} (set : m'.devices = m.devices.insert device st) (e : Entry) :
    m'.dynamicAt e = if e.device = device then st.dynamic.cell e.slot e.group else m.dynamicAt e := by
  simp only [dynamicAt, set, lookup_insert_eq]
  split <;> rfl

theorem staticAt_removeDynamicLocked (m : SubscriptionManager) (e e' : Entry) :
    (m.removeDynamicLocked e).staticAt e' = m.staticAt e' := by
  simp only [removeDynamicLocked]
  cases found : m.devices.lookup e.device with
  | none => rfl
  | some st =>
    rw [staticAt_setDevice rfl]
    split
    · rename_i same
      rw [staticAt, lookup_congr _ same, found]
      rfl
    · rfl

theorem dynamicAt_removeDynamicLocked (m : SubscriptionManager) (e e' : Entry) :
    (m.removeDynamicLocked e).dynamicAt e' = if e' = e then none else m.dynamicAt e' := by
  simp only [removeDynamicLocked]
  cases found : m.devices.lookup e.device with
  | none =>
    by_cases same : e' = e
    · subst same
      simp [dynamicAt, found]
    · rw [if_neg same]
      rfl
  | some st =>
    rw [dynamicAt_setDevice rfl]
    by_cases same : e'.device = e.device
    · rw [if_pos same, cell_drop, dynamicAt, lookup_congr _ same, found]
      simp [Entry.ext_iff, same]
    · have : e' ≠ e := fun equal => same (congrArg Entry.device equal)
      rw [if_neg same, if_neg this]

theorem Holds.removeDynamicLocked (holds : m.Holds static dynamic) (e : Entry) :
    (m.removeDynamicLocked e).Holds static (update dynamic e none) where
  statics e' := by rw [staticAt_removeDynamicLocked, holds.statics]
  dynamics e' := by rw [dynamicAt_removeDynamicLocked, holds.dynamics, update_apply]
  staticIndex := holds.staticIndex
  dynamicIndex e' := by
    simp only [SubscriptionManager.removeDynamicLocked, cell_prune, Entry.key_eq_iff, holds.dynamicIndex, update_apply]
  staticRows := holds.staticRows
  dynamicRows := holds.dynamicRows.prune e.key e.device

theorem Holds.removeAll (holds : m.Holds static dynamic) (entries : List Entry) :
    (entries.foldl SubscriptionManager.removeDynamicLocked m).Holds static
      (fun e => if e ∈ entries then none else dynamic e) := by
  induction entries generalizing m dynamic with
  | nil => simpa using holds
  | cons first entries ih =>
    have same : (fun e => if e ∈ first :: entries then none else dynamic e) =
        fun e => if e ∈ entries then none else update dynamic first none e := by
      funext e
      simp only [mem_cons, update_apply]
      grind
    rw [same]
    exact ih (holds.removeDynamicLocked first)

theorem getOrCreateLocked_lookup (m : SubscriptionManager) (deviceKey : String) :
    (m.getOrCreateLocked deviceKey).1.devices.lookup deviceKey = some (m.getOrCreateLocked deviceKey).2 := by
  simp only [getOrCreateLocked]
  cases found : m.devices.lookup deviceKey with
  | none => exact Finmap.lookup_insert _
  | some st => exact found

theorem cell_fresh {V : Type} (slot : Slot) (group : UInt32) :
    cell ((∅ : GoMap Slot (GoMap UInt32 V)).insert slot1 ∅ |>.insert slot2 ∅) slot group = none := by
  simp only [cell]
  rw [row_insert, row_insert]
  split
  · rfl
  · split <;> rfl

theorem Holds.getOrCreateLocked (holds : m.Holds static dynamic) (deviceKey : String) :
    (m.getOrCreateLocked deviceKey).1.Holds static dynamic := by
  simp only [SubscriptionManager.getOrCreateLocked]
  cases found : m.devices.lookup deviceKey with
  | some st => exact holds
  | none =>
    refine { holds with statics := fun e => ?_, dynamics := fun e => ?_ }
    · rw [staticAt_setDevice rfl, ← holds.statics]
      split
      · rename_i same
        rw [staticAt, lookup_congr _ same, found]
        simp [DeviceState.fresh, cell_fresh]
      · rfl
    · rw [dynamicAt_setDevice rfl, ← holds.dynamics]
      split
      · rename_i same
        rw [dynamicAt, lookup_congr _ same, found]
        simp [DeviceState.fresh, cell_fresh]
      · rfl

theorem foldl_removeStaticIndexLocked (m : SubscriptionManager) (entries : List Entry) :
    entries.foldl removeStaticIndexLocked m =
      { m with
        staticIndex := (entries.map fun e => (e.key, e.device)).foldl
          (fun index c => index.prune c.1 c.2) m.staticIndex } := by
  induction entries generalizing m with
  | nil => rfl
  | cons e entries ih => rw [foldl_cons, ih]; rfl

theorem foldl_addStaticIndexLocked (m : SubscriptionManager) (entries : List Entry) :
    entries.foldl addStaticIndexLocked m =
      { m with
        staticIndex := (entries.map fun e => (e.key, e.device)).foldl
          (fun index c => index.put c.1 c.2 ()) m.staticIndex } := by
  induction entries generalizing m with
  | nil => rfl
  | cons e entries ih => rw [foldl_cons, ih]; rfl

theorem mem_map_key {entries : List Entry} :
    (e.key, e.device) ∈ entries.map (fun e => (e.key, e.device)) ↔ e ∈ entries := by
  simp [mem_map, Entry.key_eq_iff]

theorem staticAt_of_lookup (found : m.devices.lookup deviceKey = some st) (same : e.device = deviceKey) :
    m.staticAt e = st.static.cell e.slot e.group := by
  rw [staticAt, lookup_congr _ same, found]
  rfl

theorem dynamicAt_of_lookup (found : m.devices.lookup deviceKey = some st) (same : e.device = deviceKey) :
    m.dynamicAt e = st.dynamic.cell e.slot e.group := by
  rw [dynamicAt, lookup_congr _ same, found]
  rfl

theorem Holds.replaceStatic (holds : m.Holds static dynamic) (orders : Orders) (groups : List UInt32) (named : deviceKey ≠ "")
    (valid : validSlot slot = true) :
    (m.replaceStatic orders deviceKey slot groups).Holds
      {e | if e.device = deviceKey ∧ e.slot = slot then e.group ∈ groups ∧ e.group ≠ 0
        else e ∈ static} dynamic := by
  have created := holds.getOrCreateLocked deviceKey
  have found := m.getOrCreateLocked_lookup deviceKey
  simp only [SubscriptionManager.replaceStatic]
  simp only [named, valid, Bool.true_eq_false, or_self, if_false]
  generalize m.getOrCreateLocked deviceKey = answer at created found
  obtain ⟨m, st⟩ := answer
  simp only [foldl_removeStaticIndexLocked, foldl_addStaticIndexLocked]
  have added (e : Entry) : e ∈ (uniqueGroups orders groups).map (Entry.mk deviceKey slot) ↔
      (e.device = deviceKey ∧ e.slot = slot) ∧ e.group ∈ groups ∧ e.group ≠ 0 := by
    simp only [mem_map, mem_uniqueGroups, Entry.ext_iff]
    grind
  constructor
  · intro e
    have before := created.statics e
    rw [staticAt_setDevice rfl]
    simp only [cell_insert, lookup_foldl_insert, mem_uniqueGroups, Set.mem_ofPred_eq]
    by_cases same : e.device = deviceKey
    · rw [staticAt_of_lookup found same] at before
      by_cases here : e.slot = slot
      · simp [same, here]
      · simp [same, here, before]
    · simpa [same] using before
  · intro e
    rw [dynamicAt_setDevice rfl, ← created.dynamics]
    split
    · exact (dynamicAt_of_lookup found ‹_›).symm
    · rfl
  · intro e
    simp only [cell_foldl_put, cell_foldl_prune, mem_map_key, added, DeviceState.mem_staticSlot, Set.mem_ofPred_eq]
    have before := created.staticIndex e
    by_cases here : e.device = deviceKey ∧ e.slot = slot
    · rw [← created.statics, staticAt_of_lookup found here.1] at before
      obtain ⟨rfl, rfl⟩ := here
      by_cases wanted : e.group ∈ groups ∧ e.group ≠ 0
      · simp [wanted]
      · by_cases visited : st.static.cell e.slot e.group = some () <;>
          simp [wanted, before, visited]
    · have notVisited : ¬ (e.device = deviceKey ∧ e.slot = slot ∧
          st.static.cell e.slot e.group = some ()) := fun visited => here ⟨visited.1, visited.2.1⟩
      simpa only [here, notVisited, false_and, if_false] using before
  · exact created.dynamicIndex
  · exact (created.staticRows.foldl_prune _).foldl_put _ _
  · exact created.dynamicRows

theorem Holds.activateDynamic (holds : m.Holds static dynamic) {groupID : UInt32} (now wall : Time) (named : deviceKey ≠ "")
    (valid : validSlot slot = true) (grouped : groupID ≠ 0) [Decidable (⟨deviceKey, slot, groupID⟩ ∈ static)] :
    (m.activateDynamic deviceKey slot groupID now wall).1.Holds static
      (update dynamic ⟨deviceKey, slot, groupID⟩ (if ⟨deviceKey, slot, groupID⟩ ∈ static then none
          else some (Time.add (orWallClock now wall) m.dynamicTTL))) := by
  have created := holds.getOrCreateLocked deviceKey
  have found := m.getOrCreateLocked_lookup deviceKey
  simp only [SubscriptionManager.activateDynamic]
  simp only [named, valid, grouped, Bool.true_eq_false, or_self, if_false]
  generalize m.getOrCreateLocked deviceKey = answer at created found
  obtain ⟨m', st⟩ := answer
  have present : (st.static.cell slot groupID).isSome = true ↔ ⟨deviceKey, slot, groupID⟩ ∈ static := by
    rw [← created.statics, staticAt_of_lookup found rfl]
    cases st.static.cell slot groupID <;> simp
  by_cases fixed : (⟨deviceKey, slot, groupID⟩ : Entry) ∈ static
  · rw [if_pos (present.mpr fixed), if_pos fixed]
    exact created.removeDynamicLocked _
  · rw [if_neg (mt present.mp fixed), if_neg fixed]
    refine { created with statics := fun e => ?_, dynamics := fun e => ?_, dynamicIndex := fun e => ?_, dynamicRows := ?_ }
    · rw [staticAt_setDevice rfl, ← created.statics]
      split
      · rw [staticAt_of_lookup found ‹_›]
      · rfl
    · rw [dynamicAt_setDevice rfl, update_apply, ← created.dynamics]
      by_cases same : e.device = deviceKey
      · rw [if_pos same, cell_put, dynamicAt_of_lookup found same]
        simp [Entry.ext_iff, same]
      · have other : e ≠ ⟨deviceKey, slot, groupID⟩ := fun equal => same (congrArg Entry.device equal)
        rw [if_neg same, if_neg other]
    · let added : Entry := ⟨deviceKey, slot, groupID⟩
      have key : e.key = added.key ∧ e.device = added.device ↔ e = added := Entry.key_eq_iff
      simp only [Entry.key, added] at key
      rw [cell_put, update_apply, ← created.dynamicIndex]
      simp only [Entry.key, key]
    · exact created.dynamicRows.put _ _ _

theorem Holds.removeDynamic (holds : m.Holds static dynamic) {groupID : UInt32} (named : deviceKey ≠ "")
    (valid : validSlot slot = true) (grouped : groupID ≠ 0) :
    (m.removeDynamic deviceKey slot groupID).Holds static (update dynamic ⟨deviceKey, slot, groupID⟩ none) := by
  simp only [SubscriptionManager.removeDynamic]
  simp only [named, valid, grouped, Bool.true_eq_false, or_self, if_false]
  exact holds.removeDynamicLocked _

theorem foldl_removeDynamicLocked_frame (m : SubscriptionManager)
    (index : GoMap RouteKey (GoMap String Unit)) (entries : List Entry) :
    entries.foldl SubscriptionManager.removeDynamicLocked { m with staticIndex := index } =
      { entries.foldl SubscriptionManager.removeDynamicLocked m with staticIndex := index } := by
  induction entries generalizing m with
  | nil => rfl
  | cons e entries ih => exact ih (m.removeDynamicLocked e)

theorem Holds.absent (holds : m.Holds static dynamic) (unknown : m.devices.lookup deviceKey = none)
    (same : e.device = deviceKey) :
    e ∉ static ∧ dynamic e = none := by
  rw [← holds.statics, ← holds.dynamics, staticAt, dynamicAt, lookup_congr _ same, unknown]
  simp

theorem Holds.mem_dynamics (holds : m.Holds static dynamic) (found : m.devices.lookup deviceKey = some st) (orders : Orders)
    (e : Entry) :
    e ∈ (st.dynamics orders deviceKey).map Prod.fst ↔ e.device = deviceKey ∧ (dynamic e).isSome := by
  simp only [mem_map, Prod.exists, exists_and_right, exists_eq_right,
    DeviceState.mem_dynamics, Option.isSome_iff_exists]
  constructor
  · intro visited
    obtain ⟨expiresAt, same, held⟩ := visited
    exact ⟨same, expiresAt, by rw [← holds.dynamics, dynamicAt_of_lookup found same, held]⟩
  · intro stored
    obtain ⟨same, expiresAt, held⟩ := stored
    exact ⟨expiresAt, same, by rw [← dynamicAt_of_lookup found same, holds.dynamics, held]⟩

theorem Holds.removeDevice (holds : m.Holds static dynamic) (orders : Orders) (named : deviceKey ≠ "") :
    (m.removeDevice orders deviceKey).Holds {e | e ∈ static ∧ e.device ≠ deviceKey}
      (fun e => if e.device = deviceKey then none else dynamic e) := by
  simp only [SubscriptionManager.removeDevice]
  rw [if_neg named]
  cases found : m.devices.lookup deviceKey with
  | none =>
    have noStatic : {e | e ∈ static ∧ e.device ≠ deviceKey} = static := by
      ext e
      simpa using fun member same => (holds.absent found same).1 member
    have noDynamic : (fun e => if e.device = deviceKey then none else dynamic e) = dynamic := by
      funext e
      split
      · exact (holds.absent found ‹_›).2.symm
      · rfl
    rw [noStatic, noDynamic]
    exact holds
  | some st =>
    simp only [foldl_removeStaticIndexLocked, foldl_removeDynamicLocked_frame]
    have emptied := holds.removeAll ((st.dynamics orders deviceKey).map Prod.fst)
    have noDynamic : (fun e => if e ∈ (st.dynamics orders deviceKey).map Prod.fst then none
        else dynamic e) = fun e => if e.device = deviceKey then none else dynamic e := by
      funext e
      have member := holds.mem_dynamics found orders e
      by_cases same : e.device = deviceKey
      · cases held : dynamic e <;> simp [member, same, held]
      · simp [member, same]
    rw [noDynamic] at emptied
    generalize ((st.dynamics orders deviceKey).map Prod.fst).foldl
      SubscriptionManager.removeDynamicLocked m = left at emptied
    constructor
    · intro e
      have before := emptied.statics e
      simp only [staticAt] at before ⊢
      rw [lookup_erase_eq]
      by_cases same : e.device = deviceKey <;> simp [same, ← before]
    · intro e
      have before := emptied.dynamics e
      simp only [dynamicAt] at before ⊢
      rw [lookup_erase_eq]
      by_cases same : e.device = deviceKey
      · simp [same]
      · simpa [same] using before
    · intro e
      simp only [cell_foldl_prune, mem_map_key, DeviceState.mem_statics]
      have before := holds.staticIndex e
      by_cases same : e.device = deviceKey
      · rw [← holds.statics, staticAt_of_lookup found same] at before
        subst same
        by_cases visited : st.static.cell e.slot e.group = some () <;> simp [visited, before]
      · simpa [same] using before
    · exact emptied.dynamicIndex
    · exact holds.staticRows.foldl_prune _
    · exact emptied.dynamicRows

end SubscriptionManager

end Ipsc2Mmdvm.Routing
