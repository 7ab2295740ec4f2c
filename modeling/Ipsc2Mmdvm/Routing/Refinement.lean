import Ipsc2Mmdvm.Data.Transitions
import Ipsc2Mmdvm.Routing.Index

namespace Ipsc2Mmdvm.Routing

open Data List Function Enumeration

/-! The specification keeps a set of static entries and, for every dynamic entry, its expiry.  It
never deletes an entry because time passed; the manager does, lazily, and no answer shows it. -/

inductive Call where
  | replaceStatic (deviceKey : String) (slot : Slot) (groups : List UInt32)
  | activateDynamic (deviceKey : String) (slot : Slot) (groupID : UInt32) (now : Time)
  | removeDynamic (deviceKey : String) (slot : Slot) (groupID : UInt32)
  | removeDevice (deviceKey : String)
  | expire (now : Time)
  | snapshotDevice (deviceKey : String) (now : Time)
  | snapshotAll (now : Time)
  | resolveRoutes (sourceDevice : String) (groupID : UInt32) (now : Time)

structure Event where
  call : Call
  orders : Orders
  wall : Time

def Event.time? (event : Event) : Option Time :=
  match event.call with
  | .activateDynamic _ _ _ now | .expire now | .snapshotDevice _ now | .snapshotAll now
  | .resolveRoutes _ _ now => some (SubscriptionManager.orWallClock now event.wall)
  | _ => none

def Call.mutates : Call → Bool
  | .replaceStatic .. | .activateDynamic .. | .removeDynamic .. | .removeDevice .. => true
  | _ => false

structure Subscriptions where
  static : Set Entry
  dynamic : Entry → Option Time

namespace Subscriptions

def empty : Subscriptions := ⟨∅, fun _ => none⟩

def Names (deviceKey : String) (slot : Slot) (groupID : UInt32) : Prop :=
  deviceKey ≠ "" ∧ validSlot slot = true ∧ groupID ≠ 0

open Classical in
noncomputable def step (ttl : Duration) (spec : Subscriptions) (event : Event) : Subscriptions :=
  match event.call with
  | .replaceStatic deviceKey slot groups =>
    if deviceKey ≠ "" ∧ validSlot slot = true then
      { spec with
        static := {e | if e.device = deviceKey ∧ e.slot = slot then e.group ∈ groups ∧ e.group ≠ 0
          else e ∈ spec.static} }
    else spec
  | .activateDynamic deviceKey slot groupID now =>
    if Names deviceKey slot groupID then
      { spec with
        dynamic := Function.update spec.dynamic ⟨deviceKey, slot, groupID⟩
          (if ⟨deviceKey, slot, groupID⟩ ∈ spec.static then none
            else some (Time.add (SubscriptionManager.orWallClock now event.wall) ttl)) }
    else spec
  | .removeDynamic deviceKey slot groupID =>
    { spec with dynamic := Function.update spec.dynamic ⟨deviceKey, slot, groupID⟩ none }
  | .removeDevice deviceKey =>
    { static := {e | e ∈ spec.static ∧ e.device ≠ deviceKey}
      dynamic := fun e => if e.device = deviceKey then none else spec.dynamic e }
  | _ => spec

def Subscribed (spec : Subscriptions) (e : Entry) (now : Time) : Prop :=
  e ∈ spec.static ∨ ∃ expiresAt, spec.dynamic e = some expiresAt ∧ now < expiresAt

end Subscriptions

namespace SubscriptionManager

def step (m : SubscriptionManager) (event : Event) : SubscriptionManager :=
  match event.call with
  | .replaceStatic deviceKey slot groups => m.replaceStatic event.orders deviceKey slot groups
  | .activateDynamic deviceKey slot groupID now =>
    (m.activateDynamic deviceKey slot groupID now event.wall).1
  | .removeDynamic deviceKey slot groupID => m.removeDynamic deviceKey slot groupID
  | .removeDevice deviceKey => m.removeDevice event.orders deviceKey
  | .expire now => m.expire event.orders now event.wall
  | .snapshotDevice deviceKey now => (m.snapshotDevice event.orders deviceKey now event.wall).1
  | .snapshotAll now => (m.snapshotAll event.orders now event.wall).1
  | .resolveRoutes sourceDevice groupID now =>
    (m.resolveRoutes event.orders sourceDevice groupID now event.wall).1

structure Indexed (m : SubscriptionManager) : Prop where
  static : ∀ e, m.staticIndex.cell e.key e.device = m.staticAt e
  dynamic : ∀ e, m.dynamicIndex.cell e.key e.device = m.dynamicAt e
  staticRows : m.staticIndex.NoEmptyRows
  dynamicRows : m.dynamicIndex.NoEmptyRows

end SubscriptionManager

structure Timed where
  manager : SubscriptionManager
  clock : Time

namespace Timed

def new (ttl : Duration) : Timed := ⟨.new ttl, 0⟩

def step (s : Timed) (event : Event) : Timed :=
  ⟨s.manager.step event, event.time?.getD s.clock⟩

def Ordered (s : Timed) (event : Event) : Prop :=
  s.clock ≤ event.time?.getD s.clock

end Timed

structure Refines (ttl : Duration) (m : SubscriptionManager) (spec : Subscriptions) (clock : Time) :
    Prop where
  holds : m.Holds spec.static m.dynamicAt
  known : ∀ e expiresAt, m.dynamicAt e = some expiresAt → spec.dynamic e = some expiresAt
  kept : ∀ e expiresAt, spec.dynamic e = some expiresAt → clock < expiresAt →
    m.dynamicAt e = some expiresAt
  named : ∀ e, (e ∈ spec.static ∨ spec.dynamic e ≠ none) →
    Subscriptions.Names e.device e.slot e.group
  dated : ∀ e expiresAt, spec.dynamic e = some expiresAt → 0 < expiresAt
  ttl_eq : m.dynamicTTL = ttl

namespace Refines

open SubscriptionManager

variable {ttl : Duration} {m m' : SubscriptionManager} {spec : Subscriptions} {clock now : Time}

theorem init (ttl : Duration) : Refines (SubscriptionManager.new ttl).dynamicTTL (.new ttl) .empty 0 := by
  have holds := holds_new ttl
  have nothing : (SubscriptionManager.new ttl).dynamicAt = fun _ => none := funext holds.dynamics
  refine ⟨by rw [nothing]; exact holds, ?_, ?_, ?_, ?_, rfl⟩
  · simp [nothing]
  · simp [Subscriptions.empty]
  · simp [Subscriptions.empty]
  · simp [Subscriptions.empty]

theorem indexed (refines : Refines ttl m spec clock) : m.Indexed where
  static e := by
    have agree := (refines.holds.staticIndex e).trans (refines.holds.statics e).symm
    cases onIndex : m.staticIndex.cell e.key e.device <;> cases onDevice : m.staticAt e <;>
      simp_all
  dynamic := refines.holds.dynamicIndex
  staticRows := refines.holds.staticRows
  dynamicRows := refines.holds.dynamicRows

theorem later (refines : Refines ttl m spec clock) (after : clock ≤ now) : Refines ttl m spec now :=
  { refines with kept := fun e t held live => refines.kept e t held (lt_of_le_of_lt after live) }

theorem subscribed_iff (refines : Refines ttl m spec clock) {e : Entry} : spec.Subscribed e clock ↔
      m.staticIndex.cell e.key e.device = some () ∨
        ∃ expiresAt, m.dynamicIndex.cell e.key e.device = some expiresAt ∧ clock < expiresAt := by
  simp only [Subscriptions.Subscribed]
  rw [refines.holds.staticIndex, refines.holds.dynamicIndex]
  refine or_congr_right (exists_congr fun expiresAt => and_congr_left fun live => ?_)
  exact ⟨fun held => refines.kept e expiresAt held live, refines.known e expiresAt⟩

theorem ttl_removeAll (m : SubscriptionManager) (entries : List Entry) :
    (entries.foldl removeDynamicLocked m).dynamicTTL = m.dynamicTTL := by
  induction entries generalizing m with
  | nil => rfl
  | cons e entries ih => exact ih (m.removeDynamicLocked e)

theorem purge (refines : Refines ttl m spec clock) (entries : List Entry)
    (expired : ∀ e ∈ entries, ∀ expiresAt, spec.dynamic e = some expiresAt → expiresAt ≤ clock) :
    Refines ttl (entries.foldl removeDynamicLocked m) spec clock := by
  have holds := refines.holds.removeAll entries
  have left := funext holds.dynamics
  refine ⟨by rw [left]; exact holds, ?_, ?_, refines.named, refines.dated, ?_⟩
  · intro e expiresAt held
    simp only [left] at held
    split at held
    · cases held
    · exact refines.known e expiresAt held
  · intro e expiresAt held live
    simp only [left]
    rw [if_neg fun member => absurd (expired e member expiresAt held) (not_le.mpr live)]
    exact refines.kept e expiresAt held live
  · rw [ttl_removeAll, refines.ttl_eq]

end Refines

namespace SubscriptionManager

def isDead (now : Time) (visited : Entry × Time) : Bool :=
  Time.isZero visited.2 || !Time.after visited.2 now

theorem foldl_sweep {β : Type} (now : Time) (emit : β → Entry × Time → β)
    (visits : List (Entry × Time)) (m : SubscriptionManager) (out : β) :
    visits.foldl (sweep now emit) (m, out) = (((visits.filter (isDead now)).map Prod.fst).foldl removeDynamicLocked m,
        (visits.filter fun visited => !isDead now visited).foldl emit out) := by
  induction visits generalizing m out with
  | nil => rfl
  | cons visited visits ih =>
    have head : sweep now emit (m, out) visited = if isDead now visited then (m.removeDynamicLocked visited.1, out)
        else (m, emit out visited) := rfl
    rw [foldl_cons, head]
    cases dead : isDead now visited <;> simp [ih, dead]

theorem mem_foldl_addTarget {sourceDevice : String} {targets : Finset TargetRoute}
    {entries : List Entry} {r : TargetRoute} :
    r ∈ entries.foldl (addTarget sourceDevice) targets ↔ r ∈ targets ∨ r.deviceKey ≠ sourceDevice ∧
        ∃ e ∈ entries, e.device = r.deviceKey ∧ e.slot = r.slot := by
  induction entries generalizing targets with
  | nil => simp
  | cons e entries ih =>
    have head : r ∈ addTarget sourceDevice targets e ↔
        r ∈ targets ∨ r.deviceKey ≠ sourceDevice ∧ e.device = r.deviceKey ∧ e.slot = r.slot := by
      cases r
      unfold addTarget
      split <;> simp only [Finset.mem_insert, TargetRoute.mk.injEq] <;> grind
    simp only [foldl_cons, ih, head, exists_mem_cons_iff]
    grind

def rowStatics (m : SubscriptionManager) (orders : Orders) (slot : Slot) (groupID : UInt32) :
    List Entry :=
  ((orders.staticRow slot).order (m.staticIndex.row ⟨slot, groupID⟩).keys).map fun device =>
    ⟨device, slot, groupID⟩

def rowDynamics (m : SubscriptionManager) (orders : Orders) (slot : Slot) (groupID : UInt32) :
    List (Entry × Time) :=
  ((orders.dynamicRow slot).order (m.dynamicIndex.row ⟨slot, groupID⟩).keys).filterMap fun device =>
    ((m.dynamicIndex.row ⟨slot, groupID⟩).lookup device).map fun expiresAt =>
      (⟨device, slot, groupID⟩, expiresAt)

section Rows

variable {m : SubscriptionManager} {orders : Orders} {slot : Slot} {groupID : UInt32}

theorem resolveSlot_eq (sourceDevice : String) (now : Time) (targets : Finset TargetRoute) :
    resolveSlot orders sourceDevice groupID now (m, targets) slot = (m.rowDynamics orders slot groupID).foldl
        (sweep now fun targets visited => addTarget sourceDevice targets visited.1)
        (m, (m.rowStatics orders slot groupID).foldl (addTarget sourceDevice) targets) := by
  simp only [resolveSlot, rowStatics, rowDynamics, foldl_map]

theorem mem_rowStatics {e : Entry} : e ∈ m.rowStatics orders slot groupID ↔
    e.slot = slot ∧ e.group = groupID ∧ m.staticIndex.cell e.key e.device = some () := by
  simp only [rowStatics, mem_map, mem_order]
  constructor
  · intro visited
    obtain ⟨device, member, rfl⟩ := visited
    obtain ⟨_, found⟩ := GoMap.mem_keys_iff.mp member
    exact ⟨rfl, rfl, found⟩
  · intro stored
    obtain ⟨rfl, rfl, found⟩ := stored
    exact ⟨e.device, (GoMap.mem_keys_of_cell found).2, rfl⟩

theorem mem_rowDynamics {visited : Entry × Time} : visited ∈ m.rowDynamics orders slot groupID ↔
    visited.1.slot = slot ∧ visited.1.group = groupID ∧
      m.dynamicIndex.cell visited.1.key visited.1.device = some visited.2 := by
  obtain ⟨e, expiresAt⟩ := visited
  simp only [rowDynamics, mem_filterMap, mem_order, Option.map_eq_some_iff, Prod.mk.injEq]
  constructor
  · intro visited
    obtain ⟨device, _, _, found, rfl, rfl⟩ := visited
    exact ⟨rfl, rfl, found⟩
  · intro stored
    obtain ⟨rfl, rfl, found⟩ := stored
    exact ⟨e.device, (GoMap.mem_keys_of_cell found).2, expiresAt, found, rfl, rfl⟩

theorem exists_rowStatics {r : TargetRoute} :
    (∃ e ∈ m.rowStatics orders slot groupID, e.device = r.deviceKey ∧ e.slot = r.slot) ↔
      r.slot = slot ∧ m.staticIndex.cell ⟨slot, groupID⟩ r.deviceKey = some () := by
  constructor
  · intro visited
    obtain ⟨e, member, device, sameSlot⟩ := visited
    obtain ⟨rfl, rfl, found⟩ := mem_rowStatics.mp member
    exact ⟨sameSlot.symm, device ▸ found⟩
  · intro stored
    obtain ⟨rfl, found⟩ := stored
    exact ⟨⟨r.deviceKey, r.slot, groupID⟩, mem_rowStatics.mpr ⟨rfl, rfl, found⟩, rfl, rfl⟩

theorem exists_rowDynamics {r : TargetRoute} {now : Time} :
    (∃ e ∈ ((m.rowDynamics orders slot groupID).filter fun visited => now < visited.2).map Prod.fst,
      e.device = r.deviceKey ∧ e.slot = r.slot) ↔ r.slot = slot ∧
        ∃ expiresAt, m.dynamicIndex.cell ⟨slot, groupID⟩ r.deviceKey = some expiresAt ∧ now < expiresAt := by
  simp only [mem_map, mem_filter, Prod.exists, exists_and_right, exists_eq_right, decide_eq_true_eq]
  constructor
  · intro visited
    obtain ⟨e, ⟨expiresAt, member, live⟩, device, sameSlot⟩ := visited
    obtain ⟨rfl, rfl, found⟩ := mem_rowDynamics.mp member
    exact ⟨sameSlot.symm, expiresAt, device ▸ found, live⟩
  · intro stored
    obtain ⟨rfl, expiresAt, found, live⟩ := stored
    exact ⟨⟨r.deviceKey, r.slot, groupID⟩, ⟨expiresAt, mem_rowDynamics.mpr ⟨rfl, rfl, found⟩, live⟩, rfl, rfl⟩

end Rows

theorem routeLess_iff {a b : TargetRoute} : routeLess a b = true ↔
      a.deviceKey < b.deviceKey ∨ a.deviceKey = b.deviceKey ∧ a.slot < b.slot := by
  simp only [routeLess]
  by_cases same : a.deviceKey = b.deviceKey <;> simp [same]

theorem routeLess_strict : StrictOrder routeLess where
  irrefl a := by simp [routeLess]
  trans a b c first second := by
    rw [routeLess_iff] at first second ⊢
    obtain below | ⟨same, below⟩ := first
    · obtain below' | ⟨same', _⟩ := second
      · exact .inl (below.trans below')
      · exact .inl (same' ▸ below)
    · obtain below' | ⟨same', below'⟩ := second
      · exact .inl (same ▸ below')
      · exact .inr ⟨same.trans same', UInt8.lt_trans below below'⟩
  total a b differ := by
    rw [routeLess_iff, routeLess_iff]
    obtain below | same | above := lt_trichotomy a.deviceKey b.deviceKey
    · exact .inl (.inl below)
    · have slots : a.slot ≠ b.slot := fun same' => differ (by cases a; cases b; simp_all)
      obtain below | above := UInt8.lt_or_lt_of_ne slots
      · exact .inl (.inr ⟨same, below⟩)
      · exact .inr (.inr ⟨same.symm, above⟩)
    · exact .inr (.inl above)

end SubscriptionManager

namespace Refines

open SubscriptionManager

variable {ttl : Duration} {m m' : SubscriptionManager} {spec : Subscriptions} {clock now wall : Time}

theorem isDead_iff {visited : Entry × Time} (dated : 0 < visited.2) : isDead now visited = true ↔ visited.2 ≤ now := by
  have positive : (visited.2 : Nat) ≠ 0 := Nat.ne_of_gt dated
  simp [isDead, Time.isZero, Time.after, positive]

theorem sweep {β : Type} (refines : Refines ttl m spec now) (emit : β → Entry × Time → β) (out : β)
    {visits : List (Entry × Time)}
    (known : ∀ visited ∈ visits, spec.dynamic visited.1 = some visited.2) :
    Refines ttl (visits.foldl (SubscriptionManager.sweep now emit) (m, out)).1 spec now ∧
      (visits.foldl (SubscriptionManager.sweep now emit) (m, out)).2 =
        (visits.filter fun visited => now < visited.2).foldl emit out := by
  have dead (visited : Entry × Time) (member : visited ∈ visits) : isDead now visited = true ↔ visited.2 ≤ now :=
    isDead_iff (refines.dated visited.1 visited.2 (known visited member))
  rw [foldl_sweep]
  constructor
  · apply refines.purge _
    intro e removed expiresAt held
    obtain ⟨visited, member, rfl⟩ := mem_map.mp removed
    obtain ⟨member, gone⟩ := mem_filter.mp member
    rw [known visited member, Option.some.injEq] at held
    exact held ▸ (dead visited member).mp gone
  · refine congrArg (foldl emit out) (filter_congr fun visited member => ?_)
    rw [Bool.eq_iff_iff, Bool.not_eq_true', ← Bool.not_eq_true, dead visited member, decide_eq_true_iff, not_le]

theorem resolveSlot (refines : Refines ttl m spec now) (orders : Orders) (sourceDevice : String)
    (groupID : UInt32) (targets : Finset TargetRoute) (slot : Slot) :
    let answer := SubscriptionManager.resolveSlot orders sourceDevice groupID now (m, targets) slot
    Refines ttl answer.1 spec now ∧ ∀ r, r ∈ answer.2 ↔ r ∈ targets ∨ r.slot = slot ∧ r.deviceKey ≠ sourceDevice ∧
        spec.Subscribed ⟨r.deviceKey, slot, groupID⟩ now := by
  have known : ∀ visited ∈ m.rowDynamics orders slot groupID, spec.dynamic visited.1 = some visited.2 := by
    intro visited member
    obtain ⟨_, _, found⟩ := mem_rowDynamics.mp member
    rw [refines.holds.dynamicIndex] at found
    exact refines.known _ _ found
  obtain ⟨refines', collected⟩ := refines.sweep (fun targets visited => addTarget sourceDevice targets visited.1)
    ((m.rowStatics orders slot groupID).foldl (addTarget sourceDevice) targets)
    known
  simp only [resolveSlot_eq]
  refine ⟨refines', fun r => ?_⟩
  rw [collected, ← foldl_map, mem_foldl_addTarget, mem_foldl_addTarget, refines.subscribed_iff,
    exists_rowStatics, exists_rowDynamics]
  simp only [Entry.key]
  tauto

theorem resolveRoutes (refines : Refines ttl m spec clock) (orders : Orders) (sourceDevice : String) (groupID : UInt32)
    {now : Time} (later : clock ≤ orWallClock now wall) :
    let answer := m.resolveRoutes orders sourceDevice groupID now wall
    Refines ttl answer.1 spec (orWallClock now wall) ∧ answer.2.Pairwise (fun a b => routeLess a b = true) ∧
      ∀ r, r ∈ answer.2 ↔ r.deviceKey ≠ sourceDevice ∧
        spec.Subscribed ⟨r.deviceKey, r.slot, groupID⟩ (orWallClock now wall) := by
  have here := refines.later later
  have named {e : Entry} {time : Time} (subscribed : spec.Subscribed e time) :
      Subscriptions.Names e.device e.slot e.group :=
    refines.named e (subscribed.imp_right fun ⟨_, held, _⟩ => by simp [held])
  simp only [SubscriptionManager.resolveRoutes]
  split
  · rename_i zero
    refine ⟨here, List.Pairwise.nil, fun r => ?_⟩
    simpa using fun _ subscribed => absurd zero (named subscribed).2.2
  · obtain ⟨first, members⟩ := here.resolveSlot orders sourceDevice groupID ∅ slot1
    obtain ⟨second, members'⟩ := first.resolveSlot orders sourceDevice groupID
      (SubscriptionManager.resolveSlot orders sourceDevice groupID _ (m, ∅) slot1).2 slot2
    refine ⟨second, ?_, fun r => ?_⟩
    · exact routeLess_strict.sorted (orders.routes.nodup _)
    · simp only [mem_sortSlice, mem_order]
      apply (members' r).trans
      rw [members r]
      simp only [Finset.notMem_empty, false_or]
      constructor
      · intro found
        obtain ⟨slot, other, subscribed⟩ | ⟨slot, other, subscribed⟩ := found
        · exact ⟨other, slot ▸ subscribed⟩
        · exact ⟨other, slot ▸ subscribed⟩
      · intro routed
        obtain ⟨other, subscribed⟩ := routed
        have valid := (named subscribed).2.1
        simp only [validSlot, Bool.or_eq_true, beq_iff_eq] at valid
        exact valid.imp (fun slot => ⟨slot, other, slot ▸ subscribed⟩) fun slot => ⟨slot, other, slot ▸ subscribed⟩

theorem expire (refines : Refines ttl m spec clock) (orders : Orders) {now : Time}
    (later : clock ≤ orWallClock now wall) :
    Refines ttl (m.expire orders now wall) spec (orWallClock now wall) := by
  simp only [SubscriptionManager.expire]
  apply foldlRecOn _ _ (motive := fun m => Refines ttl m spec _) (refines.later later)
  intro left refines' visited member
  split
  · exact refines'
  · rename_i gone
    apply refines'.purge [visited.1]
    intro e removed expiresAt held
    simp only [mem_flatMap] at member
    obtain ⟨deviceKey, _, member⟩ := member
    cases found : m.devices.lookup deviceKey with
    | none => simp [found] at member
    | some st =>
      simp only [found] at member
      obtain ⟨same, stored⟩ := DeviceState.mem_dynamics.mp member
      have known := refines.known _ _ ((dynamicAt_of_lookup found same).trans stored)
      rw [mem_singleton.mp removed, known, Option.some.injEq] at held
      simp only [Bool.or_eq_true, decide_eq_true_eq, not_or, not_lt] at gone
      exact held ▸ gone.2

theorem snapshotSlot (refines : Refines ttl m spec now) (orders : Orders) (deviceKey : String)
    {st : DeviceState} (slots : GoMap Slot (List GroupSubscription)) (slot : Slot)
    (known : ∀ visited ∈ st.dynamicSlot orders deviceKey slot, spec.dynamic visited.1 = some visited.2) :
    Refines ttl (SubscriptionManager.snapshotSlot orders deviceKey st now (m, slots) slot).1 spec now := by
  simp only [SubscriptionManager.snapshotSlot]
  exact (refines.sweep _ _ known).1

theorem snapshotDeviceLocked (refines : Refines ttl m spec now) (orders : Orders) (deviceKey : String) :
    Refines ttl (m.snapshotDeviceLocked orders deviceKey now).1 spec now := by
  simp only [SubscriptionManager.snapshotDeviceLocked]
  cases found : m.devices.lookup deviceKey with
  | none => exact refines
  | some st =>
    have known (slot : Slot) : ∀ visited ∈ st.dynamicSlot orders deviceKey slot,
        spec.dynamic visited.1 = some visited.2 := by
      intro visited member
      obtain ⟨same, _, held⟩ := DeviceState.mem_dynamicSlot.mp member
      exact refines.known _ _ ((dynamicAt_of_lookup found same).trans held)
    exact (refines.snapshotSlot orders deviceKey _ slot1 (known slot1)).snapshotSlot orders
      deviceKey _ slot2 (known slot2)

theorem snapshotAll (refines : Refines ttl m spec clock) (orders : Orders) {now : Time}
    (later : clock ≤ orWallClock now wall) :
    Refines ttl (m.snapshotAll orders now wall).1 spec (orWallClock now wall) := by
  simp only [SubscriptionManager.snapshotAll]
  apply foldlRecOn _ _ (motive := fun acc : SubscriptionManager × _ => Refines ttl acc.1 spec _) (refines.later later)
  intro acc refines' deviceKey _
  exact refines'.snapshotDeviceLocked orders deviceKey

theorem of_holds (refines : Refines ttl m spec clock) {held : Entry → Option Time} {spec' : Subscriptions}
    (holds : m'.Holds spec'.static held)
    (static : ∀ e ∈ spec'.static, Subscriptions.Names e.device e.slot e.group)
    (each : ∀ e, held e = m.dynamicAt e ∧ spec'.dynamic e = spec.dynamic e ∨ held e = spec'.dynamic e ∧
      ∀ expiresAt, held e = some expiresAt → Subscriptions.Names e.device e.slot e.group ∧ 0 < expiresAt)
    (ttl_eq : m'.dynamicTTL = ttl) : Refines ttl m' spec' clock := by
  have same : m'.dynamicAt = held := funext holds.dynamics
  subst same
  refine ⟨holds, fun e expiresAt => ?_, fun e expiresAt => ?_, fun e entry => ?_, fun e expiresAt => ?_, ttl_eq⟩ <;>
    obtain ⟨before, before'⟩ | ⟨both, new⟩ := each e
  · rw [before, before']
    exact refines.known e expiresAt
  · rw [both]
    exact fun held => held
  · rw [before, before']
    exact refines.kept e expiresAt
  · rw [both]
    exact fun held _ => held
  · exact entry.elim (static e) fun dynamic => refines.named e (.inr (before' ▸ dynamic))
  · refine entry.elim (static e) fun dynamic => ?_
    obtain ⟨expiresAt, set⟩ := Option.ne_none_iff_exists'.mp dynamic
    exact (new expiresAt (both.trans set)).1
  · rw [before']
    exact refines.dated e expiresAt
  · exact fun set => (new expiresAt (both.trans set)).2

theorem ttl_getOrCreateLocked (m : SubscriptionManager) (deviceKey : String) :
    (m.getOrCreateLocked deviceKey).1.dynamicTTL = m.dynamicTTL := by
  simp only [getOrCreateLocked]
  split <;> rfl

section

variable (refines : Refines ttl m spec clock)

include refines

theorem replaceStatic (orders : Orders) (wall : Time) (deviceKey : String) (slot : Slot) (groups : List UInt32) :
    Refines ttl (m.replaceStatic orders deviceKey slot groups)
      (spec.step ttl ⟨.replaceStatic deviceKey slot groups, orders, wall⟩) clock := by
  by_cases possible : deviceKey ≠ "" ∧ validSlot slot = true
  · simp only [Subscriptions.step, possible, ne_eq, not_false_eq_true, and_self, if_true]
    refine refines.of_holds (refines.holds.replaceStatic orders groups possible.1 possible.2) ?_
      (fun e => .inl ⟨rfl, rfl⟩) ?_
    · intro e replaced
      simp only [Set.mem_ofPred_eq] at replaced
      split at replaced
      · rename_i here
        exact ⟨here.1 ▸ possible.1, here.2 ▸ possible.2, replaced.2⟩
      · exact refines.named e (.inl replaced)
    · simp only [SubscriptionManager.replaceStatic]
      split
      · exact refines.ttl_eq
      · simp only [foldl_removeStaticIndexLocked, foldl_addStaticIndexLocked, ttl_getOrCreateLocked, refines.ttl_eq]
  · have refused : deviceKey = "" ∨ validSlot slot = false := by
      grind
    simp only [SubscriptionManager.replaceStatic]
    simpa only [Subscriptions.step, possible, if_false, refused, if_true] using refines

theorem update {e : Entry} {value : Option Time} (holds : m'.Holds spec.static (update m.dynamicAt e value))
    (new : ∀ expiresAt, value = some expiresAt → Subscriptions.Names e.device e.slot e.group ∧ 0 < expiresAt)
    (ttl_eq : m'.dynamicTTL = ttl) :
    Refines ttl m' { spec with dynamic := update spec.dynamic e value } clock := by
  refine refines.of_holds holds (fun e member => refines.named e (.inl member)) (fun other => ?_) ttl_eq
  by_cases same : other = e
  · subst same
    simp only [update_self]
    exact .inr ⟨trivial, new⟩
  · exact .inl ⟨update_of_ne same .., update_of_ne same ..⟩

theorem activateDynamic (lasting : 0 < ttl) (orders : Orders)
    (deviceKey : String) (slot : Slot) (groupID : UInt32) (now wall : Time) :
    Refines ttl (m.activateDynamic deviceKey slot groupID now wall).1
      (spec.step ttl ⟨.activateDynamic deviceKey slot groupID now, orders, wall⟩) clock := by
  classical
  by_cases possible : Subscriptions.Names deviceKey slot groupID
  · obtain ⟨named, valid, grouped⟩ := possible
    have holds := refines.holds.activateDynamic now wall named valid grouped
    rw [refines.ttl_eq] at holds
    simp only [Subscriptions.step, Subscriptions.Names, named, valid, grouped, ne_eq,
      not_false_eq_true, and_self, if_true]
    refine refines.update holds (fun expiresAt set => ⟨⟨named, valid, grouped⟩, ?_⟩) ?_
    · split at set
      · cases set
      · cases set
        exact Time.add_pos _ lasting
    · simp only [SubscriptionManager.activateDynamic]
      simp only [named, valid, grouped, Bool.true_eq_false, or_self, if_false]
      split <;> exact (ttl_getOrCreateLocked m deviceKey).trans refines.ttl_eq
  · have refused : deviceKey = "" ∨ validSlot slot = false ∨ groupID = 0 := by
      simp only [Subscriptions.Names] at possible
      grind
    simp only [SubscriptionManager.activateDynamic]
    simpa only [Subscriptions.step, possible, if_false, refused, if_true] using refines

theorem removeDynamic (orders : Orders) (wall : Time) (deviceKey : String) (slot : Slot) (groupID : UInt32) :
    Refines ttl (m.removeDynamic deviceKey slot groupID)
      (spec.step ttl ⟨.removeDynamic deviceKey slot groupID, orders, wall⟩) clock := by
  by_cases possible : Subscriptions.Names deviceKey slot groupID
  · obtain ⟨named, valid, grouped⟩ := possible
    refine refines.update (refines.holds.removeDynamic named valid grouped) nofun ?_
    simp only [SubscriptionManager.removeDynamic]
    split <;> exact refines.ttl_eq
  · have nothing : spec.dynamic ⟨deviceKey, slot, groupID⟩ = none := by
      by_contra held
      exact possible (refines.named ⟨deviceKey, slot, groupID⟩ (.inr held))
    have refused : deviceKey = "" ∨ validSlot slot = false ∨ groupID = 0 := by
      simp only [Subscriptions.Names] at possible
      grind
    simp only [SubscriptionManager.removeDynamic]
    simp only [Subscriptions.step, refused, if_true]
    rw [← nothing, update_eq_self]
    exact refines

theorem removeDevice (orders : Orders) (wall : Time) (deviceKey : String) :
    Refines ttl (m.removeDevice orders deviceKey) (spec.step ttl ⟨.removeDevice deviceKey, orders, wall⟩) clock := by
  by_cases named : deviceKey = ""
  · have absent (e : Entry) (held : e ∈ spec.static ∨ spec.dynamic e ≠ none) : e.device ≠ deviceKey :=
      fun same => (refines.named e held).1 (same.trans named)
    have unchanged : spec.step ttl ⟨.removeDevice deviceKey, orders, wall⟩ = spec := by
      have static : {e | e ∈ spec.static ∧ e.device ≠ deviceKey} = spec.static := by
        ext e
        exact and_iff_left_of_imp fun member => absent e (.inl member)
      have dynamic : (fun e => if e.device = deviceKey then none else spec.dynamic e) = spec.dynamic := by
        funext e
        split
        · rename_i same
          by_contra held
          exact absent e (.inr (Ne.symm held)) same
        · rfl
      simp only [Subscriptions.step, static, dynamic]
    simp only [SubscriptionManager.removeDevice]
    rw [unchanged, if_pos named]
    exact refines
  · refine refines.of_holds (refines.holds.removeDevice orders named) (fun e member => refines.named e (.inl member.1))
      (fun e => ?_) ?_
    · by_cases same : e.device = deviceKey
      · exact .inr (by simp [Subscriptions.step, same])
      · exact .inl (by simp [Subscriptions.step, same])
    · simp only [SubscriptionManager.removeDevice]
      rw [if_neg named]
      split
      · exact refines.ttl_eq
      · simp only [foldl_removeStaticIndexLocked, ttl_removeAll, refines.ttl_eq]

end

theorem step {s : Timed} (lasting : 0 < ttl) (refines : Refines ttl s.manager spec s.clock)
    {event : Event} (ordered : s.Ordered event) :
    Refines ttl (s.step event).manager (spec.step ttl event) (s.step event).clock := by
  obtain ⟨call, orders, wall⟩ := event
  cases call with
  | replaceStatic deviceKey slot groups => exact refines.replaceStatic orders wall deviceKey slot groups
  | activateDynamic deviceKey slot groupID now =>
    exact (refines.activateDynamic lasting orders deviceKey slot groupID now wall).later ordered
  | removeDynamic deviceKey slot groupID =>
    exact refines.removeDynamic orders wall deviceKey slot groupID
  | removeDevice deviceKey => exact refines.removeDevice orders wall deviceKey
  | expire now => exact refines.expire orders ordered
  | snapshotDevice deviceKey now =>
    exact (refines.later ordered).snapshotDeviceLocked orders deviceKey
  | snapshotAll now => exact refines.snapshotAll orders ordered
  | resolveRoutes sourceDevice groupID now =>
    exact (refines.resolveRoutes orders sourceDevice groupID ordered).1

theorem run {s : Timed} (lasting : 0 < ttl) (refines : Refines ttl s.manager spec s.clock)
    {events : List Event} (ordered : EachStep Timed.step Timed.Ordered s events) :
    Refines ttl (runFrom Timed.step s events).manager
      (runFrom (Subscriptions.step ttl) spec events) (runFrom Timed.step s events).clock := by
  induction events generalizing s spec with
  | nil => exact refines
  | cons event events ih => exact ih (refines.step lasting ordered.1) ordered.2

end Refines

theorem Subscriptions.run_filter (ttl : Duration) (spec : Subscriptions) (events : List Event) :
    runFrom (Subscriptions.step ttl) spec events =
      runFrom (Subscriptions.step ttl) spec (events.filter (·.call.mutates)) := by
  induction events generalizing spec with
  | nil => rfl
  | cons event events ih =>
    obtain ⟨call, orders, wall⟩ := event
    cases call <;> exact ih _

theorem SubscriptionManager.new_ttl_pos (ttl : Duration) : 0 < (new ttl).dynamicTTL := by
  unfold SubscriptionManager.new
  simp only
  split
  · decide
  · exact not_le.mp ‹_›

/-- In every run with nondecreasing times the indexes agree with the device
maps, `ResolveRoutes` answers as the specification says, and two runs that
differ only in queries get the same answers. -/
theorem subscriptions_refine (ttl : Duration) (events : List Event)
    (ordered : EachStep Timed.step Timed.Ordered (Timed.new ttl) events) :
    let s := runFrom Timed.step (Timed.new ttl) events
    let spec := runFrom (Subscriptions.step (SubscriptionManager.new ttl).dynamicTTL) .empty events
    s.manager.Indexed ∧
    (∀ orders sourceDevice groupID now wall, s.clock ≤ SubscriptionManager.orWallClock now wall →
      let routes := (s.manager.resolveRoutes orders sourceDevice groupID now wall).2
      routes.Pairwise (fun a b => SubscriptionManager.routeLess a b = true) ∧ routes.Nodup ∧
      ∀ r, r ∈ routes ↔ r.deviceKey ≠ sourceDevice ∧
        spec.Subscribed ⟨r.deviceKey, r.slot, groupID⟩ (SubscriptionManager.orWallClock now wall)) ∧
    (∀ others, EachStep Timed.step Timed.Ordered (Timed.new ttl) others →
      others.filter (·.call.mutates) = events.filter (·.call.mutates) →
      let s' := runFrom Timed.step (Timed.new ttl) others
      ∀ orders orders' sourceDevice groupID now wall, s.clock ≤ SubscriptionManager.orWallClock now wall →
        s'.clock ≤ SubscriptionManager.orWallClock now wall →
          (s.manager.resolveRoutes orders sourceDevice groupID now wall).2 =
            (s'.manager.resolveRoutes orders' sourceDevice groupID now wall).2) := by
  have lasting := SubscriptionManager.new_ttl_pos ttl
  have refines := Refines.run (s := Timed.new ttl) lasting (Refines.init ttl) ordered
  refine ⟨refines.indexed, ?_, ?_⟩
  · intro orders sourceDevice groupID now wall later
    obtain ⟨_, sorted, members⟩ := refines.resolveRoutes orders sourceDevice groupID later
    refine ⟨sorted, sorted.imp fun {a b} below same => ?_, members⟩
    rw [same, SubscriptionManager.routeLess_strict.irrefl] at below
    cases below
  · intro others ordered' sameMutations s' orders orders' sourceDevice groupID now wall later later'
    have refines' := Refines.run (s := Timed.new ttl) lasting (Refines.init ttl) ordered'
    rw [Subscriptions.run_filter, sameMutations, ← Subscriptions.run_filter] at refines'
    obtain ⟨_, sorted, members⟩ := refines.resolveRoutes orders sourceDevice groupID later
    obtain ⟨_, sorted', members'⟩ := refines'.resolveRoutes orders' sourceDevice groupID later'
    exact SubscriptionManager.routeLess_strict.unique sorted sorted'
      fun r => (members r).trans (members' r).symm

theorem subscriptions_refine_two_devices :
    let events : List Event :=
      [⟨.replaceStatic "b" slot1 [91], .increasing, 0⟩, ⟨.activateDynamic "c" slot2 91 1000, .increasing, 0⟩]
    let s := runFrom Timed.step (Timed.new 0) events
    s.manager.Indexed ∧ ⟨"b", slot1⟩ ∈ (s.manager.resolveRoutes .increasing "a" 91 2000 0).2 := by
  intro events s
  obtain ⟨indexed, routed, _⟩ := subscriptions_refine 0 events ⟨Nat.le_refl 0, Nat.zero_le _, trivial⟩
  refine ⟨indexed, ((routed .increasing "a" 91 2000 0 (by decide)).2.2 ⟨"b", slot1⟩).mpr ⟨by decide, ?_⟩⟩
  left
  simp [events, Subscriptions.step, Subscriptions.Names, validSlot, slot1, slot2]

end Ipsc2Mmdvm.Routing
