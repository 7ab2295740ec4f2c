import Ipsc2Mmdvm.Data.Transitions
import Ipsc2Mmdvm.Registry.Service

namespace Ipsc2Mmdvm.Registry

open Data GoMap Table Option Service

/-! The store merges every row with the DMR ID of an upserted device except those of upstream
networks, the cache only the devices of the protocols that are merged at all; and the store looks at
the DMR ID that came in, the cache at the one that was kept. -/

/-- The cached record is the row, but for a callsign that was looked up and the
time of the last call. -/
def SameRecord (lookup : UInt32 → String) (cached row : Device) : Prop :=
  { cached with callsign := row.callsign, lastCallAt := row.lastCallAt } = row ∧
    (cached.callsign = row.callsign ∨ cached.callsign = (enrichDevice lookup row).callsign)

instance (lookup : UInt32 → String) (cached row : Device) : Decidable (SameRecord lookup cached row) :=
  inferInstanceAs (Decidable (_ ∧ _))

structure Agreement (lookup : UInt32 → String) (svc : Service) : Prop where
  keys : ∀ key, (svc.devices.lookup key).isSome = (svc.store.devices.find key).isSome
  records : ∀ key cached row, svc.devices.lookup key = some cached →
    svc.store.devices.find key = some row → SameRecord lookup cached row

def MergesAlike (store : Store) (dev : Device) : Prop :=
  dedupeByDMRID dev.protocol = true →
    ∀ row ∈ store.devices.rows, row.sourceKey ≠ dev.sourceKey → row.dmrID ≠ 0 →
      (dedupeByDMRID row.protocol = true → row.dmrID = Service.keptDMRID store dev →
        dev.dmrID ≠ 0 ∧ dev.sourceKey ≠ "") ∧
      (dedupeByDMRID row.protocol = false → row.protocol ≠ "mmdvm-upstream" →
        dev.sourceKey ≠ "" → row.dmrID ≠ dev.dmrID)

section

variable {lookup : UInt32 → String} {svc : Service} {store : Store} {dev cached row : Device} {reply : Reply}

theorem SameRecord.refl (lookup : UInt32 → String) (row : Device) : SameRecord lookup row row := ⟨rfl, .inl rfl⟩

theorem SameRecord.enriched (lookup : UInt32 → String) (row : Device) :
    SameRecord lookup (enrichDevice lookup row) row := by
  refine ⟨?_, .inr rfl⟩
  simp only [enrichDevice]
  split <;> rfl

theorem SameRecord.dropsCached (same : SameRecord lookup cached row) :
    Service.dropsCached store dev cached = Service.dropsCached store dev row := by
  obtain ⟨same, _⟩ := same
  rw [← same]
  rfl

theorem rel_filter {α β : Type} {R : α → β → Prop} {a : α} {b : β} {p : α → Bool} {q : β → Bool} (related : R a b) :
    Option.Rel R ((some a).filter p) ((some b).filter q) ↔ (p a = true ↔ q b = true) := by
  simp only [Option.filter]
  split <;> split
  · exact iff_of_true (.some related) (iff_of_true ‹_› ‹_›)
  · exact iff_of_false nofun (by simp_all)
  · exact iff_of_false nofun (by simp_all)
  · exact iff_of_true .none (iff_of_false ‹_› ‹_›)

theorem agreement_iff : Agreement lookup svc ↔
    ∀ key, Option.Rel (SameRecord lookup) (svc.devices.lookup key) (svc.store.devices.find key) := by
  constructor
  · intro agree key
    have keys := agree.keys key
    cases there : svc.devices.lookup key with
    | none =>
      rw [there, isSome_none, eq_comm, isSome_eq_false_iff, isNone_iff_eq_none] at keys
      rw [keys]
      exact .none
    | some cached =>
      rw [there, isSome_some, eq_comm, isSome_iff_exists] at keys
      obtain ⟨row, found⟩ := keys
      rw [found]
      exact .some (agree.records key cached row there found)
  · intro related
    constructor
    · intro key
      have same := related key
      cases there : svc.devices.lookup key <;> cases found : svc.store.devices.find key <;>
        simp only [there, found] at same ⊢
      · cases same
      · cases same
      · rfl
    · intro key cached row there found
      have same := related key
      rw [there, found] at same
      cases same
      assumption

theorem mem_duplicates_iff_dropsCached (member : row ∈ store.devices.rows) (other : row.sourceKey ≠ dev.sourceKey) :
    (row ∈ store.duplicates dev ↔ Service.dropsCached store dev row = true) ↔
      (dedupeByDMRID dev.protocol = true → row.dmrID ≠ 0 →
        (dedupeByDMRID row.protocol = true → row.dmrID = Service.keptDMRID store dev →
          dev.dmrID ≠ 0 ∧ dev.sourceKey ≠ "") ∧
        (dedupeByDMRID row.protocol = false → row.protocol ≠ "mmdvm-upstream" →
          dev.sourceKey ≠ "" → row.dmrID ≠ dev.dmrID)) := by
  have deduped : dedupeByDMRID row.protocol = true → row.protocol ≠ "mmdvm-upstream" := by
    intro deduped same
    rw [same] at deduped
    exact absurd deduped (by decide)
  have kept : dev.dmrID ≠ 0 → Service.keptDMRID store dev = dev.dmrID := fun identified => by
    simp [Service.keptDMRID, orElse, identified]
  simp only [Store.mem_duplicates, Store.isDuplicate, Service.dropsCached, member, true_and,
    Bool.and_eq_true, beq_iff_eq, bne_iff_ne]
  grind

section

variable (agree : Agreement lookup svc)

include agree

theorem agreement_upsertDevice {ownerOf : String → Int} {now : Time}
    (upserts : Service.Upserts lookup ownerOf now svc dev reply) :
    Agreement lookup reply.service ↔ MergesAlike svc.store dev := by
  rw [agreement_iff] at agree ⊢
  have beside : ∀ row ∈ svc.store.devices.rows, row.sourceKey ≠ dev.sourceKey →
      (Option.Rel (SameRecord lookup) (reply.service.devices.lookup row.sourceKey)
        (reply.service.store.devices.find row.sourceKey) ↔
          (row ∈ svc.store.duplicates dev ↔ Service.dropsCached svc.store dev row = true)) := by
    intro row member other
    have found := find_eq_some.mpr ⟨member, rfl⟩
    have same := agree row.sourceKey
    rw [found] at same
    cases there : svc.devices.lookup row.sourceKey with
    | none =>
      rw [there] at same
      cases same
    | some cached =>
      rw [there] at same
      cases same with
      | some same =>
        rw [upserts.find, upserts.cached, if_neg other, if_neg other, found, there]
        rw [rel_filter same, same.dropsCached, decide_eq_true_iff, Bool.not_eq_true', ← Bool.not_eq_true, not_iff_not]
        exact iff_comm
  constructor
  · intro agrees deduped row member other identified
    exact (mem_duplicates_iff_dropsCached member other).mp ((beside row member other).mp (agrees _)) deduped identified
  · intro alike key
    by_cases own : key = dev.sourceKey
    · rw [upserts.find, upserts.cached, if_pos own, if_pos own]
      exact .some (.refl _ _)
    · cases found : svc.store.devices.find key with
      | none =>
        have absent := agree key
        cases there : svc.devices.lookup key with
        | none => rw [upserts.find, upserts.cached, if_neg own, if_neg own, found, there]; exact .none
        | some cached =>
          rw [found, there] at absent
          cases absent
      | some row =>
        obtain ⟨member, rfl⟩ := find_eq_some.mp found
        exact (beside row member own).mpr ((mem_duplicates_iff_dropsCached member own).mpr
          fun deduped => alike deduped row member own)

theorem Agreement.updateDeviceMetadata {id : Nat} {patch : DevicePatch}
    (updated : svc.updateDeviceMetadata lookup id patch = some reply) :
    Agreement lookup reply.service := by
  obtain ⟨row, found, rfl⟩ := updateDeviceMetadata_eq_some.mp updated
  rw [agreement_iff] at agree ⊢
  intro key
  rw [find_patched found, Service.patched, lookup_insert_eq]
  split
  · exact .some (.enriched lookup _)
  · exact agree key

theorem Agreement.deleteDevice {id : Nat} (deleted : svc.deleteDevice lookup id = some reply) :
    Agreement lookup reply.service := by
  obtain ⟨store, dev, removed, rfl⟩ := deleteDevice_eq_some.mp deleted
  rw [agreement_iff] at agree ⊢
  intro key
  rw [Store.find_deleteDevice removed, lookup_erase_eq]
  split
  · exact .none
  · exact agree key

theorem Agreement.touchDevice (sourceKey : String) (createdAt : Time) :
    Agreement lookup (svc.touchDevice sourceKey createdAt) := by
  simp only [Service.touchDevice]
  cases there : svc.devices.lookup sourceKey with
  | none => exact agree
  | some cached =>
    rw [agreement_iff] at agree ⊢
    intro key
    have same := agree key
    rw [lookup_insert_eq]
    split
    · rename_i own
      subst own
      rw [there] at same
      cases found : svc.store.devices.find key with
      | none =>
        rw [found] at same
        cases same
      | some row =>
        rw [found] at same
        cases same with
        | some same => exact .some same
    · exact same

end

theorem agreement_newService (lookup : UInt32 → String) (store : Store) :
    Agreement lookup (Service.newService lookup store) := by
  rw [agreement_iff]
  intro key
  have loaded : store.loadDevices.Perm store.devices.rows := sortSlice_perm _
  cases found : store.devices.find key with
  | none =>
    have absent : ∀ dev ∈ store.loadDevices, dev.sourceKey ≠ key := fun dev member =>
      find_eq_none.mp found dev (loaded.mem_iff.mp member)
    rw [Service.newService, lookup_load_of_notMem _ absent, found]
    exact .none
  | some row =>
    obtain ⟨member, rfl⟩ := find_eq_some.mp found
    have distinct : (store.loadDevices.map Device.sourceKey).Nodup :=
      (loaded.map Device.sourceKey).nodup_iff.mpr store.devices.nodupKeys
    rw [Service.newService, lookup_load_of_mem _ distinct (loaded.mem_iff.mpr member), found]
    exact .some (.enriched lookup row)

def KeepsAgreement (svc : Service) : Service.Call → Prop
  | .upsertDevice _ _ dev => MergesAlike svc.store dev
  | _ => True

theorem agreement_perform (agree : Agreement lookup svc) (call : Service.Call) :
    Agreement lookup (svc.perform lookup call) ↔ KeepsAgreement svc call := by
  cases call with
  | upsertDevice now ownerOf dev =>
    obtain ⟨reply, done, upserts⟩ := upsertDevice_spec lookup ownerOf now svc dev
    rw [Service.perform, done]
    exact agreement_upsertDevice agree upserts
  | updateDeviceMetadata id patch =>
    refine iff_of_true ?_ trivial
    simp only [Service.perform]
    cases updated : svc.updateDeviceMetadata lookup id patch with
    | none => exact agree
    | some reply => exact agree.updateDeviceMetadata updated
  | deleteDevice id =>
    refine iff_of_true ?_ trivial
    simp only [Service.perform]
    cases deleted : svc.deleteDevice lookup id with
    | none => exact agree
    | some reply => exact agree.deleteDevice deleted
  | recordCall sourceKey createdAt => exact iff_of_true (agree.touchDevice sourceKey createdAt) trivial

/-- From a freshly loaded cache, the cache and the table agree after every call
exactly if every upsert merges the same devices in both. -/
theorem registry_agrees_iff (lookup : UInt32 → String) (store : Store) (calls : List Service.Call) :
    EachState (Service.perform lookup) (Agreement lookup) (Service.newService lookup store) calls ↔
      EachStep (Service.perform lookup) KeepsAgreement (Service.newService lookup store) calls :=
  eachState_iff_eachStep (Service.perform lookup) (Agreement lookup) calls
    (fun _ _ (beside : True) => beside) (fun _ call _ agree => agreement_perform agree call) trivial
    (agreement_newService lookup store)

private def hotspot : Device :=
  { category := .mmdvm, protocol := "mmdvm", sourceKey := "mmdvm:local:5", dmrID := 5 }

private def repeaterWithSameID : Device :=
  { category := .moto, protocol := "ipsc", sourceKey := "moto:5", dmrID := 5 }

/-- A Motorola repeater with the DMR ID of a hotspot takes the hotspot's row out
of the table, and the hotspot stays in the cache. -/
theorem registry_disagrees_after_merge :
    ¬ EachState (Service.perform fun _ => "") (Agreement fun _ => "") (Service.newService (fun _ => "") .empty)
      [.upsertDevice 1 (fun _ => 0) hotspot, .upsertDevice 2 (fun _ => 0) repeaterWithSameID] := by
  intro agrees
  exact absurd (agrees.2.2.keys "mmdvm:local:5") (by decide +kernel)

end

end Ipsc2Mmdvm.Registry
