import Ipsc2Mmdvm.Bridge.PeerUpdates
import Ipsc2Mmdvm.Data.Transitions

namespace Ipsc2Mmdvm.Bridge

open Data Registry Service

/-! A device is followed by its source key, and to the key it is merged into when an update absorbs
it.  An update writes its own notes and disabled flag over the stored ones. -/

structure Settings where
  disabled : Bool
  notes : Option String

def settingsOf (patch : DevicePatch) : Settings :=
  ⟨patch.disabled == some true, patch.notes⟩

def Settings.HeldBy (settings : Settings) (dev : Device) : Prop :=
  (settings.disabled = true → dev.disabled = true) ∧ ∀ notes ∈ settings.notes, dev.notes = notes

structure Followed where
  service : Service
  key : String

structure Update where
  now : Time
  ownerOf : String → Int
  reported : PeerUpdate

def absorbs (store : Store) (dev : Device) (key : String) : Bool :=
  (store.devices.find key).any fun row => decide (row ∈ store.duplicates dev)

def Followed.upsert (lookup : UInt32 → String) (followed : Followed) (now : Time)
    (ownerOf : String → Int) (dev : Device) : Followed :=
  { service := followed.service.perform lookup (.upsertDevice now ownerOf dev)
    key := if absorbs followed.service.store dev followed.key then dev.sourceKey else followed.key }

def Followed.handle (lookup : UInt32 → String) (followed : Followed) (update : Update) : Followed :=
  match update.reported.device followed.service update.now with
  | none => followed
  | some dev => followed.upsert lookup update.now update.ownerOf dev

/-- The stored row and the cached record of the device have the settings, and
nothing is forwarded to a blocked device. -/
def Survives (settings : Settings) (followed : Followed) : Prop :=
  (∃ row cached, followed.service.store.devices.find followed.key = some row ∧
    followed.service.findDevice followed.key = some cached ∧
    settings.HeldBy row ∧ settings.HeldBy cached) ∧
  (settings.disabled = true → forwardAllowed followed.service followed.key = false)

def Writes (followed : Followed) (dev : Device) : Prop :=
  followed.key = dev.sourceKey ∨ absorbs followed.service.store dev followed.key = true

/-- An update that writes the device brings the settings along, itself or with a
row it merges; any other leaves the device in the cache. -/
def Carries (settings : Settings) (followed : Followed) (dev : Device) : Prop :=
  (Writes followed dev →
    (settings.disabled = true →
      dev.disabled = true ∨ ∃ dup ∈ followed.service.store.duplicates dev, dup.disabled = true) ∧
    ∀ notes ∈ settings.notes,
      firstNonEmpty (dev.notes :: (followed.service.store.duplicates dev).map Device.notes) = notes) ∧
  (¬ Writes followed dev → ∀ cached ∈ followed.service.findDevice followed.key,
    Service.dropsCached followed.service.store dev cached = false)

def CarriesSettings (settings : Settings) (followed : Followed) (update : Update) : Prop :=
  ∀ dev ∈ update.reported.device followed.service update.now, Carries settings followed dev

section

variable {lookup : UInt32 → String} {settings : Settings} {followed : Followed} {dev row : Device}
  {ownerOf : String → Int} {now : Time}

theorem survives_iff : Survives settings followed ↔
    ∃ row cached, followed.service.store.devices.find followed.key = some row ∧
      followed.service.findDevice followed.key = some cached ∧
      settings.HeldBy row ∧ settings.HeldBy cached := by
  refine and_iff_left_of_imp fun held blocked => ?_
  obtain ⟨row, cached, _, there, _, held⟩ := held
  simp [forwardAllowed, there, held.1 blocked]

theorem heldBy_stored {store : Store} : settings.HeldBy (stored ownerOf now store (enrichDevice lookup dev)) ↔
      (settings.disabled = true → dev.disabled = true ∨ ∃ dup ∈ store.duplicates dev, dup.disabled = true) ∧
        ∀ notes ∈ settings.notes, firstNonEmpty (dev.notes :: (store.duplicates dev).map Device.notes) = notes := by
  simp only [Settings.HeldBy, stored_disabled, stored_notes,
    enrichDevice_disabled, enrichDevice_notes, duplicates_enrichDevice,
    Bool.or_eq_true, List.any_eq_true]

theorem upsert_key_of_writes (writes : Writes followed dev) :
    (followed.upsert lookup now ownerOf dev).key = dev.sourceKey := by
  simp only [Followed.upsert]
  split
  · rfl
  · exact writes.resolve_right ‹_›

theorem survives_upsert_of_writes (writes : Writes followed dev) :
    Survives settings (followed.upsert lookup now ownerOf dev) ↔
      settings.HeldBy (stored ownerOf now followed.service.store (enrichDevice lookup dev)) := by
  obtain ⟨reply, done, upserts⟩ := upsertDevice_spec lookup ownerOf now followed.service dev
  have service : (followed.upsert lookup now ownerOf dev).service = reply.service := by
    simp [Followed.upsert, perform, done]
  rw [survives_iff, findDevice, service, upserts.find, upserts.cached,
    upsert_key_of_writes writes, if_pos rfl, if_pos rfl]
  constructor
  · intro held
    obtain ⟨row, cached, found, _, held, _⟩ := held
    cases found
    exact held
  · intro held
    exact ⟨_, _, rfl, rfl, held, held⟩

section

variable (survives : Survives settings followed)

include survives

theorem survives_upsert_of_not_writes (beside : ¬ Writes followed dev) :
    Survives settings (followed.upsert lookup now ownerOf dev) ↔ ∀ cached ∈ followed.service.findDevice followed.key,
        dropsCached followed.service.store dev cached = false := by
  obtain ⟨reply, done, upserts⟩ := upsertDevice_spec lookup ownerOf now followed.service dev
  have service : (followed.upsert lookup now ownerOf dev).service = reply.service := by
    simp [Followed.upsert, perform, done]
  obtain ⟨other, spared⟩ := not_or.mp beside
  have key : (followed.upsert lookup now ownerOf dev).key = followed.key := if_neg spared
  obtain ⟨row, cached, found, there, held, held'⟩ := survives_iff.mp survives
  have kept : row ∉ followed.service.store.duplicates dev := by
    simpa [absorbs, found] using spared
  rw [survives_iff, findDevice, service, upserts.find, upserts.cached, key, if_neg other,
    if_neg other, found, show followed.service.devices.lookup followed.key = some cached from there, there]
  simp only [Option.filter_eq_some_iff, Option.mem_some_iff, forall_eq', Bool.not_eq_true']
  constructor
  · intro stays
    obtain ⟨_, _, _, ⟨same, stays⟩, _⟩ := stays
    cases same
    exact stays
  · intro stays
    exact ⟨row, cached, ⟨rfl, decide_eq_true kept⟩, ⟨rfl, stays⟩, held, held'⟩

theorem survives_upsert_iff :
    Survives settings (followed.upsert lookup now ownerOf dev) ↔ Carries settings followed dev := by
  by_cases writes : Writes followed dev
  · rw [survives_upsert_of_writes writes, heldBy_stored]
    simp only [Carries, writes, not_true_eq_false, false_implies, and_true, true_implies]
  · rw [survives_upsert_of_not_writes survives writes]
    simp only [Carries, writes, not_false_eq_true, false_implies, true_and, true_implies]

theorem survives_handle_iff (update : Update) :
    Survives settings (followed.handle lookup update) ↔ CarriesSettings settings followed update := by
  simp only [Followed.handle, CarriesSettings]
  cases update.reported.device followed.service update.now with
  | none => simpa using survives
  | some dev => simpa using survives_upsert_iff survives

end

theorem survives_updateDeviceMetadata {svc : Service} {id : Nat} {patch : DevicePatch} {reply : Reply}
    (updated : svc.updateDeviceMetadata lookup id patch = some reply) :
    Survives (settingsOf patch) ⟨reply.service, reply.device.sourceKey⟩ := by
  obtain ⟨current, found, rfl⟩ := updateDeviceMetadata_eq_some.mp updated
  have held : (settingsOf patch).HeldBy (patch.apply current) := by
    constructor
    · intro blocked
      have value : patch.disabled = some true := by simpa [settingsOf] using blocked
      simp [DevicePatch.apply, value]
    · intro notes set
      have value : patch.notes = some notes := set
      simp [DevicePatch.apply, value]
  rw [survives_iff]
  have key : (patched lookup svc patch current).device.sourceKey = current.sourceKey := by
    simp [patched]
  refine ⟨patch.apply current, enrichDevice lookup (patch.apply current), ?_, ?_, held, ?_⟩
  · rw [find_patched found, if_pos key]
  · simp only [key]
    exact Finmap.lookup_insert _
  · simpa [Settings.HeldBy] using held

end

/-- After an administrator's change, the settings survive every update of a
sequence exactly if each update of the sequence carries them. -/
theorem settings_survive_iff (lookup : UInt32 → String) (svc : Service) (id : Nat) (patch : DevicePatch)
    (reply : Reply) (updated : svc.updateDeviceMetadata lookup id patch = some reply)
    (updates : List Update) :
    EachState (Followed.handle lookup) (Survives (settingsOf patch))
        ⟨reply.service, reply.device.sourceKey⟩ updates ↔
      EachStep (Followed.handle lookup) (CarriesSettings (settingsOf patch))
        ⟨reply.service, reply.device.sourceKey⟩ updates :=
  eachState_iff_eachStep _ _ updates (fun _ _ (beside : True) => beside)
    (fun _ update _ survives => survives_handle_iff survives update) trivial
    (survives_updateDeviceMetadata updated)

private def registered : Service :=
  (Service.newService (fun _ => "") .empty).perform (fun _ => "")
    (.upsertDevice 1 (fun _ => 0) (ipscDevice { id := 5, flags := .replicate 4 0 }))

private def block : DevicePatch := { disabled := some true, notes := some "interference" }

private theorem blocked : (registered.updateDeviceMetadata (fun _ => "") 1 block).isSome = true := by
  decide +kernel

private def keepAlive (id : UInt32) : Update := ⟨2, fun _ => 0, .ipsc { id, flags := .replicate 4 0, keepAliveReceived := 1 }⟩

theorem settings_survive_iff_moto_five : ∃ reply,
    registered.updateDeviceMetadata (fun _ => "") 1 block = some reply ∧
      (EachState (Followed.handle fun _ => "") (Survives (settingsOf block))
          ⟨reply.service, reply.device.sourceKey⟩ [keepAlive 6] ↔
        EachStep (Followed.handle fun _ => "") (CarriesSettings (settingsOf block))
          ⟨reply.service, reply.device.sourceKey⟩ [keepAlive 6]) := by
  obtain ⟨reply, updated⟩ := Option.isSome_iff_exists.mp blocked
  exact ⟨reply, updated, settings_survive_iff _ registered 1 block reply updated [keepAlive 6]⟩

/-- The first keepalive of a blocked repeater takes the block away. -/
theorem keepAlive_takes_block_away : ∃ reply,
    registered.updateDeviceMetadata (fun _ => "") 1 block = some reply ∧
      ¬ EachState (Followed.handle fun _ => "") (Survives (settingsOf block))
          ⟨reply.service, reply.device.sourceKey⟩ [keepAlive 5] := by
  obtain ⟨reply, updated⟩ := Option.isSome_iff_exists.mp blocked
  refine ⟨reply, updated, fun survives => ?_⟩
  have stopped := survives.2.2 rfl
  have allowed : ∀ reply ∈ registered.updateDeviceMetadata (fun _ => "") 1 block,
      let after := (Followed.mk reply.service reply.device.sourceKey).handle (fun _ => "") (keepAlive 5)
      forwardAllowed after.service after.key = true := by
    decide +kernel
  exact absurd ((allowed reply updated).symm.trans stopped) (by decide)

end Ipsc2Mmdvm.Bridge
