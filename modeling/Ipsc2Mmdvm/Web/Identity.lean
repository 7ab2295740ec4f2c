import Ipsc2Mmdvm.Web.StaticGroups
import Ipsc2Mmdvm.Web.Upstream

namespace Ipsc2Mmdvm.Web

open Data Registry Store Service Option

/-! What a request of an ordinary user does to the identity of devices. -/

section

variable {before after : Store} {row written : Device} {k : String}

section

variable (found : before.deviceByID row.id = some row)

include found

end

end

section

variable {lookup : UInt32 → String} {req : Request} {sys : System} {row device managed : Device}
  {payload : DeviceUpdatePayload} {codec : ExtraCodec} {upstream : UpstreamPayload}

theorem buildManagedMMDVMConfig_ok {cfg : MMDVM} (built : buildManagedMMDVMConfig codec device payload upstream = .ok cfg) :
    cfg.callsign = trimText (payload.callsign.getD device.callsign) ∧ cfg.id = payload.dmrID.getD device.dmrID := by
  simp only [buildManagedMMDVMConfig, deviceToConfig] at built
  split at built
  · cases built
  · cases built
    cases payload.callsign <;> exact ⟨rfl, rfl⟩

theorem configToDevice_ok {cfg : MMDVM} {dev : Device} (converted : configToDevice codec cfg = .ok dev) :
    dev.protocol = "mmdvm-upstream" ∧ dev.callsign = trimText cfg.callsign ∧ dev.dmrID = cfg.id := by
  simp only [configToDevice] at converted
  generalize marshalManagedExtra codec _ = encoded at converted
  cases encoded with
  | error text => cases converted
  | ok extraJSON =>
    cases converted
    exact ⟨rfl, rfl, rfl⟩

theorem managedUpdate_eq_ok (accepted : managedUpdate codec device payload upstream = .ok managed) :
    ∃ cfg, buildManagedMMDVMConfig codec device payload upstream = .ok cfg ∧ validateMMDVMClients [cfg] = none ∧
      configToDevice codec cfg = .ok managed := by
  simp only [managedUpdate] at accepted
  split at accepted
  · cases accepted
  rename_i cfg built
  split at accepted
  · cases accepted
  rename_i valid
  split at accepted
  · cases accepted
  rename_i dev converted
  cases accepted
  exact ⟨cfg, built, valid, converted⟩

theorem managedUpdate_ok (accepted : managedUpdate codec device payload upstream = .ok managed) :
    managed.protocol = "mmdvm-upstream" ∧ managed.callsign = trimText (payload.callsign.getD device.callsign) ∧
      managed.callsign ≠ "" ∧ managed.dmrID = payload.dmrID.getD device.dmrID := by
  obtain ⟨cfg, built, valid, converted⟩ := managedUpdate_eq_ok accepted
  obtain ⟨trimmed, id⟩ := buildManagedMMDVMConfig_ok built
  obtain ⟨protocol, kept, dmrID⟩ := configToDevice_ok converted
  have callsign : managed.callsign = trimText (payload.callsign.getD device.callsign) := by
    rw [kept, trimmed, trimText_trimText]
  refine ⟨protocol, callsign, ?_, dmrID.trans id⟩
  rw [callsign, ← trimmed]
  exact (required_of_accepted valid (List.mem_singleton.mpr rfl)).2.1

theorem find_upsert {dev stored : Device} {sys' : System} (alone : dedupeByDMRID dev.protocol = false)
    (named : dev.callsign ≠ "") (done : sys.upsert lookup req dev = some (sys', stored)) (k : String) :
    sys'.service.store.devices.find k = if k = dev.sourceKey then
        some (Service.owned req.ownerOf (writtenRow (sys.service.store.devices.find dev.sourceKey)
          sys.service.store.devices.next (stamped req.now dev)))
      else sys.service.store.devices.find k := by
  obtain ⟨reply, upserts, rfl, _⟩ := upsert_eq_some done
  have known : enrichDevice lookup dev = dev := if_neg fun blank => named blank.1
  have unmerged : sys.service.store.merged req.now dev = stamped req.now dev := by
    simp only [merged, duplicates_of_not_deduped alone]
    rfl
  change reply.service.store.devices.find k = _
  rw [upserts.find k, known, duplicates_of_not_deduped alone]
  split
  · rw [Service.stored, upserted, unmerged]
  · cases sys.service.store.devices.find k <;> simp [Option.filter]

def upstreamUpdate (req : Request) (device : Device) (payload : DeviceUpdatePayload) (managed : Device) : Device :=
  { System.upstreamDevice managed with
    id := device.id
    ownerUserID :=
      if req.user.role = .admin then payload.ownerUserID.getD device.ownerUserID else device.ownerUserID
    status := device.status
    online := device.online
    firstSeenAt := device.firstSeenAt
    lastSeenAt := device.lastSeenAt
    lastCallAt := device.lastCallAt
    disabled := payload.disabled.getD device.disabled }

theorem upstreamUpdate_protocol (managed : Device) :
    (upstreamUpdate req device payload managed).protocol = "mmdvm-upstream" := rfl

theorem upstreamUpdate_callsign (managed : Device) :
    (upstreamUpdate req device payload managed).callsign = managed.callsign := rfl

theorem upstreamUpdate_sourceKey (managed : Device) :
    (upstreamUpdate req device payload managed).sourceKey = managed.sourceKey := rfl

theorem updateUpstream_done (accepted : req.managed = .ok managed) :
    ∃ sys' stored, sys.upsert lookup req (upstreamUpdate req device payload managed) = some (sys', stored) ∧
      sys.updateUpstream lookup req device payload = (sys', .device 200 stored) := by
  obtain ⟨sys', stored, done⟩ := upsert_done sys lookup req (upstreamUpdate req device payload managed)
  refine ⟨sys', stored, done, ?_⟩
  simp only [System.updateUpstream, accepted]
  split
  · rename_i refused
    cases done.symm.trans refused
  · rename_i performed
    cases done.symm.trans performed
    rfl

theorem updateUpstream_find (accepted : req.managed = .ok managed) (named : managed.callsign ≠ "") (k : String) :
    (sys.updateUpstream lookup req device payload).1.service.store.devices.find k = if k = managed.sourceKey then
        some (Service.owned req.ownerOf (writtenRow (sys.service.store.devices.find managed.sourceKey)
          sys.service.store.devices.next (stamped req.now (upstreamUpdate req device payload managed))))
      else sys.service.store.devices.find k := by
  obtain ⟨sys', stored, done, result⟩ := updateUpstream_done accepted
  have alone : dedupeByDMRID (upstreamUpdate req device payload managed).protocol = false := by
    rw [upstreamUpdate_protocol]
    decide
  have rows := find_upsert alone (by rw [upstreamUpdate_callsign]; exact named) done k
  rw [upstreamUpdate_sourceKey] at rows
  rw [result, rows]

end

section

variable {codec : ExtraCodec} {lookup : UInt32 → String} {req : Request} {sys : System} {row : Device}
  {payload : DeviceUpdatePayload} {managed : Except (Nat × String) Device}

section

variable (found : sys.service.store.deviceByID row.id = some row)

include found

theorem handleDevicePatch_of_find (body : Option (DeviceUpdatePayload × UpstreamPayload)) :
    sys.handleDevicePatch codec lookup req row.id body = sys.handleDeviceUpdate lookup
        { req with managed := body.elim req.managed fun sent =>
            managedUpdate codec (enrichDevice lookup row) sent.1 sent.2 }
        row.id (body.map Prod.fst) := by
  -- the equation of this definition takes Lean seconds to derive
  delta System.handleDevicePatch
  rw [found]
  cases body with
  | none => simp only [elim_none]
  | some sent => simp only [elim_some]

theorem handleDeviceUpdate_allowed (manages : canManageDevice req.user (enrichDevice lookup row) = true) :
    sys.handleDeviceUpdate lookup { req with managed } row.id (some payload) =
      if row.protocol = "mmdvm-upstream" then
        sys.updateUpstream lookup { req with managed } (enrichDevice lookup row) payload
      else sys.updateMetadata lookup { req with managed } (enrichDevice lookup row) payload := by
  simp only [System.handleDeviceUpdate, System.managedDevice, found, manages, if_true, enrichDevice_protocol]

end

end

def upstreamRow : Device :=
  { id := 1
    category := .mmdvm
    protocol := "mmdvm-upstream"
    sourceKey := "mmdvm-upstream:ab"
    ownerUserID := 2
    name := "Net"
    callsign := "BG1ABC"
    dmrID := 4600001
    ip := "10.0.0.1"
    port := 62031
    devicePassword := "secret"
    slots := 3 }

theorem nodup_oneRow {α : Type} (row : Device) (field : Device → α) : ([row].map field).Nodup := List.nodup_singleton _

theorem bounded_oneRow {row : Device} (id : row.id = 1) : ∀ other ∈ [row], other.id < 2 := by
  simp [id]

def upstreamSystem : System where
  service :=
    { store :=
        { devices :=
            { rows := [upstreamRow]
              next := 2
              nodupKeys := nodup_oneRow _ _
              nodupNumbers := nodup_oneRow _ _
              bounded := bounded_oneRow rfl }
          staticGroups := .empty }
      devices := ∅ }
  router := .new (3600 * second)

def ownerRequest : Request where
  user := { id := 2, callsign := "BG1ABC", role := .ham }
  now := 1000
  ownerOf := fun _ => 2
  token := .ok ""
  managed := .error (400, "")
  orders := fun _ => .increasing

end Ipsc2Mmdvm.Web
