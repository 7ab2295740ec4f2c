import Ipsc2Mmdvm.Web.Identity

namespace Ipsc2Mmdvm.Web

open Data Registry Store Service List Option

/-! The configuration becomes a device, the device is upserted and read back.  The upsert keeps a
column whose new value is zero or empty, and it always replaces the notes. -/

/-- `encoding/json` at this type: an object text, from which the value comes back.  Fields
without a value are omitted. -/
structure ExtraCodec.RoundTrips (codec : ExtraCodec) : Prop where
  unmarshal : ∀ {extra data}, codec.marshal extra = .ok data → codec.unmarshal data = .ok extra
  object : ∀ {extra data}, codec.marshal extra = .ok data → ∃ members, data = String.ofList ('\x7b' :: (members ++ ['\x7d']))
  empty : codec.marshal {} = .ok "\x7b\x7d"

def MMDVM.normalized (cfg : MMDVM) : MMDVM :=
  { cfg with
    sourceKey := trimText cfg.sourceKey
    name := trimText cfg.name
    callsign := trimText cfg.callsign
    location := trimText cfg.location
    description := trimText cfg.description
    url := trimText cfg.url
    slots := orElse 0 cfg.slots 3
    masterServer := trimText cfg.masterServer }

section

variable {codec : ExtraCodec} {extra : ManagedExtra} {raw : String}

theorem marshalManagedExtra_ok (json : codec.RoundTrips) (marshalled : marshalManagedExtra codec extra = .ok raw)
    (named : extra.masterServer ≠ "") : raw ≠ "" ∧ parseManagedExtra codec raw = .ok extra := by
  simp only [marshalManagedExtra] at marshalled
  cases result : codec.marshal extra with
  | error text =>
    rw [result] at marshalled
    cases marshalled
  | ok data =>
    have full : data ≠ "\x7b\x7d" := by
      intro empty
      have back := json.unmarshal result
      rw [empty, json.unmarshal json.empty] at back
      cases back
      exact named rfl
    rw [result] at marshalled
    simp only [Except.map, if_neg full] at marshalled
    cases marshalled
    obtain ⟨members, rfl⟩ := json.object result
    have trimmed := @trimText_enclosed '\x7b' '\x7d' rfl rfl members
    have nonempty : String.ofList ('\x7b' :: (members ++ ['\x7d'])) ≠ "" := by simp
    refine ⟨nonempty, ?_⟩
    rw [parseManagedExtra, trimmed, if_neg nonempty]
    exact json.unmarshal result

end

structure Requested (device : Device) (payload : DeviceUpdatePayload) (upstream : UpstreamPayload) (cfg : MMDVM) : Prop where
  sourceKey : cfg.sourceKey = device.sourceKey
  name : cfg.name = trimText (payload.name.getD device.name)
  callsign : cfg.callsign = trimText (payload.callsign.getD device.callsign)
  id : cfg.id = payload.dmrID.getD device.dmrID
  rxFreq : cfg.rxFreq = upstream.rxFreq.getD device.rxFreq
  txFreq : cfg.txFreq = upstream.txFreq.getD device.txFreq
  txPower : cfg.txPower = upstream.txPower.getD device.txPower
  colorCode : cfg.colorCode = upstream.colorCode.getD device.colorCode
  latitude : cfg.latitude = upstream.latitude.getD device.latitude
  longitude : cfg.longitude = upstream.longitude.getD device.longitude
  height : cfg.height = upstream.height.getD device.height
  location : cfg.location = trimText (payload.location.getD device.location)
  description : cfg.description = trimText (payload.description.getD device.description)
  url : cfg.url = trimText (upstream.url.getD device.url)
  masterServer : trimText cfg.masterServer = "" → cfg.masterServer = ""

section

variable {codec : ExtraCodec} {device : Device} {payload : DeviceUpdatePayload} {upstream : UpstreamPayload} {cfg : MMDVM}

theorem masterServerFromDevice_of_blank {dev : Device} (blank : trimText (masterServerFromDevice dev) = "") :
    masterServerFromDevice dev = "" := by
  simp only [masterServerFromDevice] at blank ⊢
  split at blank
  case isTrue empty => rw [if_pos empty]
  case isFalse known =>
    rw [if_neg known]
    split at blank
    case isTrue positive =>
      have colon : isSpace ':' = true := by
        apply trimText_eq_empty_iff.mp blank
        simp only [joinHostPort]
        split <;> simp
      cases colon
    case isFalse unset =>
      rw [trimText_trimText] at blank
      exact absurd blank known

theorem requested_of_built (built : buildManagedMMDVMConfig codec device payload upstream = .ok cfg) :
    Requested device payload upstream cfg := by
  simp only [buildManagedMMDVMConfig, deviceToConfig] at built
  split at built
  · cases built
  rename_i extra parsed
  cases built
  refine ⟨rfl, ?_, ?_, rfl, rfl, rfl, rfl, rfl, rfl, rfl, rfl, ?_, ?_, ?_, ?_⟩
  · exact getD_map ..
  · exact getD_map ..
  · exact getD_map ..
  · exact getD_map ..
  · exact getD_map ..
  · intro blank
    cases given : upstream.masterServer with
    | some masterServer =>
      simp only [given, map_some, getD_some, trimText_trimText] at blank ⊢
      exact blank
    | none =>
      simp only [given, map_none, getD_none, orElse] at blank ⊢
      split at blank
      case isTrue unset =>
        rw [if_pos unset]
        exact masterServerFromDevice_of_blank blank
      case isFalse set =>
        rw [trimText_trimText] at blank
        exact absurd blank set

end

section

variable {codec : ExtraCodec} {device managed new : Device} {payload : DeviceUpdatePayload}
  {upstream : UpstreamPayload} {cfg : MMDVM} {α : Type}

theorem orElse_eq_left [DecidableEq α] {zero value fallback : α} :
    orElse zero value fallback = value ↔ (value = zero → fallback = zero) := by
  simp only [orElse]
  split <;> simp_all

theorem orElse_self [DecidableEq α] (zero value : α) : orElse zero value zero = value := orElse_eq_left.mpr fun _ => rfl

theorem orElse_of_ne [DecidableEq α] {zero value : α} (nonzero : value ≠ zero) (fallback : α) :
    orElse zero value fallback = value :=
  if_neg nonzero

theorem trimText_orElse_iff {new old : String} :
    trimText (orElse "" (trimText new) old) = trimText new ↔ (trimText new = "" → trimText old = "") := by
  simp only [orElse]
  split
  case isTrue blank => simp [blank]
  case isFalse given => simp [given, trimText_trimText]

theorem trimText_sourceKeyOf_iff : trimText (sourceKeyOf cfg) = trimText cfg.sourceKey ↔ trimText cfg.sourceKey ≠ "" := by
  simp only [sourceKeyOf]
  split
  case isTrue given => simp [given, trimText_trimText]
  case isFalse blank =>
    rw [not_not] at blank
    rw [blank, trimText_eq_empty_iff]
    refine iff_of_false (fun each => ?_) (not_not_intro rfl)
    have space := each 'm' (by simp)
    cases space

structure ColumnsOf (codec : ExtraCodec) (cfg : MMDVM) (new : Device) : Prop where
  sourceKey : new.sourceKey = sourceKeyOf cfg
  name : new.name = trimText cfg.name
  callsign : new.callsign = trimText cfg.callsign
  dmrID : new.dmrID = cfg.id
  rxFreq : new.rxFreq = cfg.rxFreq
  txFreq : new.txFreq = cfg.txFreq
  txPower : new.txPower = cfg.txPower
  colorCode : new.colorCode = cfg.colorCode
  latitude : new.latitude = cfg.latitude
  longitude : new.longitude = cfg.longitude
  height : new.height = cfg.height
  location : new.location = trimText cfg.location
  description : new.description = trimText cfg.description
  url : new.url = trimText cfg.url
  slots : new.slots = orElse 0 cfg.slots 3
  notes : new.notes = ""
  password : new.devicePassword = cfg.password
  extra : marshalManagedExtra codec
    { masterServer := trimText cfg.masterServer, tgRewrites := cfg.tgRewrites, pcRewrites := cfg.pcRewrites
      typeRewrites := cfg.typeRewrites, srcRewrites := cfg.srcRewrites, passAllPC := cfg.passAllPC
      passAllTG := cfg.passAllTG } = .ok new.extraJSON

theorem columnsOf_configToDevice (converted : configToDevice codec cfg = .ok managed) : ColumnsOf codec cfg managed := by
  simp only [configToDevice] at converted
  cases marshalled : marshalManagedExtra codec
      { masterServer := trimText cfg.masterServer, tgRewrites := cfg.tgRewrites, pcRewrites := cfg.pcRewrites
        typeRewrites := cfg.typeRewrites, srcRewrites := cfg.srcRewrites, passAllPC := cfg.passAllPC
        passAllTG := cfg.passAllTG } with
  | error text =>
    rw [marshalled] at converted
    cases converted
  | ok extraJSON =>
    rw [marshalled] at converted
    cases converted
    constructor <;> simp only [marshalled]

theorem ColumnsOf.upstreamUpdate (columns : ColumnsOf codec cfg managed) (req : Request) (device : Device)
    (payload : DeviceUpdatePayload) : ColumnsOf codec cfg (stamped req.now (upstreamUpdate req device payload managed)) :=
  ⟨columns.sourceKey, columns.name, columns.callsign, columns.dmrID, columns.rxFreq, columns.txFreq, columns.txPower,
    columns.colorCode, columns.latitude, columns.longitude, columns.height, columns.location, columns.description, columns.url,
    columns.slots, columns.notes, columns.password, columns.extra⟩

theorem deviceToConfig_onConflict (json : codec.RoundTrips) (columns : ColumnsOf codec cfg new)
    (named : trimText cfg.masterServer ≠ "") (old : Device) :
    deviceToConfig codec (onConflict old new) = .ok
        { sourceKey := old.sourceKey
          name := trimText (orElse "" (trimText cfg.name) old.name)
          callsign := trimText (orElse "" (trimText cfg.callsign) old.callsign)
          id := orElse 0 cfg.id old.dmrID
          rxFreq := orElse 0 cfg.rxFreq old.rxFreq
          txFreq := orElse 0 cfg.txFreq old.txFreq
          txPower := orElse 0 cfg.txPower old.txPower
          colorCode := orElse 0 cfg.colorCode old.colorCode
          latitude := orElse 0 cfg.latitude old.latitude
          longitude := orElse 0 cfg.longitude old.longitude
          height := orElse 0 cfg.height old.height
          location := trimText (orElse "" (trimText cfg.location) old.location)
          description := trimText (orElse "" (trimText cfg.description) old.description)
          url := trimText (orElse "" (trimText cfg.url) old.url)
          slots := orElse 0 (orElse 0 (orElse 0 cfg.slots 3) old.slots) 3
          masterServer := trimText cfg.masterServer
          password := orElse "" cfg.password old.devicePassword
          tgRewrites := cfg.tgRewrites
          pcRewrites := cfg.pcRewrites
          typeRewrites := cfg.typeRewrites
          srcRewrites := cfg.srcRewrites
          passAllPC := cfg.passAllPC
          passAllTG := cfg.passAllTG } := by
  obtain ⟨nonempty, parsed⟩ := marshalManagedExtra_ok json columns.extra named
  simp only [deviceToConfig, onConflict, orElse_of_ne nonempty, parsed, columns.name, columns.callsign, columns.dmrID,
    columns.rxFreq, columns.txFreq, columns.txPower, columns.colorCode, columns.latitude, columns.longitude, columns.height,
    columns.location, columns.description, columns.url, columns.slots, columns.password, trimText_trimText, orElse_of_ne named]

/-- A value is requested to be zero or empty only where the column is so already. -/
@[mk_iff]
structure ClearsNothing (payload : DeviceUpdatePayload) (upstream : UpstreamPayload) (row old : Device) : Prop where
  dmrID : payload.dmrID.getD row.dmrID = 0 → old.dmrID = 0
  rxFreq : upstream.rxFreq.getD row.rxFreq = 0 → old.rxFreq = 0
  txFreq : upstream.txFreq.getD row.txFreq = 0 → old.txFreq = 0
  txPower : upstream.txPower.getD row.txPower = 0 → old.txPower = 0
  colorCode : upstream.colorCode.getD row.colorCode = 0 → old.colorCode = 0
  latitude : upstream.latitude.getD row.latitude = 0 → old.latitude = 0
  longitude : upstream.longitude.getD row.longitude = 0 → old.longitude = 0
  height : upstream.height.getD row.height = 0 → old.height = 0
  location : trimText (payload.location.getD row.location) = "" → trimText old.location = ""
  description : trimText (payload.description.getD row.description) = "" → trimText old.description = ""
  url : trimText (upstream.url.getD row.url) = "" → trimText old.url = ""

theorem saved_over_iff (json : codec.RoundTrips) (requested : Requested device payload upstream cfg)
    (valid : validateMMDVMClients [cfg] = none) (columns : ColumnsOf codec cfg new) {old : Device}
    (key : old.sourceKey = sourceKeyOf cfg) :
    (deviceToConfig codec (onConflict old new)).map MMDVM.normalized = .ok cfg.normalized ↔
      trimText device.sourceKey ≠ "" ∧ ClearsNothing payload upstream device old := by
  obtain ⟨name, callsign, -, masterServer, password⟩ := required_of_accepted valid (mem_singleton.mpr rfl)
  have named : trimText cfg.name ≠ "" := by rwa [requested.name, trimText_trimText, ← requested.name]
  have called : trimText cfg.callsign ≠ "" := by rwa [requested.callsign, trimText_trimText, ← requested.callsign]
  have slots : orElse 0 cfg.slots 3 ≠ 0 := by
    simp only [orElse]
    split
    case isTrue => decide
    case isFalse set => exact set
  have keyed := @trimText_sourceKeyOf_iff cfg
  rw [requested.sourceKey] at keyed
  rw [deviceToConfig_onConflict json columns (mt requested.masterServer masterServer) old]
  simp only [Except.map, Except.ok.injEq, MMDVM.normalized, MMDVM.mk.injEq, key, keyed, orElse_of_ne named,
    orElse_of_ne called, orElse_of_ne password, orElse_of_ne slots, trimText_trimText, trimText_orElse_iff, orElse_eq_left,
    and_true, true_and, clearsNothing_iff, requested.sourceKey, requested.id, requested.rxFreq, requested.txFreq,
    requested.txPower, requested.colorCode, requested.latitude, requested.longitude, requested.height, requested.location,
    requested.description, requested.url]

def blankRow (sourceKey : String) : Device := { category := .mmdvm, protocol := "mmdvm-upstream", sourceKey }

theorem deviceToConfig_inserted (next : Nat) (new : Device) :
    deviceToConfig codec (writtenRow none next new) = deviceToConfig codec (onConflict (blankRow new.sourceKey) new) := by
  simp only [deviceToConfig, writtenRow, onConflict, blankRow, orElse_self, masterServerFromDevice]
  rfl

theorem deviceToConfig_owned (ownerOf : String → Int) (dev : Device) :
    deviceToConfig codec (owned ownerOf dev) = deviceToConfig codec dev := by
  simp only [owned]
  split <;> simp only [deviceToConfig, masterServerFromDevice]

theorem saved_row_iff (json : codec.RoundTrips) (requested : Requested device payload upstream cfg)
    (valid : validateMMDVMClients [cfg] = none) (columns : ColumnsOf codec cfg new) {found : Option Device}
    (keys : ∀ old, found = some old → old.sourceKey = sourceKeyOf cfg) (ownerOf : String → Int) (next : Nat) :
    (deviceToConfig codec (owned ownerOf (writtenRow found next new))).map MMDVM.normalized = .ok cfg.normalized ↔
      trimText device.sourceKey ≠ "" ∧ ∀ old, found = some old → ClearsNothing payload upstream device old := by
  rw [deviceToConfig_owned]
  cases found with
  | some old =>
    rw [writtenRow, saved_over_iff json requested valid columns (keys old rfl)]
    simp
  | none =>
    have key : (blankRow new.sourceKey).sourceKey = sourceKeyOf cfg := columns.sourceKey
    have nothing : ClearsNothing payload upstream device (blankRow new.sourceKey) := by
      constructor <;> intro _ <;> rfl
    rw [deviceToConfig_inserted, saved_over_iff json requested valid columns key]
    simp [nothing]

theorem notes_saved (columns : ColumnsOf codec cfg new) (found : Option Device) (ownerOf : String → Int) (next : Nat) :
    (owned ownerOf (writtenRow found next new)).notes = "" := by
  simp only [owned]
  split <;> cases found <;> exact columns.notes

end

section

variable {codec : ExtraCodec} {lookup : UInt32 → String} {req : Request} {sys : System} {row device : Device}
  {payload : DeviceUpdatePayload} {upstream : UpstreamPayload}

theorem updateUpstream_shown {managed shown : Device} (given : req.managed = .ok managed)
    (accepted : (sys.updateUpstream lookup req device payload).2 = .device 200 shown) : shown.sourceKey = managed.sourceKey := by
  obtain ⟨sys', stored, done, result⟩ := updateUpstream_done given
  obtain ⟨reply, upserts, -, rfl⟩ := upsert_eq_some done
  rw [result] at accepted
  cases accepted
  rw [upserts.device, enrichDevice_sourceKey, stored_sourceKey, enrichDevice_sourceKey, upstreamUpdate_sourceKey]

theorem accepted_writes {shown : Device} (admin : req.user.role = .admin) (found : sys.service.store.deviceByID row.id = some row)
    (isUpstream : row.protocol = "mmdvm-upstream")
    (accepted : (sys.handleDevicePatch codec lookup req row.id (some (payload, upstream))).2 = .device 200 shown) :
    ∃ managed, managedUpdate codec (enrichDevice lookup row) payload upstream = .ok managed ∧
      (sys.handleDevicePatch codec lookup req row.id (some (payload, upstream))).1.service.store.deviceBySourceKey
          shown.sourceKey =
        some (owned req.ownerOf (writtenRow (sys.service.store.devices.find managed.sourceKey)
          sys.service.store.devices.next
          (stamped req.now (upstreamUpdate req (enrichDevice lookup row) payload managed)))) := by
  have manages : canManageDevice req.user (enrichDevice lookup row) = true := by simp [canManageDevice, admin]
  rw [handleDevicePatch_of_find found, map_some, handleDeviceUpdate_allowed found manages, if_pos isUpstream] at accepted ⊢
  cases result : managedUpdate codec (enrichDevice lookup row) payload upstream with
  | error response =>
    simp only [System.updateUpstream, Option.elim, result] at accepted
    cases accepted
  | ok managed =>
    obtain ⟨-, -, named, -⟩ := managedUpdate_ok result
    simp only [Option.elim, result] at accepted ⊢
    refine ⟨managed, rfl, ?_⟩
    rw [updateUpstream_shown rfl accepted, deviceBySourceKey, updateUpstream_find rfl named, if_pos rfl]
    rfl

theorem clearsNothing_enrichDevice {old : Device} :
    ClearsNothing payload upstream (enrichDevice lookup row) old ↔ ClearsNothing payload upstream row old := by
  simp only [clearsNothing_iff, enrichDevice]
  split <;> rfl

end

theorem saved_config_requested_iff {codec : ExtraCodec} (json : codec.RoundTrips) (lookup : UInt32 → String) (req : Request)
    (sys : System) (row : Device) (admin : req.user.role = .admin) (found : sys.service.store.deviceByID row.id = some row)
    (isUpstream : row.protocol = "mmdvm-upstream") {payload : DeviceUpdatePayload} {upstream : UpstreamPayload} {cfg : MMDVM}
    {shown : Device} (built : buildManagedMMDVMConfig codec (enrichDevice lookup row) payload upstream = .ok cfg)
    (accepted : (sys.handleDevicePatch codec lookup req row.id (some (payload, upstream))).2 = .device 200 shown) :
    (∃ stored,
      (sys.handleDevicePatch codec lookup req row.id (some (payload, upstream))).1.service.store.deviceBySourceKey
        shown.sourceKey = some stored ∧
      (deviceToConfig codec stored).map MMDVM.normalized = .ok cfg.normalized ∧
      stored.notes = payload.notes.getD row.notes) ↔
    trimText row.sourceKey ≠ "" ∧
      (∀ old, sys.service.store.deviceBySourceKey (trimText row.sourceKey) = some old →
        ClearsNothing payload upstream row old) ∧
      payload.notes.getD row.notes = "" := by
  obtain ⟨managed, updated, written⟩ := accepted_writes admin found isUpstream accepted
  obtain ⟨cfg', rebuilt, valid, converted⟩ := managedUpdate_eq_ok updated
  cases built.symm.trans rebuilt
  have requested := requested_of_built built
  have columns := (columnsOf_configToDevice converted).upstreamUpdate req (enrichDevice lookup row) payload
  have key := (columnsOf_configToDevice converted).sourceKey
  have keys : ∀ old, sys.service.store.devices.find managed.sourceKey = some old → old.sourceKey = sourceKeyOf cfg := by
    intro old there
    exact (Table.find_eq_some.mp there).2.trans key
  have saved := saved_row_iff json requested valid columns keys req.ownerOf sys.service.store.devices.next
  have notes := notes_saved columns (sys.service.store.devices.find managed.sourceKey) req.ownerOf
    sys.service.store.devices.next
  simp only [written, Option.some.injEq, exists_eq_left', saved, notes, clearsNothing_enrichDevice,
    Service.enrichDevice_sourceKey, eq_comm (a := ""), and_assoc]
  refine and_congr_right fun given => ?_
  have own : managed.sourceKey = trimText row.sourceKey := by
    rw [key, sourceKeyOf, requested.sourceKey, Service.enrichDevice_sourceKey, if_pos given]
  rw [own]
  rfl

def memberStart : List Char := "\"masterServer\":\"".toList

def plainCodec : ExtraCodec where
  marshal
    | ⟨masterServer, [], [], [], [], [], []⟩ =>
      .ok (if masterServer = "" then "\x7b\x7d"
        else String.ofList ('\x7b' :: (memberStart ++ (masterServer.toList ++ ['"']) ++ ['\x7d'])))
    | _ => .error "unsupported"
  unmarshal data :=
    if data = "\x7b\x7d" then .ok {}
    else .ok { masterServer := String.ofList (data.toList.drop (memberStart.length + 1)).dropLast.dropLast }

theorem plainCodec_roundTrips : plainCodec.RoundTrips where
  unmarshal := by
    intro extra data marshalled
    simp only [plainCodec] at marshalled ⊢
    split at marshalled
    case h_2 => cases marshalled
    case h_1 masterServer =>
      cases marshalled
      by_cases unnamed : masterServer = ""
      · rw [if_pos unnamed, if_pos rfl, unnamed]
      · have longer : String.ofList ('\x7b' :: (memberStart ++ (masterServer.toList ++ ['"']) ++ ['\x7d'])) ≠ "\x7b\x7d" := by
          intro same
          have length := congrArg (fun text => text.toList.length) same
          simp only [String.toList_ofList, length_cons, length_append, length_nil] at length
          change _ = 2 at length
          omega
        rw [if_neg unnamed, if_neg longer, String.toList_ofList, drop_succ_cons, append_assoc, drop_left,
          dropLast_concat, dropLast_concat, String.ofList_toList]
  object := by
    intro extra data marshalled
    simp only [plainCodec] at marshalled
    split at marshalled
    case h_2 => cases marshalled
    case h_1 masterServer =>
      cases marshalled
      split
      case isTrue => exact ⟨[], rfl⟩
      case isFalse => exact ⟨_, rfl⟩
  empty := rfl

def noted : Device := { upstreamRow with height := 100, notes := "south mast" }

def systemWith (row : Device) (id : row.id = 1) : System where
  service :=
    { store :=
        { devices :=
            { rows := [row]
              next := 2
              nodupKeys := nodup_oneRow _ _
              nodupNumbers := nodup_oneRow _ _
              bounded := bounded_oneRow id }
          staticGroups := .empty }
      devices := ∅ }
  router := .new (3600 * second)

def adminRequest : Request := { ownerRequest with user := { id := 1, callsign := "", role := .admin } }

theorem saved_config_new_height : ∃ cfg shown stored,
      buildManagedMMDVMConfig plainCodec (enrichDevice (fun _ => "") upstreamRow) {} { height := some 120 } = .ok cfg ∧
      (upstreamSystem.handleDevicePatch plainCodec (fun _ => "") adminRequest upstreamRow.id
        (some ({}, { height := some 120 }))).2 = .device 200 shown ∧
      (upstreamSystem.handleDevicePatch plainCodec (fun _ => "") adminRequest upstreamRow.id
        (some ({}, { height := some 120 }))).1.service.store.deviceBySourceKey shown.sourceKey = some stored ∧
      (deviceToConfig plainCodec stored).map MMDVM.normalized = .ok cfg.normalized ∧ stored.notes = "" := by
  obtain ⟨cfg, built⟩ : ∃ cfg, buildManagedMMDVMConfig plainCodec (enrichDevice (fun _ => "") upstreamRow) {}
      { height := some 120 } = .ok cfg := ⟨_, rfl⟩
  obtain ⟨shown, accepted⟩ : ∃ shown, (upstreamSystem.handleDevicePatch plainCodec (fun _ => "") adminRequest upstreamRow.id
      (some ({}, { height := some 120 }))).2 = .device 200 shown := ⟨_, rfl⟩
  have nothing : ∀ old, upstreamSystem.service.store.deviceBySourceKey (trimText upstreamRow.sourceKey) = some old →
      ClearsNothing {} { height := some 120 } upstreamRow old := by
    intro old there
    cases there
    constructor <;> decide +kernel
  obtain ⟨stored, there, same, notes⟩ := (saved_config_requested_iff plainCodec_roundTrips (fun _ => "") adminRequest
      upstreamSystem upstreamRow rfl rfl rfl built accepted).mpr ⟨by decide +kernel, nothing, rfl⟩
  exact ⟨cfg, shown, stored, built, accepted, there, same, notes⟩

/-- The height is to become 0.  It stays 100, and the notes are lost. -/
theorem cleared_height_kept :
    (∃ shown, ((systemWith noted rfl).handleDevicePatch plainCodec (fun _ => "") adminRequest 1
        (some ({}, { height := some 0 }))).2 = .device 200 shown) ∧
      (buildManagedMMDVMConfig plainCodec (enrichDevice (fun _ => "") noted) {} { height := some 0 }).toOption.map MMDVM.height =
        some 0 ∧
      (((systemWith noted rfl).handleDevicePatch plainCodec (fun _ => "") adminRequest 1
          (some ({}, { height := some 0 }))).1.service.store.deviceBySourceKey "mmdvm-upstream:ab").map
        (fun stored => ((deviceToConfig plainCodec stored).toOption.map MMDVM.height, stored.notes)) =
          some (some 100, "") :=
  ⟨⟨_, rfl⟩, by decide +kernel⟩

end Ipsc2Mmdvm.Web
