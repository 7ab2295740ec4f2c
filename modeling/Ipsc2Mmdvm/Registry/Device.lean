import Ipsc2Mmdvm.Data.Clock
import Mathlib.Data.String.Basic

namespace Ipsc2Mmdvm.Registry

open Data

/-! Devices, as the registry keeps them, and the rules by which two records of one device are
joined. -/

inductive DeviceCategory where
  | mmdvm
  | moto
  | hytera
  | nrl
deriving DecidableEq

/-- Coordinates are the values of the floating-point columns, which hold no
infinities. -/
structure Device where
  id : Nat := 0
  category : DeviceCategory
  protocol : String
  sourceKey : String
  ownerUserID : Int := 0
  name : String := ""
  callsign : String := ""
  dmrID : UInt32 := 0
  model : String := ""
  serial : String := ""
  ip : String := ""
  port : Int := 0
  status : String := ""
  online : Bool := false
  firstSeenAt : Time := 0
  lastSeenAt : Time := 0
  lastCallAt : Time := 0
  rxFreq : UInt64 := 0
  txFreq : UInt64 := 0
  txPower : UInt8 := 0
  colorCode : UInt8 := 0
  latitude : Rat := 0
  longitude : Rat := 0
  height : UInt16 := 0
  location : String := ""
  description : String := ""
  url : String := ""
  slots : UInt8 := 0
  notes : String := ""
  devicePassword : String := ""
  nrlServerAddr : String := ""
  nrlServerPort : Int := 0
  nrlSSID : UInt8 := 0
  nrlUDPPort : Int := 0
  nrlSlot : Int := 0
  disabled : Bool := false
  extraJSON : String := ""
deriving DecidableEq

structure DevicePatch where
  ownerUserID : Option Int := none
  name : Option String := none
  callsign : Option String := none
  notes : Option String := none
  disabled : Option Bool := none
  dmrID : Option UInt32 := none
  model : Option String := none
  description : Option String := none
  location : Option String := none
  devicePassword : Option String := none
  nrlServerAddr : Option String := none
  nrlServerPort : Option Int := none
  nrlSSID : Option UInt8 := none
  nrlUDPPort : Option Int := none
  nrlSlot : Option Int := none
deriving DecidableEq

def DevicePatch.apply (patch : DevicePatch) (current : Device) : Device :=
  { current with
    ownerUserID := patch.ownerUserID.getD current.ownerUserID
    name := patch.name.getD current.name
    callsign := patch.callsign.getD current.callsign
    notes := patch.notes.getD current.notes
    disabled := patch.disabled.getD current.disabled
    dmrID := patch.dmrID.getD current.dmrID
    model := patch.model.getD current.model
    description := patch.description.getD current.description
    location := patch.location.getD current.location
    devicePassword := patch.devicePassword.getD current.devicePassword
    nrlServerAddr := patch.nrlServerAddr.getD current.nrlServerAddr
    nrlServerPort := patch.nrlServerPort.getD current.nrlServerPort
    nrlSSID := patch.nrlSSID.getD current.nrlSSID
    nrlUDPPort := patch.nrlUDPPort.getD current.nrlUDPPort
    nrlSlot := patch.nrlSlot.getD current.nrlSlot }

@[simp] theorem DevicePatch.apply_sourceKey (patch : DevicePatch) (current : Device) :
    (patch.apply current).sourceKey = current.sourceKey := rfl

@[simp] theorem DevicePatch.apply_id (patch : DevicePatch) (current : Device) :
    (patch.apply current).id = current.id := rfl

def orElse {α : Type} [DecidableEq α] (zero value fallback : α) : α :=
  if value = zero then fallback else value

def firstNonEmpty (texts : List String) : String := (texts.find? (· ≠ "")).getD ""

def dedupeByDMRID (protocol : String) : Bool :=
  protocol == "ipsc" || protocol == "hytera"

def mergePreferredDevice (incoming existing : Device) : Device :=
  { incoming with
    firstSeenAt :=
      if Time.isZero incoming.firstSeenAt ||
          (!Time.isZero existing.firstSeenAt && Time.after incoming.firstSeenAt existing.firstSeenAt) then
        existing.firstSeenAt
      else incoming.firstSeenAt
    lastCallAt := orElse 0 incoming.lastCallAt existing.lastCallAt
    name := orElse "" incoming.name existing.name
    callsign := orElse "" incoming.callsign existing.callsign
    model := orElse "" incoming.model existing.model
    serial := orElse "" incoming.serial existing.serial
    ip := orElse "" incoming.ip existing.ip
    port := orElse 0 incoming.port existing.port
    location := orElse "" incoming.location existing.location
    description := orElse "" incoming.description existing.description
    url := orElse "" incoming.url existing.url
    notes := orElse "" incoming.notes existing.notes
    nrlServerAddr := orElse "" incoming.nrlServerAddr existing.nrlServerAddr
    nrlServerPort := orElse 0 incoming.nrlServerPort existing.nrlServerPort
    nrlSSID := orElse 0 incoming.nrlSSID existing.nrlSSID
    nrlUDPPort := orElse 0 incoming.nrlUDPPort existing.nrlUDPPort
    nrlSlot := orElse 0 incoming.nrlSlot existing.nrlSlot
    disabled := orElse false incoming.disabled existing.disabled
    extraJSON := orElse "" incoming.extraJSON existing.extraJSON }

/-- `ON CONFLICT(source_key) DO UPDATE SET …`, on the row `devices` for the new
values `excluded`.  The notes and the disabled flag are always the new ones. -/
def onConflict (devices excluded : Device) : Device :=
  { id := devices.id
    category := excluded.category
    protocol := excluded.protocol
    sourceKey := devices.sourceKey
    ownerUserID := if devices.ownerUserID ≠ 0 then devices.ownerUserID else excluded.ownerUserID
    name := orElse "" excluded.name devices.name
    callsign := orElse "" excluded.callsign devices.callsign
    dmrID := orElse 0 excluded.dmrID devices.dmrID
    model := orElse "" excluded.model devices.model
    serial := orElse "" excluded.serial devices.serial
    ip := orElse "" excluded.ip devices.ip
    port := orElse 0 excluded.port devices.port
    status := orElse "" excluded.status devices.status
    online := excluded.online
    firstSeenAt := devices.firstSeenAt
    lastSeenAt := excluded.lastSeenAt
    lastCallAt := orElse 0 excluded.lastCallAt devices.lastCallAt
    rxFreq := orElse 0 excluded.rxFreq devices.rxFreq
    txFreq := orElse 0 excluded.txFreq devices.txFreq
    txPower := orElse 0 excluded.txPower devices.txPower
    colorCode := orElse 0 excluded.colorCode devices.colorCode
    latitude := orElse 0 excluded.latitude devices.latitude
    longitude := orElse 0 excluded.longitude devices.longitude
    height := orElse 0 excluded.height devices.height
    location := orElse "" excluded.location devices.location
    description := orElse "" excluded.description devices.description
    url := orElse "" excluded.url devices.url
    slots := orElse 0 excluded.slots devices.slots
    notes := excluded.notes
    devicePassword := orElse "" excluded.devicePassword devices.devicePassword
    nrlServerAddr := orElse "" excluded.nrlServerAddr devices.nrlServerAddr
    nrlServerPort := orElse 0 excluded.nrlServerPort devices.nrlServerPort
    nrlSSID := orElse 0 excluded.nrlSSID devices.nrlSSID
    nrlUDPPort := orElse 0 excluded.nrlUDPPort devices.nrlUDPPort
    nrlSlot := orElse 0 excluded.nrlSlot devices.nrlSlot
    disabled := excluded.disabled
    extraJSON := orElse "" excluded.extraJSON devices.extraJSON }

/-! Times are stored as texts, which end in the fraction of the second without its trailing zeros
and a `Z`; `ORDER BY last_seen_at` compares these texts. -/

def fractionText (nanoseconds : Nat) : String :=
  if nanoseconds = 0 then "Z"
  else
    let digits := (toString (1000000000 + nanoseconds)).toList.drop 1
    "." ++ String.ofList ((digits.reverse.dropWhile (· == '0')).reverse) ++ "Z"

def timeTextLess (t u : Time) : Bool :=
  if Time.isZero t then !Time.isZero u
  else if Time.isZero u then false
  else if t / 1000000000 = u / 1000000000 then
    decide (fractionText (t % 1000000000) < fractionText (u % 1000000000))
  else decide (t / 1000000000 < u / 1000000000)

def lastSeenFirst (a b : Device) : Bool :=
  if timeTextLess b.lastSeenAt a.lastSeenAt then true
  else if timeTextLess a.lastSeenAt b.lastSeenAt then false
  else decide (b.id < a.id)

section

variable {incoming existing devices excluded : Device}

@[simp] theorem mergePreferredDevice_sourceKey :
    (mergePreferredDevice incoming existing).sourceKey = incoming.sourceKey := rfl

@[simp] theorem mergePreferredDevice_disabled :
    (mergePreferredDevice incoming existing).disabled = (incoming.disabled || existing.disabled) := by
  cases enabled : incoming.disabled <;> simp [mergePreferredDevice, orElse, enabled]

end

/-! Call records. -/

structure CallRecord where
  id : Nat := 0
  createdAt : Time := 0
  endedAt : Time := 0
  durationMS : Int := 0
  frontend : String
  sourceCategory : DeviceCategory
  sourceKey : String
  sourceName : String := ""
  sourceCallsign : String := ""
  sourceDMRID : UInt32 := 0
  srcID : UInt64 := 0
  dstID : UInt64 := 0
  repeaterID : UInt64 := 0
  slot : Int
  callType : String
  streamID : UInt64
  fromIP : String := ""
  fromPort : Int := 0
deriving DecidableEq

def callDedupKey (call : CallRecord) : String :=
  call.frontend ++ "|" ++ call.sourceKey ++ "|" ++ toString call.streamID.toNat

def enrichCall (lookup : UInt32 → String) (call : CallRecord) : CallRecord :=
  if call.sourceCallsign = "" then
    let callsign := if call.sourceDMRID ≠ 0 then lookup call.sourceDMRID else ""
    if callsign = "" ∧ call.srcID ≠ 0 then
      { call with sourceCallsign := lookup call.srcID.toUInt32 }
    else { call with sourceCallsign := callsign }
  else call

inductive Event where
  | deviceUpdated (device : Device)
  | deviceDeleted (device : Device)
  | callRecorded (call : CallRecord)
deriving DecidableEq

end Ipsc2Mmdvm.Registry
