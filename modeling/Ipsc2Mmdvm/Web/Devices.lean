import Ipsc2Mmdvm.Data.Text
import Ipsc2Mmdvm.Registry.Service
import Ipsc2Mmdvm.Routing.Subscriptions

namespace Ipsc2Mmdvm.Web

open Data Registry Routing

/-! Static groups are kept twice: in the table of the store and in the subscription manager that
routes calls.  Each request writes both, in its own order. -/

inductive UserRole where
  | admin
  | ham
deriving DecidableEq

structure User where
  id : Int
  callsign : String
  role : UserRole

structure DeviceUpdatePayload where
  ownerUserID : Option Int := none
  name : Option String := none
  callsign : Option String := none
  notes : Option String := none
  disabled : Option Bool := none
  dmrID : Option UInt32 := none
  model : Option String := none
  description : Option String := none
  location : Option String := none
  devicePassword : Option String := none
  nrlServerAddr : Option String := none
  nrlServerPort : Option Int := none
  nrlSSID : Option UInt8 := none
  nrlUDPPort : Option Int := none
  nrlSlot : Option Int := none
  staticSlot1 : Option (List UInt32) := none
  staticSlot2 : Option (List UInt32) := none

structure DeviceCreatePayload where
  protocol : String := ""
  name : String := ""
  callsign : String := ""
  dmrID : UInt32 := 0
  model : String := ""
  description : String := ""
  location : String := ""
  notes : String := ""
  nrlServerAddr : String := ""
  nrlServerPort : Int := 0
  nrlSSID : UInt8 := 0
  nrlUDPPort : Int := 0
  nrlSlot : Int := 0
  staticGroups : List UInt32 := []

inductive Response where
  | error (status : Nat) (text : String)
  | databaseError (status : Nat)
  | device (status : Nat) (dev : Device)

/-- What a request brings with it besides its payload.  `token` is the result of
`randomToken`; `managed` is the device `ConfigToDevice` makes of the payload of
an upstream network, or the error that it or the validation reports. -/
structure Request where
  user : User
  now : Time
  ownerOf : String → Int
  token : Except String String
  managed : Except (Nat × String) Device
  orders : Slot → Orders

structure System where
  service : Service
  router : SubscriptionManager

def toSlot (slot : Int) : Slot := UInt8.ofNat (slot % 256).toNat

def canManageDevice (user : User) (device : Device) : Bool :=
  user.role == .admin || (device.ownerUserID != 0 && device.ownerUserID == user.id) ||
    equalFold (trimText device.callsign) (trimText user.callsign)

namespace System

def setStore (sys : System) (store : Store) : System :=
  { sys with service := { sys.service with store } }

def setStatic (sys : System) (orders : Orders) (sourceKey : String) (slot : Slot)
    (groups : List UInt32) : System :=
  { sys with router := sys.router.replaceStatic orders sourceKey slot groups }

def replaceStaticGroups (sys : System) (orders : Orders) (sourceKey : String) (slot : Int)
    (groups : List UInt32) : Option System :=
  (sys.service.store.replaceStaticGroups sourceKey slot groups).map fun store =>
    (sys.setStore store).setStatic orders sourceKey (toSlot slot) groups

def upsert (lookup : UInt32 → String) (req : Request) (sys : System) (dev : Device) :
    Option (System × Device) :=
  (sys.service.upsertDevice lookup req.ownerOf req.now dev).map fun reply =>
    ({ sys with service := reply.service }, reply.device)

def upstreamDevice (managed : Device) : Device :=
  { managed with category := .mmdvm, protocol := "mmdvm-upstream", model := "MMDVM Master" }

def createUpstream (lookup : UInt32 → String) (req : Request) (sys : System) : System × Response :=
  match req.token, req.managed with
  | .error text, _ => (sys, .error 500 text)
  | .ok _, .error (status, text) => (sys, .error status text)
  | .ok token, .ok managed =>
    match sys.upsert lookup req
        { upstreamDevice managed with sourceKey := "mmdvm-upstream:" ++ token } with
    | none => (sys, .databaseError 500)
    | some (sys, stored) => (sys, .device 201 stored)

def nrlSlotOf (slot : Int) : Int := if slot = 2 then 2 else 1

def nrlVirtualDevice (token callsign : String) (payload : DeviceCreatePayload) : Device :=
  { category := .nrl
    protocol := "nrl-virtual"
    sourceKey := "nrl-virtual:" ++ token
    name := orElse "" (trimText payload.name) "NRL Virtual Link"
    callsign
    dmrID := payload.dmrID
    model := trimText payload.model
    description := trimText payload.description
    location := trimText payload.location
    notes := payload.notes
    nrlServerAddr := trimText payload.nrlServerAddr
    nrlServerPort := payload.nrlServerPort
    nrlSSID := payload.nrlSSID
    nrlUDPPort := payload.nrlUDPPort
    nrlSlot := nrlSlotOf payload.nrlSlot
    slots := 1
    status := "configured" }

def createCallsign (user : User) (payload : DeviceCreatePayload) : String :=
  orElse "" (upperText (trimText payload.callsign)) (upperText (trimText user.callsign))

def createNRLVirtual (lookup : UInt32 → String) (req : Request) (sys : System)
    (payload : DeviceCreatePayload) : System × Response :=
  let slot := nrlSlotOf payload.nrlSlot
  let callsign := createCallsign req.user payload
  let groups := payload.staticGroups.take 1
  if callsign = "" then (sys, .error 400 "callsign is required")
  else
    match req.token with
    | .error text => (sys, .error 500 text)
    | .ok token =>
      match sys.upsert lookup req (nrlVirtualDevice token callsign payload) with
      | none => (sys, .databaseError 500)
      | some (sys, dev) =>
        match sys.replaceStaticGroups (req.orders (toSlot slot)) dev.sourceKey slot groups with
        | none => (sys, .databaseError 500)
        | some sys =>
          -- The store keeps what it had for the other slot.
          (sys.setStatic (req.orders (toSlot (3 - slot))) dev.sourceKey (toSlot (3 - slot)) [],
            .device 201 dev)

def handleDeviceCreate (lookup : UInt32 → String) (req : Request) (sys : System)
    (payload : Option DeviceCreatePayload) : System × Response :=
  match payload with
  | none => (sys, .error 400 "invalid json body")
  | some payload =>
    if equalFold (trimText payload.protocol) "mmdvm-upstream" then sys.createUpstream lookup req
    else sys.createNRLVirtual lookup req payload

def updateUpstream (lookup : UInt32 → String) (req : Request) (sys : System) (device : Device)
    (payload : DeviceUpdatePayload) : System × Response :=
  match req.managed with
  | .error (status, text) => (sys, .error status text)
  | .ok managed =>
    let updated : Device :=
      { upstreamDevice managed with
        id := device.id
        ownerUserID :=
          if req.user.role = .admin then payload.ownerUserID.getD device.ownerUserID
          else device.ownerUserID
        status := device.status
        online := device.online
        firstSeenAt := device.firstSeenAt
        lastSeenAt := device.lastSeenAt
        lastCallAt := device.lastCallAt
        disabled := payload.disabled.getD device.disabled }
    match sys.upsert lookup req updated with
    | none => (sys, .databaseError 500)
    | some (sys, stored) => (sys, .device 200 stored)

def patchOf (user : User) (device : Device) (payload : DeviceUpdatePayload) : Option DevicePatch :=
  let callsign :=
    if device.protocol = "nrl-virtual" then payload.callsign.filter fun callsign => trimText callsign != ""
    else payload.callsign
  let patch : DevicePatch :=
    { name := payload.name
      notes := payload.notes
      model := payload.model
      description := payload.description
      location := payload.location
      devicePassword := payload.devicePassword
      nrlServerAddr := payload.nrlServerAddr
      nrlServerPort := payload.nrlServerPort
      nrlSSID := payload.nrlSSID
      nrlUDPPort := payload.nrlUDPPort
      nrlSlot := payload.nrlSlot
      disabled := payload.disabled }
  if user.role = .admin then
    some { patch with
      ownerUserID := payload.ownerUserID
      callsign := callsign.map fun callsign => upperText (trimText callsign)
      dmrID := payload.dmrID }
  else if callsign.isSome || payload.ownerUserID.isSome || payload.dmrID.isSome then none
  else some patch

def replaceNRLStatic (req : Request) (sys : System) (device : Device) (payload : DeviceUpdatePayload) :
    System × Bool :=
  let slot := nrlSlotOf device.nrlSlot
  let groups := ((if slot = 1 then payload.staticSlot1 else payload.staticSlot2).getD []).take 1
  match sys.service.store.replaceStaticGroups device.sourceKey slot groups with
  | none => (sys, false)
  | some store =>
    match store.replaceStaticGroups device.sourceKey (3 - slot) [] with
    | none => (sys.setStore store, false)
    | some store =>
      (((sys.setStore store).setStatic (req.orders (toSlot slot)) device.sourceKey (toSlot slot)
          groups).setStatic (req.orders (toSlot (3 - slot))) device.sourceKey (toSlot (3 - slot)) [],
        true)

def replaceSlot (req : Request) (device : Device) (slot : Int) (groups : Option (List UInt32))
    (sys : System) : System × Bool :=
  match groups with
  | none => (sys, true)
  | some groups =>
    match sys.replaceStaticGroups (req.orders (toSlot slot)) device.sourceKey slot groups with
    | none => (sys, false)
    | some sys => (sys, true)

def replaceSlots (req : Request) (sys : System) (device : Device) (payload : DeviceUpdatePayload) :
    System × Bool :=
  match replaceSlot req device 1 payload.staticSlot1 sys with
  | (sys, false) => (sys, false)
  | (sys, true) => replaceSlot req device 2 payload.staticSlot2 sys

def updateStatic (req : Request) (sys : System) (device : Device) (payload : DeviceUpdatePayload) :
    System × Bool :=
  if payload.staticSlot1.isNone && payload.staticSlot2.isNone then (sys, true)
  else if device.protocol = "nrl-virtual" then sys.replaceNRLStatic req device payload
  else sys.replaceSlots req device payload

def updateMetadata (lookup : UInt32 → String) (req : Request) (sys : System) (device : Device)
    (payload : DeviceUpdatePayload) : System × Response :=
  match patchOf req.user device payload with
  | none => (sys, .error 403 "forbidden")
  | some patch =>
    match sys.service.updateDeviceMetadata lookup device.id patch with
    | none => (sys, .databaseError 500)
    | some reply =>
      match updateStatic req { sys with service := reply.service } reply.device payload with
      | (sys, false) => (sys, .databaseError 500)
      | (sys, true) => (sys, .device 200 reply.device)

def managedDevice (lookup : UInt32 → String) (req : Request) (sys : System) (id : Nat) :
    Except Response Device :=
  match sys.service.store.deviceByID id with
  | none => .error (.error 404 "sql: no rows in result set")
  | some dev =>
    let device := enrichDevice lookup dev
    if canManageDevice req.user device then .ok device else .error (.error 403 "forbidden")

def handleDeviceUpdate (lookup : UInt32 → String) (req : Request) (sys : System) (id : Nat)
    (payload : Option DeviceUpdatePayload) : System × Response :=
  match sys.managedDevice lookup req id, payload with
  | .error response, _ => (sys, response)
  | .ok _, none => (sys, .error 400 "invalid json body")
  | .ok device, some payload =>
    if device.protocol = "mmdvm-upstream" then sys.updateUpstream lookup req device payload
    else sys.updateMetadata lookup req device payload

def handleDeviceDelete (lookup : UInt32 → String) (req : Request) (sys : System) (id : Nat) :
    System × Response :=
  match sys.managedDevice lookup req id with
  | .error response => (sys, response)
  | .ok _ =>
    if req.user.role ≠ .admin then (sys, .error 403 "forbidden")
    else
      match sys.service.deleteDevice lookup id with
      | none => (sys, .databaseError 500)
      | some reply =>
        ({ service := reply.service
           router := sys.router.removeDevice (req.orders slot1) reply.device.sourceKey },
          .device 200 reply.device)

end System

end Ipsc2Mmdvm.Web
