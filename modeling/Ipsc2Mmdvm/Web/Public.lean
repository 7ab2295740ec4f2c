import Ipsc2Mmdvm.Bridge.Forwarding
import Ipsc2Mmdvm.Data.Json
import Ipsc2Mmdvm.Registry.Service

namespace Ipsc2Mmdvm.Web

open Data Registry Routing

/-! What the web server sends to viewers without a session: the snapshot, at request and on a new
connection, and the events of the registry. -/

def categoryText : DeviceCategory → String
  | .mmdvm => "mmdvm"
  | .moto => "moto"
  | .hytera => "hytera"
  | .nrl => "nrl"

def deviceJSON (dev : Device) : Json :=
  .object
    [("id", .number dev.id), ("category", .text (categoryText dev.category)), ("protocol", .text dev.protocol),
      ("sourceKey", .text dev.sourceKey), ("ownerUserId", .number dev.ownerUserID), ("name", .text dev.name),
      ("callsign", .text dev.callsign), ("dmrid", .number dev.dmrID.toNat), ("model", .text dev.model),
      ("serial", .text dev.serial), ("ip", .text dev.ip), ("port", .number dev.port), ("status", .text dev.status),
      ("online", .bool dev.online), ("firstSeenAt", .time dev.firstSeenAt), ("lastSeenAt", .time dev.lastSeenAt),
      ("lastCallAt", .time dev.lastCallAt), ("rxFreq", .number dev.rxFreq.toNat),
      ("txFreq", .number dev.txFreq.toNat), ("txPower", .number dev.txPower.toNat),
      ("colorCode", .number dev.colorCode.toNat), ("latitude", .float dev.latitude),
      ("longitude", .float dev.longitude), ("height", .number dev.height.toNat), ("location", .text dev.location),
      ("description", .text dev.description), ("url", .text dev.url), ("slots", .number dev.slots.toNat),
      ("notes", .text dev.notes), ("devicePassword", .text dev.devicePassword),
      ("nrlServerAddr", .text dev.nrlServerAddr), ("nrlServerPort", .number dev.nrlServerPort),
      ("nrlSsid", .number dev.nrlSSID.toNat), ("nrlUdpPort", .number dev.nrlUDPPort),
      ("nrlSlot", .number dev.nrlSlot), ("disabled", .bool dev.disabled), ("extraJson", .text dev.extraJSON)]

def callJSON (call : CallRecord) : Json :=
  .object
    [("id", .number call.id), ("createdAt", .time call.createdAt), ("endedAt", .time call.endedAt),
      ("durationMs", .number call.durationMS), ("frontend", .text call.frontend),
      ("sourceCategory", .text (categoryText call.sourceCategory)), ("sourceKey", .text call.sourceKey),
      ("sourceName", .text call.sourceName), ("sourceCallsign", .text call.sourceCallsign),
      ("sourceDmrid", .number call.sourceDMRID.toNat), ("srcId", .number call.srcID.toNat),
      ("dstId", .number call.dstID.toNat), ("repeaterId", .number call.repeaterID.toNat),
      ("slot", .number call.slot), ("callType", .text call.callType), ("streamId", .number call.streamID.toNat),
      ("fromIp", .text call.fromIP), ("fromPort", .number call.fromPort)]

def eventJSON : Registry.Event → Json
  | .deviceUpdated dev => .object [("type", .text "device_updated"), ("device", deviceJSON dev)]
  | .deviceDeleted dev => .object [("type", .text "device_deleted"), ("device", deviceJSON dev)]
  | .callRecorded call => .object [("type", .text "call_recorded"), ("call", callJSON call)]

structure RuntimeInfo where
  accessURL : String := ""
  websocketURL : String := ""
  webListenAddress : String := ""
  browserClients : Int := 0
  audioSubscribers : Int := 0
  localID : UInt32 := 0
  localCallsign : String := ""
  ipscListen : String := ""
  hyteraP2PListen : String := ""
  hyteraDMRListen : String := ""
  hyteraRDACListen : String := ""
  mmdvmServerListen : List String := []
  mmdvmClientMasters : List String := []
  storagePath : String := ""

def runtimeJSON (runtime : RuntimeInfo) : Json :=
  .object
    [("accessUrl", .text runtime.accessURL), ("websocketUrl", .text runtime.websocketURL),
      ("webListenAddress", .text runtime.webListenAddress), ("browserClients", .number runtime.browserClients),
      ("audioSubscribers", .number runtime.audioSubscribers), ("localId", .number runtime.localID.toNat),
      ("localCallsign", .text runtime.localCallsign), ("ipscListen", .text runtime.ipscListen),
      ("hyteraP2pListen", .text runtime.hyteraP2PListen), ("hyteraDmrListen", .text runtime.hyteraDMRListen),
      ("hyteraRdacListen", .text runtime.hyteraRDACListen),
      ("mmdvmServerListen", .ofSlice (runtime.mmdvmServerListen.map .text)),
      ("mmdvmClientMasters", .ofSlice (runtime.mmdvmClientMasters.map .text)),
      ("storagePath", .text runtime.storagePath)]

def slotText (slot : Slot) : String := toString slot.toNat

theorem slotText_injective : Function.Injective slotText := by
  intro slot other same
  exact UInt8.toNat_inj.mp (toString_nat_inj.mp same)

def groupJSON (group : GroupSubscription) : Json :=
  .object [("groupId", .number group.groupID.toNat), ("kind", .text group.kind.text), ("expiresAt", .time group.expiresAt)]

def subscriptionsJSON (subscriptions : DeviceSubscriptions) : Json :=
  .object
    [("deviceKey", .text subscriptions.deviceKey),
      ("slots", .ofMap slotText slotText_injective (fun groups => .array (groups.map groupJSON)) subscriptions.slots)]

structure SnapshotPayload where
  devices : List Device
  calls : List CallRecord
  callTotal : Nat
  groups : GoMap String DeviceSubscriptions
  runtime : RuntimeInfo

def payloadJSON (payload : SnapshotPayload) : Json :=
  .object
    [("devices", .array (payload.devices.map deviceJSON)), ("calls", .array (payload.calls.map callJSON)),
      ("callTotal", .number payload.callTotal),
      ("groups", .ofMap id (fun _ _ same => same) subscriptionsJSON payload.groups),
      ("runtime", runtimeJSON payload.runtime)]

structure RegistryState where
  devices : GoMap String Device
  recent : List CallRecord := []
  callTotal : Nat := 0

structure Viewer where
  events : Option (List Registry.Event) := none
  runtimes : Option (List RuntimeInfo) := none

structure PublicServer where
  registry : RegistryState
  router : SubscriptionManager
  runtime : RuntimeInfo
  wsClients : Int := 0
  audioTargets : Int := 0
  /-- The connections, `none` once they are closed. -/
  viewers : List (Option Viewer) := []

structure Reading where
  now : Time
  devices : Enumeration String
  routes : Orders

inductive ViewerAction where
  | get (baseURL : String) (reading : Reading)
  | connect (baseURL : String) (reading : Reading)
  | subscribe (viewer : Nat)
  | subscribeRuntime (viewer : Nat)
  | sendEvent (viewer : Nat)
  | sendRuntime (viewer : Nat)
  | sendAudio (viewer : Nat) (frame : List UInt8)
  | close (viewer : Nat)

inductive PublicAction where
  | registry (state : RegistryState)
  | router (router : SubscriptionManager)
  | publish (event : Registry.Event)
  | trackWSClient (delta : Int)
  | trackAudioTargets (delta : Int)
  | viewer (action : ViewerAction)

inductive Sent where
  | body (json : Json)
  | message (viewer : Nat) (json : Json)
  | binary (viewer : Nat) (frame : List UInt8)

def offer {α : Type} (capacity : Nat) (item : α) (channel : List α) : List α :=
  if channel.length < capacity then channel ++ [item] else channel

def Viewer.offerEvent (viewer : Viewer) (event : Registry.Event) : Viewer :=
  { viewer with events := viewer.events.map (offer 32 event) }

def Viewer.offerRuntime (viewer : Viewer) (runtime : RuntimeInfo) : Viewer :=
  { viewer with runtimes := viewer.runtimes.map (offer 8 runtime) }

namespace PublicServer

def runtimeSnapshot (s : PublicServer) : RuntimeInfo :=
  { s.runtime with browserClients := s.wsClients, audioSubscribers := s.audioTargets }

def eachViewer (s : PublicServer) (f : Viewer → Viewer) : PublicServer :=
  { s with viewers := s.viewers.map (Option.map f) }

def publish (s : PublicServer) (event : Registry.Event) : PublicServer :=
  s.eachViewer fun viewer => viewer.offerEvent event

def broadcastRuntime (s : PublicServer) : PublicServer :=
  s.eachViewer fun viewer => viewer.offerRuntime s.runtimeSnapshot

def trackWSClient (s : PublicServer) (delta : Int) : PublicServer :=
  { s with wsClients := max 0 (s.wsClients + delta) }.broadcastRuntime

def trackAudioTargets (s : PublicServer) (delta : Int) : PublicServer :=
  { s with audioTargets := max 0 (s.audioTargets + delta) }.broadcastRuntime

def withBaseURL (runtime : RuntimeInfo) (baseURL : String) : RuntimeInfo :=
  if baseURL = "" then runtime
  else
    let websocketURL :=
      if Bridge.hasPrefix baseURL "https://" then "wss://" ++ Bridge.trimPrefix baseURL "https://"
      else if Bridge.hasPrefix baseURL "http://" then "ws://" ++ Bridge.trimPrefix baseURL "http://"
      else runtime.websocketURL
    { runtime with accessURL := baseURL, websocketURL }

def snapshotDevices (lookup : UInt32 → String) (order : Enumeration String) (devices : GoMap String Device) :
    List Device :=
  ((order.order devices.keys).filterMap devices.lookup).map (enrichDevice lookup)

def publicSnapshotPayload (lookup : UInt32 → String) (s : PublicServer) (baseURL : String) (reading : Reading) :
    PublicServer × SnapshotPayload :=
  let (router, groups) := s.router.snapshotAll reading.routes reading.now reading.now
  ({ s with router },
    { devices := snapshotDevices lookup reading.devices s.registry.devices
      calls := s.registry.recent.map (enrichCall lookup)
      callTotal := s.registry.callTotal
      groups
      runtime := withBaseURL s.runtimeSnapshot baseURL })

def viewer (s : PublicServer) (i : Nat) : Option Viewer := (s.viewers[i]?).join

def setViewer (s : PublicServer) (i : Nat) (viewer : Option Viewer) : PublicServer :=
  { s with viewers := s.viewers.set i viewer }

def view (lookup : UInt32 → String) (s : PublicServer) : ViewerAction → PublicServer × List Sent
  | .get baseURL reading =>
    let (s, payload) := s.publicSnapshotPayload lookup baseURL reading
    (s, [.body (payloadJSON payload)])
  | .connect baseURL reading =>
    -- The new connection is counted before the snapshot is taken.
    let (s, payload) := (s.trackWSClient 1).publicSnapshotPayload lookup baseURL reading
    ({ s with viewers := s.viewers ++ [some {}] },
      [.message s.viewers.length
        (.object [("snapshot", payloadJSON payload), ("type", .text "snapshot")])])
  | .subscribe i =>
    match s.viewer i with
    | none => (s, [])
    | some viewer => (s.setViewer i (some { viewer with events := some [] }), [])
  | .subscribeRuntime i =>
    match s.viewer i with
    | none => (s, [])
    | some viewer => (s.setViewer i (some { viewer with runtimes := some [] }), [])
  | .sendEvent i =>
    match s.viewer i with
    | some { events := some (event :: events), runtimes } =>
      (s.setViewer i (some { events := some events, runtimes }), [.message i (eventJSON event)])
    | _ => (s, [])
  | .sendRuntime i =>
    match s.viewer i with
    | some { events, runtimes := some (runtime :: runtimes) } =>
      (s.setViewer i (some { events, runtimes := some runtimes }),
        [.message i (.object [("runtime", runtimeJSON runtime), ("type", .text "runtime_updated")])])
    | _ => (s, [])
  | .sendAudio i frame =>
    match s.viewer i with
    | none => (s, [])
    | some _ => (s, [.binary i frame])
  | .close i =>
    match s.viewer i with
    | none => (s, [])
    | some _ => ((s.setViewer i none).trackWSClient (-1), [])

def step (lookup : UInt32 → String) (s : PublicServer) : PublicAction → PublicServer × List Sent
  | .registry state => ({ s with registry := state }, [])
  | .router router => ({ s with router }, [])
  | .publish event => (s.publish event, [])
  | .trackWSClient delta => (s.trackWSClient delta, [])
  | .trackAudioTargets delta => (s.trackAudioTargets delta, [])
  | .viewer action => s.view lookup action

def transcript (lookup : UInt32 → String) : PublicServer → List PublicAction → List Sent
  | _, [] => []
  | s, action :: actions => (s.step lookup action).2 ++ transcript lookup (s.step lookup action).1 actions

end PublicServer

end Ipsc2Mmdvm.Web
