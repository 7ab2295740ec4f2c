import Ipsc2Mmdvm.Data.Transitions
import Ipsc2Mmdvm.Repeater.Guard
import Ipsc2Mmdvm.Routing.Subscriptions

namespace Ipsc2Mmdvm.Bridge

open Data Proto Repeater Routing

/-! A packet that the guard admits is routed by talkgroup, by the recent activity of its private
target, or to everybody else.  What the frontends, the registry and the clock do during one call is
a `Moment`. -/

inductive Frontend where
  | moto | hytera | mmdvm | nrl
deriving DecidableEq

def Frontend.name : Frontend → String
  | .moto => "moto"
  | .hytera => "hytera"
  | .mmdvm => "mmdvm"
  | .nrl => "nrl"

def hasPrefix (s start : String) : Bool :=
  start.toList.isPrefixOf s.toList

def trimPrefix (s start : String) : String :=
  String.ofList (s.toList.drop start.toList.length)

def parseUint32 (s : String) : Option Nat :=
  let digits := s.toList
  if digits = [] ∨ digits.any (fun c => !c.isDigit) then none
  else
    let value := digits.foldl (fun n c => 10 * n + (c.toNat - '0'.toNat)) 0
    if value < 2 ^ 32 then some value else none

def afterLastColon (source : String) : Option String :=
  if ':' ∈ source.toList then
    some (String.ofList (source.toList.reverse.takeWhile (· ≠ ':')).reverse)
  else none

def motoSourceKey (source : String) (addrIP : Option String) : String :=
  let byAddress :=
    match addrIP with
    | some ip => "moto:" ++ ip
    | none => "moto:" ++ source
  match afterLastColon source with
  | some tail => if (parseUint32 tail).isSome then "moto:" ++ tail else byAddress
  | none => byAddress

def hyteraSourceKey (addrIP : Option String) : String :=
  match addrIP with
  | some ip => "hytera:" ++ ip
  | none => "hytera:unknown"

structure RecentPrivateRoute where
  sourceKey : String
  lastSeen : Time
deriving DecidableEq

structure RecentPrivateRouteCache where
  ttl : Duration
  routes : GoMap UInt32 RecentPrivateRoute

def recentPrivateRouteTTL : Duration := 15 * minute

namespace RecentPrivateRouteCache

def new (ttl : Duration) : RecentPrivateRouteCache where
  ttl := if ttl ≤ 0 then recentPrivateRouteTTL else ttl
  routes := ∅

def pruneLocked (c : RecentPrivateRouteCache) (now : Time) : RecentPrivateRouteCache :=
  if c.ttl ≤ 0 then c
  else { c with routes := c.routes.deleteWhere fun _ route => c.ttl < Time.sub now route.lastSeen }

def remember (c : RecentPrivateRouteCache) (dmrid : UInt32) (sourceKey : String) (now : Time) :
    RecentPrivateRouteCache :=
  if dmrid = 0 ∨ sourceKey = "" then c
  else
    let c := c.pruneLocked now
    { c with routes := c.routes.insert dmrid { sourceKey, lastSeen := now } }

def lookup (c : RecentPrivateRouteCache) (dmrid : UInt32) (now : Time) :
    RecentPrivateRouteCache × Option String :=
  if dmrid = 0 then (c, none)
  else
    let c := c.pruneLocked now
    (c, (c.routes.lookup dmrid).map (·.sourceKey))

end RecentPrivateRouteCache

inductive Egress where
  | motoPeer (peerID : Nat)
  | motoAll
  | hyteraPeer (targetKey : String) (fromMoto : Bool)
  | hyteraAll (fromMoto : Bool)
  | upstream (targetKey : String)
  | mmdvmPeer (targetKey : String)
  | mmdvm
  | nrl (targetKey : String)
deriving DecidableEq

inductive Action where
  | markForwarded (targetFrontend : Frontend) (pkt : Packet)
  | send (target : Egress) (pkt : Packet)
deriving DecidableEq

/-- The frontends during one call: which are running, which devices are
enabled, and whether a packet sent to a target is taken. -/
structure Links where
  forwardAllowed : String → Bool
  ipscServer : Bool
  hyteraServer : Bool
  nrlBridge : Bool
  upstream : String → Bool
  routeMotoTranslator : String → String → Bool
  taken : Egress → Packet → Bool

def sendToTarget (links : Links) (targetKey : String) (sourceFrontend : Frontend)
    (sourceDeviceKey : String) (pkt : Packet) : List Action × Bool :=
  if !links.forwardAllowed targetKey then ([], false)
  else if hasPrefix targetKey "moto:" then
    if !links.ipscServer then ([], false)
    else
      match parseUint32 (trimPrefix targetKey "moto:") with
      | none => ([], false)
      | some peerID =>
        if !links.routeMotoTranslator sourceDeviceKey targetKey then ([], false)
        else
          ([.markForwarded .moto pkt, .send (.motoPeer peerID) pkt],
            links.taken (.motoPeer peerID) pkt)
  else if hasPrefix targetKey "hytera:" then
    if !links.hyteraServer then ([], false)
    else
      let target := .hyteraPeer targetKey (sourceFrontend = .moto)
      ([.markForwarded .hytera pkt, .send target pkt], links.taken target pkt)
  else if hasPrefix targetKey "mmdvm-upstream:" then
    if !links.upstream targetKey then ([], false)
    else ([.send (.upstream targetKey) pkt], links.taken (.upstream targetKey) pkt)
  else if hasPrefix targetKey "mmdvm:" then
    ([.send (.mmdvmPeer targetKey) pkt], links.taken (.mmdvmPeer targetKey) pkt)
  else if hasPrefix targetKey "nrl-virtual:" then
    if !links.nrlBridge then ([], false)
    else ([.send (.nrl targetKey) pkt], links.taken (.nrl targetKey) pkt)
  else ([], false)

structure Moment where
  links : Links
  orders : Orders
  admitAt : Time
  rememberAt : Time
  routeAt : Time
  /-- The clock as the n-th `MarkForwarded` of the call reads it. -/
  markAt : Nat → Time

def slotFromPacket (pkt : Packet) : Slot :=
  if pkt.slot then slot2 else slot1

def shouldActivateDynamicGroup (pkt : Packet) : Bool :=
  if !pkt.groupCall || pkt.dst == 0 then false
  else pkt.frameType == 2 && pkt.dtypeOrVSeq == 1

def packetForTargetSlot (pkt : Packet) (targetSlot : Slot) : Packet × Bool :=
  let wantSlot2 := targetSlot == slot2
  ({ pkt with slot := wantSlot2 }, pkt.slot != wantSlot2)

def routeTargetPriority (sourceFrontend : Frontend) (deviceKey : String) : Nat :=
  let ranked (starts : List String) : Nat :=
    (starts.findIdx? (hasPrefix deviceKey)).getD 10
  match sourceFrontend with
  | .moto => ranked ["nrl-virtual:", "hytera:", "mmdvm:", "mmdvm-upstream:", "moto:"]
  | .hytera => ranked ["nrl-virtual:", "moto:", "mmdvm:", "mmdvm-upstream:", "hytera:"]
  | .mmdvm => ranked ["nrl-virtual:", "moto:", "hytera:", "mmdvm:", "mmdvm-upstream:"]
  | .nrl => ranked ["moto:", "hytera:", "mmdvm:", "mmdvm-upstream:", "nrl-virtual:"]

def sortRouteTargets (sourceFrontend : Frontend) (targets : List TargetRoute) : List TargetRoute :=
  targets.insertionSort fun a b =>
    let pa := routeTargetPriority sourceFrontend a.deviceKey
    let pb := routeTargetPriority sourceFrontend b.deviceKey
    pa < pb ∨ pa = pb ∧ SubscriptionManager.routeLess b a = false

def sendToAll (links : Links) (sourceFrontend : Frontend) (sourceDeviceKey : String) (pkt : Packet)
    (targets : List TargetRoute) : List Action × Bool :=
  targets.foldl
    (fun acc target =>
      let (actions, sent) := sendToTarget links target.deviceKey sourceFrontend sourceDeviceKey
        (packetForTargetSlot pkt target.slot).1
      (acc.1 ++ actions, acc.2 || sent)) ([], false)

structure BridgeState where
  guard : Guard
  groupRouter : SubscriptionManager
  privateRouter : RecentPrivateRouteCache

def newBridge (dynamicTTL privateTTL : Duration) : BridgeState where
  guard := newGuard
  groupRouter := .new dynamicTTL
  privateRouter := .new privateTTL

def routeGroupCall (groupRouter : SubscriptionManager) (moment : Moment) (sourceFrontend : Frontend)
    (sourceDeviceKey : String) (pkt : Packet) : SubscriptionManager × List Action × Bool :=
  if sourceDeviceKey = "" ∨ pkt.dst = 0 then (groupRouter, [], false)
  else
    let now := moment.routeAt
    let group := pkt.dst.toUInt32
    let groupRouter :=
      if shouldActivateDynamicGroup pkt then
        (groupRouter.activateDynamic sourceDeviceKey (slotFromPacket pkt) group now now).1
      else groupRouter
    let (groupRouter, targets) := groupRouter.resolveRoutes moment.orders sourceDeviceKey group now now
    let targets := sortRouteTargets sourceFrontend targets
    -- Hytera targets are put off until the others have been served.
    let (hyteraTargets, others) := targets.partition (hasPrefix ·.deviceKey "hytera:")
    let first := sendToAll moment.links sourceFrontend sourceDeviceKey pkt others
    let second :=
      if moment.links.hyteraServer then
        sendToAll moment.links sourceFrontend sourceDeviceKey pkt hyteraTargets
      else ([], false)
    (groupRouter, first.1 ++ second.1, first.2 || second.2)

def routePrivateCall (cache : RecentPrivateRouteCache) (moment : Moment) (sourceFrontend : Frontend)
    (sourceDeviceKey : String) (pkt : Packet) : RecentPrivateRouteCache × List Action × Option String :=
  if pkt.groupCall || pkt.dst == 0 then (cache, [], none)
  else
    match cache.lookup pkt.dst.toUInt32 moment.routeAt with
    | (cache, none) => (cache, [], none)
    | (cache, some targetKey) =>
      if targetKey = "" ∨ targetKey = sourceDeviceKey then (cache, [], none)
      else
        let (actions, sent) :=
          sendToTarget moment.links targetKey sourceFrontend sourceDeviceKey pkt
        (cache, actions, if sent then some targetKey else none)

/-- The calls to every frontend but the packet's own, for packets that are not
routed.  Without a translator the call returns after the mark. -/
def broadcast (links : Links) (frontend : Frontend) (pkt : Packet) : List Action :=
  let viaMoto (rest : List Action) : List Action :=
    .markForwarded .moto pkt ::
      if links.routeMotoTranslator ("legacy:" ++ frontend.name) "legacy:moto" then
        .send .motoAll pkt :: rest
      else []
  let viaHytera : List Action :=
    if links.hyteraServer then
      [.markForwarded .hytera pkt, .send (.hyteraAll (frontend = .moto)) pkt]
    else []
  match frontend with
  | .moto => viaHytera ++ [.send .mmdvm pkt]
  | .hytera => if links.ipscServer then viaMoto [.send .mmdvm pkt] else [.send .mmdvm pkt]
  | _ => .send .mmdvm pkt :: if links.ipscServer then viaMoto viaHytera else viaHytera

def legacyForward (cache : RecentPrivateRouteCache) (moment : Moment) (frontend : Frontend)
    (sourceDeviceKey : String) (pkt : Packet) : RecentPrivateRouteCache × List Action :=
  match routePrivateCall cache moment frontend sourceDeviceKey pkt with
  | (cache, actions, some _) => (cache, actions)
  | (cache, actions, none) => (cache, actions ++ broadcast moment.links frontend pkt)

def markCalls (moment : Moment) (actions : List Action) : List Guard.Call :=
  let marks := actions.filterMap fun
    | .markForwarded targetFrontend pkt => some (targetFrontend, pkt)
    | .send .. => none
  marks.mapIdx fun n mark => .markForwarded mark.1.name mark.2 (moment.markAt n)

def recordSourceKey (frontend : Frontend) (source : String) (addrIP : Option String) : String :=
  match frontend with
  | .moto => motoSourceKey source addrIP
  | .hytera => hyteraSourceKey addrIP
  | _ => source

def ingressSource (frontend : Frontend) (source : String) : String :=
  frontend.name ++ ":" ++ source

def forward (b : BridgeState) (moment : Moment) (frontend : Frontend) (recordKey : String)
    (pkt : Packet) : BridgeState × List Action :=
  let b :=
    if pkt.src ≠ 0 then
      { b with privateRouter := b.privateRouter.remember pkt.src.toUInt32 recordKey moment.rememberAt }
    else b
  if pkt.groupCall then
    let (groupRouter, actions, _) := routeGroupCall b.groupRouter moment frontend recordKey pkt
    ({ b with groupRouter }, actions)
  else
    let (privateRouter, actions) := legacyForward b.privateRouter moment frontend recordKey pkt
    ({ b with privateRouter }, actions)

/-- `handleIngress`; `none` if the guard drops the packet. -/
def handleIngress (b : BridgeState) (moment : Moment) (frontend : Frontend) (source : String)
    (pkt : Packet) (addrIP : Option String) : BridgeState × Option (List Action) :=
  let (guard, allowed) := b.guard.allowIngress (ingressSource frontend source) pkt moment.admitAt
  let b := { b with guard }
  if allowed then
    let (b, actions) := forward b moment frontend (recordSourceKey frontend source addrIP) pkt
    ({ b with guard := runFrom Guard.call b.guard (markCalls moment actions) }, some actions)
  else (b, none)

end Ipsc2Mmdvm.Bridge
