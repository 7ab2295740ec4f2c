import Ipsc2Mmdvm.Bridge.Echo
import Ipsc2Mmdvm.Routing.Refinement

namespace Ipsc2Mmdvm.Bridge

open Data Proto Routing Timed List

/-! Where the bridge sends a call: a group call to the devices that are subscribed at the time, a
private call to the device by which its destination was heard last. -/

section Group

variable (moment : Moment) (frontend : Frontend) (sourceDeviceKey : String) (pkt : Packet)

def activation : List Event :=
  if shouldActivateDynamicGroup pkt then
    [⟨.activateDynamic sourceDeviceKey (slotFromPacket pkt) pkt.dst.toUInt32 moment.routeAt, moment.orders, moment.routeAt⟩]
  else []

def sendTo (r : TargetRoute) : List Action × Bool :=
  sendToTarget moment.links r.deviceKey frontend sourceDeviceKey (packetForTargetSlot pkt r.slot).1

def servedRoutes (routes : List TargetRoute) : List TargetRoute :=
  let sorted := sortRouteTargets frontend routes
  sorted.filter (fun r => !hasPrefix r.deviceKey "hytera:") ++
    if moment.links.hyteraServer then sorted.filter (hasPrefix ·.deviceKey "hytera:") else []

theorem sendToAll_eq (targets : List TargetRoute) : sendToAll moment.links frontend sourceDeviceKey pkt targets =
    (targets.flatMap fun r => (sendTo moment frontend sourceDeviceKey pkt r).1,
      targets.any fun r => (sendTo moment frontend sourceDeviceKey pkt r).2) := by
  induction targets using reverseRecOn with
  | nil => rfl
  | append_singleton targets r ih =>
    simp only [sendToAll, foldl_append, foldl_cons, foldl_nil] at ih ⊢
    simp [ih, sendTo]

theorem mem_servedRoutes (routes : List TargetRoute) (r : TargetRoute) : r ∈ servedRoutes moment frontend routes ↔
    r ∈ routes ∧ (hasPrefix r.deviceKey "hytera:" = true → moment.links.hyteraServer = true) := by
  have same : r ∈ sortRouteTargets frontend routes ↔ r ∈ routes := (perm_insertionSort ..).mem_iff
  cases running : moment.links.hyteraServer <;> cases hytera : hasPrefix r.deviceKey "hytera:" <;>
    simp [servedRoutes, running, hytera, same]

theorem nodup_servedRoutes {routes : List TargetRoute} (distinct : routes.Nodup) :
    (servedRoutes moment frontend routes).Nodup := by
  have sorted : (sortRouteTargets frontend routes).Nodup := (perm_insertionSort ..).nodup_iff.mpr distinct
  refine (sorted.filter _).append ?_ fun r left right => ?_
  · split
    · exact sorted.filter _
    · exact nodup_nil
  · split at right
    · have plain := (mem_filter.mp left).2
      simp [(mem_filter.mp right).2] at plain
    · cases right

/-- After any calls of the subscription manager with nondecreasing times, a group call is sent to
every device and slot subscribed to it, once and with that slot, and to no other; never to its own
device, and to Hytera repeaters only while their server runs. -/
theorem group_call_reaches_subscribers (ttl : Duration) (events : List Event)
    (ordered : EachStep step Timed.Ordered (new ttl) events)
    (later : (runFrom step (new ttl) events).clock ≤ moment.routeAt) (named : sourceDeviceKey ≠ "" ∧ pkt.dst ≠ 0) :
    let m := (runFrom step (new ttl) events).manager
    let spec := runFrom (Subscriptions.step (SubscriptionManager.new ttl).dynamicTTL) .empty
      (events ++ activation moment sourceDeviceKey pkt)
    ∃ targets : List TargetRoute, targets.Nodup ∧ (∀ r, r ∈ targets ↔ r.deviceKey ≠ sourceDeviceKey ∧
        spec.Subscribed ⟨r.deviceKey, r.slot, pkt.dst.toUInt32⟩ moment.routeAt ∧
        (hasPrefix r.deviceKey "hytera:" = true → moment.links.hyteraServer = true)) ∧
      (routeGroupCall m moment frontend sourceDeviceKey pkt).2 =
        (targets.flatMap fun r => (sendTo moment frontend sourceDeviceKey pkt r).1,
          targets.any fun r => (sendTo moment frontend sourceDeviceKey pkt r).2) := by
  intro m spec
  have wall : SubscriptionManager.orWallClock moment.routeAt moment.routeAt = moment.routeAt := by
    simp [SubscriptionManager.orWallClock]
  have ordered' : EachStep step Timed.Ordered (new ttl) (events ++ activation moment sourceDeviceKey pkt) := by
    refine eachStep_append.mpr ⟨ordered, ?_⟩
    simp only [activation]
    split
    · exact ⟨by simpa [Timed.Ordered, Event.time?, wall] using later, trivial⟩
    · trivial
  have refines := Refines.run (SubscriptionManager.new_ttl_pos ttl) (Refines.init ttl) ordered'
  have activated : (runFrom step (new ttl) (events ++ activation moment sourceDeviceKey pkt)).manager =
        (if shouldActivateDynamicGroup pkt then
          (m.activateDynamic sourceDeviceKey (slotFromPacket pkt) pkt.dst.toUInt32 moment.routeAt moment.routeAt).1
        else m) ∧
      (runFrom step (new ttl) (events ++ activation moment sourceDeviceKey pkt)).clock ≤ moment.routeAt := by
    rw [runFrom_append, activation]
    split
    · exact ⟨rfl, wall.le⟩
    · exact ⟨rfl, later⟩
  obtain ⟨-, sorted, members⟩ := refines.resolveRoutes moment.orders sourceDeviceKey pkt.dst.toUInt32
    (activated.2.trans wall.ge)
  rw [activated.1, wall] at members
  rw [activated.1] at sorted
  simp only [routeGroupCall, if_neg (not_or.mpr named)]
  generalize SubscriptionManager.resolveRoutes _ moment.orders sourceDeviceKey pkt.dst.toUInt32 moment.routeAt
    moment.routeAt = answer at sorted members ⊢
  have distinct : answer.2.Nodup := by
    refine sorted.imp fun {a b} below same => ?_
    rw [same, SubscriptionManager.routeLess_strict.irrefl] at below
    cases below
  refine ⟨servedRoutes moment frontend answer.2, nodup_servedRoutes moment frontend distinct, fun r => ?_, ?_⟩
  · rw [mem_servedRoutes, members, and_assoc]
  · rw [partition_eq_filter_filter]
    cases running : moment.links.hyteraServer <;> simp [servedRoutes, running, sendToAll_eq, Function.comp_def]

end Group

/-- A static subscription of a hotspot to talkgroup 91, on which a repeater calls. -/
theorem group_call_reaches_subscribers_hotspot : ∃ targets : List TargetRoute, ⟨"mmdvm:2", slot1⟩ ∈ targets ∧
    (routeGroupCall (runFrom step (new 0) [⟨.replaceStatic "mmdvm:2" slot1 [91], .increasing, 0⟩]).manager
        (.working 1000) .moto "moto:1" { dst := 91, groupCall := true }).2.1 =
      targets.flatMap fun r => (sendTo (.working 1000) .moto "moto:1" { dst := 91, groupCall := true } r).1 := by
  obtain ⟨targets, -, members, sent⟩ := group_call_reaches_subscribers (.working 1000) .moto "moto:1"
    { dst := 91, groupCall := true } 0 [⟨.replaceStatic "mmdvm:2" slot1 [91], .increasing, 0⟩]
    ⟨Nat.le_refl 0, trivial⟩ (Nat.zero_le _) (by decide)
  refine ⟨targets, (members _).mpr ⟨by decide, .inl ?_, fun _ => rfl⟩, congrArg Prod.fst sent⟩
  simp [activation, shouldActivateDynamicGroup, Subscriptions.step, validSlot, slot1]

inductive RouteCall where
  | remember (dmrid : UInt32) (sourceKey : String) (now : Time)
  | lookup (dmrid : UInt32) (now : Time)

namespace RouteCall

def now : RouteCall → Time
  | remember _ _ now | lookup _ now => now

def effective : RouteCall → Bool
  | remember dmrid sourceKey _ => dmrid != 0 && sourceKey != ""
  | lookup dmrid _ => dmrid != 0

def remembers (dmrid : UInt32) (call : RouteCall) : Option RecentPrivateRoute :=
  match call with
  | remember dmrid' sourceKey now =>
    if dmrid' = dmrid ∧ call.effective = true then some ⟨sourceKey, now⟩ else none
  | lookup _ _ => none

/-- The call leaves a route of the ID alone: it neither replaces it nor finds it too old. -/
def Spares (ttl : Duration) (dmrid : UInt32) (route : RecentPrivateRoute) (call : RouteCall) : Prop :=
  call.remembers dmrid = none ∧ (call.effective = true → Time.sub call.now route.lastSeen ≤ ttl)

end RouteCall

namespace RecentPrivateRouteCache

variable {c : RecentPrivateRouteCache} {dmrid : UInt32} {route : RecentPrivateRoute} {call : RouteCall} {ttl : Duration}
  {calls : List RouteCall}

def step (c : RecentPrivateRouteCache) : RouteCall → RecentPrivateRouteCache
  | .remember dmrid sourceKey now => c.remember dmrid sourceKey now
  | .lookup dmrid now => (c.lookup dmrid now).1

theorem new_ttl_pos (ttl : Duration) : 0 < (new ttl).ttl := by
  simp only [new]
  split
  · decide
  · exact not_le.mp ‹_›

end RecentPrivateRouteCache

end Ipsc2Mmdvm.Bridge
