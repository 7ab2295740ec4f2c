import Ipsc2Mmdvm.Data.Transitions
import Ipsc2Mmdvm.Rewrite.Rules
import Ipsc2Mmdvm.Timeslot.Drain

namespace Ipsc2Mmdvm.Mmdvm

open Data Proto Timeslot PendingStream

/-! All networks share one timeslot manager.  The network whose stream ends delivers what was
buffered meanwhile.  The model carries along, next to each packet, the network and the session it
came from. -/

structure Received (ι : Type) where
  network : ι
  sourceKey : String
  pkt : Packet
deriving DecidableEq

inductive Handler (ι : Type) where
  | packetSourceHandler (network : ι) (sourceKey : String)
  | packetHandler (network : ι)
  | ipscHandler (network : ι)
  | discarded
deriving DecidableEq

structure Delivery (ι : Type) where
  received : Received ι
  handler : Handler ι
deriving DecidableEq

/-- The configuration of a client or a server.  A server without a
`packetSourceHandler` delivers as a client does. -/
structure Network where
  name : String
  netRewrites : List Rewrite.Rule
  packetSourceHandler : Bool
  packetHandler : Bool
  ipscHandler : Bool

section

variable {ι : Type} (networks : ι → Network) {m : Manager (Received ι)}

def translateAndForwardToIPSC (network : ι) : Handler ι :=
  if (networks network).packetHandler then .packetHandler network
  else if (networks network).ipscHandler then .ipscHandler network
  else .discarded

def direct (received : Received ι) : Handler ι :=
  if (networks received.network).packetSourceHandler then
    .packetSourceHandler received.network received.sourceKey
  else translateAndForwardToIPSC networks received.network

/-- `drainPendingOutbound` of one network, with the clock readings of its
`Release` calls; `none` if the loop does not end within `fuel` rounds. -/
def drainPendingOutbound (network : ι) (slot : Bool) :
    Nat → (Nat → Time) → Manager (Received ι) → UInt64 →
      Option (Manager (Received ι) × List (Delivery ι))
  | 0, _, _, _ => none
  | fuel + 1, clock, m, currentStreamID =>
    let (m, buffered) := m.release slot currentStreamID (clock 0)
    let delivered := buffered.map fun item => ⟨item, translateAndForwardToIPSC networks network⟩
    -- The last terminator of the batch names the stream to release next.
    match buffered.reverse.find? (·.pkt.isTerminator) with
    | none => some (m, delivered)
    | some terminator =>
      match drainPendingOutbound network slot fuel (fun n => clock (n + 1)) m
          terminator.pkt.streamID with
      | none => none
      | some (m, rest) => some (m, delivered ++ rest)

def handleOutboundPacketFrom (m : Manager (Received ι)) (network : ι) (sourceKey : String)
    (pkt : Packet) (clock : Nat → Time) : Option (Manager (Received ι) × List (Delivery ι)) :=
  match Rewrite.apply (networks network).netRewrites pkt with
  | none => some (m, [])
  | some pkt =>
    let received : Received ι := ⟨network, sourceKey, pkt⟩
    let (m, accepted) := m.submit pkt.slot pkt.streamID (networks network).name received (clock 0)
    if !accepted then some (m, [])
    else
      let delivered : List (Delivery ι) := [⟨received, direct networks received⟩]
      if pkt.isTerminator then
        -- Each round but the last promotes a waiting stream.
        match drainPendingOutbound networks network pkt.slot ((m.slot pkt.slot).pending.length + 1)
            (fun n => clock (n + 1)) m pkt.streamID with
        | none => none
        | some (m, drained) => some (m, delivered ++ drained)
      else some (m, delivered)

/-- The waiting streams that the end of the active stream delivers: each one
that holds its own terminator makes way for the next. -/
def promoted : List (PendingStream (Received ι)) → List (PendingStream (Received ι))
  | [] => []
  | ps :: rest => ps :: if ps.packets.any (·.pkt.isTerminator) then promoted rest else []

def AllFiled (m : Manager (Received ι)) : Prop :=
  ∀ slot, (m.slot slot).Filed fun streamID item => item.pkt.streamID = streamID

omit networks in
theorem flatMap_promoted (pending : List (PendingStream (Received ι))) :
    (promoted pending).flatMap packets = handedOut (·.pkt.isTerminator) pending := by
  induction pending with
  | nil => rfl
  | cons ps rest ih =>
    cases done : ps.finished (·.pkt.isTerminator) with
    | true =>
      rw [handedOut_of_finished done, ← ih, promoted, ← finished, if_pos done, List.flatMap_cons]
    | false =>
      rw [promoted, ← finished, if_neg (by simp [done])]
      simp [handedOut, unfinished, done]

theorem drainPendingOutbound_eq_drain (network : ι) (slot : Bool) (fuel : Nat) (clock : Nat → Time)
    (m : Manager (Received ι)) (streamID : UInt64) :
    drainPendingOutbound networks network slot fuel clock m streamID =
      (m.drain (·.pkt.isTerminator) (·.pkt.streamID) slot fuel clock streamID).map fun answer =>
        (answer.1, answer.2.map fun item => ⟨item, translateAndForwardToIPSC networks network⟩) := by
  induction fuel generalizing clock m streamID with
  | zero => rfl
  | succ fuel ih =>
    simp only [drainPendingOutbound, Manager.drain]
    cases (m.release slot streamID (clock 0)).2.reverse.find? (·.pkt.isTerminator) with
    | none => rfl
    | some terminator =>
      simp only [ih]
      cases Manager.drain (·.pkt.isTerminator) (·.pkt.streamID) slot fuel (fun n => clock (n + 1))
          (m.release slot streamID (clock 0)).1 terminator.pkt.streamID with
      | none => rfl
      | some answer => simp

theorem drainPendingOutbound_eq (network : ι) (slot : Bool) (clock : Nat → Time) {fuel : Nat} {streamID : UInt64}
    (filed : AllFiled m) (enough : (m.slot slot).pending.length < fuel)
    (active : ∃ call, (m.slot slot).active = some call ∧ call.streamID = streamID) :
    ∃ m', drainPendingOutbound networks network slot fuel clock m streamID =
        some (m', (promoted (m.slot slot).pending).flatMap fun ps =>
          ps.packets.map fun item => ⟨item, translateAndForwardToIPSC networks network⟩) ∧
      Drained (·.pkt.isTerminator) slot m m' ∧ AllFiled m' := by
  obtain ⟨m', drained, settled, filed'⟩ := drain_eq slot clock filed enough active
  refine ⟨m', ?_, settled, filed'⟩
  rw [drainPendingOutbound_eq_drain, drained, ← flatMap_promoted, Option.map_some, List.map_flatMap]

/-- A DMRD packet received by a network, with the session it belongs to and the
readings of the clock while it is handled. -/
structure Datagram (ι : Type) where
  network : ι
  sourceKey : String
  pkt : Packet
  clock : Nat → Time

structure Outbound (ι : Type) where
  manager : Manager (Received ι)
  delivered : List (Delivery ι)

def Outbound.new (ι : Type) (timeout : Duration) : Outbound ι where
  manager := (newManager _).setTimeout timeout
  delivered := []

/-- The packet as the rewrite rules leave it and the manager after it was
submitted, if it was accepted. -/
def accepted (m : Manager (Received ι)) (d : Datagram ι) : Option (Received ι × Manager (Received ι)) :=
  match Rewrite.apply (networks d.network).netRewrites d.pkt with
  | none => none
  | some pkt =>
    let received : Received ι := ⟨d.network, d.sourceKey, pkt⟩
    let answer := m.submit pkt.slot pkt.streamID (networks d.network).name received (d.clock 0)
    if answer.2 then some (received, answer.1) else none

def Datagram.received (d : Datagram ι) : Option (Received ι) :=
  (Rewrite.apply (networks d.network).netRewrites d.pkt).map fun pkt => ⟨d.network, d.sourceKey, pkt⟩

def submitted (m : Manager (Received ι)) (d : Datagram ι) : Manager (Received ι) :=
  match d.received networks with
  | none => m
  | some received =>
    (m.submit received.pkt.slot received.pkt.streamID (networks d.network).name received (d.clock 0)).1

def drains (m : Manager (Received ι)) (d : Datagram ι) : List (PendingStream (Received ι)) :=
  match accepted networks m d with
  | none => []
  | some (received, m) =>
    if received.pkt.isTerminator then promoted (m.slot received.pkt.slot).pending else []

theorem handleOutboundPacketFrom_eq (filed : AllFiled m) (d : Datagram ι) :
    ∃ m', handleOutboundPacketFrom networks m d.network d.sourceKey d.pkt d.clock =
        some (m', ((accepted networks m d).map fun answer =>
            (⟨answer.1, direct networks answer.1⟩ : Delivery ι)).toList ++
          (drains networks m d).flatMap fun ps =>
            ps.packets.map fun item => ⟨item, translateAndForwardToIPSC networks d.network⟩) ∧
      AllFiled m' ∧
      ∀ slot, ∀ ps ∈ (m'.slot slot).pending, ps ∈ ((submitted networks m d).slot slot).pending := by
  simp only [handleOutboundPacketFrom, drains, accepted, submitted, Datagram.received]
  cases rewritten : Rewrite.apply (networks d.network).netRewrites d.pkt with
  | none => exact ⟨m, by simp, filed, fun _ _ member => member⟩
  | some pkt =>
    let received : Received ι := ⟨d.network, d.sourceKey, pkt⟩
    have filed' : AllFiled (m.submit pkt.slot pkt.streamID (networks d.network).name received (d.clock 0)).1 :=
      filed_submit filed pkt.slot pkt.streamID (networks d.network).name received (d.clock 0) rfl
    have active := @submit_active_of_taken _ m pkt.slot pkt.streamID (networks d.network).name received (d.clock 0)
    simp only [Option.map_some]
    generalize m.submit pkt.slot pkt.streamID (networks d.network).name received (d.clock 0) = answer at filed' active
    obtain ⟨m', taken⟩ := answer
    cases taken with
    | false => exact ⟨m', by simp, filed', fun _ _ member => member⟩
    | true =>
      cases term : pkt.isTerminator with
      | false => exact ⟨m', by simp [term], filed', fun _ _ member => member⟩
      | true =>
        obtain ⟨m'', drained, settled, filed''⟩ := drainPendingOutbound_eq networks d.network pkt.slot
          (fun n => d.clock (n + 1)) filed' (Nat.lt_succ_self _) (active rfl)
        exact ⟨m'', by simp [term, drained], filed'', settled.subset⟩

end

open Outbound

/-! A packet that had to wait is delivered by the network that ends the active call.  It keeps its
origin exactly when that network is its own and delivers its packets without naming a session. -/

section

variable {ι : Type} (networks : ι → Network)

def Outbound.step (s : Outbound ι) (d : Datagram ι) : Outbound ι :=
  match handleOutboundPacketFrom networks s.manager d.network d.sourceKey d.pkt d.clock with
  | none => s
  | some (manager, delivered) => ⟨manager, s.delivered ++ delivered⟩

def Handled (s : Outbound ι) (d : Datagram ι) : Prop :=
  (handleOutboundPacketFrom networks s.manager d.network d.sourceKey d.pkt d.clock).isSome = true

end

end Ipsc2Mmdvm.Mmdvm
