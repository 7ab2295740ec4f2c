import Ipsc2Mmdvm.Proto.Packet

namespace Ipsc2Mmdvm.Rewrite

open Proto

/-! A rule matches packets by call type, slot and a range of IDs and rewrites the slot, the call
type or an ID.  Arithmetic on IDs wraps. -/

structure Mapping where
  fromSlot : UInt64
  fromID : UInt64
  toSlot : UInt64
  toID : UInt64
  range : UInt64
deriving DecidableEq

inductive Rule where
  | tgRewrite (mapping : Mapping)
  | pcRewrite (mapping : Mapping)
  | typeRewrite (mapping : Mapping)
  | srcRewrite (mapping : Mapping)
  | passAllTG (slot : UInt64)
  | passAllPC (slot : UInt64)
deriving DecidableEq

def pktSlot (pkt : Packet) : UInt64 :=
  if pkt.slot then 2 else 1

def setPktSlot (pkt : Packet) (slot : UInt64) : Packet :=
  { pkt with slot := slot == 2 }

namespace Mapping

def fromEnd (r : Mapping) : UInt64 := r.fromID + r.range - 1

def covers (r : Mapping) (id : UInt64) : Bool :=
  r.fromID ≤ id && id ≤ r.fromEnd

def moveSlot (r : Mapping) (pkt : Packet) : Packet :=
  if r.fromSlot ≠ r.toSlot then setPktSlot pkt r.toSlot else pkt

def moveDst (r : Mapping) (pkt : Packet) : Packet :=
  if r.fromID ≠ r.toID then { pkt with dst := pkt.dst + r.toID - r.fromID } else pkt

end Mapping

def Rule.process (rule : Rule) (pkt : Packet) : Option Packet :=
  match rule with
  | .tgRewrite r =>
    if !pkt.groupCall || pktSlot pkt != r.fromSlot || !r.covers pkt.dst then none
    else some (r.moveDst (r.moveSlot pkt))
  | .pcRewrite r =>
    if pkt.groupCall || pktSlot pkt != r.fromSlot || !r.covers pkt.dst then none
    else some (r.moveDst (r.moveSlot pkt))
  | .typeRewrite r =>
    if !pkt.groupCall || pktSlot pkt != r.fromSlot || !r.covers pkt.dst then none
    else some { r.moveDst (r.moveSlot pkt) with groupCall := false }
  | .srcRewrite r =>
    if pktSlot pkt != r.fromSlot || !r.covers pkt.src then none
    else some { r.moveSlot pkt with src := r.toID + (pkt.src - r.fromID) }
  | .passAllTG slot => if pkt.groupCall && pktSlot pkt == slot then some pkt else none
  | .passAllPC slot => if !pkt.groupCall && pktSlot pkt == slot then some pkt else none

def apply : List Rule → Packet → Option Packet
  | [], _ => none
  | rule :: rules, pkt =>
    match rule.process pkt with
    | some rewritten => some rewritten
    | none => apply rules pkt

end Ipsc2Mmdvm.Rewrite
