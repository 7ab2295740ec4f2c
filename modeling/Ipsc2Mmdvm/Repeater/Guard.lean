import Ipsc2Mmdvm.Data.Bits
import Ipsc2Mmdvm.Data.Clock
import Ipsc2Mmdvm.Data.GoMap
import Ipsc2Mmdvm.Data.Text
import Ipsc2Mmdvm.Proto.Packet

namespace Ipsc2Mmdvm.Repeater

open Data Proto

/-! Every packet that enters the bridge must not be the echo of a packet just forwarded, nor a
duplicate, and it must not compete with the call that owns its talkgroup or its slot. -/

def defaultCallTimeout : Duration := 1200 * millisecond

def defaultDedupTTL : Duration := 400 * millisecond

def defaultEchoTTL : Duration := 250 * millisecond

def defaultGroupTTL : Duration := 6 * second

structure SlotOwner where
  source : String
  streamID : UInt64
  lastSeen : Time
deriving DecidableEq

structure GroupOwner where
  source : String
  streamID : UInt64
  lastSeen : Time
deriving DecidableEq

structure Guard where
  callTimeout : Duration
  dedupTTL : Duration
  echoTTL : Duration
  groupTTL : Duration
  owners : Fin 2 → Option SlotOwner
  groupOwners : GoMap UInt64 GroupOwner
  recentIngress : GoMap String Time
  recentEgress : GoMap String Time

def newGuard : Guard where
  callTimeout := defaultCallTimeout
  dedupTTL := defaultDedupTTL
  echoTTL := defaultEchoTTL
  groupTTL := defaultGroupTTL
  owners := fun _ => none
  groupOwners := ∅
  recentIngress := ∅
  recentEgress := ∅

def fingerprint (pkt : Packet) : String :=
  toString pkt.seq.toNat ++ ":" ++ toString pkt.slot ++ ":" ++ toString pkt.src.toNat ++ ":" ++
    toString pkt.dst.toNat ++ ":" ++ toString pkt.streamID.toNat ++ ":" ++
    toString pkt.frameType.toNat ++ ":" ++ toString pkt.dtypeOrVSeq.toNat ++ ":" ++
    hexEncodeToString pkt.dmrData.toList

def echoKey (source : String) (pkt : Packet) : String :=
  "echo:" ++ source ++ ":" ++ fingerprint pkt

def ingressKey (source : String) (pkt : Packet) : String :=
  "in:" ++ source ++ ":" ++ fingerprint pkt

def ownerIndex (pkt : Packet) : Fin 2 := bitIndex pkt.slot

def expired (now ts : Time) (ttl : Duration) : Bool :=
  ttl < Time.sub now ts

def seenRecently (table : GoMap String Time) (key : String) (now : Time) (ttl : Duration) : Bool :=
  match table.lookup key with
  | some ts => !expired now ts ttl
  | none => false

inductive Refusal where
  | echo | duplicate | group | slot
deriving DecidableEq

namespace Guard

def evictExpired (g : Guard) (now : Time) : Guard :=
  { g with
    recentIngress := g.recentIngress.deleteWhere fun _ ts => expired now ts g.dedupTTL
    recentEgress := g.recentEgress.deleteWhere fun _ ts => expired now ts g.echoTTL
    owners := fun i => (g.owners i).filter fun owner => !expired now owner.lastSeen g.callTimeout
    groupOwners := g.groupOwners.deleteWhere fun _ owner => expired now owner.lastSeen g.groupTTL }

def allowGroupLocked (g : Guard) (source : String) (pkt : Packet) (now : Time) : Guard × Bool :=
  let claim : GroupOwner := { source, streamID := pkt.streamID, lastSeen := now }
  let claimed : Guard × Bool :=
    if pkt.isTerminator then ({ g with groupOwners := g.groupOwners.erase pkt.dst }, true)
    else ({ g with groupOwners := g.groupOwners.insert pkt.dst claim }, true)
  match g.groupOwners.lookup pkt.dst with
  | none => claimed
  | some owner =>
    if expired now owner.lastSeen g.groupTTL then claimed
    else if owner.source ≠ source then (g, false)
    else if pkt.isTerminator then ({ g with groupOwners := g.groupOwners.erase pkt.dst }, true)
    else
      let renewed := { owner with lastSeen := now, streamID := pkt.streamID }
      ({ g with groupOwners := g.groupOwners.insert pkt.dst renewed }, true)

def noteIngress (g : Guard) (source : String) (pkt : Packet) (now : Time) : Guard :=
  { g with recentIngress := g.recentIngress.insert (ingressKey source pkt) now }

def setOwner (g : Guard) (pkt : Packet) (owner : Option SlotOwner) : Guard :=
  { g with owners := Function.update g.owners (ownerIndex pkt) owner }

def takeSlot (g : Guard) (source : String) (pkt : Packet) (now : Time) : Guard × Option Refusal :=
  let claim : SlotOwner := { source, streamID := pkt.streamID, lastSeen := now }
  match g.owners (ownerIndex pkt) with
  | none =>
    let taken := if pkt.isTerminator then g else g.setOwner pkt (some claim)
    (taken.noteIngress source pkt now, none)
  | some owner =>
    if expired now owner.lastSeen g.callTimeout then
      let freed := g.setOwner pkt none
      let taken := if pkt.isTerminator then freed else freed.setOwner pkt (some claim)
      (taken.noteIngress source pkt now, none)
    else if owner.source ≠ source then (g, some .slot)
    else
      let renewed := { owner with lastSeen := now, streamID := pkt.streamID }
      let kept := g.setOwner pkt (if pkt.isTerminator then none else some renewed)
      (kept.noteIngress source pkt now, none)

def judge (g : Guard) (source : String) (pkt : Packet) (now : Time) : Guard × Option Refusal :=
  let g := g.evictExpired now
  if seenRecently g.recentEgress (echoKey source pkt) now g.echoTTL then (g, some .echo)
  else if seenRecently g.recentIngress (ingressKey source pkt) now g.dedupTTL then (g, some .duplicate)
  else if pkt.groupCall && pkt.dst != 0 then
    match g.allowGroupLocked source pkt now with
    | (g, false) => (g, some .group)
    | (g, true) => g.takeSlot source pkt now
  else g.takeSlot source pkt now

def allowIngress (g : Guard) (source : String) (pkt : Packet) (now : Time) : Guard × Bool :=
  let result := g.judge source pkt now
  (result.1, result.2.isNone)

def markForwarded (g : Guard) (targetFrontend : String) (pkt : Packet) (now : Time) : Guard :=
  let g := g.evictExpired now
  { g with recentEgress := g.recentEgress.insert (echoKey targetFrontend pkt) now }

/-! A record that has outlived its timeout does not count: the call evicts it before it looks. -/

def liveOwner (g : Guard) (pkt : Packet) (now : Time) : Option SlotOwner :=
  (g.owners (ownerIndex pkt)).filter fun owner => !expired now owner.lastSeen g.callTimeout

def liveGroupOwner (g : Guard) (pkt : Packet) (now : Time) : Option GroupOwner :=
  (g.groupOwners.lookup pkt.dst).filter fun owner => !expired now owner.lastSeen g.groupTTL

def isEcho (g : Guard) (source : String) (pkt : Packet) (now : Time) : Bool :=
  seenRecently g.recentEgress (echoKey source pkt) now g.echoTTL

def isDuplicate (g : Guard) (source : String) (pkt : Packet) (now : Time) : Bool :=
  seenRecently g.recentIngress (ingressKey source pkt) now g.dedupTTL

def isGrouped (pkt : Packet) : Bool :=
  pkt.groupCall && pkt.dst != 0

def slotBusy (g : Guard) (source : String) (pkt : Packet) (now : Time) : Bool :=
  (g.liveOwner pkt now).any fun owner => owner.source != source

def groupBusy (g : Guard) (source : String) (pkt : Packet) (now : Time) : Bool :=
  isGrouped pkt && (g.liveGroupOwner pkt now).any fun owner => owner.source != source

section Lemmas

variable {g : Guard} {source : String} {pkt : Packet} {now : Time}

theorem seenRecently_deleteWhere (table : GoMap String Time) (key : String) {now later : Time} (ttl : Duration)
    (ordered : now ≤ later) :
    seenRecently (table.deleteWhere fun _ ts => expired now ts ttl) key later ttl =
      seenRecently table key later ttl := by
  simp only [seenRecently]
  rw [GoMap.lookup_deleteWhere]
  cases found : table.lookup key with
  | none => rfl
  | some ts =>
    cases late : expired now ts ttl with
    | false => simp [Option.filter, late]
    | true =>
      have lapsed : ttl < Time.sub now ts := of_decide_eq_true late
      have later : expired later ts ttl = true := decide_eq_true (lt_of_lt_of_le lapsed (Time.sub_mono ordered le_rfl))
      simp [Option.filter, late, later]

theorem evictExpired_owners : (g.evictExpired now).owners (ownerIndex pkt) = g.liveOwner pkt now := rfl

theorem evictExpired_groupOwner : (g.evictExpired now).groupOwners.lookup pkt.dst = g.liveGroupOwner pkt now :=
  GoMap.lookup_deleteWhere _ _ _

@[simp] theorem evictExpired_callTimeout : (g.evictExpired now).callTimeout = g.callTimeout := rfl

@[simp] theorem evictExpired_echoTTL : (g.evictExpired now).echoTTL = g.echoTTL := rfl

@[simp] theorem evictExpired_dedupTTL : (g.evictExpired now).dedupTTL = g.dedupTTL := rfl

@[simp] theorem evictExpired_groupTTL : (g.evictExpired now).groupTTL = g.groupTTL := rfl

theorem liveOwner_fresh {owner : SlotOwner} (live : g.liveOwner pkt now = some owner) :
    expired now owner.lastSeen g.callTimeout = false := by
  simpa using (Option.filter_eq_some_iff.mp live).2

theorem liveGroupOwner_fresh {owner : GroupOwner} (live : g.liveGroupOwner pkt now = some owner) :
    expired now owner.lastSeen g.groupTTL = false := by
  simpa using (Option.filter_eq_some_iff.mp live).2

theorem allowGroupLocked_evicted (g : Guard) (source : String) (pkt : Packet) (now : Time) :
    (g.evictExpired now).allowGroupLocked source pkt now = match g.liveGroupOwner pkt now with
      | none =>
        ({ g.evictExpired now with
            groupOwners := if pkt.isTerminator then (g.evictExpired now).groupOwners.erase pkt.dst
              else (g.evictExpired now).groupOwners.insert pkt.dst
                { source, streamID := pkt.streamID, lastSeen := now } }, true)
      | some owner =>
        if owner.source ≠ source then (g.evictExpired now, false)
        else
          ({ g.evictExpired now with
              groupOwners := if pkt.isTerminator then (g.evictExpired now).groupOwners.erase pkt.dst
                else (g.evictExpired now).groupOwners.insert pkt.dst
                  { owner with lastSeen := now, streamID := pkt.streamID } }, true) := by
  simp only [allowGroupLocked]
  rw [evictExpired_groupOwner]
  cases held : g.liveGroupOwner pkt now with
  | none => cases term : pkt.isTerminator <;> simp
  | some owner =>
    have fresh := liveGroupOwner_fresh held
    by_cases same : owner.source = source
    · cases term : pkt.isTerminator <;> simp [fresh, same]
    · simp [fresh, same]

theorem allowGroupLocked_frame (g : Guard) (source : String) (pkt : Packet) (now : Time) :
    ∃ table, (g.allowGroupLocked source pkt now).1 = { g with groupOwners := table } := by
  simp only [allowGroupLocked]
  repeat' split
  all_goals exact ⟨_, rfl⟩

theorem allowGroupLocked_busy (grouped : isGrouped pkt = true) (busy : g.groupBusy source pkt now = true) :
    (g.evictExpired now).allowGroupLocked source pkt now = (g.evictExpired now, false) := by
  rw [allowGroupLocked_evicted]
  simp only [groupBusy, grouped, Bool.true_and] at busy
  cases held : g.liveGroupOwner pkt now with
  | none => simp [held] at busy
  | some owner =>
    have other : owner.source ≠ source := by simpa [held] using busy
    simp [other]

theorem allowGroupLocked_free (grouped : isGrouped pkt = true) (free : g.groupBusy source pkt now = false) :
    ((g.evictExpired now).allowGroupLocked source pkt now).2 = true := by
  rw [allowGroupLocked_evicted]
  simp only [groupBusy, grouped, Bool.true_and] at free
  cases held : g.liveGroupOwner pkt now with
  | none => rfl
  | some owner =>
    have same : owner.source = source := by simpa [held] using free
    simp [same]

theorem takeSlot_evicted (g h : Guard) (source : String) (pkt : Packet) (now : Time) (owners : h.owners = (g.evictExpired now).owners)
    (timeout : h.callTimeout = g.callTimeout) :
    h.takeSlot source pkt now = if g.slotBusy source pkt now then (h, some .slot) else
        ((h.setOwner pkt (if pkt.isTerminator then none
            else some { source, streamID := pkt.streamID, lastSeen := now })).noteIngress source pkt now,
          none) := by
  unfold takeSlot slotBusy
  rw [owners, evictExpired_owners, timeout]
  cases held : g.liveOwner pkt now with
  | none =>
    have vacant : h.owners (ownerIndex pkt) = none := by rw [owners, evictExpired_owners, held]
    have same : h.setOwner pkt none = h := by
      simp [setOwner, ← vacant]
    cases term : pkt.isTerminator <;> simp [same]
  | some owner =>
    have fresh := liveOwner_fresh held
    by_cases same : owner.source = source
    · cases term : pkt.isTerminator <;> simp [fresh, same]
    · simp [fresh, same]

theorem judge_eq (g : Guard) (source : String) (pkt : Packet) (now : Time) : g.judge source pkt now =
      if g.isEcho source pkt now then (g.evictExpired now, some .echo)
      else if g.isDuplicate source pkt now then (g.evictExpired now, some .duplicate)
      else if g.groupBusy source pkt now then (g.evictExpired now, some .group)
      else
        let grouped := if isGrouped pkt then ((g.evictExpired now).allowGroupLocked source pkt now).1
          else g.evictExpired now
        if g.slotBusy source pkt now then (grouped, some .slot)
        else
          ((grouped.setOwner pkt (if pkt.isTerminator then none
              else some { source, streamID := pkt.streamID, lastSeen := now })).noteIngress source pkt now,
            none) := by
  have echo : seenRecently (g.evictExpired now).recentEgress (echoKey source pkt) now g.echoTTL =
      g.isEcho source pkt now := seenRecently_deleteWhere _ _ _ le_rfl
  have duplicate : seenRecently (g.evictExpired now).recentIngress (ingressKey source pkt) now
      g.dedupTTL = g.isDuplicate source pkt now := seenRecently_deleteWhere _ _ _ le_rfl
  simp only [judge, evictExpired_echoTTL, evictExpired_dedupTTL, echo, duplicate]
  cases grouped : isGrouped pkt with
  | false =>
    have free : g.groupBusy source pkt now = false := by simp [groupBusy, grouped]
    have skipped : (pkt.groupCall && pkt.dst != 0) = false := grouped
    simp only [skipped, free, Bool.false_eq_true, if_false,
      takeSlot_evicted g (g.evictExpired now) source pkt now rfl rfl]
  | true =>
    have checked : (pkt.groupCall && pkt.dst != 0) = true := grouped
    simp only [checked, if_true]
    cases busy : g.groupBusy source pkt now with
    | true => simp only [allowGroupLocked_busy grouped busy, if_true]
    | false =>
      obtain ⟨table, left⟩ := allowGroupLocked_frame (g.evictExpired now) source pkt now
      have taken := takeSlot_evicted g ((g.evictExpired now).allowGroupLocked source pkt now).1
        source pkt now (by rw [left]) (by rw [left]; rfl)
      have allowed := allowGroupLocked_free grouped busy
      generalize (g.evictExpired now).allowGroupLocked source pkt now = answer at taken allowed ⊢
      obtain ⟨checked, verdict⟩ := answer
      subst allowed
      simp only [taken, Bool.false_eq_true, if_false]

section

variable (g source pkt now)

include g source pkt now

theorem judge_owners : ((g.judge source pkt now).2 = none ∧ g.slotBusy source pkt now = false ∧
      (g.judge source pkt now).1.owners = Function.update (g.evictExpired now).owners (ownerIndex pkt)
          (if pkt.isTerminator then none
            else some { source, streamID := pkt.streamID, lastSeen := now })) ∨
    (∃ refusal, (g.judge source pkt now).2 = some refusal ∧
      (g.judge source pkt now).1.owners = (g.evictExpired now).owners ∧
      (refusal = .slot → g.slotBusy source pkt now = true)) := by
  obtain ⟨table, left⟩ := allowGroupLocked_frame (g.evictExpired now) source pkt now
  rw [judge_eq]
  cases g.isEcho source pkt now with
  | true => exact .inr ⟨.echo, rfl, rfl, nofun⟩
  | false =>
    cases g.isDuplicate source pkt now with
    | true => exact .inr ⟨.duplicate, rfl, rfl, nofun⟩
    | false =>
      cases g.groupBusy source pkt now with
      | true => exact .inr ⟨.group, rfl, rfl, nofun⟩
      | false =>
        cases g.slotBusy source pkt now with
        | true =>
          refine .inr ⟨.slot, rfl, ?_, fun _ => rfl⟩
          cases isGrouped pkt <;> simp [left]
        | false =>
          refine .inl ⟨rfl, rfl, ?_⟩
          cases isGrouped pkt <;> simp [left, setOwner, noteIngress]

theorem judge_callTimeout : (g.judge source pkt now).1.callTimeout = g.callTimeout := by
  obtain ⟨table, left⟩ := allowGroupLocked_frame (g.evictExpired now) source pkt now
  simp only [judge_eq]
  repeat' split
  all_goals simp [left, setOwner, noteIngress]

theorem judge_recentEgress : (g.judge source pkt now).1.recentEgress = (g.evictExpired now).recentEgress ∧
      (g.judge source pkt now).1.echoTTL = g.echoTTL := by
  obtain ⟨table, left⟩ := allowGroupLocked_frame (g.evictExpired now) source pkt now
  simp only [judge_eq]
  repeat' split
  all_goals simp [left, setOwner, noteIngress]

theorem allowIngress_refused_iff : (g.allowIngress source pkt now).2 = false ↔
      g.isEcho source pkt now = true ∨ g.isDuplicate source pkt now = true ∨
        g.groupBusy source pkt now = true ∨ g.slotBusy source pkt now = true := by
  simp only [allowIngress]
  rw [judge_eq]
  cases g.isEcho source pkt now <;> cases g.isDuplicate source pkt now <;>
    cases g.groupBusy source pkt now <;> cases g.slotBusy source pkt now <;> simp

end

end Lemmas

inductive Call where
  | allowIngress (source : String) (pkt : Packet) (now : Time)
  | markForwarded (targetFrontend : String) (pkt : Packet) (now : Time)
deriving DecidableEq

def Call.now : Call → Time
  | .allowIngress _ _ now => now
  | .markForwarded _ _ now => now

def call (g : Guard) : Call → Guard
  | .allowIngress source pkt now => (g.allowIngress source pkt now).1
  | .markForwarded targetFrontend pkt now => g.markForwarded targetFrontend pkt now

end Guard

end Ipsc2Mmdvm.Repeater
