import Ipsc2Mmdvm.Data.Transitions
import Ipsc2Mmdvm.Hytera.Decode
import Ipsc2Mmdvm.Ipsc.Steps
import Ipsc2Mmdvm.Timeslot.Manager
import Mathlib.Data.Fintype.Basic

namespace Ipsc2Mmdvm.Bridge

open Data Proto Timeslot Function
open List hiding Vector

/-! Every IPSC peer has a translator of its own, and the Hytera server numbers its streams by
itself.  A packet that was emitted is in flight until its handler is done with it. -/

inductive Source (κ : Type) where
  | moto (peer : κ)
  | hytera
deriving DecidableEq

structure Ingress (κ : Type) where
  translators : κ → Ipsc.Translator
  hytera : Hytera.Decoder
  manager : Manager Packet
  inFlight : List (Source κ × Packet)
  /-- Whose packets the slot took since it was last released or reclaimed. -/
  granted : Bool → List (Source κ)

def Ingress.start (κ : Type) (timeout : Duration) : Ingress κ where
  translators _ := Ipsc.newIPSCTranslator
  hytera := {}
  manager := (newManager Packet).setTimeout timeout
  inFlight := []
  granted _ := []

inductive IngressEvent (κ : Type) where
  | moto (peer : κ) (env : Ipsc.ReverseEnv) (packetType : UInt8) (data : Bytes)
  | hytera (data : Bytes) (now : Time)
  | submit (i : Nat) (slot : Bool) (network : String) (now : Time)
  | foreign (pkt : Packet) (slot : Bool) (network : String) (now : Time)
  | done (i : Nat)
  | release (slot : Bool) (streamID : UInt64) (now : Time)

def holdsSlot (ss : SlotState Packet) (streamID : UInt64) : Bool :=
  ss.active.any fun call => call.streamID == streamID

section

variable {κ : Type}

def Ingress.emit (s : Ingress κ) (source : Source κ) (pkts : List Packet) : Ingress κ :=
  { s with inFlight := s.inFlight ++ pkts.map fun pkt => (source, pkt) }

def Ingress.submit (s : Ingress κ) (source : Option (Source κ)) (pkt : Packet) (slot : Bool) (network : String)
    (now : Time) : Ingress κ :=
  let result := s.manager.submit slot pkt.streamID network pkt now
  let earlier := if holdsSlot (s.manager.slot slot) pkt.streamID then s.granted slot else []
  { s with
    manager := result.1
    granted := if result.2 then Function.update s.granted slot (earlier ++ source.toList) else s.granted }

def Ingress.release (s : Ingress κ) (slot : Bool) (streamID : UInt64) (now : Time) : Ingress κ :=
  { s with
    manager := (s.manager.release slot streamID now).1
    granted :=
      if holdsSlot (s.manager.slot slot) streamID then Function.update s.granted slot [] else s.granted }

def Ingress.step [DecidableEq κ] (dmrgo : Ipsc.Dmrgo) (bridgeID : UInt32) (s : Ingress κ) :
    IngressEvent κ → Ingress κ
  | .moto peer env packetType data =>
    match (s.translators peer).translateToMMDVM dmrgo env packetType data with
    | .error _ => s
    | .ok (t, pkts) => { s with translators := Function.update s.translators peer t }.emit (.moto peer) pkts
  | .hytera data now =>
    match Hytera.decodeToMMDVM bridgeID s.hytera data now with
    | (decoder, .ok pkt) => { s with hytera := decoder }.emit .hytera [pkt]
    | (decoder, _) => { s with hytera := decoder }
  | .submit i slot network now =>
    match s.inFlight[i]? with
    | none => s
    | some (source, pkt) => s.submit (some source) pkt slot network now
  | .foreign pkt slot network now => s.submit none pkt slot network now
  | .done i => { s with inFlight := s.inFlight.eraseIdx i }
  | .release slot streamID now => s.release slot streamID now

def Ingress.Active (s : Ingress κ) (source : Source κ) (id : UInt32) : Prop :=
  match source with
  | .moto peer => (s.translators peer).HasStream id
  | .hytera => s.hytera.HasStream id

/-- Calls of different sources have different stream IDs, and no slot takes packets of
two sources in turn. -/
structure Ingress.Safe (s : Ingress κ) : Prop where
  calls : ∀ a b id, a ≠ b → s.Active a id → ¬ s.Active b id
  packets : ∀ a pkt, (a, pkt) ∈ s.inFlight → ∀ b id, a ≠ b → s.Active b id → pkt.streamID ≠ id.toUInt64
  grants : ∀ slot, ∀ a ∈ s.granted slot, ∀ b ∈ s.granted slot, a = b

structure Ingress.Unused (s : Ingress κ) (source : Source κ) (id : UInt32) : Prop where
  calls : ∀ other, other ≠ source → ¬ s.Active other id
  packets : ∀ entry ∈ s.inFlight, entry.1 ≠ source → entry.2.streamID ≠ id.toUInt64
  slots : ∀ slot, holdsSlot (s.manager.slot slot) id.toUInt64 = false

def Ingress.FreshNumber (s : Ingress κ) : IngressEvent κ → Prop
  | .moto peer _ _ data =>
    (s.translators peer).knows data = false → s.Unused (.moto peer) (s.translators peer).nextNumber
  | .hytera data now => s.hytera.Starts data now s.hytera.nextStreamID → s.Unused .hytera s.hytera.nextStreamID
  | _ => True

section

variable [DecidableEq κ] [Fintype κ]

instance Source.decidableForall {p : Source κ → Prop} [DecidablePred p] : Decidable (∀ source, p source) :=
  decidable_of_iff ((∀ peer, p (.moto peer)) ∧ p .hytera) ⟨fun holds source => source.casesOn holds.1 holds.2,
    fun holds => ⟨fun peer => holds (.moto peer), holds .hytera⟩⟩

instance (s : Ingress κ) : ∀ source id, Decidable (s.Active source id)
  | .moto peer, id => inferInstanceAs (Decidable ((s.translators peer).HasStream id))
  | .hytera, id => inferInstanceAs (Decidable (s.hytera.HasStream id))

instance (s : Ingress κ) (source : Source κ) (id : UInt32) : Decidable (s.Unused source id) :=
  decidable_of_iff
    ((∀ other, other ≠ source → ¬ s.Active other id) ∧
      (∀ entry ∈ s.inFlight, entry.1 ≠ source → entry.2.streamID ≠ id.toUInt64) ∧
      ∀ slot, holdsSlot (s.manager.slot slot) id.toUInt64 = false)
    ⟨fun ⟨calls, packets, slots⟩ => ⟨calls, packets, slots⟩, fun unused => ⟨unused.calls, unused.packets, unused.slots⟩⟩

instance (s : Ingress κ) : ∀ event, Decidable (s.FreshNumber event)
  | .moto _ _ _ _ => inferInstanceAs (Decidable (_ → _))
  | .hytera _ _ => inferInstanceAs (Decidable (_ → _))
  | .submit _ _ _ _ => .isTrue trivial
  | .foreign _ _ _ _ => .isTrue trivial
  | .done _ => .isTrue trivial
  | .release _ _ _ => .isTrue trivial

end

structure Held (uses : Source κ → UInt64 → Prop) (ss : SlotState Packet) (granted : List (Source κ)) : Prop where
  held : ∀ a ∈ granted, ∃ call, ss.active = some call ∧ ∀ b, uses b call.streamID → b = a
  grants : ∀ a ∈ granted, ∀ b ∈ granted, a = b

variable {uses : Source κ → UInt64 → Prop} {ss : SlotState Packet} {granted : List (Source κ)}

theorem held_nil : Held uses ss [] where
  held := by simp
  grants := by simp

theorem held_claim {source : Option (Source κ)} {call : ActiveCall} (active : ss.active = some call)
    (owner : ∀ a ∈ source, ∀ b, uses b call.streamID → b = a) : Held uses ss source.toList where
  held a member := ⟨call, active, owner a (Option.mem_toList.mp member)⟩
  grants a member b member' := by
    rw [Option.mem_toList] at member member'
    exact Option.mem_unique member member'

theorem Held.submit (held : Held uses ss granted) {source : Option (Source κ)} {pkt : Packet} (timeout : Duration)
    (network : String) (now : Time)
    (owner : ∀ a ∈ source, uses a pkt.streamID ∧ ∀ b, uses b pkt.streamID → b = a) :
    Held uses (ss.submit timeout pkt.streamID network pkt now).1
      (if (ss.submit timeout pkt.streamID network pkt now).2 then
        (if holdsSlot ss pkt.streamID then granted else []) ++ source.toList
      else granted) := by
  rcases SlotState.submit_cases timeout ss pkt.streamID network pkt now with
    ⟨free, result⟩ | ⟨call, busy, same, result⟩ | ⟨call, busy, differ, _, result⟩ |
    ⟨call, busy, _, _, _, result⟩ | ⟨call, ps, busy, _, _, _, result⟩
  · rw [result]
    have unheld : holdsSlot ss pkt.streamID = false := by simp [holdsSlot, free]
    simp only [unheld, if_true, Bool.false_eq_true, if_false, nil_append]
    exact held_claim rfl fun a named => (owner a named).2
  · rw [result]
    have holding : holdsSlot ss pkt.streamID = true := by simp [holdsSlot, busy, same]
    simp only [holding, if_true]
    have held' : ∀ a ∈ granted ++ source.toList, ∀ b, uses b pkt.streamID → b = a := by
      intro a member
      obtain earlier | named := mem_append.mp member
      · obtain ⟨call', active, unique⟩ := held.held a earlier
        rw [busy] at active
        cases active
        exact same ▸ unique
      · exact (owner a (Option.mem_toList.mp named)).2
    refine ⟨fun a member => ⟨_, rfl, fun b used => held' a member b (same ▸ used)⟩, ?_⟩
    intro a member b member'
    obtain earlier | named := mem_append.mp member
    · obtain earlier' | named' := mem_append.mp member'
      · exact held.grants a earlier b earlier'
      · exact (held' a member b (owner b (Option.mem_toList.mp named')).1).symm
    · exact held' b member' a (owner a (Option.mem_toList.mp named)).1
  · rw [result]
    have unheld : holdsSlot ss pkt.streamID = false := by simp [holdsSlot, busy, differ]
    simp only [unheld, if_true, Bool.false_eq_true, if_false, nil_append]
    exact held_claim rfl fun a named => (owner a named).2
  · rw [result]
    exact ⟨held.held, held.grants⟩
  · rw [result]
    exact ⟨held.held, held.grants⟩

theorem Held.release (held : Held uses ss granted) (streamID : UInt64) (now : Time) :
    Held uses (ss.release streamID now).1 (if holdsSlot ss streamID then [] else granted) := by
  by_cases holding : holdsSlot ss streamID
  · rw [if_pos holding]
    exact held_nil
  · rw [if_neg holding]
    rcases SlotState.release_cases ss streamID now with
      ⟨_, result⟩ | ⟨call, busy, same, _⟩ | ⟨call, next, rest, busy, same, _⟩
    · rw [result]
      exact held
    · exact absurd (by simp [holdsSlot, busy, same]) holding
    · exact absurd (by simp [holdsSlot, busy, same]) holding

def Ingress.Uses (s : Ingress κ) (source : Source κ) (number : UInt64) : Prop :=
  (∃ id, s.Active source id ∧ id.toUInt64 = number) ∨ ∃ pkt, (source, pkt) ∈ s.inFlight ∧ pkt.streamID = number

structure Ingress.Separated (s : Ingress κ) : Prop where
  single : ∀ a b number, s.Uses a number → s.Uses b number → a = b
  slots : ∀ slot, Held s.Uses (s.manager.slot slot) (s.granted slot)

variable {dmrgo : Ipsc.Dmrgo} {bridgeID : UInt32} {s after : Ingress κ} {source : Source κ}

theorem Ingress.Separated.safe (separated : s.Separated) : s.Safe where
  calls a b id differ active active' := differ (separated.single a b _ (.inl ⟨id, active, rfl⟩) (.inl ⟨id, active', rfl⟩))
  packets a pkt member b id differ active equal :=
    differ (separated.single a b _ (.inr ⟨pkt, member, rfl⟩) (.inl ⟨id, active, equal.symm⟩))
  grants slot := (separated.slots slot).grants

theorem Ingress.start_separated (timeout : Duration) : (Ingress.start κ timeout).Separated where
  single a b number uses := by
    obtain ⟨id, active, _⟩ | ⟨pkt, member, _⟩ := uses
    · cases a with
      | moto peer =>
        obtain ⟨callControl, rss, present, _⟩ := active
        simp [Ingress.start, Ipsc.newIPSCTranslator] at present
      | hytera =>
        obtain ⟨slot, active, _⟩ := active
        simp [Ingress.start] at active
    · simp [Ingress.start] at member
  slots _ := held_nil

theorem Ingress.Unused.owner {id : UInt32} (unused : s.Unused source id) {other : Source κ}
    (uses : s.Uses other id.toUInt64) : other = source := by
  by_contra differ
  obtain ⟨id', active, equal⟩ | ⟨pkt, member, equal⟩ := uses
  · exact unused.calls other differ (UInt32.toUInt64_inj.mp equal ▸ active)
  · exact unused.packets _ member differ equal

theorem Ingress.Separated.extend (separated : s.Separated) (source : Source κ) (manager : after.manager = s.manager)
    (granted : after.granted = s.granted)
    (uses : ∀ a number, after.Uses a number →
      s.Uses a number ∨ (a = source ∧ ∃ id, number = id.toUInt64 ∧ s.Unused source id)) :
    after.Separated where
  single a b number usesA usesB := by
    cases uses a number usesA with
    | inl olderA =>
      cases uses b number usesB with
      | inl olderB => exact separated.single a b number olderA olderB
      | inr newB =>
        obtain ⟨rfl, id, rfl, unused⟩ := newB
        exact unused.owner olderA
    | inr newA =>
      obtain ⟨rfl, id, rfl, unused⟩ := newA
      cases uses b _ usesB with
      | inl olderB => exact (unused.owner olderB).symm
      | inr newB => exact newB.1.symm
  slots slot := by
    rw [manager, granted]
    refine ⟨fun a member => ?_, (separated.slots slot).grants⟩
    obtain ⟨call, active, owner⟩ := (separated.slots slot).held a member
    refine ⟨call, active, fun b usesB => ?_⟩
    cases uses b call.streamID usesB with
    | inl older => exact owner b older
    | inr new =>
      obtain ⟨_, id, equal, unused⟩ := new
      have free := unused.slots slot
      simp [holdsSlot, active, equal] at free

theorem Ingress.Separated.emit (separated : s.Separated) {pkts : List Packet}
    (manager : after.manager = s.manager) (granted : after.granted = s.granted) (inFlight : after.inFlight = s.inFlight)
    (others : ∀ a id, a ≠ source → after.Active a id → s.Active a id)
    (remains : ∀ id, after.Active source id → s.Active source id ∨ s.Unused source id)
    (carried : ∀ pkt ∈ pkts, ∃ id, pkt.streamID = id.toUInt64 ∧ (s.Active source id ∨ s.Unused source id)) :
    (after.emit source pkts).Separated := by
  refine separated.extend source manager granted ?_
  intro a number uses
  obtain ⟨id, active, rfl⟩ | ⟨pkt, member, rfl⟩ := uses
  · by_cases same : a = source
    · subst same
      cases remains id active with
      | inl older => exact .inl (.inl ⟨id, older, rfl⟩)
      | inr unused => exact .inr ⟨rfl, id, rfl, unused⟩
    · exact .inl (.inl ⟨id, others a id same active, rfl⟩)
  · simp only [Ingress.emit, inFlight, mem_append, mem_map, Prod.mk.injEq] at member
    obtain older | ⟨new, emitted, rfl, rfl⟩ := member
    · exact .inl (.inr ⟨pkt, older, rfl⟩)
    · obtain ⟨id, equal, older | unused⟩ := carried new emitted
      · exact .inl (.inl ⟨id, older, equal.symm⟩)
      · exact .inr ⟨rfl, id, equal, unused⟩

theorem Ingress.Separated.moto [DecidableEq κ] (separated : s.Separated) {peer : κ} {env : Ipsc.ReverseEnv} {packetType : UInt8}
    {data : Bytes} (fresh : s.FreshNumber (.moto peer env packetType data)) :
    (s.step dmrgo bridgeID (.moto peer env packetType data)).Separated := by
  simp only [Ingress.step]
  cases translated : (s.translators peer).translateToMMDVM dmrgo env packetType data with
  | error reason => exact separated
  | ok result =>
    obtain ⟨t, pkts⟩ := result
    have numbered := Ipsc.translateToMMDVM_numbered packetType _ translated
    have unused : ∀ id, (s.translators peer).Starts data id → s.Unused (.moto peer) id := by
      intro id starts
      rw [starts.2]
      exact fresh starts.1
    refine separated.emit rfl rfl rfl ?_ ?_ ?_
    · intro a id differ active
      cases a with
      | moto other =>
        have distinct : other ≠ peer := fun equal => differ (congrArg Source.moto equal)
        simpa [Ingress.Active, update_of_ne distinct] using active
      | hytera => exact active
    · intro id active
      simp only [Ingress.Active, update_self] at active
      exact (numbered.remains id active).imp_right (unused id)
    · intro pkt member
      obtain ⟨id, equal, stream⟩ := numbered.carried pkt member
      exact ⟨id, equal, stream.imp_right (unused id)⟩

theorem Ingress.emit_nil : s.emit source [] = s := by simp [Ingress.emit]

section

variable (separated : s.Separated)

include separated

theorem Ingress.Separated.hytera [DecidableEq κ] {data : Bytes} {now : Time}
    (fresh : s.FreshNumber (.hytera data now)) : (s.step dmrgo bridgeID (.hytera data now)).Separated := by
  cases decoded : Hytera.decodeToMMDVM bridgeID s.hytera data now with
  | mk decoder result =>
    obtain ⟨carried, remains⟩ := Hytera.decodeToMMDVM_numbered decoded
    have unused : ∀ id, s.hytera.Starts data now id → s.Unused .hytera id := by
      intro id starts
      have equal : id = s.hytera.nextStreamID := by
        simp only [Hytera.Decoder.Starts] at starts
        split at starts
        · exact starts.2
        · exact starts.elim
      subst equal
      exact fresh starts
    have emits : ∀ pkts : List Packet, (∀ pkt ∈ pkts, result = .ok pkt) →
        ({ s with hytera := decoder }.emit .hytera pkts).Separated := by
      intro pkts accepted
      refine separated.emit rfl rfl rfl ?_ ?_ ?_
      · intro a id differ active
        cases a with
        | moto other => exact active
        | hytera => exact absurd rfl differ
      · exact fun id active => (remains id active).imp_right (unused id)
      · intro pkt member
        obtain ⟨id, equal, stream⟩ := carried pkt (accepted pkt member)
        exact ⟨id, equal, stream.imp_right (unused id)⟩
    simp only [Ingress.step, decoded]
    cases result with
    | ok pkt => exact emits [pkt] (by simp)
    | error | panic => simpa [Ingress.emit_nil] using emits [] (by simp)

theorem Ingress.Separated.done (i : Nat) :
    { s with inFlight := s.inFlight.eraseIdx i }.Separated := by
  refine separated.extend .hytera rfl rfl fun a number uses => ?_
  exact .inl (uses.imp_right fun ⟨pkt, member, equal⟩ => ⟨pkt, mem_of_mem_eraseIdx member, equal⟩)

theorem Ingress.Separated.submit {source : Option (Source κ)} {pkt : Packet} {slot : Bool}
    {network : String} {now : Time} (named : ∀ a ∈ source, s.Uses a pkt.streamID) :
    (s.submit source pkt slot network now).Separated where
  single := separated.single
  slots other := by
    by_cases same : other = slot
    · subst same
      have owner : ∀ a ∈ source, s.Uses a pkt.streamID ∧ ∀ b, s.Uses b pkt.streamID → b = a := by
        intro a member
        exact ⟨named a member, fun b used => separated.single b a _ used (named a member)⟩
      simp only [Ingress.submit, submit_slot, ite_apply, update_self]
      exact (separated.slots other).submit s.manager.timeout network now owner
    · have kept : (s.submit source pkt slot network now).granted other = s.granted other := by
        simp only [Ingress.submit]
        split
        · exact update_of_ne same _ _
        · rfl
      rw [kept]
      simp only [Ingress.submit, submit_slot_other same]
      exact separated.slots other

theorem Ingress.Separated.release (slot : Bool) (streamID : UInt64) (now : Time) :
    (s.release slot streamID now).Separated where
  single := separated.single
  slots other := by
    by_cases same : other = slot
    · subst same
      simp only [Ingress.release, release_slot, ite_apply, update_self]
      exact (separated.slots other).release streamID now
    · have kept : (s.release slot streamID now).granted other = s.granted other := by
        simp only [Ingress.release]
        split
        · exact update_of_ne same _ _
        · rfl
      rw [kept]
      simp only [Ingress.release, release_slot_other same]
      exact separated.slots other

theorem Ingress.Separated.step [DecidableEq κ] (event : IngressEvent κ)
    (fresh : s.FreshNumber event) : (s.step dmrgo bridgeID event).Separated := by
  cases event with
  | moto peer env packetType data => exact separated.moto fresh
  | hytera data now => exact separated.hytera fresh
  | submit i slot network now =>
    simp only [Ingress.step]
    cases found : s.inFlight[i]? with
    | none => exact separated
    | some entry =>
      apply separated.submit
      intro a member
      cases member
      exact .inr ⟨entry.2, mem_of_getElem? found, rfl⟩
  | foreign pkt slot network now => exact separated.submit (by simp)
  | done i => exact separated.done i
  | release slot streamID now => exact separated.release slot streamID now

end

/-- Sources that give their calls unused numbers keep them apart. -/
theorem streams_separate_calls [DecidableEq κ] (dmrgo : Ipsc.Dmrgo) (bridgeID : UInt32) (timeout : Duration)
    (events : List (IngressEvent κ))
    (fresh : EachStep (Ingress.step dmrgo bridgeID) Ingress.FreshNumber (Ingress.start κ timeout) events) :
    EachState (Ingress.step dmrgo bridgeID) Ingress.Safe (Ingress.start κ timeout) events := by
  have separated := fresh.eachState (fun _ event separated fresh => Ingress.Separated.step separated event fresh)
    (Ingress.start_separated timeout)
  exact separated.mono fun _ separated => separated.safe

end

def silentDmrgo : Ipsc.Dmrgo where
  decodeFromBits _ _ := none
  encodeFullLC _ := none
  encodeBurst _ := Vector.replicate 33 0

def motoEnv (now : Time) : Ipsc.ReverseEnv where
  now
  byTuple := .ranked UInt32.toNat fun _ _ => UInt32.toNat.inj
  byPeer := .ranked UInt32.toNat fun _ _ => UInt32.toNat.inj

def motoPacket (callInfo burstType : UInt8) : Bytes :=
  List.replicate 17 0 ++ [callInfo] ++ List.replicate 12 0 ++ [burstType] ++ List.replicate 21 0

def motoVoice (peer : Bool) (now : Time) : IngressEvent Bool :=
  .moto peer (motoEnv now) 0x80 (motoPacket 0 Ipsc.ipscBurstSlot1)

def motoEnd (peer : Bool) (now : Time) : IngressEvent Bool :=
  .moto peer (motoEnv now) 0x80 (motoPacket 0x40 Ipsc.ipscBurstVoiceTerm)

theorem streams_separate_calls_one_after_another :
    EachState (Ingress.step silentDmrgo 7) Ingress.Safe (Ingress.start Bool (3 * second))
      [motoVoice false 1, .submit 0 false "ipsc" 1, .done 0, motoEnd false 2, .submit 0 false "ipsc" 2, .done 0,
        .release false 1 2, motoVoice true 3, .submit 0 false "ipsc" 3] := by
  apply streams_separate_calls
  decide +kernel

/-- The first call of every translator has the number 1. -/
theorem first_calls_share_number :
    ¬ EachState (Ingress.step silentDmrgo 7) Ingress.Safe (Ingress.start Bool (3 * second))
      [motoVoice false 1, motoVoice true 1, .submit 0 false "ipsc" 1, .submit 1 false "ipsc" 2] := by
  intro safe
  obtain ⟨_, _, _, _, last⟩ := safe
  have same := last.grants false (.moto false) (by decide +kernel) (.moto true) (by decide +kernel)
  cases same

end Ipsc2Mmdvm.Bridge
