import Ipsc2Mmdvm.Data.Transitions
import Ipsc2Mmdvm.Hytera.Independence
import Mathlib.Data.List.Chain

namespace Ipsc2Mmdvm.Hytera

open Data Proto List Function Inbound

/-! The state of a slot is what the last packet of the slot says, so the packets of a slot are a
chain in which each one is determined by the one before. -/

structure Returned where
  now : Time
  pkt : Packet
deriving DecidableEq

def Returned.isHeader (r : Returned) : Bool := r.pkt.frameType == frameTypeDataSync && r.pkt.dtypeOrVSeq == 1

def hangTime (groupCall : Bool) : Duration := if groupCall then hyteraGroupCallHangTime else hyteraPrivateCallHangTime

def NewStream (earlier later : Returned) : Prop :=
  earlier.pkt.isTerminator = true ∨
    later.isHeader = true ∧
      (later.pkt.src ≠ earlier.pkt.src ∨ later.pkt.dst ≠ earlier.pkt.dst ∨ later.pkt.groupCall ≠ earlier.pkt.groupCall ∨
        hangTime later.pkt.groupCall < Time.sub later.now earlier.now)

def ofSlot (slot : Bool) (returned : List Returned) : List Returned := returned.filter fun r => r.pkt.slot == slot

structure Grammatical (returned : List Returned) : Prop where
  numbered : ∀ slot, (ofSlot slot returned).IsChain fun a b => b.pkt.seq.toNat = (a.pkt.seq.toNat + 1) % 256
  contiguous : ∀ slot a b c, [a, b, c].Sublist (ofSlot slot returned) → a.pkt.streamID = c.pkt.streamID →
    b.pkt.streamID = a.pkt.streamID
  oneSlot : ∀ a ∈ returned, ∀ b ∈ returned, a.pkt.streamID = b.pkt.streamID → a.pkt.slot = b.pkt.slot
  last : ∀ slot a b, [a, b].Sublist (ofSlot slot returned) → a.pkt.isTerminator = true →
    b.pkt.streamID ≠ a.pkt.streamID
  changes : ∀ slot, (ofSlot slot returned).IsChain fun a b => b.pkt.streamID ≠ a.pkt.streamID ↔ NewStream a b

/-- `streams` counts the stream IDs that were given out.  A panic ends the process. -/
structure InboundTrace where
  decoder : Decoder := {}
  returned : List Returned := []
  streams : Nat := 0
  panicked : Bool := false

section

variable (bridgeID : UInt32)

def InboundTrace.step (trace : InboundTrace) (datagram : Bytes × Time) : InboundTrace :=
  if trace.panicked then trace
  else
    match decodeToMMDVM bridgeID trace.decoder datagram.1 datagram.2 with
    | (decoder, .ok pkt) =>
      { trace with
        decoder
        returned := trace.returned ++ [⟨datagram.2, pkt⟩]
        streams := if decoder.nextStreamID = trace.decoder.nextStreamID then trace.streams else trace.streams + 1 }
    | (decoder, .error _) => { trace with decoder }
    | (decoder, .panic) => { trace with decoder, panicked := true }

def inboundRun (datagrams : List (Bytes × Time)) : InboundTrace := runFrom (InboundTrace.step bridgeID) {} datagrams

end

variable {inbound : Inbound} {trace : InboundTrace}

theorem kind_of_parsePayload {data : Bytes} {slotType : SlotType} {kind : UInt64 × UInt64}
    (parsed : parsePayload data slotType kind = .ok inbound) :
    inbound.slotType = slotType ∧ (inbound.frameType, inbound.dtype) = kind := by
  simp only [parsePayload] at parsed
  split at parsed
  · cases parsed
  · split at parsed
    · cases parsed
    · split at parsed
      · cases parsed
      · cases parsed
        exact ⟨rfl, rfl⟩

theorem decodeSlotType_of_parseInbound {data : Bytes} (parsed : parseInbound data = .ok inbound) :
    decodeSlotType inbound.slotType = some (inbound.frameType, inbound.dtype) := by
  simp only [parseInbound] at parsed
  split at parsed
  · cases parsed
  · split at parsed
    · cases parsed
    · split at parsed
      · cases parsed
      · rename_i slotType _
        split at parsed
        · cases parsed
        · rename_i kind decoded
          obtain ⟨sameType, sameKind⟩ := kind_of_parsePayload parsed
          rw [sameType, sameKind, decoded]

section

variable {bridgeID : UInt32} {inbound : Inbound} {seq : UInt8} {streamID : UInt32} {now : Time}

section

variable (kind : decodeSlotType inbound.slotType = some (inbound.frameType, inbound.dtype))

include kind

theorem isHeader_packet :
    Returned.isHeader ⟨now, inbound.packet bridgeID seq streamID⟩ = (inbound.slotType == .voiceLCHeader) := by
  simp only [Returned.isHeader, packet]
  generalize inbound.frameType = frameType at kind ⊢
  generalize inbound.dtype = dtype at kind ⊢
  generalize inbound.slotType = slotType at kind ⊢
  cases slotType <;> cases kind <;> rfl

theorem isTerminator_packet :
    (inbound.packet bridgeID seq streamID).isTerminator = (inbound.slotType == .terminator) := by
  simp only [Packet.isTerminator, packet]
  generalize inbound.frameType = frameType at kind ⊢
  generalize inbound.dtype = dtype at kind ⊢
  generalize inbound.slotType = slotType at kind ⊢
  cases slotType <;> cases kind <;> rfl

end

structure Remembers (st : SlotState) (r : Returned) : Prop where
  seq : r.pkt.seq.toNat = (st.mmdvmSeq.toNat + 255) % 256
  stream : st.streamID.toUInt64 = r.pkt.streamID
  active : st.active = !r.pkt.isTerminator
  src : st.inSrc = r.pkt.src
  dst : st.inDst = r.pkt.dst
  groupCall : st.inGroupCall = r.pkt.groupCall
  time : st.lastInbound = r.now

theorem remembers_accept (kind : decodeSlotType inbound.slotType = some (inbound.frameType, inbound.dtype)) (st : SlotState) :
    Remembers (st.accept inbound streamID now) ⟨now, inbound.packet bridgeID st.mmdvmSeq streamID⟩ where
  seq := by
    have small := st.mmdvmSeq.toNat_lt
    simp only [SlotState.accept, packet, UInt8.toNat_add, UInt8.toNat_toUInt64, UInt8.toNat_one]
    omega
  stream := rfl
  active := by
    rw [isTerminator_packet kind]
    rfl
  src := rfl
  dst := rfl
  groupCall := rfl
  time := rfl

theorem startsStream_iff {st : SlotState} {earlier : Returned} (remembers : Remembers st earlier) (running : 0 < earlier.now)
    (kind : decodeSlotType inbound.slotType = some (inbound.frameType, inbound.dtype)) :
    st.startsStream inbound now = true ↔ NewStream earlier ⟨now, inbound.packet bridgeID seq streamID⟩ := by
  have nonzero : earlier.now ≠ 0 := Nat.pos_iff_ne_zero.mp running
  rw [NewStream, isHeader_packet kind]
  simp only [SlotState.startsStream, shouldStartNewInboundStream, remembers.active, remembers.src, remembers.dst,
    remembers.groupCall, remembers.time, packet]
  cases earlier.pkt.isTerminator with
  | true => simp
  | false =>
    by_cases header : inbound.slotType = .voiceLCHeader
    · simp only [header, Bool.not_false, Bool.not_true, Bool.false_or, Bool.false_eq_true, false_or, if_false, bne_self_eq_false,
        beq_self_eq_true, true_and, Bool.or_eq_true, bne_iff_ne, ne_eq, Time.isZero, nonzero, decide_false]
      split
      · rename_i differs
        simp only [true_iff]
        rcases differs with (src | dst) | groupCall
        · exact .inl (Ne.symm src)
        · exact .inr (.inl (Ne.symm dst))
        · exact .inr (.inr (.inl (Ne.symm groupCall)))
      · rename_i same
        simp only [not_or, not_not] at same
        rw [decide_eq_true_iff]
        refine ⟨fun late => .inr (.inr (.inr late)), fun reason => ?_⟩
        rcases reason with src | dst | groupCall | late
        · exact absurd same.1.1.symm src
        · exact absurd same.1.2.symm dst
        · exact absurd same.2.symm groupCall
        · exact late
    · simp [header]

end

structure FollowedBy (earlier later : Returned) : Prop where
  seq : later.pkt.seq.toNat = (earlier.pkt.seq.toNat + 1) % 256
  next : NewStream earlier later → earlier.pkt.streamID < later.pkt.streamID
  same : ¬NewStream earlier later → later.pkt.streamID = earlier.pkt.streamID

structure Tracked (trace : InboundTrace) : Prop where
  next : trace.streams + 1 < 2 ^ 32 → trace.decoder.nextStreamID.toNat = trace.streams + 1
  running : ∀ r ∈ trace.returned, 0 < r.now
  bounded : ∀ r ∈ trace.returned, r.pkt.streamID.toNat ≤ trace.streams
  oneSlot : ∀ a ∈ trace.returned, ∀ b ∈ trace.returned, a.pkt.streamID = b.pkt.streamID → a.pkt.slot = b.pkt.slot
  chain : ∀ slot, (ofSlot slot trace.returned).IsChain FollowedBy
  remembers : ∀ slot, ∀ r ∈ (ofSlot slot trace.returned).getLast?, Remembers (trace.decoder.slots slot) r
  silent : ∀ slot, ofSlot slot trace.returned = [] → (trace.decoder.slots slot).active = false

theorem tracked_start : Tracked {} where
  next _ := rfl
  running := nofun
  bounded := nofun
  oneSlot := nofun
  chain _ := isChain_nil
  remembers _ := nofun
  silent _ _ := rfl

section

variable {bridgeID : UInt32} {trace : InboundTrace} {inbound : Inbound} {now : Time}

theorem ofSlot_concat (slot : Bool) (returned : List Returned) (r : Returned) :
    ofSlot slot (returned ++ [r]) = ofSlot slot returned ++ if r.pkt.slot = slot then [r] else [] := by
  rw [ofSlot, ofSlot, filter_append]
  congr 1
  by_cases same : r.pkt.slot = slot <;> simp [same]

theorem Tracked.append (tracked : Tracked trace) (running : 0 < now)
    (kind : decodeSlotType inbound.slotType = some (inbound.frameType, inbound.dtype)) {streamID next : UInt32} {streams : Nat}
    (numbering : streams + 1 < 2 ^ 32 → next.toNat = streams + 1) (grows : trace.streams ≤ streams)
    (within : streamID.toUInt64.toNat ≤ streams)
    (own : ∀ r ∈ trace.returned, r.pkt.streamID = streamID.toUInt64 → r.pkt.slot = inbound.slot)
    (follows : ∀ r ∈ (ofSlot inbound.slot trace.returned).getLast?,
      FollowedBy r ⟨now, inbound.packet bridgeID (trace.decoder.slots inbound.slot).mmdvmSeq streamID⟩) :
    Tracked
      { trace with
        decoder :=
          { slots := update trace.decoder.slots inbound.slot
              ((trace.decoder.slots inbound.slot).accept inbound streamID now)
            nextStreamID := next }
        returned := trace.returned ++ [⟨now, inbound.packet bridgeID (trace.decoder.slots inbound.slot).mmdvmSeq streamID⟩]
        streams } := by
  generalize packet : (⟨now, inbound.packet bridgeID (trace.decoder.slots inbound.slot).mmdvmSeq streamID⟩ : Returned) = new
    at follows ⊢
  have slot : new.pkt.slot = inbound.slot := by
    rw [← packet]
    rfl
  have stream : new.pkt.streamID = streamID.toUInt64 := by
    rw [← packet]
    rfl
  refine ⟨numbering, ?_, ?_, ?_, ?_, ?_, ?_⟩
  · refine forall_mem_append.mpr ⟨tracked.running, fun r member => ?_⟩
    rw [mem_singleton.mp member, ← packet]
    exact running
  · refine forall_mem_append.mpr ⟨fun r member => (tracked.bounded r member).trans grows, fun r member => ?_⟩
    rw [mem_singleton.mp member, stream]
    exact within
  · intro a memberA b memberB same
    obtain earlierA | newA := mem_append.mp memberA <;> obtain earlierB | newB := mem_append.mp memberB
    · exact tracked.oneSlot a earlierA b earlierB same
    · cases mem_singleton.mp newB
      exact (own a earlierA (same.trans stream)).trans slot.symm
    · cases mem_singleton.mp newA
      exact slot.trans (own b earlierB (same.symm.trans stream)).symm
    · cases mem_singleton.mp newA
      cases mem_singleton.mp newB
      rfl
  · intro other
    rw [ofSlot_concat, slot]
    split
    · rename_i same
      subst same
      refine (tracked.chain inbound.slot).append (isChain_singleton new) ?_
      intro r last first head
      cases head
      exact follows r last
    · rw [append_nil]
      exact tracked.chain other
  · intro other r last
    rw [ofSlot_concat, slot] at last
    split at last
    · rename_i same
      subst same
      rw [getLast?_concat] at last
      cases last
      dsimp only
      rw [update_self, ← packet]
      exact remembers_accept kind _
    · rename_i differs
      rw [append_nil] at last
      dsimp only
      rw [update_of_ne (Ne.symm differs)]
      exact tracked.remembers other r last
  · intro other empty
    rw [ofSlot_concat, slot] at empty
    split at empty
    · simp at empty
    · rename_i differs
      rw [append_nil] at empty
      dsimp only
      rw [update_of_ne (Ne.symm differs)]
      exact tracked.silent other empty

theorem nextStream_ne (id : UInt32) : nextStream id ≠ id := by
  simp only [nextStream]
  split
  · rename_i wraps
    intro same
    rw [← same] at wraps
    exact absurd wraps (by decide)
  · intro same
    have grown := congrArg UInt32.toNat same
    have small := id.toNat_lt
    rw [UInt32.toNat_add] at grown
    simp only [UInt32.toNat_one] at grown
    omega

theorem Remembers.seq_packet {st : SlotState} {r : Returned} (remembers : Remembers st r) (streamID : UInt32) :
    (inbound.packet bridgeID st.mmdvmSeq streamID).seq.toNat = (r.pkt.seq.toNat + 1) % 256 := by
  have small := st.mmdvmSeq.toNat_lt
  have number : (inbound.packet bridgeID st.mmdvmSeq streamID).seq.toNat = st.mmdvmSeq.toNat := UInt8.toNat_toUInt64 _
  rw [number, remembers.seq]
  omega

theorem Tracked.start (tracked : Tracked trace) (running : 0 < now) (few : trace.streams + 1 < 2 ^ 32)
    (kind : decodeSlotType inbound.slotType = some (inbound.frameType, inbound.dtype))
    (starts : (trace.decoder.slots inbound.slot).startsStream inbound now = true) :
    Tracked
      { trace with
        decoder :=
          { slots := update trace.decoder.slots inbound.slot
              ((trace.decoder.slots inbound.slot).accept inbound trace.decoder.nextStreamID now)
            nextStreamID := nextStream trace.decoder.nextStreamID }
        returned := trace.returned ++
          [⟨now, inbound.packet bridgeID (trace.decoder.slots inbound.slot).mmdvmSeq trace.decoder.nextStreamID⟩]
        streams := trace.streams + 1 } := by
  have number := tracked.next few
  have wide : trace.decoder.nextStreamID.toUInt64.toNat = trace.streams + 1 := by
    rw [UInt32.toNat_toUInt64, number]
  have above : ∀ r ∈ trace.returned, r.pkt.streamID < trace.decoder.nextStreamID.toUInt64 := by
    intro r member
    rw [UInt64.lt_iff_toNat_lt, wide]
    exact Nat.lt_succ_of_le (tracked.bounded r member)
  refine tracked.append running kind ?_ (Nat.le_succ _) (Nat.le_of_eq wide) ?_ ?_
  · intro room
    rw [toNat_nextStream (by omega), number]
  · intro r member same
    exact absurd same (UInt64.ne_of_lt (above r member))
  · intro r last
    have remembers := tracked.remembers inbound.slot r last
    have member : r ∈ trace.returned := mem_of_mem_filter (mem_of_getLast? last)
    refine ⟨remembers.seq_packet _, fun _ => above r member, fun continues => ?_⟩
    exact absurd ((startsStream_iff remembers (tracked.running r member) kind).mp starts) continues

theorem Tracked.goOn (tracked : Tracked trace) (running : 0 < now)
    (kind : decodeSlotType inbound.slotType = some (inbound.frameType, inbound.dtype))
    (continues : (trace.decoder.slots inbound.slot).startsStream inbound now = false) :
    Tracked
      { trace with
        decoder :=
          { slots := update trace.decoder.slots inbound.slot
              ((trace.decoder.slots inbound.slot).accept inbound (trace.decoder.slots inbound.slot).streamID now)
            nextStreamID := trace.decoder.nextStreamID }
        returned := trace.returned ++ [⟨now, inbound.packet bridgeID (trace.decoder.slots inbound.slot).mmdvmSeq
            (trace.decoder.slots inbound.slot).streamID⟩] } := by
  have active := SlotState.active_of_continues continues
  cases found : (ofSlot inbound.slot trace.returned).getLast? with
  | none =>
    have silent := tracked.silent inbound.slot (getLast?_eq_none_iff.mp found)
    rw [active] at silent
    cases silent
  | some last =>
    have remembers := tracked.remembers inbound.slot last found
    obtain ⟨member, slot⟩ := mem_filter.mp (mem_of_getLast? found)
    refine tracked.append running kind tracked.next (Nat.le_refl _) ?_ ?_ ?_
    · rw [remembers.stream]
      exact tracked.bounded last member
    · intro r earlier same
      rw [tracked.oneSlot r earlier last member (same.trans remembers.stream)]
      exact eq_of_beq slot
    · intro r latest
      cases found.symm.trans latest
      have steady : ¬NewStream last ⟨now, inbound.packet bridgeID (trace.decoder.slots inbound.slot).mmdvmSeq
          (trace.decoder.slots inbound.slot).streamID⟩ := by
        rw [← startsStream_iff remembers (tracked.running last member) kind, continues]
        exact Bool.false_ne_true
      exact ⟨remembers.seq_packet _, fun changes => absurd changes steady, fun _ => remembers.stream⟩

theorem Tracked.step (tracked : Tracked trace) {datagram : Bytes × Time} (running : 0 < datagram.2)
    (few : (trace.step bridgeID datagram).streams < 2 ^ 32) : Tracked (trace.step bridgeID datagram) := by
  simp only [InboundTrace.step] at few ⊢
  split at few
  · rename_i panicked
    rw [if_pos panicked]
    exact tracked
  · rename_i running'
    rw [if_neg running']
    cases parsed : parseInbound datagram.1 with
    | error reason =>
      simp only [decodeToMMDVM, parsed]
      exact tracked
    | panic =>
      simp only [decodeToMMDVM, parsed]
      exact ⟨tracked.next, tracked.running, tracked.bounded, tracked.oneSlot, tracked.chain, tracked.remembers, tracked.silent⟩
    | ok inbound =>
      have kind := decodeSlotType_of_parseInbound parsed
      simp only [decodeToMMDVM, parsed, Decoder.accept] at few ⊢
      cases repeats : (trace.decoder.slots inbound.slot).repeats inbound.seqIn with
      | true =>
        simp only [if_true]
        exact tracked
      | false =>
        simp only [repeats, Bool.false_eq_true, if_false] at few ⊢
        cases starts : (trace.decoder.slots inbound.slot).startsStream inbound datagram.2 with
        | true =>
          simp only [starts, if_true, nextStream_ne, if_false] at few ⊢
          exact tracked.start running few kind starts
        | false =>
          simp only [Bool.false_eq_true, if_false, if_true]
          exact tracked.goOn running kind starts

theorem streams_step (trace : InboundTrace) (datagram : Bytes × Time) :
    trace.streams ≤ (trace.step bridgeID datagram).streams := by
  simp only [InboundTrace.step]
  split
  · exact Nat.le_refl _
  · split
    · dsimp only
      split
      · exact Nat.le_refl _
      · exact Nat.le_succ _
    · exact Nat.le_refl _
    · exact Nat.le_refl _

theorem tracked_run {datagrams : List (Bytes × Time)} (running : ∀ datagram ∈ datagrams, 0 < datagram.2)
    (few : (inboundRun bridgeID datagrams).streams < 2 ^ 32) : Tracked (inboundRun bridgeID datagrams) := by
  induction datagrams using reverseRecOn with
  | nil => exact tracked_start
  | append_singleton earlier datagram ih =>
    simp only [inboundRun, runFrom_append, runFrom_cons, runFrom_nil] at few ih ⊢
    refine Tracked.step (ih (fun other member => running other (mem_append_left _ member)) ?_)
      (running datagram (by simp)) few
    exact Nat.lt_of_le_of_lt (streams_step _ datagram) few

end

def Ordered (a b : Returned) : Prop :=
  a.pkt.streamID ≤ b.pkt.streamID ∧ (a.pkt.isTerminator = true → a.pkt.streamID < b.pkt.streamID)

instance : IsTrans Returned Ordered where
  trans a b c first second := by
    refine ⟨UInt64.le_trans first.1 second.1, fun terminator => ?_⟩
    exact UInt64.lt_of_lt_of_le (first.2 terminator) second.1

theorem FollowedBy.ordered {a b : Returned} (follows : FollowedBy a b) : Ordered a b := by
  by_cases changes : NewStream a b
  · exact ⟨UInt64.le_of_lt (follows.next changes), fun _ => follows.next changes⟩
  · refine ⟨?_, fun terminator => absurd (.inl terminator) changes⟩
    rw [follows.same changes]
    exact UInt64.le_refl _

theorem Tracked.ordered (tracked : Tracked trace) (slot : Bool) : (ofSlot slot trace.returned).Pairwise Ordered :=
  isChain_iff_pairwise.mp ((tracked.chain slot).imp fun _ _ follows => follows.ordered)

theorem Tracked.grammatical (tracked : Tracked trace) : Grammatical trace.returned where
  numbered slot := (tracked.chain slot).imp fun _ _ follows => follows.seq
  contiguous slot a b c within same := by
    have ordered := (tracked.ordered slot).sublist within
    simp only [pairwise_cons, mem_cons, not_mem_nil, or_false, forall_eq_or_imp, forall_eq] at ordered
    have lower := ordered.1.1.1
    have upper := ordered.2.1.1
    rw [← same] at upper
    exact UInt64.le_antisymm upper lower
  oneSlot := tracked.oneSlot
  last slot a b within terminator := by
    have ordered := pairwise_pair.mp ((tracked.ordered slot).sublist within)
    exact (UInt64.ne_of_lt (ordered.2 terminator)).symm
  changes slot := by
    refine (tracked.chain slot).imp fun a b follows => ⟨fun differs => ?_, fun changes => ?_⟩
    · by_contra steady
      exact differs (follows.same steady)
    · exact (UInt64.ne_of_lt (follows.next changes)).symm

theorem step_of_error {bridgeID : UInt32} {datagram : Bytes × Time} {reason : DecodeError}
    (failed : (decodeToMMDVM bridgeID trace.decoder datagram.1 datagram.2).2 = .error reason) :
    trace.step bridgeID datagram = trace := by
  simp only [InboundTrace.step]
  split
  · rfl
  · cases parsed : parseInbound datagram.1 with
    | error _ => simp only [decodeToMMDVM, parsed]
    | panic => simp [decodeToMMDVM, parsed] at failed
    | ok inbound =>
      simp only [decodeToMMDVM, parsed, Decoder.accept] at failed ⊢
      split at failed
      · rename_i repeats
        simp only [repeats, if_true]
      · cases failed

/-- For every sequence of datagrams with less than `2 ^ 32` streams, the packets returned have the
grammar of streams; and a datagram that is answered with an error might as well not have come. -/
theorem hytera_inbound_grammar (bridgeID : UInt32) (datagrams : List (Bytes × Time))
    (running : ∀ datagram ∈ datagrams, 0 < datagram.2) (few : (inboundRun bridgeID datagrams).streams < 2 ^ 32) :
    Grammatical (inboundRun bridgeID datagrams).returned ∧
      ∀ before datagram after reason, datagrams = before ++ datagram :: after →
        (decodeToMMDVM bridgeID (inboundRun bridgeID before).decoder datagram.1 datagram.2).2 = .error reason →
        (inboundRun bridgeID datagrams).returned = (inboundRun bridgeID (before ++ after)).returned := by
  refine ⟨(tracked_run running few).grammatical, ?_⟩
  intro before datagram after reason split failed
  subst split
  simp only [inboundRun, runFrom_append, runFrom_cons] at failed ⊢
  rw [step_of_error failed]

theorem hytera_inbound_grammar_three_streams :
    (inboundRun 7 [(sampleDatagram 1 1, 1000000000), (sampleDatagram 1 1, 2000000000), (sampleDatagram 2 1, 9000000000),
        (sampleDatagram 3 2, 9500000000)]).returned.map (fun r => (r.pkt.slot, r.pkt.seq, r.pkt.streamID)) =
        [(false, 0, 1), (false, 1, 2), (true, 0, 3)] ∧
      Grammatical (inboundRun 7 [(sampleDatagram 1 1, 1000000000), (sampleDatagram 1 1, 2000000000),
        (sampleDatagram 2 1, 9000000000), (sampleDatagram 3 2, 9500000000)]).returned :=
  ⟨by decide +kernel, (hytera_inbound_grammar 7 _ (by decide +kernel) (by decide +kernel)).1⟩

end Ipsc2Mmdvm.Hytera
