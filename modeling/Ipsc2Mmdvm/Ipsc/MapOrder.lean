import Ipsc2Mmdvm.Data.Transitions
import Ipsc2Mmdvm.Ipsc.Wire

namespace Ipsc2Mmdvm.Ipsc

open Data Proto Option

/-! A packet whose identifier is unknown goes to the first recent stream that a loop meets.  Two
runs are compared that differ in the orders of these loops. -/

structure IPSCTranslator where
  reverse : Translator
  forward : Forward

inductive TranslatorCall where
  | translateToMMDVM (now : Time) (packetType : UInt8) (data : Bytes)
  | translateToIPSC (now seen : Time) (pkt : Packet)

structure SearchOrders where
  byTuple : Enumeration UInt32
  byPeer : Enumeration UInt32
  streams : Enumeration UInt32

def SearchOrders.reverseEnv (orders : SearchOrders) (now : Time) : ReverseEnv := ⟨now, orders.byTuple, orders.byPeer⟩

def SearchOrders.forwardEnv (orders : SearchOrders) (now seen : Time) : ForwardEnv := ⟨now, seen, orders.streams⟩

inductive Emitted where
  | packets (pkts : List Packet)
  | data (sent : List Bytes)
deriving DecidableEq

namespace IPSCTranslator

def call (lib : BurstLibrary) (t : IPSCTranslator) (orders : SearchOrders) :
    TranslatorCall → Checked (IPSCTranslator × Emitted)
  | .translateToMMDVM now packetType data =>
    (t.reverse.translateToMMDVM lib.toDmrgo (orders.reverseEnv now) packetType data).map fun result =>
      ({ t with reverse := result.1 }, .packets result.2)
  | .translateToIPSC now seen pkt =>
    let result := t.forward.translateToIPSC lib (orders.forwardEnv now seen) pkt
    .ok ({ t with forward := result.1 }, .data result.2)

def after (lib : BurstLibrary) (t : IPSCTranslator) (event : SearchOrders × TranslatorCall) : IPSCTranslator :=
  match t.call lib event.1 event.2 with
  | .ok (next, _) => next
  | .error _ => t

def attributed (lib : BurstLibrary) (t : IPSCTranslator) (orders : SearchOrders) : TranslatorCall → Option Ref
  | .translateToMMDVM now packetType data =>
    if 31 ≤ data.length ∧ isSupported packetType = true then
      some ((received lib.toDmrgo packetType data).stream (orders.reverseEnv now) t.reverse).2
    else none
  | .translateToIPSC now seen pkt =>
    if pkt.streamID > 0xFFFFFFFF then none
    else some (t.forward.forwardStream (orders.forwardEnv now seen) pkt).2

def run (lib : BurstLibrary) : IPSCTranslator → List (SearchOrders × TranslatorCall) → List (Option Ref × Checked Emitted)
  | _, [] => []
  | t, event :: later =>
    (t.attributed lib event.1 event.2, (t.call lib event.1 event.2).map Prod.snd) :: (t.after lib event).run lib later

end IPSCTranslator

def Received.fitsTuple (r : Received) (now : Time) (rss : ReverseStreamState) : Bool :=
  rss.src == r.call.src && rss.dst == r.call.dst && rss.groupCall == r.call.groupCall && rss.slot == r.call.slot &&
    rss.isRecent now

def Received.fitsPeer (r : Received) (now : Time) (rss : ReverseStreamState) : Bool :=
  rss.peerID == r.peerID && rss.groupCall == r.call.groupCall && rss.slot == r.call.slot && rss.isRecent now

/-- If the call control is unknown, one stream at most has the addresses of the packet, and if none has
and the peer decides, one stream at most is of the peer. -/
def Received.Unambiguous (r : Received) (now : Time) (t : Translator) : Prop :=
  t.reverseStreams.find r.callControl = none →
    t.reverseStreams.PicksOne (fun _ => r.fitsTuple now) ∧
      ((∀ key rss, t.reverseStreams.find key = some rss → r.fitsTuple now (t.reverseStreams.deref rss) = false) →
        r.trusted = false → r.burstType ≠ ipscBurstVoiceHead → t.reverseStreams.PicksOne fun _ => r.fitsPeer now)

def fitsPacket (pkt : Packet) (now : Time) (ss : StreamState) : Bool :=
  ss.src == pkt.src && ss.dst == pkt.dst && ss.groupCall == pkt.groupCall && ss.slot == pkt.slot &&
    !(Time.isZero ss.lastSeen || decide (forwardStreamReuseWindow < Time.sub now ss.lastSeen))

/-- If the stream ID of a voice packet is unknown, one stream at most has its addresses. -/
def Forward.Unambiguous (t : Forward) (now : Time) (pkt : Packet) : Prop :=
  t.streams.find pkt.streamID.toUInt32 = none → pkt.frameType = frameTypeVoice ∨ pkt.frameType = frameTypeVoiceSync →
    t.streams.PicksOne fun _ => fitsPacket pkt now

def IPSCTranslator.Unambiguous (lib : BurstLibrary) (t : IPSCTranslator) : TranslatorCall → Prop
  | .translateToMMDVM now packetType data =>
    31 ≤ data.length → isSupported packetType = true → (received lib.toDmrgo packetType data).Unambiguous now t.reverse
  | .translateToIPSC now _ pkt => ¬ pkt.streamID > 0xFFFFFFFF → t.forward.Unambiguous now pkt

open PtrMap SearchOrders

namespace Received

variable {r : Received} {t : Translator} {now : Time}

def search (r : Received) (env : ReverseEnv) (t : Translator) : Option Ref :=
  ((t.reverseStreams.findWhere env.byTuple fun _ => r.fitsTuple env.now).map Prod.snd).or
    (if !r.trusted && r.burstType != ipscBurstVoiceHead then
      (t.reverseStreams.findWhere env.byPeer fun _ => r.fitsPeer env.now).map Prod.snd
    else none)

theorem stream_eq (r : Received) (env : ReverseEnv) (t : Translator) : r.stream env t =
      match t.reverseStreams.find r.callControl with
      | some rss => (t, rss)
      | none =>
        match r.search env t with
        | some rss => (t.alias r.callControl rss, rss)
        | none => (t.create r.callControl (r.newState env t), t.reverseStreams.next) := rfl

theorem Unambiguous.search_eq (unambiguous : r.Unambiguous now t) (unknown : t.reverseStreams.find r.callControl = none)
    (orders orders' : SearchOrders) : r.search (orders.reverseEnv now) t = r.search (orders'.reverseEnv now) t := by
  obtain ⟨oneTuple, onePeer⟩ := unambiguous unknown
  have tuple := findWhere_order oneTuple orders.byTuple orders'.byTuple
  simp only [search, reverseEnv, tuple]
  cases found : t.reverseStreams.findWhere orders'.byTuple fun _ => r.fitsTuple now with
  | some pair => rfl
  | none =>
    simp only [map_none, none_or]
    split
    · rename_i allowed
      simp only [Bool.and_eq_true, Bool.not_eq_true', bne_iff_ne, ne_eq] at allowed
      exact findWhere_order (onePeer (findWhere_eq_none.mp found) allowed.1 allowed.2) _ _
    · rfl

theorem Unambiguous.stream_eq (unambiguous : r.Unambiguous now t) (orders orders' : SearchOrders) :
    r.stream (orders.reverseEnv now) t = r.stream (orders'.reverseEnv now) t := by
  rw [Received.stream_eq, Received.stream_eq]
  cases known : t.reverseStreams.find r.callControl with
  | some rss => rfl
  | none =>
    simp only [unambiguous.search_eq known orders orders']
    rfl

theorem search_startingAt_tuple (orders : SearchOrders) {key : UInt32} {rss : Ref}
    (present : t.reverseStreams.find key = some rss) (fits : r.fitsTuple now (t.reverseStreams.deref rss) = true) :
    r.search ({ orders with byTuple := orders.byTuple.startingAt key }.reverseEnv now) t = some rss := by
  have found := @findWhere_startingAt _ _ _ t.reverseStreams key rss (fun _ => r.fitsTuple now) orders.byTuple
    present fits
  simp only [search, reverseEnv, found, map_some, some_or]

theorem search_startingAt_peer (orders : SearchOrders) {key : UInt32} {rss : Ref}
    (noTuple : ∀ key rss, t.reverseStreams.find key = some rss → r.fitsTuple now (t.reverseStreams.deref rss) = false)
    (untrusted : r.trusted = false) (notHeader : r.burstType ≠ ipscBurstVoiceHead)
    (present : t.reverseStreams.find key = some rss) (fits : r.fitsPeer now (t.reverseStreams.deref rss) = true) :
    r.search ({ orders with byPeer := orders.byPeer.startingAt key }.reverseEnv now) t = some rss := by
  have absent : t.reverseStreams.findWhere orders.byTuple (fun _ => r.fitsTuple now) = none :=
    findWhere_eq_none.mpr noTuple
  have allowed : (!r.trusted && r.burstType != ipscBurstVoiceHead) = true := by simp [untrusted, notHeader]
  have found := @findWhere_startingAt _ _ _ t.reverseStreams key rss (fun _ => r.fitsPeer now) orders.byPeer
    present fits
  simp only [search, reverseEnv, absent, allowed, if_true, found, map_none, none_or, map_some]

theorem unambiguous_of_stream (orders : SearchOrders) (same : ∀ orders' : SearchOrders,
      (r.stream (orders'.reverseEnv now) t).2 = (r.stream (orders.reverseEnv now) t).2) : r.Unambiguous now t := by
  intro unknown
  have stream {orders' : SearchOrders} {rss : Ref} (found : r.search (orders'.reverseEnv now) t = some rss) :
      rss = (r.stream (orders.reverseEnv now) t).2 := by
    rw [← same orders', Received.stream_eq r (orders'.reverseEnv now), unknown, found]
  refine ⟨?_, ?_⟩
  · intro key other rss shared present present' fits fits'
    exact (stream (search_startingAt_tuple orders present fits)).trans
      (stream (search_startingAt_tuple orders present' fits')).symm
  · intro noTuple untrusted notHeader key other rss shared present present' fits fits'
    exact (stream (search_startingAt_peer orders noTuple untrusted notHeader present fits)).trans
      (stream (search_startingAt_peer orders noTuple untrusted notHeader present' fits')).symm

end Received

theorem translateToMMDVM_unread {dmrgo : Dmrgo} {env env' : ReverseEnv} {t : Translator} {packetType : UInt8} {data : Bytes}
    (short : data.length < 31) :
    t.translateToMMDVM dmrgo env packetType data = t.translateToMMDVM dmrgo env' packetType data := by
  have beyond : index data 30 = .error (.index 30 data.length) := if_neg (by omega)
  simp only [Translator.translateToMMDVM]
  split
  · rfl
  split
  · rfl
  · -- The reads before byte 30 do not matter.
    iterate 8 refine bind_congr fun _ => ?_
    rw [beyond]
    rfl

namespace Forward

variable {t : Forward} {now seen : Time} {pkt : Packet}

theorem Unambiguous.forwardStream_eq (unambiguous : t.Unambiguous now pkt) (orders orders' : SearchOrders) :
    t.forwardStream (orders.forwardEnv now seen) pkt = t.forwardStream (orders'.forwardEnv now seen) pkt := by
  simp only [forwardStream]
  cases known : t.streams.find pkt.streamID.toUInt32 with
  | some ss => rfl
  | none =>
    by_cases voice : pkt.frameType = frameTypeVoice ∨ pkt.frameType = frameTypeVoiceSync
    · have same : t.findRecentForwardStream (orders.forwardEnv now seen) pkt =
          t.findRecentForwardStream (orders'.forwardEnv now seen) pkt :=
        findWhere_order (unambiguous known voice) _ _
      simp only [voice, if_true, same]
      rfl
    · simp only [voice, if_false]
      rfl

theorem unambiguous_of_forwardStream (orders : SearchOrders)
    (same : ∀ orders' : SearchOrders, (t.forwardStream (orders'.forwardEnv now seen) pkt).2 =
      (t.forwardStream (orders.forwardEnv now seen) pkt).2) : t.Unambiguous now pkt := by
  intro unknown voice key other ss shared present present' fits fits'
  have taken {key : UInt32} {ss : Ref} (present : t.streams.find key = some ss)
      (fits : fitsPacket pkt now (t.streams.deref ss) = true) :
      (t.forwardStream ({ orders with streams := orders.streams.startingAt key }.forwardEnv now seen) pkt).2 = ss := by
    have found : t.findRecentForwardStream ({ orders with streams := orders.streams.startingAt key }.forwardEnv now seen) pkt =
        some ss :=
      congrArg (Option.map Prod.snd) (findWhere_startingAt orders.streams present fits)
    simp only [forwardStream, unknown, voice, if_true, found]
  exact (taken present fits).symm.trans ((same _).trans ((same _).symm.trans (taken present' fits')))

end Forward

namespace IPSCTranslator

variable {lib : BurstLibrary} {t : IPSCTranslator} {c : TranslatorCall}

theorem Unambiguous.call_eq (unambiguous : t.Unambiguous lib c) (orders orders' : SearchOrders) :
    t.call lib orders c = t.call lib orders' c := by
  cases c with
  | translateToMMDVM now packetType data =>
    have same : t.reverse.translateToMMDVM lib.toDmrgo (orders.reverseEnv now) packetType data =
        t.reverse.translateToMMDVM lib.toDmrgo (orders'.reverseEnv now) packetType data := by
      by_cases long : 31 ≤ data.length
      · cases supported : isSupported packetType with
        | false => rw [translateToMMDVM_unsupported supported, translateToMMDVM_unsupported supported]
        | true =>
          have stream := (unambiguous long supported).stream_eq orders orders'
          rw [translateToMMDVM_eq long supported, translateToMMDVM_eq long supported]
          simp only [Received.seen, Received.callWithin, stream]
          rfl
      · exact translateToMMDVM_unread (by omega)
    simp only [call, same]
  | translateToIPSC now seen pkt =>
    have same : t.forward.translateToIPSC lib (orders.forwardEnv now seen) pkt =
        t.forward.translateToIPSC lib (orders'.forwardEnv now seen) pkt := by
      by_cases large : pkt.streamID > 0xFFFFFFFF
      · simp only [Forward.translateToIPSC, if_pos large]
      · rw [translateToIPSC_eq large, translateToIPSC_eq large, (unambiguous large).forwardStream_eq orders orders']
        rfl
    simp only [call, same]

theorem unambiguous_iff (orders : SearchOrders) :
    t.Unambiguous lib c ↔ ∀ orders', t.attributed lib orders' c = t.attributed lib orders c := by
  cases c with
  | translateToMMDVM now packetType data =>
    refine ⟨?_, ?_⟩
    · intro unambiguous orders'
      simp only [attributed]
      split
      · rename_i readable
        rw [(unambiguous readable.1 readable.2).stream_eq orders' orders]
      · rfl
    · intro same long supported
      simp only [attributed, long, supported, and_self, if_true, Option.some.injEq] at same
      exact Received.unambiguous_of_stream orders same
  | translateToIPSC now seen pkt =>
    refine ⟨?_, ?_⟩
    · intro unambiguous orders'
      simp only [attributed]
      split
      · rfl
      · rename_i small
        rw [(unambiguous small).forwardStream_eq orders' orders]
    · intro same small
      simp only [attributed, small, if_false, Option.some.injEq] at same
      exact Forward.unambiguous_of_forwardStream orders same

end IPSCTranslator

/-- The streams of the packets and what is emitted are the same for all orders of the searches exactly
if before each call of the run one stream at most can be found for its packet. -/
theorem map_order_irrelevant_iff (lib : BurstLibrary) (t : IPSCTranslator) (events : List (SearchOrders × TranslatorCall)) :
    (∀ others, others.map Prod.snd = events.map Prod.snd → t.run lib others = t.run lib events) ↔
      EachStep (IPSCTranslator.after lib) (fun t event => t.Unambiguous lib event.2) t events := by
  induction events generalizing t with
  | nil => simp
  | cons event events ih =>
    obtain ⟨orders, c⟩ := event
    rw [eachStep_cons, ← ih]
    refine ⟨?_, ?_⟩
    · intro same
      refine ⟨(IPSCTranslator.unambiguous_iff orders).mpr fun orders' => ?_, fun others calls => ?_⟩
      · have equal := same ((orders', c) :: events) rfl
        exact congrArg Prod.fst (List.cons.inj equal).1
      · have equal := same ((orders, c) :: others) (by simp [calls])
        exact (List.cons.inj equal).2
    · intro ⟨unambiguous, later⟩ others calls
      cases others with
      | nil => simp at calls
      | cons other others =>
        obtain ⟨orders', c'⟩ := other
        obtain ⟨sameCall, sameCalls⟩ := List.cons.inj calls
        obtain rfl : c' = c := sameCall
        have step := IPSCTranslator.Unambiguous.call_eq unambiguous orders' orders
        have stream := (IPSCTranslator.unambiguous_iff orders).mp unambiguous orders'
        have next : t.after lib (orders', c') = t.after lib (orders, c') := by simp only [IPSCTranslator.after, step]
        simp only [IPSCTranslator.run, step, stream, next]
        rw [later others sameCalls]

private def peerPacket (callControl src burstType : UInt8) : TranslatorCall :=
  .translateToMMDVM 1000 0x80
    ([0x80, 0, 0, 0, 5, 0, 0, 0, src, 0, 0, 9, 2, 0, 0, 0, callControl, 0] ++ List.replicate 12 0 ++ [burstType] ++
      List.replicate 7 0 ++ [0, 0, 0x20, 0, 0, 9, 0, 0, src, 0, 0, 0] ++ List.replicate 4 0)

private def groupFrame (streamID frameType dtypeOrVSeq : UInt64) : TranslatorCall :=
  .translateToIPSC 1000 1000 { src := 7, dst := 9, groupCall := true, streamID, frameType, dtypeOrVSeq }

private def inOrder (keys : List UInt32) (distinct : keys.Nodup) : SearchOrders :=
  let order := Enumeration.along keys distinct (.ranked UInt32.toNat injective_toNat_uint32)
  ⟨order, order, order⟩

private def Emitted.identifiers : Emitted → List Nat
  | .packets pkts => pkts.map (·.streamID.toNat)
  | .data sent => sent.map fun bytes => (bytes.getD 16 0).toNat

/-- Two headers from two radios of one repeater, and then a voice burst with a third call control
and a third source: it is given to the stream that is met first.  The same happens to a voice
packet with a third stream ID, after two headers with the same addresses. -/
theorem voice_attributed_by_map_order :
    let calls : List TranslatorCall :=
      [peerPacket 1 5 ipscBurstVoiceHead, peerPacket 2 6 ipscBurstVoiceHead, peerPacket 3 8 ipscBurstSlot1,
        groupFrame 1 frameTypeDataSync 1, groupFrame 2 frameTypeDataSync 1, groupFrame 3 frameTypeVoice 1]
    let emitted (orders : SearchOrders) : List (Checked (List Nat)) :=
      (IPSCTranslator.run plainLibrary ⟨newIPSCTranslator, newForward 1⟩ (calls.map (orders, ·))).map fun outcome =>
        outcome.2.map Emitted.identifiers
    emitted (inOrder [1, 2, 3] (by decide)) = [.ok [1], .ok [2], .ok [1], .ok [1, 1], .ok [2, 2], .ok [1]] ∧
      emitted (inOrder [3, 2, 1] (by decide)) = [.ok [1], .ok [2], .ok [2], .ok [1, 1], .ok [2, 2], .ok [2]] := by
  decide +kernel

end Ipsc2Mmdvm.Ipsc
