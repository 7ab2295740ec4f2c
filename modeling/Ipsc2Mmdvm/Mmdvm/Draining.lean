import Ipsc2Mmdvm.Mmdvm.Inbound
import Ipsc2Mmdvm.Mmdvm.Outbound

namespace Ipsc2Mmdvm.Mmdvm

open Data Proto Timeslot Outbound Packet

/-! After the last packet of the call that holds a slot, a client passes on the streams that wait,
down to the first one that still goes on. -/

def EndsCall {α : Type} (m : Manager α) (pkt : Packet) : Prop :=
  pkt.isTerminator = true ∧ ∃ call, (m.slot pkt.slot).active = some call ∧ call.streamID = pkt.streamID

section

variable {ι : Type} (networks : ι → Network)

theorem Outbound.run_queued (timeout : Duration) (datagrams : List (Datagram ι)) :
    (runFrom (step networks) (new ι timeout) datagrams).manager.Queued (·.pkt.slot) (·.pkt.streamID)
      (datagrams.filterMap (Datagram.received networks)) := by
  apply @runFrom_history _ _ (step networks) (new ι timeout) datagrams _
    (fun history s => s.manager.Queued (·.pkt.slot) (·.pkt.streamID) history) _ []
  · intro history s d queued
    obtain ⟨m, handled, filed, waiting⟩ := handleOutboundPacketFrom_eq networks queued.filed d
    simp only [step, handled]
    refine ⟨filed, ?_⟩
    apply Manager.Collected.of_subset _ waiting
    cases given : d.received networks with
    | none => simpa only [submitted, given, Option.toList_none, List.append_nil] using queued.collected
    | some received =>
      simp only [submitted, given]
      exact queued.collected.submit queued.filed (networks d.network).name received (d.clock 0)
  · exact @queued_newManager (Received ι) (·.pkt.slot) (·.pkt.streamID) timeout

theorem handleOutboundPacketFrom_of_endsCall {m : Manager (Received ι)} (filed : AllFiled m) (d : Datagram ι) {pkt : Packet}
    (rewritten : Rewrite.apply (networks d.network).netRewrites d.pkt = some pkt) (ends : EndsCall m pkt) :
    let received : Received ι := ⟨d.network, d.sourceKey, pkt⟩
    ∃ m', handleOutboundPacketFrom networks m d.network d.sourceKey d.pkt d.clock =
        some (m', ⟨received, direct networks received⟩ ::
          (handedOut (·.pkt.isTerminator) (m.slot pkt.slot).pending).map fun item =>
            ⟨item, translateAndForwardToIPSC networks d.network⟩) ∧
      Drained (·.pkt.isTerminator) pkt.slot m m' := by
  intro received
  obtain ⟨terminator, owner⟩ := ends
  obtain ⟨taken, m', drained, settled, -⟩ := @owner_drains (Received ι) (·.pkt.isTerminator) (·.pkt.streamID) m pkt.slot
    received filed owner (networks d.network).name (d.clock 0) fun n => d.clock (n + 1)
  refine ⟨m', ?_, settled⟩
  simp only [received] at taken drained
  simp only [handleOutboundPacketFrom, rewritten, taken, terminator, drainPendingOutbound_eq_drain, drained]
  rfl

end

theorem handleInboundPacket_of_endsCall (rules : InboundRules) {m : Manager Packet} (filed : m.Filed streamID)
    (a : Arrival) {pkt : Packet} (rewritten : rules.rewrite a.pkt = some pkt) (ends : EndsCall m pkt) :
    let waiting := handedOut isTerminator (m.slot pkt.slot).pending
    ∃ round, handleInboundPacket rules m a = some round ∧ round.sent <+: pkt :: waiting ∧
      (round.stopped = false → round.sent = pkt :: waiting ∧ Drained isTerminator pkt.slot m round.manager) ∧
      ((∀ i ≤ waiting.length, a.sent i = true) → round.stopped = false) := by
  intro waiting
  obtain ⟨terminator, owner⟩ := ends
  obtain ⟨taken, m', drained, settled, -⟩ := @owner_drains _ isTerminator streamID m pkt.slot pkt filed
    owner "ipsc" (a.clock 0) fun n => a.clock (n + 1)
  obtain ⟨last, out, alive, answer, part, whole, complete⟩ := drainPendingInbound_of_drain drained fun n => a.sent (n + 1)
  simp only [handleInboundPacket, rewritten, taken, terminator, answer]
  cases first : a.sent 0 with
  | false =>
    refine ⟨_, rfl, List.nil_prefix, by simp, fun all => ?_⟩
    rw [all 0 (Nat.zero_le _)] at first
    cases first
  | true =>
    refine ⟨⟨last, pkt :: out, true, !alive⟩, rfl, ?_, ?_, ?_⟩
    · exact (List.cons_prefix_cons).mpr ⟨rfl, part⟩
    · intro running
      obtain ⟨same, out_eq⟩ := whole (by simpa using running)
      subst same
      exact ⟨by rw [out_eq], settled⟩
    · intro all
      simpa using complete fun i bound => all (i + 1) bound

/-- In every state that packets lead to, one after the other, in either direction: when the last
packet of the call that holds a slot is handled, the drain ends.  It passes on the waiting
streams in their order down to the first one without its terminator, each with all the packets
it collected since it waits; that stream then holds the slot and the others still wait, or the
slot is free.  Toward an MMDVM network this is so unless the client ends meanwhile. -/
theorem draining_leaves_no_finished_call :
    (∀ (ι : Type) (networks : ι → Network) (timeout : Duration) (datagrams : List (Datagram ι)) (d : Datagram ι)
        (pkt : Packet),
      let m := (runFrom (Outbound.step networks) (Outbound.new ι timeout) datagrams).manager
      let received : Received ι := ⟨d.network, d.sourceKey, pkt⟩
      Rewrite.apply (networks d.network).netRewrites d.pkt = some pkt → EndsCall m pkt →
        m.Collected (·.pkt.slot) (·.pkt.streamID) (datagrams.filterMap (Datagram.received networks)) ∧
        ∃ m', handleOutboundPacketFrom networks m d.network d.sourceKey d.pkt d.clock =
            some (m', ⟨received, direct networks received⟩ ::
              (handedOut (·.pkt.isTerminator) (m.slot pkt.slot).pending).map fun item =>
                ⟨item, translateAndForwardToIPSC networks d.network⟩) ∧
          Drained (·.pkt.isTerminator) pkt.slot m m') ∧
    (∀ (rules : InboundRules) (arrivals : List Arrival) (a : Arrival) (pkt : Packet),
      let m := (runFrom (Inbound.step rules) Inbound.new arrivals).manager
      let waiting := handedOut Packet.isTerminator (m.slot pkt.slot).pending
      rules.rewrite a.pkt = some pkt → EndsCall m pkt →
        m.Collected Packet.slot Packet.streamID (arrivals.filterMap fun a => rules.rewrite a.pkt) ∧
        ∃ round, handleInboundPacket rules m a = some round ∧ round.sent <+: pkt :: waiting ∧
          (round.stopped = false → round.sent = pkt :: waiting ∧ Drained Packet.isTerminator pkt.slot m round.manager) ∧
          ((∀ i ≤ waiting.length, a.sent i = true) → round.stopped = false)) := by
  refine ⟨?_, ?_⟩
  · intro ι networks timeout datagrams d pkt m received rewritten ends
    have queued := Outbound.run_queued networks timeout datagrams
    exact ⟨queued.collected, handleOutboundPacketFrom_of_endsCall networks queued.filed d rewritten ends⟩
  · intro rules arrivals a pkt m waiting rewritten ends
    have queued := Inbound.run_queued rules arrivals
    exact ⟨queued.collected, handleInboundPacket_of_endsCall rules queued.filed a rewritten ends⟩

theorem draining_leaves_no_finished_call_two_waiting :
    let client : Network :=
      { name := "net", netRewrites := [.passAllTG 1], packetSourceHandler := false,
        packetHandler := true, ipscHandler := false }
    let rules : InboundRules := ⟨[], [.passAllTG 1]⟩
    let voice (streamID : UInt64) : Packet := { dst := 91, groupCall := true, streamID }
    let hangup (streamID : UInt64) : Packet := { voice streamID with frameType := 2, dtypeOrVSeq := 2 }
    let calls := [voice 1, voice 2, hangup 2, voice 3]
    let outbound := (runFrom (Outbound.step fun _ : Unit => client) (Outbound.new Unit 0)
      (calls.map fun pkt => ⟨(), "", pkt, fun _ => 1000⟩)).manager
    let inbound := (runFrom (Inbound.step rules) Inbound.new
      (calls.map fun pkt => ⟨pkt, fun _ => 1000, fun _ => true⟩)).manager
    EndsCall outbound (hangup 1) ∧ EndsCall inbound (hangup 1) ∧
      (∃ m' delivered, handleOutboundPacketFrom (fun _ : Unit => client) outbound () "" (hangup 1) (fun _ => 2000) =
          some (m', delivered) ∧ delivered.map (·.received.pkt) = [hangup 1, voice 2, hangup 2, voice 3] ∧
        Drained (·.pkt.isTerminator) false outbound m') ∧
      ∃ round, handleInboundPacket rules inbound ⟨hangup 1, fun _ => 2000, fun _ => true⟩ = some round ∧
        round.sent = [hangup 1, voice 2, hangup 2, voice 3] ∧
        Drained Packet.isTerminator false inbound round.manager := by
  intro client rules voice hangup calls outbound inbound
  have outboundEnds : EndsCall outbound (hangup 1) := ⟨by decide, ⟨1, "net", 1000⟩, by decide, rfl⟩
  have inboundEnds : EndsCall inbound (hangup 1) := ⟨by decide, ⟨1, "ipsc", 1000⟩, by decide, rfl⟩
  refine ⟨outboundEnds, inboundEnds, ?_, ?_⟩
  · obtain ⟨-, m', handled, drained⟩ := draining_leaves_no_finished_call.1 Unit (fun _ => client) 0
      (calls.map fun pkt => ⟨(), "", pkt, fun _ => 1000⟩) ⟨(), "", hangup 1, fun _ => 2000⟩ (hangup 1) (by decide) outboundEnds
    exact ⟨m', _, handled, by decide, drained⟩
  · obtain ⟨-, round, handled, -, settled, complete⟩ := draining_leaves_no_finished_call.2 rules
      (calls.map fun pkt => ⟨pkt, fun _ => 1000, fun _ => true⟩) ⟨hangup 1, fun _ => 2000, fun _ => true⟩ (hangup 1)
      (by decide) inboundEnds
    obtain ⟨sent, drained⟩ := settled (complete fun _ _ => rfl)
    exact ⟨round, handled, sent.trans (by decide), drained⟩

end Ipsc2Mmdvm.Mmdvm
