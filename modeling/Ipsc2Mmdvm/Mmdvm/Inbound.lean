import Ipsc2Mmdvm.Data.Transitions
import Ipsc2Mmdvm.Rewrite.Rules
import Ipsc2Mmdvm.Timeslot.Drain

namespace Ipsc2Mmdvm.Mmdvm

open Data Proto Timeslot List

/-! A client arbitrates its two slots with a manager of its own.  Each send into `tx_chan` races
with the end of the client, and a send that loses the race ends the loop. -/

structure InboundRules where
  rfRewrites : List Rewrite.Rule
  passallRewrites : List Rewrite.Rule

def InboundRules.rewrite (rules : InboundRules) (pkt : Packet) : Option Packet :=
  match Rewrite.apply rules.rfRewrites pkt with
  | some pkt => some pkt
  | none => Rewrite.apply rules.passallRewrites pkt

def sendBuffered (sent : Nat → Bool) : List Packet → List Packet × Bool
  | [] => ([], true)
  | pkt :: rest =>
    if sent 0 then
      let (out, alive) := sendBuffered (fun n => sent (n + 1)) rest
      (pkt :: out, alive)
    else ([], false)

/-- `drainPendingInbound` with the clock readings of its `Release` calls and the outcome of each
send; `none` if the loop does not end within `fuel` rounds. -/
def drainPendingInbound (slot : Bool) :
    Nat → (Nat → Time) → (Nat → Bool) → Manager Packet → UInt64 → Option (Manager Packet × List Packet × Bool)
  | 0, _, _, _, _ => none
  | fuel + 1, clock, sent, m, currentStreamID =>
    let (m, buffered) := m.release slot currentStreamID (clock 0)
    let (out, alive) := sendBuffered sent buffered
    if !alive then some (m, out, false)
    else
      match buffered.reverse.find? (·.isTerminator) with
      | none => some (m, out, true)
      | some terminator =>
        match drainPendingInbound slot fuel (fun n => clock (n + 1)) (fun n => sent (n + buffered.length)) m
            terminator.streamID with
        | none => none
        | some (m, rest, alive) => some (m, out ++ rest, alive)

/-- A packet from a repeater, with the clock readings and the outcomes of the sends while it is
handled. -/
structure Arrival where
  pkt : Packet
  clock : Nat → Time
  sent : Nat → Bool

/-- One round of the loop in `handleInboundPackets`.  A round that is `stopped` returns. -/
structure Round where
  manager : Manager Packet
  sent : List Packet
  matched : Bool
  stopped : Bool

def handleInboundPacket (rules : InboundRules) (m : Manager Packet) (a : Arrival) : Option Round :=
  match rules.rewrite a.pkt with
  | none => some ⟨m, [], false, false⟩
  | some pkt =>
    let (m, accepted) := m.submit pkt.slot pkt.streamID "ipsc" pkt (a.clock 0)
    if !accepted then some ⟨m, [], false, false⟩
    else if !a.sent 0 then some ⟨m, [], true, true⟩
    else if pkt.isTerminator then
      match drainPendingInbound pkt.slot ((m.slot pkt.slot).pending.length + 1) (fun n => a.clock (n + 1))
          (fun n => a.sent (n + 1)) m pkt.streamID with
      | none => none
      | some (m, drained, alive) => some ⟨m, pkt :: drained, true, !alive⟩
    else some ⟨m, [pkt], true, false⟩

def handleInboundPackets (rules : InboundRules) :
    Manager Packet → List Arrival → Option (Manager Packet × List Packet × Bool)
  | m, [] => some (m, [], false)
  | m, a :: arrivals =>
    match handleInboundPacket rules m a with
    | none => none
    | some round =>
      if round.stopped then some (round.manager, round.sent, round.matched)
      else
        match handleInboundPackets rules round.manager arrivals with
        | none => none
        | some (m, sent, matched) => some (m, round.sent ++ sent, round.matched || matched)

theorem sendBuffered_spec (sent : Nat → Bool) (buffered : List Packet) : (sendBuffered sent buffered).1 <+: buffered ∧
      ((sendBuffered sent buffered).2 = true → (sendBuffered sent buffered).1 = buffered) ∧
      ((∀ i < buffered.length, sent i = true) → (sendBuffered sent buffered).2 = true) := by
  induction buffered generalizing sent with
  | nil => simp [sendBuffered]
  | cons pkt rest ih =>
    obtain ⟨part, whole, complete⟩ := ih fun n => sent (n + 1)
    cases first : sent 0 with
    | false =>
      refine ⟨by simp [sendBuffered, first], by simp [sendBuffered, first], fun all => ?_⟩
      rw [all 0 (Nat.succ_pos _)] at first
      cases first
    | true =>
      simp only [sendBuffered, first, if_true]
      refine ⟨(cons_prefix_cons).mpr ⟨rfl, part⟩, fun sentAll => by rw [whole sentAll], fun all => ?_⟩
      exact complete fun i bound => all (i + 1) (Nat.succ_lt_succ bound)

variable {clock : Nat → Time} {m m' : Manager Packet} {streamID : UInt64}

theorem drainPendingInbound_invariant {Invariant : Manager Packet → Prop} {slot : Bool}
    (kept : ∀ m streamID now, Invariant m → Invariant (m.release slot streamID now).1) {fuel : Nat} {sent : Nat → Bool}
    {out : List Packet} {alive : Bool} (holds : Invariant m)
    (drained : drainPendingInbound slot fuel clock sent m streamID = some (m', out, alive)) :
    Invariant m' := by
  induction fuel generalizing clock sent m streamID out with
  | zero => cases drained
  | succ fuel ih =>
    have next := kept m streamID (clock 0) holds
    simp only [drainPendingInbound] at drained
    split at drained
    · cases drained
      exact next
    · split at drained
      · cases drained
        exact next
      · split at drained
        · cases drained
        · rename_i rest
          cases drained
          exact ih next rest

theorem drainPendingInbound_of_drain {slot : Bool} {fuel : Nat} {items : List Packet}
    (drained : m.drain (·.isTerminator) (·.streamID) slot fuel clock streamID = some (m', items)) (sent : Nat → Bool) :
    ∃ last out alive, drainPendingInbound slot fuel clock sent m streamID = some (last, out, alive) ∧ out <+: items ∧
      (alive = true → last = m' ∧ out = items) ∧ ((∀ i < items.length, sent i = true) → alive = true) := by
  induction fuel generalizing clock m streamID items sent with
  | zero => cases drained
  | succ fuel ih =>
    have begins := drain_begins drained
    simp only [Manager.drain] at drained
    simp only [drainPendingInbound]
    generalize m.release slot streamID (clock 0) = answer at drained begins
    obtain ⟨m₁, buffered⟩ := answer
    obtain ⟨part, whole, complete⟩ := sendBuffered_spec sent buffered
    simp only at drained begins
    generalize sendBuffered sent buffered = answer at part whole complete
    obtain ⟨out, alive⟩ := answer
    cases alive with
    | false =>
      refine ⟨m₁, out, false, by simp, part.trans begins, by simp, fun all => ?_⟩
      exact complete fun i bound => all i (Nat.lt_of_lt_of_le bound begins.length_le)
    | true =>
      have out_eq : out = buffered := whole rfl
      subst out_eq
      simp only [Bool.not_true, Bool.false_eq_true, if_false]
      cases found : out.reverse.find? (·.isTerminator) with
      | none =>
        rw [found] at drained
        cases drained
        exact ⟨_, _, true, rfl, prefix_rfl, fun _ => ⟨rfl, rfl⟩, fun _ => rfl⟩
      | some terminator =>
        rw [found] at drained
        simp only at drained ⊢
        split at drained
        · cases drained
        · rename_i last rest chain
          cases drained
          obtain ⟨final, tail, alive, inner, tailPart, tailWhole, tailComplete⟩ :=
            ih chain fun n => sent (n + out.length)
          rw [inner]
          refine ⟨final, out ++ tail, alive, rfl, (prefix_append_right_inj out).mpr tailPart, ?_, fun all => ?_⟩
          · intro sentAll
            obtain ⟨same, tail_eq⟩ := tailWhole sentAll
            exact ⟨same, by rw [tail_eq]⟩
          · apply tailComplete
            intro i bound
            exact all (i + out.length) (by rw [length_append]; omega)

structure Inbound where
  manager : Manager Packet
  sent : List Packet

def Inbound.new : Inbound where
  manager := (newManager _).setTimeout (600 * millisecond)
  sent := []

open Inbound

section

variable (rules : InboundRules) {history : List Packet}

def Inbound.step (s : Inbound) (a : Arrival) : Inbound :=
  match handleInboundPacket rules s.manager a with
  | none => s
  | some round => ⟨round.manager, s.sent ++ round.sent⟩

theorem handleInboundPacket_spec {m : Manager Packet} (queued : m.Queued Packet.slot Packet.streamID history) (a : Arrival) :
    ∃ round, handleInboundPacket rules m a = some round ∧
      round.manager.Queued Packet.slot Packet.streamID (history ++ (rules.rewrite a.pkt).toList) := by
  simp only [handleInboundPacket]
  cases rewritten : rules.rewrite a.pkt with
  | none => exact ⟨_, rfl, by simpa using queued⟩
  | some pkt =>
    have queued' := queued.submit "ipsc" pkt (a.clock 0)
    have active := @submit_active_of_taken _ m pkt.slot pkt.streamID "ipsc" pkt (a.clock 0)
    simp only [Option.toList_some]
    generalize m.submit pkt.slot pkt.streamID "ipsc" pkt (a.clock 0) = answer at queued' active
    obtain ⟨m', taken⟩ := answer
    cases taken with
    | false => exact ⟨_, rfl, queued'⟩
    | true =>
      cases a.sent 0 with
      | false => exact ⟨_, rfl, queued'⟩
      | true =>
        cases pkt.isTerminator with
        | false => exact ⟨_, rfl, queued'⟩
        | true =>
          obtain ⟨_, drained, -, -⟩ := @drain_eq _ (·.isTerminator) _ m' _ pkt.slot (fun n => a.clock (n + 1)) _
            queued'.filed (Nat.lt_succ_self _) (active rfl)
          obtain ⟨last, out, alive, answer, -⟩ := drainPendingInbound_of_drain drained fun n => a.sent (n + 1)
          refine ⟨⟨last, pkt :: out, true, !alive⟩, by simp [answer], ?_⟩
          exact drainPendingInbound_invariant (fun _ streamID now kept => kept.release _ streamID now) queued' answer

theorem handleInboundPackets_eq_run {s : Inbound} (queued : s.manager.Queued Packet.slot Packet.streamID history)
    (arrivals : List Arrival) :
    ∃ handled, handled <+: arrivals ∧ ∃ m out matched, handleInboundPackets rules s.manager arrivals = some (m, out, matched) ∧
      runFrom (step rules) s handled = ⟨m, s.sent ++ out⟩ := by
  induction arrivals generalizing s history with
  | nil => exact ⟨[], prefix_rfl, s.manager, [], false, rfl, by simp⟩
  | cons a arrivals ih =>
    obtain ⟨round, answer, queued'⟩ := handleInboundPacket_spec rules queued a
    have step : s.step rules a = ⟨round.manager, s.sent ++ round.sent⟩ := by simp only [step, answer]
    simp only [handleInboundPackets, answer]
    cases round.stopped with
    | true => exact ⟨[a], by simp, round.manager, round.sent, round.matched, rfl, by simp [step]⟩
    | false =>
      obtain ⟨handled, part, m, out, matched, rest, run⟩ := @ih _ ⟨round.manager, s.sent ++ round.sent⟩ queued'
      refine ⟨a :: handled, (cons_prefix_cons).mpr ⟨rfl, part⟩, m, round.sent ++ out, round.matched || matched, ?_, ?_⟩
      · simp [rest]
      · rw [runFrom_cons, step, run, append_assoc]

theorem Inbound.run_queued (arrivals : List Arrival) :
    (runFrom (step rules) new arrivals).manager.Queued Packet.slot Packet.streamID
      (arrivals.filterMap fun a => rules.rewrite a.pkt) := by
  apply @runFrom_history _ _ (step rules) new arrivals _
    (fun history s => s.manager.Queued Packet.slot Packet.streamID history) _ []
  · intro history s a queued
    obtain ⟨round, answer, queued'⟩ := handleInboundPacket_spec rules queued a
    simpa only [step, answer] using queued'
  · exact @queued_newManager Packet Packet.slot Packet.streamID (600 * millisecond)

end

end Ipsc2Mmdvm.Mmdvm
