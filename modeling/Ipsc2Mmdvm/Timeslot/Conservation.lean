import Mathlib.Data.List.Perm.Basic
import Mathlib.Data.List.Perm.Subperm
import Ipsc2Mmdvm.Data.Transitions
import Ipsc2Mmdvm.Timeslot.Manager

namespace Ipsc2Mmdvm.Timeslot

open Data PendingStream List SlotState Function

/-! The manager is run over packets that remember the `Submit` call they came from.  A buffered
packet is then found in one place: still waiting, in the result of one `Release`, or among the
streams dropped by one reclaim. -/

inductive Op (α : Type) where
  | submit (slot : Bool) (streamID : UInt64) (network : String) (packet : α) (now : Time)
  | release (slot : Bool) (streamID : UInt64) (now : Time)
deriving DecidableEq

def Op.slot {α : Type} : Op α → Bool
  | .submit slot _ _ _ _ => slot
  | .release slot _ _ => slot

structure Submission (α : Type) where
  seq : Nat
  slot : Bool
  streamID : UInt64
  packet : α
deriving DecidableEq

/-- The history of one slot: the submissions that were answered `false`, the
result of each `Release`, and the packets dropped by each reclaim. -/
structure Ledger (α : Type) where
  buffered : List (Submission α) := []
  released : List (List (Submission α)) := []
  discarded : List (List (Submission α)) := []

structure Audit (α : Type) where
  manager : Manager (Submission α)
  calls : Nat
  ledger : Bool → Ledger α

variable {α : Type} {ss : SlotState (Submission α)} {history : Ledger α} {submission : Submission α}

def SlotState.waitingPackets (ss : SlotState α) : List α :=
  ss.pending.flatMap PendingStream.packets

def SlotState.reclaims (timeout : Duration) (ss : SlotState α) (streamID : UInt64) (now : Time) :
    Bool :=
  match ss.active with
  | none => false
  | some call => call.streamID != streamID && timedOut timeout call now

def Audit.new (α : Type) (timeout : Duration) : Audit α where
  manager := (newManager (Submission α)).setTimeout timeout
  calls := 0
  ledger := fun _ => {}

def Audit.step (audit : Audit α) : Op α → Audit α
  | .submit slot streamID network packet now =>
    let submission : Submission α := { seq := audit.calls, slot, streamID, packet }
    let result := audit.manager.submit slot streamID network submission now
    let ss := audit.manager.slot slot
    let history := audit.ledger slot
    { manager := result.1
      calls := audit.calls + 1
      ledger := Function.update audit.ledger slot
        { history with
          buffered := if result.2 then history.buffered else history.buffered ++ [submission]
          discarded := if ss.reclaims audit.manager.timeout streamID now then
            history.discarded ++ [ss.waitingPackets] else history.discarded } }
  | .release slot streamID now =>
    let result := audit.manager.release slot streamID now
    let history := audit.ledger slot
    { manager := result.1
      calls := audit.calls + 1
      ledger := Function.update audit.ledger slot
        { history with released := history.released ++ [result.2] } }

def firsts (batches : List (List (Submission α))) : List Nat :=
  (batches.filterMap List.head?).map Submission.seq

theorem firsts_append (earlier later : List (List (Submission α))) :
    firsts (earlier ++ later) = firsts earlier ++ firsts later := by
  simp [firsts]

theorem firsts_empty : firsts ([[]] : List (List (Submission α))) = [] := rfl

def OneStream (slot : Bool) (batch : List (Submission α)) : Prop :=
  batch.Pairwise (fun earlier later => earlier.seq < later.seq) ∧
    ∃ streamID, ∀ submission ∈ batch, submission.streamID = streamID ∧ submission.slot = slot

structure Accounts (slot : Bool) (calls : Nat) (ss : SlotState (Submission α)) (history : Ledger α) :
    Prop where
  valid : ss.Valid
  streams : ∀ ps ∈ ss.pending, ∀ submission ∈ ps.packets,
    submission.streamID = ps.streamID ∧ submission.slot = slot
  ordered : ∀ ps ∈ ss.pending,
    ps.packets.Pairwise fun earlier later => earlier.seq < later.seq
  batches : ∀ batch ∈ history.released, OneStream slot batch
  places : history.buffered.Perm
    (ss.waitingPackets ++ (history.released.flatten ++ history.discarded.flatten))
  numbered : (history.buffered.map Submission.seq).Pairwise (· < ·)
  bounded : ∀ submission ∈ history.buffered, submission.seq < calls
  queue : (firsts (history.released ++ ss.pending.map PendingStream.packets)).Pairwise (· < ·)

namespace SlotState

theorem appendPacket_waiting {streamID : UInt64} {pending : List (PendingStream α)} {value : α} {ps : PendingStream α}
    (member : ps ∈ pending) (same : ps.streamID = streamID) :
    ((appendPacket streamID value pending).flatMap packets).Perm (pending.flatMap packets ++ [value]) := by
  induction pending with
  | nil => simp at member
  | cons first rest ih =>
    simp only [appendPacket]
    split
    · simp only [flatMap_cons, append_assoc]
      exact List.Perm.append_left _ perm_append_comm
    · rename_i different
      have later : ps ∈ rest := by
        rcases mem_cons.mp member with rfl | later
        · exact absurd same different
        · exact later
      simp only [flatMap_cons, append_assoc]
      exact List.Perm.append_left _ (ih later)

theorem appendPacket_firsts (streamID : UInt64) (packet : Submission α)
    {pending : List (PendingStream (Submission α))} (nonempty : ∀ ps ∈ pending, ps.packets ≠ []) :
    ((appendPacket streamID packet pending).map packets).filterMap head? = (pending.map packets).filterMap head? := by
  induction pending with
  | nil => rfl
  | cons first rest ih =>
    simp only [appendPacket]
    split
    · have kept : (first.packets ++ [packet]).head? = first.packets.head? :=
        head?_append_of_ne_nil _ (nonempty first (by simp))
      simp only [map_cons, filterMap_cons, kept]
    · simp only [map_cons, filterMap_cons, ih fun ps member => nonempty ps (by simp [member])]

end SlotState

section Step

variable {slot : Bool} {calls : Nat} {ss after : SlotState (Submission α)} {history : Ledger α}
  {timeout : Duration} {submission : Submission α} {network : String} {now : Time}

section

variable (accounts : Accounts slot calls ss history)

include accounts

theorem Accounts.waiting_bounded {ps} (member : ps ∈ ss.pending) {entry : Submission α} (present : entry ∈ ps.packets) :
    entry.seq < calls := by
  apply accounts.bounded
  rw [accounts.places.mem_iff]
  exact mem_append_left _ (mem_flatMap.mpr ⟨ps, member, present⟩)

theorem Accounts.firsts_bounded : ∀ number ∈ firsts (history.released ++ ss.pending.map packets), number < calls := by
  intro number member
  obtain ⟨first, inFirsts, rfl⟩ := mem_map.mp member
  obtain ⟨batch, inBatches, head⟩ := mem_filterMap.mp inFirsts
  have inBatch : first ∈ batch := mem_of_mem_head? head
  rcases mem_append.mp inBatches with old | waiting
  · apply accounts.bounded
    rw [accounts.places.mem_iff]
    exact mem_append_right _ (mem_append_left _ (mem_flatten.mpr ⟨batch, old, inBatch⟩))
  · obtain ⟨ps, inPending, rfl⟩ := mem_map.mp waiting
    exact accounts.waiting_bounded inPending inBatch

theorem Accounts.later : Accounts slot (calls + 1) ss history :=
  { accounts with bounded := fun entry member => Nat.lt_succ_of_lt (accounts.bounded entry member) }

theorem Accounts.numbered_buffer (current : submission.seq = calls) :
    ((history.buffered ++ [submission]).map Submission.seq).Pairwise (· < ·) := by
  simp only [map_append, map_cons, map_nil]
  refine pairwise_append.mpr ⟨accounts.numbered, by simp, ?_⟩
  intro number member other last
  obtain ⟨entry, present, rfl⟩ := mem_map.mp member
  simp only [mem_singleton] at last
  rw [last, current]
  exact accounts.bounded entry present

theorem Accounts.bounded_buffer (current : submission.seq = calls) :
    ∀ entry ∈ history.buffered ++ [submission], entry.seq < calls + 1 := by
  intro entry member
  rcases mem_append.mp member with old | new
  · exact Nat.lt_succ_of_lt (accounts.bounded entry old)
  · rw [mem_singleton.mp new, current]
    exact Nat.lt_succ_self calls

theorem Accounts.places_buffer {waiting : List (Submission α)} (moved : waiting.Perm (ss.waitingPackets ++ [submission])) :
    (history.buffered ++ [submission]).Perm (waiting ++ (history.released.flatten ++ history.discarded.flatten)) := by
  apply (accounts.places.append_right [submission]).trans
  rw [append_assoc]
  apply (List.Perm.append_left _ perm_append_comm).trans
  rw [← append_assoc]
  exact moved.symm.append_right _

theorem Accounts.discard (valid : after.Valid) (cleared : after.pending = []) : Accounts slot (calls + 1) after
      { history with discarded := history.discarded ++ [ss.waitingPackets] } where
  valid := valid
  streams := by simp [cleared]
  ordered := by simp [cleared]
  batches := accounts.batches
  places := by
    apply accounts.places.trans
    classical
    apply perm_iff_count.mpr
    simp only [waitingPackets, cleared, flatMap_nil, nil_append, flatten_append, flatten_singleton, count_append]
    omega
  numbered := accounts.numbered
  bounded := accounts.later.bounded
  queue := by
    refine accounts.queue.sublist ?_
    simp [firsts, cleared]

theorem Accounts.buffer (current : submission.seq = calls)
    (filed : after.Filed fun streamID entry => entry.streamID = streamID ∧ entry.slot = slot)
    (grown : ∀ ps ∈ after.pending, ps ∈ ss.pending ∨ ps.packets = [submission] ∨
      ∃ old ∈ ss.pending, ps.packets = old.packets ++ [submission])
    (moved : after.waitingPackets.Perm (ss.waitingPackets ++ [submission]))
    (queue : (firsts (history.released ++ after.pending.map packets)).Pairwise (· < ·)) :
    Accounts slot (calls + 1) after
      { history with buffered := history.buffered ++ [submission] } where
  valid := filed.valid
  streams := filed.filed
  ordered ps member := by
    rcases grown ps member with old | one | ⟨old, known, more⟩
    · exact accounts.ordered ps old
    · simp [one]
    · rw [more]
      refine pairwise_append.mpr ⟨accounts.ordered old known, by simp, ?_⟩
      intro entry earlier last new
      rw [mem_singleton.mp new, current]
      exact accounts.waiting_bounded known earlier
  batches := accounts.batches
  places := accounts.places_buffer moved
  numbered := accounts.numbered_buffer current
  bounded := accounts.bounded_buffer current
  queue := queue

theorem Accounts.submit (submission : Submission α) (current : submission.seq = calls) (here : submission.slot = slot) :
    Accounts slot (calls + 1) (ss.submit timeout submission.streamID network submission now).1
      { history with
        buffered := if (ss.submit timeout submission.streamID network submission now).2 then
          history.buffered else history.buffered ++ [submission]
        discarded := if ss.reclaims timeout submission.streamID now then
          history.discarded ++ [ss.waitingPackets] else history.discarded } := by
  have before : ss.Filed fun streamID entry => entry.streamID = streamID ∧ entry.slot = slot :=
    ⟨accounts.valid, accounts.streams⟩
  rcases ss.submit_cases timeout submission.streamID network submission now with
    ⟨free, result⟩ | ⟨call, busy, same, result⟩ | ⟨call, busy, different, stale, result⟩ |
    ⟨call, busy, different, fresh, absent, result⟩ | ⟨call, found, busy, different, fresh, present, result⟩
  all_goals
    have filed : (ss.submit timeout submission.streamID network submission now).1.Filed _ := before.submit ⟨rfl, here⟩
    rw [result] at filed ⊢
  · have kept : ss.reclaims timeout submission.streamID now = false := by
      simp [reclaims, free]
    simp only [kept]
    exact { accounts.later with valid := filed.valid }
  · have kept : ss.reclaims timeout submission.streamID now = false := by
      simp [reclaims, busy, same]
    simp only [kept]
    exact { accounts.later with valid := filed.valid }
  · have taken : ss.reclaims timeout submission.streamID now = true := by
      simp [reclaims, busy, different, stale]
    simp only [taken]
    exact accounts.discard filed.valid rfl
  · have kept : ss.reclaims timeout submission.streamID now = false := by
      simp [reclaims, busy, fresh]
    simp only [kept]
    refine accounts.buffer current filed (fun ps member => ?_) ?_ ?_
    · rcases mem_append.mp member with old | new
      · exact .inl old
      · exact .inr (.inl (by rw [mem_singleton.mp new]))
    · simp [waitingPackets]
    · rw [map_append, ← append_assoc, firsts_append]
      refine pairwise_append.mpr ⟨accounts.queue, by simp [firsts], ?_⟩
      intro number member last new
      simp only [firsts, map_cons, map_nil, filterMap_cons, head?_cons, filterMap_nil, mem_singleton] at new
      rw [new, current]
      exact accounts.firsts_bounded number member
  · have kept : ss.reclaims timeout submission.streamID now = false := by
      simp [reclaims, busy, fresh]
    simp only [kept]
    obtain ⟨inPending, addressed⟩ := findPending_eq_some present
    refine accounts.buffer current filed (fun ps member => ?_) ?_ ?_
    · rcases mem_appendPacket member with old | ⟨old, known, _, rfl⟩
      · exact .inl old
      · exact .inr (.inr ⟨old, known, rfl⟩)
    · exact appendPacket_waiting inPending addressed
    · have same := appendPacket_firsts submission.streamID submission accounts.valid.nonempty
      simpa only [firsts, filterMap_append, same] using accounts.queue

theorem Accounts.release_nothing (valid : after.Valid) (kept : after.pending = ss.pending) :
    Accounts slot (calls + 1) after { history with released := history.released ++ [[]] } where
  valid := valid
  streams := kept ▸ accounts.streams
  ordered := kept ▸ accounts.ordered
  batches batch member := by
    rcases mem_append.mp member with old | new
    · exact accounts.batches batch old
    · simp [mem_singleton.mp new, OneStream]
  places := by simpa [waitingPackets, kept] using accounts.places
  numbered := accounts.numbered
  bounded := accounts.later.bounded
  queue := by
    simpa only [firsts_append, firsts_empty, append_nil, kept] using accounts.queue

theorem Accounts.release (streamID : UInt64) : Accounts slot (calls + 1) (ss.release streamID now).1
      { history with released := history.released ++ [(ss.release streamID now).2] } := by
  have valid : (ss.release streamID now).1.Valid := accounts.valid.release
  rcases ss.release_cases streamID now with
    ⟨_, result⟩ | ⟨call, _, _, empty, result⟩ | ⟨call, next, rest, _, _, queue, result⟩
  all_goals rw [result] at valid ⊢
  · exact accounts.release_nothing valid rfl
  · exact accounts.release_nothing valid rfl
  · have first : next ∈ ss.pending := by simp [queue]
    have others : ∀ ps ∈ rest, ps ∈ ss.pending := fun ps member => by simp [queue, member]
    refine { accounts.later with
      valid, batches := ?_, places := ?_, queue := ?_
      streams := fun ps member => accounts.streams ps (others ps member)
      ordered := fun ps member => accounts.ordered ps (others ps member) }
    · intro batch member
      rcases mem_append.mp member with old | new
      · exact accounts.batches batch old
      · rw [mem_singleton.mp new]
        exact ⟨accounts.ordered next first, next.streamID, accounts.streams next first⟩
    · apply accounts.places.trans
      simp only [waitingPackets, queue, flatMap_cons, flatten_append, flatten_singleton]
      classical
      apply perm_iff_count.mpr
      simp only [count_append]
      omega
    · simpa [queue] using accounts.queue

end

end Step

def Audit.Consistent (audit : Audit α) : Prop :=
  ∀ slot, Accounts slot audit.calls (audit.manager.slot slot) (audit.ledger slot)

open Audit

theorem Audit.new_consistent (timeout : Duration) : (new α timeout).Consistent := by
  intro slot
  have unused : (new α timeout).manager.slot slot = {} := by
    simp only [new, Manager.setTimeout]
    split <;> rfl
  rw [unused]
  exact ⟨valid_empty, by simp, by simp, by simp [new], by simp [new, waitingPackets], by simp [new], by simp [new],
    by simp [new, firsts]⟩

theorem Audit.step_consistent (audit : Audit α) (op : Op α) (consistent : audit.Consistent) :
    (audit.step op).Consistent := by
  intro slot
  cases op with
  | submit target streamID network packet now =>
    by_cases here : slot = target
    · subst slot
      simp only [step, submit_slot, update_self]
      exact (consistent target).submit { seq := audit.calls, slot := target, streamID, packet } rfl rfl
    · simpa only [step, submit_slot_other here, update_of_ne here] using (consistent slot).later
  | release target streamID now =>
    by_cases here : slot = target
    · subst slot
      simpa only [step, release_slot, release_batch, update_self] using (consistent target).release streamID
    · simpa only [step, release_slot_other here, update_of_ne here] using (consistent slot).later

def Manager.step (m : Manager α) : Op α → Manager α
  | .submit slot streamID network packet now => (m.submit slot streamID network packet now).1
  | .release slot streamID now => (m.release slot streamID now).1

theorem Audit.run_projects (audit : Audit α) (ops : List (Op α)) :
    (runFrom step audit ops).manager.map Submission.packet =
      runFrom Manager.step (audit.manager.map Submission.packet) ops := by
  induction ops generalizing audit with
  | nil => rfl
  | cons op ops ih =>
    simp only [runFrom_cons, ih]
    cases op with
    | submit slot streamID network packet now =>
      have commutes := audit.manager.map_submit Submission.packet slot streamID network
        { seq := audit.calls, slot, streamID, packet } now
      simp only [step, Manager.step, commutes]
    | release slot streamID now =>
      simp only [step, Manager.step, Manager.map_release]

theorem Accounts.one_place {slot : Bool} {calls : Nat} (accounts : Accounts slot calls ss history)
    (buffered : submission ∈ history.buffered) :
    (ss.waitingPackets.map Submission.seq).count submission.seq +
      (history.released.flatten.map Submission.seq).count submission.seq +
      (history.discarded.flatten.map Submission.seq).count submission.seq = 1 := by
  have once : (history.buffered.map Submission.seq).count submission.seq = 1 :=
    count_eq_one_of_mem (accounts.numbered.imp Nat.ne_of_lt) (mem_map.mpr ⟨submission, buffered, rfl⟩)
  rw [(accounts.places.map Submission.seq).count_eq] at once
  simpa only [map_append, count_append, Nat.add_assoc] using once

theorem Accounts.activates {slot : Bool} {calls : Nat} (accounts : Accounts slot calls ss history) (streamID : UInt64)
    (now : Time) (returned : submission ∈ (ss.release streamID now).2) :
    ∃ call, (ss.release streamID now).1.active = some call ∧ submission.streamID = call.streamID := by
  obtain ⟨_, empty | ⟨next, waited, batch, call, active, same⟩⟩ := ss.release_spec streamID now
  · rw [empty] at returned
    cases returned
  · rw [batch] at returned
    exact ⟨call, active, (accounts.streams next waited submission returned).1.trans same.symm⟩

/-- Arbitration conserves packets and order, for every run of `Submit` and
`Release` on a fresh manager and every reclaim timeout. -/
theorem arbitration_conserves (timeout : Duration) (ops : List (Op α)) :
    let audit := runFrom Audit.step (Audit.new α timeout) ops
    audit.manager.map Submission.packet = runFrom Manager.step ((newManager α).setTimeout timeout) ops ∧
      ∀ slot,
        let ss := audit.manager.slot slot
        let history := audit.ledger slot
        ss.Valid ∧
        (∀ submission ∈ history.buffered, (ss.waitingPackets.map Submission.seq).count submission.seq +
            (history.released.flatten.map Submission.seq).count submission.seq +
            (history.discarded.flatten.map Submission.seq).count submission.seq = 1) ∧
        (∀ ps ∈ ss.pending, ∀ submission ∈ ps.packets,
          submission.streamID = ps.streamID ∧ submission.slot = slot) ∧
        (∀ batch ∈ history.released, OneStream slot batch) ∧
        (firsts (history.released ++ ss.pending.map PendingStream.packets)).Pairwise (· < ·) ∧
        (∀ streamID now, ∀ submission ∈ (audit.manager.release slot streamID now).2,
          ∃ call, ((audit.manager.release slot streamID now).1.slot slot).active = some call ∧
            submission.streamID = call.streamID) ∧
        ∀ op : Op α, op.slot ≠ slot →
          (audit.step op).manager.slots (slotIndex slot) = audit.manager.slots (slotIndex slot) ∧
            (audit.step op).ledger slot = history := by
  intro audit
  have consistent : audit.Consistent := runFrom_induct Audit.step_consistent (Audit.new_consistent timeout)
  refine ⟨?_, fun slot => ⟨(consistent slot).valid, fun submission => (consistent slot).one_place,
    (consistent slot).streams, (consistent slot).batches, (consistent slot).queue,
    fun streamID now submission returned => ?_, ?_⟩⟩
  · rw [Audit.run_projects]
    simp only [Audit.new, Manager.setTimeout]
    split <;> rfl
  · rw [release_batch] at returned
    rw [release_slot]
    exact (consistent slot).activates streamID now returned
  · intro op elsewhere
    cases op with
    | submit target streamID network packet now =>
      exact ⟨submit_slots_other elsewhere.symm, Function.update_of_ne elsewhere.symm _ _⟩
    | release target streamID now =>
      exact ⟨release_slots_other elsewhere.symm, Function.update_of_ne elsewhere.symm _ _⟩

end Ipsc2Mmdvm.Timeslot
