import Ipsc2Mmdvm.Timeslot.Manager

namespace Ipsc2Mmdvm.Timeslot

open Data SlotState List

/-! Whoever ends the call on a slot hands out the packets of the first waiting stream.  If they hold
the end of that stream too, the next one follows. -/

variable {α : Type}

section

variable (isTerminator : α → Bool) (streamOf : α → UInt64)

def Manager.drain (slot : Bool) : Nat → (Nat → Time) → Manager α → UInt64 → Option (Manager α × List α)
  | 0, _, _, _ => none
  | fuel + 1, clock, m, streamID =>
    let (m, buffered) := m.release slot streamID (clock 0)
    match buffered.reverse.find? isTerminator with
    | none => some (m, buffered)
    | some terminator =>
      match Manager.drain slot fuel (fun n => clock (n + 1)) m (streamOf terminator) with
      | none => none
      | some (m, rest) => some (m, buffered ++ rest)

def PendingStream.finished (ps : PendingStream α) : Bool := ps.packets.any isTerminator

def unfinished (pending : List (PendingStream α)) : List (PendingStream α) :=
  pending.dropWhile (·.finished isTerminator)

def handedOut (pending : List (PendingStream α)) : List α :=
  (pending.takeWhile (·.finished isTerminator) ++ (unfinished isTerminator pending).take 1).flatMap PendingStream.packets

structure Settled (pending : List (PendingStream α)) (ss : SlotState α) : Prop where
  owner : ss.active.map (fun call => (call.streamID, call.network)) =
    (unfinished isTerminator pending).head?.map fun ps => (ps.streamID, ps.network)
  waiting : ss.pending = (unfinished isTerminator pending).tail

structure Drained (slot : Bool) (m m' : Manager α) : Prop where
  settled : Settled isTerminator (m.slot slot).pending (m'.slot slot)
  others : ∀ other ≠ slot, m'.slot other = m.slot other

variable {isTerminator streamOf} {ps : PendingStream α} {m : Manager α} {slot : Bool} {streamID : UInt64}

theorem unfinished_of_finished (done : ps.finished isTerminator = true) (rest : List (PendingStream α)) :
    unfinished isTerminator (ps :: rest) = unfinished isTerminator rest := by
  simp [unfinished, done]

theorem handedOut_of_finished (done : ps.finished isTerminator = true) (rest : List (PendingStream α)) :
    handedOut isTerminator (ps :: rest) = ps.packets ++ handedOut isTerminator rest := by
  simp [handedOut, unfinished, done]

theorem finished_iff_find? (ps : PendingStream α) :
    ps.finished isTerminator = (ps.packets.reverse.find? isTerminator).isSome := by
  rw [PendingStream.finished, Bool.eq_iff_iff, any_eq_true, find?_isSome]
  simp only [mem_reverse]

def Manager.Filed (streamOf : α → UInt64) (m : Manager α) : Prop :=
  ∀ slot, (m.slot slot).Filed fun streamID item => streamOf item = streamID

section

variable (owner : ∃ call, (m.slot slot).active = some call ∧ call.streamID = streamID)

include owner

theorem release_last (empty : (m.slot slot).pending = []) (now : Time) : (m.release slot streamID now).2 = [] ∧
      (m.release slot streamID now).1.slot slot = { m.slot slot with active := none } := by
  obtain ⟨call, busy, same⟩ := owner
  rw [release_batch, release_slot]
  simp only [release, busy, same, empty, ne_eq, not_true, if_false, and_self]

theorem release_next {next : PendingStream α} {rest : List (PendingStream α)} (queue : (m.slot slot).pending = next :: rest)
    (now : Time) :
    (m.release slot streamID now).2 = next.packets ∧
      (m.release slot streamID now).1.slot slot = ⟨some ⟨next.streamID, next.network, now⟩, rest⟩ := by
  obtain ⟨call, busy, same⟩ := owner
  rw [release_batch, release_slot]
  simp only [release, busy, same, queue, ne_eq, not_true, if_false, and_self]

end

/-- With enough fuel the drain ends, hands out the finished streams and the one behind them, and
settles the slot.  The induction follows the queue: a finished stream is the next owner. -/
theorem drain_eq (slot : Bool) (clock : Nat → Time) {fuel : Nat} (filed : m.Filed streamOf)
    (enough : (m.slot slot).pending.length < fuel) (owner : ∃ call, (m.slot slot).active = some call ∧ call.streamID = streamID) :
    ∃ m', m.drain isTerminator streamOf slot fuel clock streamID =
        some (m', handedOut isTerminator (m.slot slot).pending) ∧
      Drained isTerminator slot m m' ∧ m'.Filed streamOf := by
  induction fuel generalizing clock m streamID with
  | zero => omega
  | succ fuel ih =>
    have filed' : (m.release slot streamID (clock 0)).1.Filed streamOf := filed_release filed slot streamID (clock 0)
    have apart : ∀ other ≠ slot, (m.release slot streamID (clock 0)).1.slot other = m.slot other :=
      fun other different => release_slot_other different
    cases queue : (m.slot slot).pending with
    | nil =>
      obtain ⟨batch, after⟩ := release_last owner queue (clock 0)
      refine ⟨(m.release slot streamID (clock 0)).1, ?_, ⟨⟨?_, ?_⟩, apart⟩, filed'⟩
      · simp only [Manager.drain, batch, reverse_nil, find?_nil]
        rfl
      · rw [after, queue]
        rfl
      · rw [after, queue]
        rfl
    | cons next rest =>
      obtain ⟨batch, after⟩ := release_next owner queue (clock 0)
      cases found : next.packets.reverse.find? isTerminator with
      | none =>
        have lacking : next.finished isTerminator = false := by
          rw [finished_iff_find?, found, Option.isSome_none]
        refine ⟨(m.release slot streamID (clock 0)).1, ?_, ⟨⟨?_, ?_⟩, apart⟩, filed'⟩
        · simp only [Manager.drain, batch, found]
          simp [handedOut, unfinished, lacking]
        · rw [after, queue]
          simp [unfinished, lacking]
        · rw [after, queue]
          simp [unfinished, lacking]
      | some terminator =>
        have done : next.finished isTerminator = true := by rw [finished_iff_find?, found, Option.isSome_some]
        have member : terminator ∈ next.packets := mem_reverse.mp (mem_of_find?_eq_some found)
        have label : streamOf terminator = next.streamID :=
          (filed slot).filed next (by rw [queue]; exact mem_cons_self) terminator member
        have left : ((m.release slot streamID (clock 0)).1.slot slot).pending = rest := by rw [after]
        have shorter : ((m.release slot streamID (clock 0)).1.slot slot).pending.length < fuel := by
          rw [left]
          rw [queue, length_cons] at enough
          omega
        obtain ⟨m', drained, ⟨settled, others⟩, filed''⟩ := ih (fun n => clock (n + 1)) filed' shorter
          ⟨_, by rw [after], label.symm⟩
        rw [left] at drained settled
        refine ⟨m', ?_, ⟨⟨?_, ?_⟩, fun other different => ?_⟩, filed''⟩
        · simp only [Manager.drain, batch, found, drained, handedOut_of_finished done]
        · rw [queue, unfinished_of_finished done]
          exact settled.owner
        · rw [queue, unfinished_of_finished done]
          exact settled.waiting
        · exact (others other different).trans (apart other different)

theorem drain_begins {fuel : Nat} {clock : Nat → Time} {m' : Manager α} {items : List α}
    (drained : m.drain isTerminator streamOf slot (fuel + 1) clock streamID = some (m', items)) :
    (m.release slot streamID (clock 0)).2 <+: items := by
  simp only [Manager.drain] at drained
  split at drained
  · cases drained
    exact prefix_rfl
  · split at drained
    · cases drained
    · cases drained
      exact prefix_append _ _

theorem Drained.subset {m' : Manager α} (drained : Drained isTerminator slot m m') (other : Bool) :
    ∀ ps ∈ (m'.slot other).pending, ps ∈ (m.slot other).pending := by
  intro ps member
  by_cases same : other = slot
  · subst same
    rw [drained.settled.waiting] at member
    exact (dropWhile_sublist _).subset (mem_of_mem_tail member)
  · rwa [drained.others other same] at member

theorem Manager.Filed.submit (filed : m.Filed streamOf) (slot : Bool) (network : String) (packet : α) (now : Time) :
    (m.submit slot (streamOf packet) network packet now).1.Filed streamOf :=
  filed_submit filed slot (streamOf packet) network packet now rfl

theorem submit_active_of_taken {network : String} {packet : α} {now : Time}
    (taken : (m.submit slot streamID network packet now).2 = true) :
    ∃ call, ((m.submit slot streamID network packet now).1.slot slot).active = some call ∧ call.streamID = streamID := by
  rw [submit_slot]
  exact (m.slot slot).submit_active m.timeout streamID network packet now taken

theorem submit_of_owner (owner : ∃ call, (m.slot slot).active = some call ∧ call.streamID = streamID) (network : String)
    (packet : α) (now : Time) :
    (m.submit slot streamID network packet now).2 = true ∧
      ((m.submit slot streamID network packet now).1.slot slot).pending = (m.slot slot).pending := by
  obtain ⟨call, busy, same⟩ := owner
  have taken : (m.slot slot).submit m.timeout streamID network packet now =
      ({ m.slot slot with active := some { call with lastSeen := now } }, true) := by
    simp only [submit, busy, if_pos same]
  rw [submit_slot, taken]
  exact ⟨congrArg Prod.snd taken, rfl⟩

theorem owner_drains (packet : α) (filed : m.Filed streamOf)
    (owner : ∃ call, (m.slot slot).active = some call ∧ call.streamID = streamOf packet) (network : String) (now : Time)
    (clock : Nat → Time) :
    let submitted := m.submit slot (streamOf packet) network packet now
    submitted.2 = true ∧
      ∃ m', submitted.1.drain isTerminator streamOf slot ((submitted.1.slot slot).pending.length + 1) clock (streamOf packet) =
          some (m', handedOut isTerminator (m.slot slot).pending) ∧ Drained isTerminator slot m m' ∧ m'.Filed streamOf := by
  intro submitted
  obtain ⟨taken, waiting⟩ := submit_of_owner owner network packet now
  obtain ⟨m', drained, ⟨settled, others⟩, filed'⟩ := drain_eq slot clock (filed.submit slot network packet now)
    (Nat.lt_succ_self _) (submit_active_of_taken taken)
  rw [waiting] at drained settled
  refine ⟨taken, m', by rw [waiting]; exact drained, ⟨settled, fun other different => ?_⟩, filed'⟩
  exact (others other different).trans (submit_slot_other different)

end

section

variable (slotOf : α → Bool) (streamOf : α → UInt64)

def Manager.Collected (history : List α) (m : Manager α) : Prop :=
  ∀ slot, ∀ ps ∈ (m.slot slot).pending, ∃ earlier later, history = earlier ++ later ∧
    ps.packets = later.filter fun item => slotOf item = slot ∧ streamOf item = ps.streamID

variable {slotOf streamOf} {history : List α} {m : Manager α}

theorem SlotState.mem_appendPacket_of_nodup {streamID : UInt64} {packet : α} {pending : List (PendingStream α)}
    {ps : PendingStream α} (distinct : (pending.map PendingStream.streamID).Nodup)
    (member : ps ∈ appendPacket streamID packet pending) :
    (ps ∈ pending ∧ ps.streamID ≠ streamID) ∨
      ∃ old ∈ pending, old.streamID = streamID ∧ ps = { old with packets := old.packets ++ [packet] } := by
  obtain kept | appended := mem_appendPacket member
  · by_cases same : ps.streamID = streamID
    · right
      induction pending with
      | nil => cases kept
      | cons first rest ih =>
        simp only [map_cons, nodup_cons] at distinct
        simp only [appendPacket] at member
        split at member
        · rename_i hit
          obtain new | later := mem_cons.mp member
          · exact ⟨first, mem_cons_self, hit, new⟩
          · exact absurd (mem_map.mpr ⟨ps, later, same.trans hit.symm⟩) distinct.1
        · rename_i miss
          obtain new | later := mem_cons.mp member
          · exact absurd (new ▸ same) miss
          · obtain head | tail := mem_cons.mp kept
            · exact absurd (head ▸ same) miss
            · obtain ⟨old, oldMember, found⟩ := ih distinct.2 later tail
              exact ⟨old, mem_cons_of_mem _ oldMember, found⟩
    · exact .inl ⟨kept, same⟩
  · exact .inr appended

section

variable (collected : m.Collected slotOf streamOf history)

include collected

theorem Manager.Collected.of_subset {m' : Manager α}
    (subset : ∀ slot, ∀ ps ∈ (m'.slot slot).pending, ps ∈ (m.slot slot).pending) : m'.Collected slotOf streamOf history :=
  fun slot ps member => collected slot ps (subset slot ps member)

theorem Manager.Collected.release (slot : Bool) (streamID : UInt64) (now : Time) :
    (m.release slot streamID now).1.Collected slotOf streamOf history := by
  apply collected.of_subset
  exact forall_release (P := fun slot ss => ∀ ps ∈ ss.pending, ps ∈ (m.slot slot).pending) (fun _ _ member => member)
    ((m.slot slot).release_spec streamID now).1

theorem Manager.Collected.submit (filed : m.Filed streamOf) (network : String) (packet : α) (now : Time) :
    (m.submit (slotOf packet) (streamOf packet) network packet now).1.Collected slotOf streamOf (history ++ [packet]) := by
  intro slot ps member
  -- A packet of another slot or stream adds nothing to a stream that waits.
  have apart (old : ps ∈ (m.slot slot).pending) (foreign : ¬(slotOf packet = slot ∧ streamOf packet = ps.streamID)) :
      ∃ earlier later, history ++ [packet] = earlier ++ later ∧
        ps.packets = later.filter fun item => slotOf item = slot ∧ streamOf item = ps.streamID := by
    obtain ⟨earlier, later, split, packets⟩ := collected slot ps old
    refine ⟨earlier, later ++ [packet], by rw [split, append_assoc], ?_⟩
    rw [filter_append, ← packets, filter_cons_of_neg (by simpa using foreign), filter_nil, append_nil]
  by_cases same : slot = slotOf packet
  · subst same
    have valid := (filed (slotOf packet)).valid
    rw [submit_slot] at member
    obtain ⟨free, result⟩ | ⟨call, busy, own, result⟩ | ⟨_, _, _, _, result⟩ | ⟨_, _, _, _, missing, result⟩ |
      ⟨_, _, _, _, _, _, result⟩ :=
      (m.slot (slotOf packet)).submit_cases m.timeout (streamOf packet) network packet now
    all_goals
      rw [result] at member
      simp only at member
    · rw [valid.idle free] at member
      cases member
    · exact apart member fun ⟨_, same⟩ => valid.waiting call busy ps member (same.symm.trans own.symm)
    · cases member
    · obtain old | new := mem_append.mp member
      · exact apart old fun ⟨_, same⟩ => findPending_eq_none.mp missing ps old same.symm
      · rw [mem_singleton.mp new]
        exact ⟨history, [packet], rfl, by simp⟩
    · obtain ⟨old, different⟩ | ⟨old, oldMember, stream, new⟩ := mem_appendPacket_of_nodup valid.distinct member
      · exact apart old fun ⟨_, same⟩ => different same.symm
      · obtain ⟨earlier, later, split, packets⟩ := collected (slotOf packet) old oldMember
        refine ⟨earlier, later ++ [packet], by rw [split, append_assoc], ?_⟩
        rw [new, packets]
        simp [stream]
  · rw [submit_slot_other same] at member
    exact apart member fun ⟨here, _⟩ => same here.symm

end

variable (slotOf streamOf) in
structure Manager.Queued (history : List α) (m : Manager α) : Prop where
  filed : m.Filed streamOf
  collected : m.Collected slotOf streamOf history

theorem Manager.Queued.submit (queued : m.Queued slotOf streamOf history) (network : String) (packet : α) (now : Time) :
    (m.submit (slotOf packet) (streamOf packet) network packet now).1.Queued slotOf streamOf (history ++ [packet]) :=
  ⟨queued.filed.submit (slotOf packet) network packet now, queued.collected.submit queued.filed network packet now⟩

theorem Manager.Queued.release (queued : m.Queued slotOf streamOf history) (slot : Bool) (streamID : UInt64) (now : Time) :
    (m.release slot streamID now).1.Queued slotOf streamOf history :=
  ⟨filed_release queued.filed slot streamID now, queued.collected.release slot streamID now⟩

theorem queued_newManager (timeout : Duration) : ((newManager α).setTimeout timeout).Queued slotOf streamOf [] := by
  have empty (slot : Bool) : ((newManager α).setTimeout timeout).slot slot = {} := by
    simp only [Manager.setTimeout]
    split <;> rfl
  refine ⟨?_, ?_⟩
  · intro slot
    rw [empty]
    exact ⟨valid_empty, by simp⟩
  · intro slot ps member
    rw [empty] at member
    cases member

end

end Ipsc2Mmdvm.Timeslot
