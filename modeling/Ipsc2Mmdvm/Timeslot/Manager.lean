import Mathlib.Data.List.Nodup
import Mathlib.Logic.Function.Basic
import Ipsc2Mmdvm.Data.Bits
import Ipsc2Mmdvm.Data.Clock

namespace Ipsc2Mmdvm.Timeslot

open Data List Function Option

/-! The first call on a slot is delivered at once; packets of any other call are buffered until the
slot is released, and a call that fell silent is reclaimed by the next competitor. -/

def defaultTimeout : Duration := 3 * second

structure ActiveCall where
  streamID : UInt64
  network : String
  lastSeen : Time
deriving DecidableEq

structure PendingStream (α : Type) where
  streamID : UInt64
  network : String
  packets : List α
deriving DecidableEq

structure SlotState (α : Type) where
  active : Option ActiveCall := none
  pending : List (PendingStream α) := []
deriving DecidableEq

structure Manager (α : Type) where
  slots : Fin 2 → Option (SlotState α)
  timeout : Duration

def newManager (α : Type) : Manager α where
  slots := fun _ => none
  timeout := defaultTimeout

def Manager.setTimeout {α : Type} (m : Manager α) (timeout : Duration) : Manager α :=
  if timeout ≤ 0 then m else { m with timeout }

def slotIndex (slot : Bool) : Fin 2 := bitIndex slot

theorem slotIndex_injective : Function.Injective slotIndex := by
  simp only [Function.Injective]
  decide

variable {α : Type}

def Manager.getOrCreateSlot (m : Manager α) (idx : Fin 2) : SlotState α :=
  (m.slots idx).getD {}

def Manager.slot (m : Manager α) (slot : Bool) : SlotState α :=
  m.getOrCreateSlot (slotIndex slot)

namespace SlotState

def findPending (ss : SlotState α) (streamID : UInt64) : Option (PendingStream α) :=
  ss.pending.find? fun ps => ps.streamID == streamID

def appendPacket (streamID : UInt64) (packet : α) : List (PendingStream α) → List (PendingStream α)
  | [] => []
  | ps :: rest =>
    if ps.streamID = streamID then { ps with packets := ps.packets ++ [packet] } :: rest
    else ps :: appendPacket streamID packet rest

def timedOut (timeout : Duration) (call : ActiveCall) (now : Time) : Bool :=
  timeout < Time.sub now call.lastSeen

def submit (timeout : Duration) (ss : SlotState α) (streamID : UInt64) (network : String)
    (packet : α) (now : Time) : SlotState α × Bool :=
  match ss.active with
  | none => ({ ss with active := some { streamID, network, lastSeen := now } }, true)
  | some call =>
    if call.streamID = streamID then
      ({ ss with active := some { call with lastSeen := now } }, true)
    else if timedOut timeout call now then
      -- Stale pending streams go together with the timed-out call.
      ({ active := some { streamID, network, lastSeen := now }, pending := [] }, true)
    else
      match ss.findPending streamID with
      | none =>
        ({ ss with pending := ss.pending ++ [{ streamID, network, packets := [packet] }] }, false)
      | some _ => ({ ss with pending := appendPacket streamID packet ss.pending }, false)

def release (ss : SlotState α) (streamID : UInt64) (now : Time) : SlotState α × List α :=
  match ss.active with
  | none => (ss, [])
  | some call =>
    if call.streamID ≠ streamID then (ss, [])
    else
      match ss.pending with
      | [] => ({ ss with active := none }, [])
      | next :: rest =>
        ({ active := some { streamID := next.streamID, network := next.network, lastSeen := now },
           pending := rest }, next.packets)

end SlotState

def Manager.submit (m : Manager α) (slot : Bool) (streamID : UInt64) (network : String)
    (packet : α) (now : Time) : Manager α × Bool :=
  let idx := slotIndex slot
  let result := (m.getOrCreateSlot idx).submit m.timeout streamID network packet now
  ({ m with slots := Function.update m.slots idx (some result.1) }, result.2)

def Manager.release (m : Manager α) (slot : Bool) (streamID : UInt64) (now : Time) :
    Manager α × List α :=
  let idx := slotIndex slot
  match m.slots idx with
  | none => (m, [])
  | some ss =>
    let result := ss.release streamID now
    ({ m with slots := Function.update m.slots idx (some result.1) }, result.2)

section Slots

variable {m : Manager α} {slot other : Bool} {streamID : UInt64} {network : String} {packet : α}
  {now : Time} {P : Bool → SlotState α → Prop}

@[simp] theorem submit_slot : (m.submit slot streamID network packet now).1.slot slot =
      ((m.slot slot).submit m.timeout streamID network packet now).1 := by
  simp [Manager.submit, Manager.slot, Manager.getOrCreateSlot]

theorem release_eq :
    ((m.release slot streamID now).1.slot slot, (m.release slot streamID now).2) = (m.slot slot).release streamID now := by
  cases used : m.slots (slotIndex slot) with
  | none => simp [Manager.release, Manager.slot, Manager.getOrCreateSlot, used, SlotState.release]
  | some ss => simp [Manager.release, Manager.slot, Manager.getOrCreateSlot, used]

@[simp] theorem release_slot : (m.release slot streamID now).1.slot slot = ((m.slot slot).release streamID now).1 :=
  congrArg Prod.fst release_eq

@[simp] theorem release_batch : (m.release slot streamID now).2 = ((m.slot slot).release streamID now).2 :=
  congrArg Prod.snd release_eq

section

variable (different : other ≠ slot)

include different

theorem submit_slots_other :
    (m.submit slot streamID network packet now).1.slots (slotIndex other) = m.slots (slotIndex other) := by
  have distinct := slotIndex_injective.ne different
  simp [Manager.submit, update_of_ne distinct]

theorem release_slots_other : (m.release slot streamID now).1.slots (slotIndex other) = m.slots (slotIndex other) := by
  have distinct := slotIndex_injective.ne different
  simp only [Manager.release]
  split
  · rfl
  · simp [update_of_ne distinct]

theorem submit_slot_other : (m.submit slot streamID network packet now).1.slot other = m.slot other := by
  simp only [Manager.slot, Manager.getOrCreateSlot, submit_slots_other different]

theorem release_slot_other : (m.release slot streamID now).1.slot other = m.slot other := by
  simp only [Manager.slot, Manager.getOrCreateSlot, release_slots_other different]

end

theorem forall_submit (each : ∀ slot, P slot (m.slot slot))
    (here : P slot ((m.slot slot).submit m.timeout streamID network packet now).1) (other : Bool) :
    P other ((m.submit slot streamID network packet now).1.slot other) := by
  by_cases same : other = slot
  · rw [same, submit_slot]
    exact here
  · rw [submit_slot_other same]
    exact each other

theorem forall_release (each : ∀ slot, P slot (m.slot slot)) (here : P slot ((m.slot slot).release streamID now).1)
    (other : Bool) : P other ((m.release slot streamID now).1.slot other) := by
  by_cases same : other = slot
  · rw [same, release_slot]
    exact here
  · rw [release_slot_other same]
    exact each other

end Slots

namespace SlotState

section Cases

variable (timeout : Duration) (ss : SlotState α) (streamID : UInt64) (network : String) (packet : α)
  (now : Time)

/-- Everything `Submit` can do to a slot: claim it, keep it, reclaim it from a
silent call, or buffer the packet behind a new or an already waiting stream. -/
theorem submit_cases : (ss.active = none ∧ ss.submit timeout streamID network packet now =
        ({ ss with active := some { streamID, network, lastSeen := now } }, true)) ∨
    (∃ call, ss.active = some call ∧ call.streamID = streamID ∧ ss.submit timeout streamID network packet now =
        ({ ss with active := some { call with lastSeen := now } }, true)) ∨
    (∃ call, ss.active = some call ∧ call.streamID ≠ streamID ∧ timedOut timeout call now = true ∧
      ss.submit timeout streamID network packet now =
        ({ active := some { streamID, network, lastSeen := now }, pending := [] }, true)) ∨
    (∃ call, ss.active = some call ∧ call.streamID ≠ streamID ∧ timedOut timeout call now = false ∧
      ss.findPending streamID = none ∧
      ss.submit timeout streamID network packet now =
        ({ ss with pending := ss.pending ++ [{ streamID, network, packets := [packet] }] }, false)) ∨
    (∃ call ps, ss.active = some call ∧ call.streamID ≠ streamID ∧
      timedOut timeout call now = false ∧ ss.findPending streamID = some ps ∧
      ss.submit timeout streamID network packet now =
        ({ ss with pending := appendPacket streamID packet ss.pending }, false)) := by
  cases busy : ss.active with
  | none => exact .inl ⟨rfl, by simp [submit, busy]⟩
  | some call =>
    by_cases same : call.streamID = streamID
    · exact .inr (.inl ⟨call, rfl, same, by simp [submit, busy, same]⟩)
    · cases stale : timedOut timeout call now with
      | true => exact .inr (.inr (.inl ⟨call, rfl, same, stale, by simp [submit, busy, same, stale]⟩))
      | false =>
        cases found : ss.findPending streamID with
        | none =>
          exact .inr (.inr (.inr (.inl ⟨call, rfl, same, stale, rfl, by
            simp [submit, busy, same, stale, found]⟩)))
        | some ps =>
          exact .inr (.inr (.inr (.inr ⟨call, ps, rfl, same, stale, rfl, by
            simp [submit, busy, same, stale, found]⟩)))

/-- Everything `Release` can do: nothing when the caller does not hold the
slot, free it, or promote the first waiting stream. -/
theorem release_cases :
    ((∀ call, ss.active = some call → call.streamID ≠ streamID) ∧ ss.release streamID now = (ss, [])) ∨
    (∃ call, ss.active = some call ∧ call.streamID = streamID ∧ ss.pending = [] ∧
      ss.release streamID now = ({ ss with active := none }, [])) ∨
    (∃ call next rest, ss.active = some call ∧ call.streamID = streamID ∧ ss.pending = next :: rest ∧
      ss.release streamID now =
        ({ active := some { streamID := next.streamID, network := next.network, lastSeen := now },
           pending := rest }, next.packets)) := by
  cases busy : ss.active with
  | none => exact .inl ⟨by simp, by simp [release, busy]⟩
  | some call =>
    by_cases same : call.streamID = streamID
    · cases queue : ss.pending with
      | nil => exact .inr (.inl ⟨call, rfl, same, rfl, by simp [release, busy, same, queue]⟩)
      | cons next rest =>
        exact .inr (.inr ⟨call, next, rest, rfl, same, rfl, by simp [release, busy, same, queue]⟩)
    · exact .inl ⟨by simpa using same, by simp [release, busy, same]⟩

theorem submit_active (taken : (ss.submit timeout streamID network packet now).2 = true) :
    ∃ call, (ss.submit timeout streamID network packet now).1.active = some call ∧ call.streamID = streamID := by
  rcases submit_cases timeout ss streamID network packet now with
    ⟨_, result⟩ | ⟨call, _, same, result⟩ | ⟨_, _, _, _, result⟩ | ⟨_, _, _, _, _, result⟩ |
    ⟨_, _, _, _, _, _, result⟩
  all_goals rw [result] at taken ⊢
  · exact ⟨_, rfl, rfl⟩
  · exact ⟨_, rfl, same⟩
  · exact ⟨_, rfl, rfl⟩
  · cases taken
  · cases taken

end Cases

variable {timeout : Duration} {ss : SlotState α} {streamID : UInt64} {network : String} {packet : α}
  {now : Time} {ps : PendingStream α} {belongs : UInt64 → α → Prop}

structure Valid (ss : SlotState α) : Prop where
  idle : ss.active = none → ss.pending = []
  distinct : (ss.pending.map PendingStream.streamID).Nodup
  waiting : ∀ call, ss.active = some call → ∀ ps ∈ ss.pending, ps.streamID ≠ call.streamID
  nonempty : ∀ ps ∈ ss.pending, ps.packets ≠ []

theorem valid_empty : Valid ({} : SlotState α) where
  idle _ := rfl
  distinct := .nil
  waiting _ absent := by simp at absent
  nonempty := by simp

theorem findPending_eq_none : ss.findPending streamID = none ↔ ∀ ps ∈ ss.pending, ps.streamID ≠ streamID := by
  simp [findPending]

theorem findPending_eq_some (found : ss.findPending streamID = some ps) : ps ∈ ss.pending ∧ ps.streamID = streamID :=
  ⟨mem_of_find?_eq_some found, by simpa using find?_some found⟩

theorem appendPacket_streamIDs (pending : List (PendingStream α)) :
    (appendPacket streamID packet pending).map PendingStream.streamID = pending.map PendingStream.streamID := by
  induction pending with
  | nil => rfl
  | cons ps rest ih =>
    simp only [appendPacket]
    split
    · simp
    · simp [ih]

theorem mem_appendPacket {pending : List (PendingStream α)} (member : ps ∈ appendPacket streamID packet pending) :
    ps ∈ pending ∨ ∃ old ∈ pending, old.streamID = streamID ∧ ps = { old with packets := old.packets ++ [packet] } := by
  induction pending with
  | nil => simp [appendPacket] at member
  | cons first rest ih =>
    simp only [appendPacket] at member
    split at member
    · rename_i same
      rcases mem_cons.mp member with rfl | later
      · exact .inr ⟨first, by simp, same, rfl⟩
      · exact .inl (by simp [later])
    · rcases mem_cons.mp member with rfl | later
      · exact .inl (by simp)
      · rcases ih later with old | ⟨old, oldMember, same, rfl⟩
        · exact .inl (by simp [old])
        · exact .inr ⟨old, by simp [oldMember], same, rfl⟩

theorem mem_submit (member : ps ∈ (ss.submit timeout streamID network packet now).1.pending) :
    ps ∈ ss.pending ∨ (ss.submit timeout streamID network packet now).2 = false ∧ ps.streamID = streamID ∧
      (ps.packets = [packet] ∨ ∃ old ∈ ss.pending, old.streamID = streamID ∧ ps.packets = old.packets ++ [packet]) := by
  rcases submit_cases timeout ss streamID network packet now with
    ⟨_, result⟩ | ⟨_, _, _, result⟩ | ⟨_, _, _, _, result⟩ | ⟨_, _, _, _, _, result⟩ |
    ⟨_, _, _, _, _, _, result⟩
  all_goals rw [result] at member ⊢
  · exact .inl member
  · exact .inl member
  · cases member
  · rcases mem_append.mp member with old | new
    · exact .inl old
    · rw [mem_singleton.mp new]
      exact .inr ⟨rfl, rfl, .inl rfl⟩
  · rcases mem_appendPacket member with old | ⟨old, known, same, rfl⟩
    · exact .inl old
    · exact .inr ⟨rfl, same, .inr ⟨old, known, same, rfl⟩⟩

theorem release_spec (ss : SlotState α) (streamID : UInt64) (now : Time) :
    (∀ ps ∈ (ss.release streamID now).1.pending, ps ∈ ss.pending) ∧ ((ss.release streamID now).2 = [] ∨
        ∃ next ∈ ss.pending, (ss.release streamID now).2 = next.packets ∧
          ∃ call, (ss.release streamID now).1.active = some call ∧ call.streamID = next.streamID) := by
  rcases release_cases ss streamID now with
    ⟨_, result⟩ | ⟨_, _, _, empty, result⟩ | ⟨_, next, rest, _, _, queue, result⟩
  all_goals rw [result]
  · exact ⟨fun _ member => member, .inl rfl⟩
  · exact ⟨fun _ member => member, .inl rfl⟩
  · rw [queue]
    exact ⟨fun _ member => mem_cons_of_mem _ member, .inr ⟨next, mem_cons_self, rfl, _, rfl, rfl⟩⟩

theorem Valid.submit (valid : ss.Valid) : (ss.submit timeout streamID network packet now).1.Valid := by
  rcases submit_cases timeout ss streamID network packet now with
    ⟨free, result⟩ | ⟨call, busy, same, result⟩ | ⟨call, busy, different, stale, result⟩ |
    ⟨call, busy, different, fresh, absent, result⟩ | ⟨call, found, busy, different, fresh, present, result⟩
  all_goals rw [result]
  · have empty := valid.idle free
    exact ⟨by simp, valid.distinct, by simp [empty], valid.nonempty⟩
  · exact ⟨by simp, valid.distinct, by simpa using valid.waiting call busy, valid.nonempty⟩
  · exact ⟨by simp, by simp, by simp, by simp⟩
  · have unknown := findPending_eq_none.mp absent
    refine ⟨by simp [busy], ?_, ?_, ?_⟩
    · simp only [map_append, map_cons, map_nil]
      apply valid.distinct.append (by simp)
      simpa [disjoint_singleton] using unknown
    · intro other holds ps member
      rcases mem_append.mp member with old | new
      · exact valid.waiting other holds ps old
      · simp only [mem_singleton] at new
        subst ps
        simp only [busy, some.injEq] at holds
        exact holds ▸ Ne.symm different
    · intro ps member
      rcases mem_append.mp member with old | new
      · exact valid.nonempty ps old
      · simp only [mem_singleton] at new
        simp [new]
  · refine ⟨by simp [busy], by simpa [appendPacket_streamIDs] using valid.distinct, ?_, ?_⟩
    · intro other holds ps member
      rcases mem_appendPacket member with old | ⟨old, oldMember, _, rfl⟩
      · exact valid.waiting other holds ps old
      · exact valid.waiting other holds old oldMember
    · intro ps member
      rcases mem_appendPacket member with old | ⟨old, _, _, rfl⟩
      · exact valid.nonempty ps old
      · simp

theorem Valid.release (valid : ss.Valid) : (ss.release streamID now).1.Valid := by
  rcases release_cases ss streamID now with
    ⟨_, result⟩ | ⟨call, _, _, empty, result⟩ | ⟨call, next, rest, _, _, queue, result⟩
  all_goals rw [result]
  · exact valid
  · exact ⟨fun _ => empty, valid.distinct, by simp, valid.nonempty⟩
  · have distinct := valid.distinct
    rw [queue, map_cons, nodup_cons] at distinct
    refine ⟨by simp, distinct.2, ?_, fun ps member => valid.nonempty ps (by simp [queue, member])⟩
    intro active promoted ps member same
    simp only [some.injEq] at promoted
    subst promoted
    exact distinct.1 (mem_map.mpr ⟨ps, member, same⟩)

structure Filed (belongs : UInt64 → α → Prop) (ss : SlotState α) : Prop where
  valid : ss.Valid
  filed : ∀ ps ∈ ss.pending, ∀ item ∈ ps.packets, belongs ps.streamID item

theorem Filed.submit (filed : ss.Filed belongs) (own : belongs streamID packet) :
    (ss.submit timeout streamID network packet now).1.Filed belongs := by
  refine ⟨filed.valid.submit, fun ps member item itemMember => ?_⟩
  rcases mem_submit member with old | ⟨_, named, one | ⟨old, known, same, more⟩⟩
  · exact filed.filed ps old item itemMember
  · rw [one, mem_singleton] at itemMember
    rw [itemMember, named]
    exact own
  · rw [more, mem_append, mem_singleton] at itemMember
    rcases itemMember with before | rfl
    · rw [named, ← same]
      exact filed.filed old known item before
    · rw [named]
      exact own

theorem Filed.release (filed : ss.Filed belongs) : (ss.release streamID now).1.Filed belongs := by
  refine ⟨filed.valid.release, ?_⟩
  rcases release_cases ss streamID now with
    ⟨_, result⟩ | ⟨call, _, _, _, result⟩ | ⟨call, next, rest, _, _, queue, result⟩
  all_goals rw [result]
  · exact filed.filed
  · exact filed.filed
  · exact fun ps member => filed.filed ps (by simp [queue, member])

end SlotState

section Filed

variable {m : Manager α} {belongs : Bool → UInt64 → α → Prop}

section

variable (filed : ∀ slot, (m.slot slot).Filed (belongs slot)) (slot : Bool) (streamID : UInt64)

include filed slot streamID

theorem filed_submit (network : String) (packet : α) (now : Time) (own : belongs slot streamID packet) (other : Bool) :
    ((m.submit slot streamID network packet now).1.slot other).Filed (belongs other) :=
  forall_submit (P := fun slot ss => ss.Filed (belongs slot)) filed ((filed slot).submit own) other

theorem filed_release (now : Time) (other : Bool) :
    ((m.release slot streamID now).1.slot other).Filed (belongs other) :=
  forall_release (P := fun slot ss => ss.Filed (belongs slot)) filed (filed slot).release other

end

end Filed

/-! A run over packets that carry extra information projects to the run over the bare packets. -/

section Map

variable {β : Type} (f : α → β)

def PendingStream.map (ps : PendingStream α) : PendingStream β where
  streamID := ps.streamID
  network := ps.network
  packets := ps.packets.map f

def SlotState.map (ss : SlotState α) : SlotState β where
  active := ss.active
  pending := ss.pending.map (PendingStream.map f)

def Manager.map (m : Manager α) : Manager β where
  slots idx := (m.slots idx).map (SlotState.map f)
  timeout := m.timeout

theorem SlotState.map_findPending (ss : SlotState α) (streamID : UInt64) :
    (ss.map f).findPending streamID = (ss.findPending streamID).map (PendingStream.map f) := by
  simp [SlotState.findPending, SlotState.map, find?_map, comp_def, PendingStream.map]

theorem SlotState.map_appendPacket (streamID : UInt64) (packet : α) (pending : List (PendingStream α)) :
    (SlotState.appendPacket streamID packet pending).map (PendingStream.map f) =
      SlotState.appendPacket streamID (f packet) (pending.map (PendingStream.map f)) := by
  induction pending with
  | nil => rfl
  | cons ps rest ih =>
    simp only [SlotState.appendPacket, map_cons, PendingStream.map]
    split
    · simp [PendingStream.map]
    · simp [← ih, PendingStream.map]

theorem SlotState.map_submit (timeout : Duration) (ss : SlotState α) (streamID : UInt64)
    (network : String) (packet : α) (now : Time) :
    (ss.map f).submit timeout streamID network (f packet) now =
      ((ss.submit timeout streamID network packet now).1.map f, (ss.submit timeout streamID network packet now).2) := by
  rcases ss.submit_cases timeout streamID network packet now with
    ⟨free, result⟩ | ⟨call, busy, same, result⟩ | ⟨call, busy, different, stale, result⟩ |
    ⟨call, busy, different, fresh, absent, result⟩ | ⟨call, found, busy, different, fresh, present, result⟩
  all_goals rw [result]
  · simp [SlotState.submit, SlotState.map, free]
  · simp [SlotState.submit, SlotState.map, busy, same]
  · simp [SlotState.submit, SlotState.map, busy, different, stale]
  · have active : (ss.map f).active = some call := busy
    have unknown : (ss.map f).findPending streamID = none := by
      rw [map_findPending, absent, map_none]
    simp only [SlotState.submit, active, different, if_false, fresh, Bool.false_eq_true, unknown]
    simp [SlotState.map, busy, PendingStream.map]
  · have active : (ss.map f).active = some call := busy
    have known : (ss.map f).findPending streamID = some (found.map f) := by
      rw [map_findPending, present, map_some]
    simp only [SlotState.submit, active, different, if_false, fresh, Bool.false_eq_true, known]
    simp [SlotState.map, busy, map_appendPacket]

theorem SlotState.map_release (ss : SlotState α) (streamID : UInt64) (now : Time) : (ss.map f).release streamID now =
      ((ss.release streamID now).1.map f, (ss.release streamID now).2.map f) := by
  cases busy : ss.active with
  | none => simp [SlotState.release, SlotState.map, busy]
  | some call =>
    by_cases same : call.streamID = streamID
    · cases queue : ss.pending <;>
        simp [SlotState.release, SlotState.map, busy, same, queue, PendingStream.map]
    · simp [SlotState.release, SlotState.map, busy, same]

theorem Manager.map_update (m : Manager α) (idx : Fin 2) (ss : SlotState α) :
    ({ m with slots := update m.slots idx (some ss) } : Manager α).map f =
      { m.map f with slots := update (m.map f).slots idx (some (ss.map f)) } := by
  simp only [Manager.map, Manager.mk.injEq, and_true]
  funext other
  by_cases same : other = idx
  · subst other
    simp
  · simp [update_of_ne same]

theorem Manager.map_submit (m : Manager α) (slot : Bool) (streamID : UInt64) (network : String)
    (packet : α) (now : Time) :
    (m.map f).submit slot streamID network (f packet) now = ((m.submit slot streamID network packet now).1.map f,
        (m.submit slot streamID network packet now).2) := by
  have slotMap : (m.map f).getOrCreateSlot (slotIndex slot) = (m.getOrCreateSlot (slotIndex slot)).map f := by
    cases used : m.slots (slotIndex slot) <;>
      simp [Manager.getOrCreateSlot, Manager.map, SlotState.map, used]
  simp only [Manager.submit, slotMap, SlotState.map_submit, Manager.map_update]
  rfl

theorem Manager.map_release (m : Manager α) (slot : Bool) (streamID : UInt64) (now : Time) :
    (m.map f).release slot streamID now =
      ((m.release slot streamID now).1.map f, (m.release slot streamID now).2.map f) := by
  cases used : m.slots (slotIndex slot) with
  | none =>
    have unused : (m.map f).slots (slotIndex slot) = none := by simp [Manager.map, used]
    simp [Manager.release, used, unused]
  | some ss =>
    have mapped : (m.map f).slots (slotIndex slot) = some (ss.map f) := by simp [Manager.map, used]
    simp only [Manager.release, used, mapped, SlotState.map_release, Manager.map_update]

end Map

end Ipsc2Mmdvm.Timeslot
