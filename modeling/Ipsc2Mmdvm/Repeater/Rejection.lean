import Ipsc2Mmdvm.Repeater.Guard

namespace Ipsc2Mmdvm.Repeater

open Data Proto GoMap

/-! The talkgroup check runs before the slot check, so a packet that the slot check refuses has
already changed the talkgroup table. -/

namespace Guard

variable {g : Guard} {source : String} {pkt : Packet} {now : Time}

def ChangesGroup (g : Guard) (source : String) (pkt : Packet) (now : Time) : Prop :=
  match g.liveGroupOwner pkt now with
  | none => pkt.isTerminator = false
  | some owner =>
    owner.source = source ∧
      (pkt.isTerminator = true ∨ owner.lastSeen ≠ now ∨ owner.streamID ≠ pkt.streamID)

/-- The packet passes the talkgroup check, changing the table, and is then
refused by the slot check. -/
structure LeaksGroup (g : Guard) (source : String) (pkt : Packet) (now : Time) : Prop where
  notEcho : g.isEcho source pkt now = false
  notDuplicate : g.isDuplicate source pkt now = false
  grouped : isGrouped pkt = true
  changes : g.ChangesGroup source pkt now
  refused : g.slotBusy source pkt now = true

theorem ChangesGroup.free (changes : g.ChangesGroup source pkt now) : g.groupBusy source pkt now = false := by
  simp only [ChangesGroup] at changes
  simp only [groupBusy]
  cases held : g.liveGroupOwner pkt now with
  | none => simp
  | some owner =>
    simp only [held] at changes
    simp [changes.1]

theorem allowGroupLocked_unchanged_iff (grouped : isGrouped pkt = true) (free : g.groupBusy source pkt now = false) :
    ((g.evictExpired now).allowGroupLocked source pkt now).1 = g.evictExpired now ↔
      ¬ g.ChangesGroup source pkt now := by
  have found : (g.evictExpired now).groupOwners.lookup pkt.dst = g.liveGroupOwner pkt now := evictExpired_groupOwner
  have sameTable (table : GoMap UInt64 GroupOwner) :
      { g.evictExpired now with groupOwners := table } = g.evictExpired now ↔
        table = (g.evictExpired now).groupOwners :=
    ⟨fun same => congrArg Guard.groupOwners same, fun same => by rw [same]⟩
  rw [allowGroupLocked_evicted]
  simp only [ChangesGroup]
  cases held : g.liveGroupOwner pkt now with
  | none =>
    simp only [sameTable]
    cases term : pkt.isTerminator <;>
      simp [erase_eq_self_iff, insert_eq_self_iff, found, held]
  | some owner =>
    have own : owner.source = source := by
      simpa [groupBusy, grouped, held] using free
    simp only [own, ne_eq, not_true_eq_false, if_false, sameTable, true_and]
    cases term : pkt.isTerminator with
    | true => simp [erase_eq_self_iff, found, held]
    | false =>
      cases owner
      simp [insert_eq_self_iff, found, held]
      grind

theorem LeaksGroup.judge (leak : g.LeaksGroup source pkt now) : g.judge source pkt now =
      (((g.evictExpired now).allowGroupLocked source pkt now).1, some .slot) := by
  simp [judge_eq, leak.notEcho, leak.notDuplicate, leak.changes.free, leak.grouped, leak.refused]

theorem judge_refused_atomic (safe : ¬ g.LeaksGroup source pkt now)
    (refused : (g.judge source pkt now).2.isNone = false) :
    (g.judge source pkt now).1 = g.evictExpired now := by
  rw [judge_eq] at refused ⊢
  cases echo : g.isEcho source pkt now with
  | true => rfl
  | false =>
    cases duplicate : g.isDuplicate source pkt now with
    | true => rfl
    | false =>
      cases groupBusy : g.groupBusy source pkt now with
      | true => rfl
      | false =>
        cases slotBusy : g.slotBusy source pkt now with
        | false => simp [echo, duplicate, groupBusy, slotBusy] at refused
        | true =>
          cases grouped : isGrouped pkt with
          | false => rfl
          | true =>
            apply (allowGroupLocked_unchanged_iff grouped groupBusy).mpr
            intro changes
            exact safe ⟨echo, duplicate, grouped, changes, slotBusy⟩

/-- A rejected packet leaves the guard as eviction left it, except when the
slot check refuses a packet for which the talkgroup table was just changed. -/
theorem rejection_atomic_iff (g : Guard) (source : String) (pkt : Packet) (now : Time) :
    ((g.allowIngress source pkt now).2 = false → (g.allowIngress source pkt now).1 = g.evictExpired now) ↔
      ¬ g.LeaksGroup source pkt now := by
  constructor
  · intro atomic leak
    have unchanged := atomic (by simp [allowIngress, leak.judge])
    simp only [allowIngress, leak.judge] at unchanged
    exact (allowGroupLocked_unchanged_iff leak.grouped leak.changes.free).mp unchanged leak.changes
  · intro safe refused
    exact judge_refused_atomic safe refused

/-- While `moto:1` talks on slot 1, a group packet of `hytera:1` is rejected
and leaves talkgroup 91 in the hands of `hytera:1`. -/
theorem rejected_packet_claims_talkgroup :
    let talking : Packet := { src := 3, dst := 7, streamID := 1 }
    let pkt : Packet := { src := 4, dst := 91, groupCall := true, streamID := 2 }
    let g := (newGuard.allowIngress "moto:1" talking 1000).1
    let now : Time := 2000
    (g.allowIngress "hytera:1" pkt now).2 = false ∧ (g.evictExpired now).groupOwners.lookup 91 = none ∧
      (g.allowIngress "hytera:1" pkt now).1.groupOwners.lookup 91 =
        some { source := "hytera:1", streamID := 2, lastSeen := now } := by
  decide

end Guard

end Ipsc2Mmdvm.Repeater
