import Ipsc2Mmdvm.Repeater.Exclusivity

namespace Ipsc2Mmdvm.Repeater

open Data Proto GoMap
open List hiding Vector

/-! The key of a packet is a text, but its last eight fields hold no colon, so it says which source
and which packet it is for. -/

structure SameContent (p q : Packet) : Prop where
  seq : p.seq = q.seq
  slot : p.slot = q.slot
  src : p.src = q.src
  dst : p.dst = q.dst
  streamID : p.streamID = q.streamID
  frameType : p.frameType = q.frameType
  dtypeOrVSeq : p.dtypeOrVSeq = q.dtypeOrVSeq
  dmrData : p.dmrData = q.dmrData

theorem toString_uint64_inj {m n : UInt64} : toString m.toNat = toString n.toNat ↔ m = n := by
  rw [toString_nat_inj, UInt64.toNat_inj]

theorem toString_bool_inj {a b : Bool} : toString a = toString b ↔ a = b := by
  cases a <;> cases b <;> decide

theorem ingressKey_inj {source source' : String} {p q : Packet} :
    ingressKey source p = ingressKey source' q ↔ source = source' ∧ SameContent p q := by
  have nested (source : String) (p : Packet) : ingressKey source p =
      "in:" ++ source ++ ":" ++ toString p.seq.toNat ++ ":" ++ toString p.slot ++ ":" ++ toString p.src.toNat ++ ":" ++
        toString p.dst.toNat ++ ":" ++ toString p.streamID.toNat ++ ":" ++ toString p.frameType.toNat ++ ":" ++
        toString p.dtypeOrVSeq.toNat ++ ":" ++ hexEncodeToString p.dmrData.toList := by
    simp only [ingressKey, fingerprint, String.append_assoc]
  -- the fields are split off from the end, one colon after the other
  simp only [nested, append_colon_inj, colons_toString_nat, colons_toString_bool, colons_hexEncodeToString,
    toString_uint64_inj, toString_bool_inj, hexEncodeToString_inj, Vector.toList_inj, String.append_right_inj]
  constructor
  · intro same
    obtain ⟨⟨⟨⟨⟨⟨⟨⟨source, seq⟩, slot⟩, src⟩, dst⟩, streamID⟩, frameType⟩, dtypeOrVSeq⟩, dmrData⟩ := same
    exact ⟨source, seq, slot, src, dst, streamID, frameType, dtypeOrVSeq, dmrData⟩
  · intro same
    obtain ⟨source, content⟩ := same
    exact ⟨⟨⟨⟨⟨⟨⟨⟨source, content.seq⟩, content.slot⟩, content.src⟩, content.dst⟩, content.streamID⟩, content.frameType⟩,
      content.dtypeOrVSeq⟩, content.dmrData⟩

theorem Guard.allowIngress_recentIngress (g : Guard) (source : String) (pkt : Packet) (now : Time) :
    (g.allowIngress source pkt now).1.dedupTTL = g.dedupTTL ∧ (g.allowIngress source pkt now).1.recentIngress =
        if (g.allowIngress source pkt now).2 then (g.evictExpired now).recentIngress.insert (ingressKey source pkt) now
        else (g.evictExpired now).recentIngress := by
  obtain ⟨table, left⟩ := allowGroupLocked_frame (g.evictExpired now) source pkt now
  simp only [allowIngress, judge_eq]
  repeat' split
  all_goals simp_all [setOwner, noteIngress]

theorem Guard.judge_duplicate_iff (g : Guard) (source : String) (pkt : Packet) (now : Time) :
    (g.judge source pkt now).2 = some .duplicate ↔
      g.isEcho source pkt now = false ∧ g.isDuplicate source pkt now = true := by
  rw [judge_eq]
  cases g.isEcho source pkt now <;> cases g.isDuplicate source pkt now <;>
    cases g.groupBusy source pkt now <;> cases g.slotBusy source pkt now <;> simp

namespace Watch

variable {w : Watch} {now : Time}

def new : Watch where
  guard := newGuard
  clock := 0
  accepted := []

structure Remembers (w : Watch) : Prop where
  past : ∀ arrival ∈ w.accepted, arrival.now ≤ w.clock
  entries : ∀ key ts, w.guard.recentIngress.lookup key = some ts →
    ∃ arrival ∈ w.accepted, ingressKey arrival.source arrival.pkt = key ∧ arrival.now = ts
  recent : ∀ arrival ∈ w.accepted, expired w.clock arrival.now w.guard.dedupTTL = false →
    ∃ ts, w.guard.recentIngress.lookup (ingressKey arrival.source arrival.pkt) = some ts ∧ arrival.now ≤ ts

theorem not_expired_of_le {ttl : Duration} {earlier later ts ts' : Time} (fresh : expired later ts ttl = false)
    (ordered : earlier ≤ later) (newer : ts ≤ ts') : expired earlier ts' ttl = false := by
  simp only [expired, decide_eq_false_iff_not, not_lt] at fresh ⊢
  exact le_trans (Time.sub_mono ordered newer) fresh

section

variable (remembers : w.Remembers)

include remembers

theorem Remembers.evict (later : w.clock ≤ now) : Remembers ⟨w.guard.evictExpired now, now, w.accepted⟩ := by
  refine ⟨fun arrival member => le_trans (remembers.past arrival member) later, ?_, ?_⟩
  · intro key ts found
    exact remembers.entries key ts (lookup_deleteWhere_eq_some.mp found).1
  · intro arrival member fresh
    obtain ⟨ts, found, newer⟩ := remembers.recent arrival member (not_expired_of_le fresh later le_rfl)
    exact ⟨ts, lookup_deleteWhere_eq_some.mpr ⟨found, not_expired_of_le fresh le_rfl newer⟩, newer⟩

theorem Remembers.note (source : String) (pkt : Packet) {g : Guard}
    (written : g.recentIngress = w.guard.recentIngress.insert (ingressKey source pkt) w.clock)
    (ttl : g.dedupTTL = w.guard.dedupTTL) : Remembers ⟨g, w.clock, w.accepted ++ [⟨source, pkt, w.clock⟩]⟩ := by
  refine ⟨?_, ?_, ?_⟩
  · intro arrival member
    rcases mem_append.mp member with before | new
    · exact remembers.past arrival before
    · rw [mem_singleton.mp new]
  · intro key ts found
    rw [written] at found
    rcases lookup_insert_eq_some.mp found with ⟨same, time⟩ | ⟨_, found⟩
    · exact ⟨_, mem_concat_self, same.symm, time.symm⟩
    · obtain ⟨arrival, member, key, time⟩ := remembers.entries key ts found
      exact ⟨arrival, mem_append_left _ member, key, time⟩
  · intro arrival member fresh
    rw [written, lookup_insert_eq]
    rcases mem_append.mp member with before | new
    · split
      · exact ⟨_, rfl, remembers.past arrival before⟩
      · rw [ttl] at fresh
        exact remembers.recent arrival before fresh
    · rw [mem_singleton.mp new, if_pos rfl]
      exact ⟨_, rfl, le_rfl⟩

theorem Remembers.step (call : Guard.Call) (ordered : w.Ordered call) : (w.step call).Remembers := by
  cases call with
  | allowIngress source pkt now =>
    obtain ⟨ttl, table⟩ := w.guard.allowIngress_recentIngress source pkt now
    have evicted := remembers.evict ordered
    simp only [Watch.step, Guard.call, Guard.Call.now]
    by_cases accepted : (w.guard.allowIngress source pkt now).2 = true
    · rw [if_pos accepted] at table ⊢
      exact evicted.note source pkt table ttl
    · rw [if_neg accepted] at table ⊢
      refine ⟨evicted.past, ?_, ?_⟩
      · rw [table]
        exact evicted.entries
      · rw [table, ttl]
        exact evicted.recent
  | markForwarded targetFrontend pkt now =>
    obtain ⟨past, entries, recent⟩ := remembers.evict ordered
    exact ⟨past, entries, recent⟩

theorem Remembers.isDuplicate_iff (source : String) (pkt : Packet) (later : w.clock ≤ now) :
    w.guard.isDuplicate source pkt now = true ↔
      ∃ arrival ∈ w.accepted, arrival.source = source ∧ SameContent arrival.pkt pkt ∧
        Time.sub now arrival.now ≤ w.guard.dedupTTL := by
  have within {ts : Time} : expired now ts w.guard.dedupTTL = false ↔ Time.sub now ts ≤ w.guard.dedupTTL := by
    simp [expired]
  simp only [Guard.isDuplicate, seenRecently]
  constructor
  · intro seen
    cases found : w.guard.recentIngress.lookup (ingressKey source pkt) with
    | none => simp [found] at seen
    | some ts =>
      obtain ⟨arrival, member, key, rfl⟩ := remembers.entries _ ts found
      obtain ⟨same, content⟩ := ingressKey_inj.mp key
      refine ⟨arrival, member, same, content, within.mp ?_⟩
      simpa [found] using seen
  · intro accepted
    obtain ⟨arrival, member, same, content, close⟩ := accepted
    have fresh := within.mpr close
    obtain ⟨ts, found, newer⟩ := remembers.recent arrival member (not_expired_of_le fresh later le_rfl)
    rw [ingressKey_inj.mpr ⟨same, content⟩] at found
    simp [found, not_expired_of_le fresh le_rfl newer]

end

end Watch

theorem dedupTTL_step (w : Watch) (call : Guard.Call) : (w.step call).guard.dedupTTL = w.guard.dedupTTL := by
  cases call with
  | allowIngress source pkt now => exact (w.guard.allowIngress_recentIngress source pkt now).1
  | markForwarded targetFrontend pkt now => rfl

/-- The duplicate check fails a packet exactly if one with the same content was accepted from the
same source at most `dedupTTL` earlier; no other packet or source has its key. -/
theorem duplicate_iff_recently_accepted (calls : List Guard.Call) (source : String) (pkt : Packet) (now : Time)
    (ordered : EachStep Watch.step Watch.Ordered Watch.new calls) (later : (runFrom Watch.step Watch.new calls).clock ≤ now) :
    ((runFrom Watch.step Watch.new calls).guard.isDuplicate source pkt now = true ↔
        ∃ arrival ∈ (runFrom Watch.step Watch.new calls).accepted, arrival.source = source ∧
          SameContent arrival.pkt pkt ∧ Time.sub now arrival.now ≤ defaultDedupTTL) ∧
      (((runFrom Watch.step Watch.new calls).guard.judge source pkt now).2 = some .duplicate ↔
        (runFrom Watch.step Watch.new calls).guard.isEcho source pkt now = false ∧
          (runFrom Watch.step Watch.new calls).guard.isDuplicate source pkt now = true) ∧
      ∀ source' pkt', ingressKey source pkt = ingressKey source' pkt' ↔ source = source' ∧ SameContent pkt pkt' := by
  have initial : Watch.new.Remembers := ⟨nofun, nofun, nofun⟩
  have ttl : (runFrom Watch.step Watch.new calls).guard.dedupTTL = defaultDedupTTL :=
    runFrom_induct (fun w call same => (dedupTTL_step w call).trans same) rfl
  have preserved : ∀ (w : Watch) call, w.Remembers → w.Ordered call → (w.step call).Remembers :=
    fun _ call remembers => remembers.step call
  have remembers := runFrom_invariant preserved initial ordered
  refine ⟨?_, ?_, fun _ _ => ingressKey_inj⟩
  · rw [remembers.isDuplicate_iff source pkt later, ttl]
  · exact Guard.judge_duplicate_iff ..

theorem duplicate_iff_recently_accepted_repeated :
    let pkt : Packet := { src := 3, dst := 7, streamID := 1 }
    let w := runFrom Watch.step Watch.new [.allowIngress "moto:10.0.0.1:50000" pkt 1000000000]
    w.guard.isDuplicate "moto:10.0.0.1:50000" pkt 1400000000 = true := by
  intro pkt w
  refine (duplicate_iff_recently_accepted _ _ pkt _ (by decide) (by decide)).1.mpr ?_
  exact ⟨⟨"moto:10.0.0.1:50000", pkt, 1000000000⟩, by decide, rfl, ⟨rfl, rfl, rfl, rfl, rfl, rfl, rfl, rfl⟩, by decide⟩

end Ipsc2Mmdvm.Repeater
