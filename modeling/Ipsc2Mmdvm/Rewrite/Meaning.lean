import Ipsc2Mmdvm.Proto.Codec
import Ipsc2Mmdvm.Rewrite.Chains

namespace Ipsc2Mmdvm.Rewrite

open Proto Web Mapping Rule Option

/-! Rules compute with 64 bits, and the packet has 24 for an address.  The validation of a
configuration tests neither. -/

namespace Rule

def mapping : Rule → Option Mapping
  | .tgRewrite r | .pcRewrite r | .typeRewrite r | .srcRewrite r => some r
  | .passAllTG _ | .passAllPC _ => none

def address : Rule → Packet → UInt64
  | .srcRewrite _, pkt => pkt.src
  | _, pkt => pkt.dst

def selects : Rule → Packet → Bool
  | .tgRewrite r, pkt | .typeRewrite r, pkt => pkt.groupCall && pktSlot pkt == r.fromSlot
  | .pcRewrite r, pkt => !pkt.groupCall && pktSlot pkt == r.fromSlot
  | .srcRewrite r, pkt => pktSlot pkt == r.fromSlot
  | .passAllTG slot, pkt => pkt.groupCall && pktSlot pkt == slot
  | .passAllPC slot, pkt => !pkt.groupCall && pktSlot pkt == slot

end Rule

structure Entry where
  chain : List Rule
  rule : Rule
  mapping : Mapping

def entries (cfg : MMDVM) : List Entry :=
  let chains := buildRewriteRules cfg
  cfg.tgRewrites.map (fun r => ⟨chains.rfRewrites, .tgRewrite r, r⟩) ++
    cfg.tgRewrites.map (fun r => ⟨chains.netRewrites, .tgRewrite r.mirror, r.mirror⟩) ++
    cfg.pcRewrites.map (fun r => ⟨chains.rfRewrites, .pcRewrite r, r⟩) ++
    cfg.typeRewrites.map (fun r => ⟨chains.rfRewrites, .typeRewrite r, r⟩) ++
    cfg.srcRewrites.map fun r => ⟨chains.netRewrites, .srcRewrite r, r⟩

namespace Entry

def FirstAfter (entry : Entry) (pkt : Packet) (before : List Rule) : Prop :=
  (∃ after, entry.chain = before ++ entry.rule :: after) ∧ ∀ other ∈ before, other.process pkt = none

/-- The rule means what it says: it matches the addresses of its interval, and the
packet that is received after it was the first to match has the mapped address. -/
structure AsConfigured (entry : Entry) (pkt : Packet) : Prop where
  built : entry.rule ∈ entry.chain
  selected : (entry.rule.process pkt).isSome = true ↔ entry.rule.selects pkt = true ∧
    InRange entry.mapping.fromID entry.mapping.range (entry.rule.address pkt)
  mapped : ∀ before rewritten, entry.FirstAfter pkt before → entry.rule.process pkt = some rewritten →
    ∃ received, decode rewritten.encode = some received ∧
      ((entry.rule.address received).toNat : Int) =
        entry.mapping.toID.toNat + ((entry.rule.address pkt).toNat - entry.mapping.fromID.toNat : Int)

/-- The interval ends within 64 bits unless it begins behind the address, and the
address of a packet that the rule maps stays within 24. -/
structure WithinBounds (entry : Entry) (pkt : Packet) : Prop where
  interval : entry.rule.selects pkt = true → entry.mapping.fromID.toNat ≤ (entry.rule.address pkt).toNat →
    entry.mapping.fromID.toNat + entry.mapping.range.toNat ≤ 2 ^ 64
  target : ∀ before, entry.FirstAfter pkt before → entry.rule.selects pkt = true →
    InRange entry.mapping.fromID entry.mapping.range (entry.rule.address pkt) →
      entry.mapping.toID.toNat + ((entry.rule.address pkt).toNat - entry.mapping.fromID.toNat) < 2 ^ 24

end Entry

section

variable {rule : Rule} {r : Mapping} {pkt rewritten : Packet}

theorem dst_moveSlot : (r.moveSlot pkt).dst = pkt.dst := by
  simp only [moveSlot]
  split <;> rfl

theorem dst_moved : (r.moveDst (r.moveSlot pkt)).dst = pkt.dst + r.toID - r.fromID := by
  simp only [moveDst]
  split
  · change (r.moveSlot pkt).dst + r.toID - r.fromID = _
    rw [dst_moveSlot]
  · rename_i same
    rw [dst_moveSlot, Decidable.not_not.mp same]
    grind

theorem isSome_process (mapped : rule.mapping = some r) :
    (rule.process pkt).isSome = (rule.selects pkt && r.covers (rule.address pkt)) := by
  cases rule with
  | passAllTG slot | passAllPC slot => cases mapped
  | tgRewrite r' | pcRewrite r' | typeRewrite r' | srcRewrite r' =>
    cases mapped
    simp only [process, selects, address]
    split
    · rename_i refused
      simp only [Bool.or_eq_true, Bool.not_eq_true', bne_iff_ne] at refused
      rw [isSome_none, eq_comm, Bool.and_eq_false_iff]
      grind
    · rename_i accepted
      simp only [Bool.or_eq_true, Bool.not_eq_true', bne_iff_ne, not_or, Bool.not_eq_false, Decidable.not_not] at accepted
      rw [isSome_some, eq_comm, Bool.and_eq_true]
      grind

theorem address_process (mapped : rule.mapping = some r) (matched : rule.process pkt = some rewritten) :
    rule.address rewritten = rule.address pkt + r.toID - r.fromID := by
  cases rule with
  | passAllTG slot | passAllPC slot => cases mapped
  | tgRewrite r' | pcRewrite r' | typeRewrite r' =>
    cases mapped
    simp only [process] at matched
    split at matched
    · cases matched
    · cases matched
      exact dst_moved
  | srcRewrite r' =>
    cases mapped
    simp only [process] at matched
    split at matched
    · cases matched
    · cases matched
      simp only [address]
      grind

theorem address_received (rule : Rule) (pkt : Packet) : ∃ received, decode pkt.encode = some received ∧
      (rule.address received).toNat = (rule.address pkt).toNat % 2 ^ 24 := by
  obtain ⟨received, decoded, src, dst⟩ := received_addresses pkt
  refine ⟨received, decoded, ?_⟩
  cases rule with
  | srcRewrite r => exact src
  | tgRewrite r | pcRewrite r | typeRewrite r | passAllTG slot | passAllPC slot => exact dst

theorem address_lt {data : Bytes} (received : decode data = some pkt) (rule : Rule) :
    (rule.address pkt).toNat < 2 ^ 24 := by
  obtain ⟨src, dst⟩ := decode_addresses received
  cases rule with
  | srcRewrite r => exact src
  | tgRewrite r | pcRewrite r | typeRewrite r | passAllTG slot | passAllPC slot => exact dst

end

section Entries

variable {entry : Entry} {pkt : Packet} {cfg : MMDVM} {r : Mapping}

theorem covers_iff_inRange {id : UInt64} (positive : 0 < r.range.toNat) (small : id.toNat < 2 ^ 24) :
    (r.covers id = true ↔ InRange r.fromID r.range id) ↔
      (r.fromID.toNat ≤ id.toNat → r.fromID.toNat + r.range.toNat ≤ 2 ^ 64) := by
  by_cases fits : r.fromID.toNat + r.range.toNat ≤ 2 ^ 64
  · exact iff_of_true (covers_iff positive fits) fun _ => fits
  · rw [covers_eq_false (by omega), InRange]
    simp only [Bool.false_eq_true, false_iff]
    omega

theorem toNat_mapped {id : UInt64} (covered : r.covers id = true) :
    (id + r.toID - r.fromID).toNat = (r.toID.toNat + (id.toNat - r.fromID.toNat)) % 2 ^ 64 := by
  have lower := (covers_iff_toNat.mp covered).1
  have bound := r.fromID.toNat_lt
  simp only [UInt64.toNat_sub, UInt64.toNat_add]
  omega

theorem mapped_iff {rewritten : Packet} (mapped : entry.rule.mapping = some r)
    (matched : entry.rule.process pkt = some rewritten) :
    (∃ received, decode rewritten.encode = some received ∧ ((entry.rule.address received).toNat : Int) =
        r.toID.toNat + ((entry.rule.address pkt).toNat - r.fromID.toNat : Int)) ↔
      r.toID.toNat + ((entry.rule.address pkt).toNat - r.fromID.toNat) < 2 ^ 24 := by
  have covered : r.covers (entry.rule.address pkt) = true := by
    have selected : (entry.rule.selects pkt && r.covers (entry.rule.address pkt)) = true := by
      rw [← isSome_process mapped, matched, isSome_some]
    exact (Bool.and_eq_true_iff.mp selected).2
  have lower := (covers_iff_toNat.mp covered).1
  obtain ⟨received, decoded, address⟩ := address_received entry.rule rewritten
  rw [address_process mapped matched, toNat_mapped covered] at address
  constructor
  · intro same
    obtain ⟨received', decoded', value⟩ := same
    cases decoded.symm.trans decoded'
    omega
  · intro small
    exact ⟨received, decoded, by omega⟩

theorem asConfigured_iff (built : entry.rule ∈ entry.chain) (mapped : entry.rule.mapping = some entry.mapping)
    (positive : 0 < entry.mapping.range.toNat) (small : (entry.rule.address pkt).toNat < 2 ^ 24) :
    entry.AsConfigured pkt ↔ entry.WithinBounds pkt := by
  have interval := @covers_iff_inRange entry.mapping (entry.rule.address pkt) positive small
  have matches' : (entry.rule.process pkt).isSome = true ↔
      entry.rule.selects pkt = true ∧ entry.mapping.covers (entry.rule.address pkt) = true := by
    rw [isSome_process mapped, Bool.and_eq_true]
  constructor
  · intro configured
    refine ⟨fun selected => ?_, fun before first selected inside => ?_⟩
    · refine interval.mp ?_
      have same := matches'.symm.trans configured.selected
      simpa [selected] using same
    · obtain ⟨rewritten, matched⟩ := isSome_iff_exists.mp (configured.selected.mpr ⟨selected, inside⟩)
      exact (mapped_iff mapped matched).mp (configured.mapped before rewritten first matched)
  · intro bounds
    refine ⟨built, ?_, fun before rewritten first matched => ?_⟩
    · rw [matches']
      exact and_congr_right fun selected => interval.mpr (bounds.interval selected)
    · obtain ⟨selected, covered⟩ := matches'.mp (isSome_iff_exists.mpr ⟨rewritten, matched⟩)
      have inside := (interval.mpr (bounds.interval selected)).mp covered
      exact (mapped_iff mapped matched).mpr (bounds.target before first selected inside)

theorem validateRewrites_none (accepted : validateRewrites cfg = none) :
    ∀ r ∈ cfg.tgRewrites ++ cfg.pcRewrites ++ cfg.typeRewrites ++ cfg.srcRewrites, 0 < r.range.toNat := by
  intro r member
  have fine := List.findSome?_eq_none_iff.mp accepted r member
  simp only [rewriteError] at fine
  split at fine
  · cases fine
  · split at fine
    · cases fine
    · rename_i positive
      exact Nat.lt_of_lt_of_le Nat.zero_lt_one (UInt64.le_iff_toNat_le.mp (UInt64.not_lt.mp positive))

theorem withRange_of_pos (positive : 0 < r.range.toNat) : r.withRange = r := by
  have nonzero : r.range ≠ 0 := by
    intro zero
    rw [zero] at positive
    cases positive
  simp only [withRange, if_neg nonzero]

theorem entry_built (accepted : validateRewrites cfg = none) (listed : entry ∈ entries cfg) :
    entry.rule ∈ entry.chain ∧ entry.rule.mapping = some entry.mapping ∧ 0 < entry.mapping.range.toNat := by
  have positive := validateRewrites_none accepted
  simp only [List.mem_append] at positive
  simp only [entries, List.mem_append, List.mem_map] at listed
  rcases listed with (((⟨r, member, rfl⟩ | ⟨r, member, rfl⟩) | ⟨r, member, rfl⟩) | ⟨r, member, rfl⟩) | ⟨r, member, rfl⟩
  all_goals
    have pos : 0 < r.range.toNat := positive r (by simp [member])
    refine ⟨?_, rfl, pos⟩
    simp only [buildRewriteRules, List.mem_append, List.mem_map]
  · exact .inl (.inl ⟨r, member, by rw [withRange_of_pos pos]⟩)
  · exact .inl (.inl ⟨r, member, by rw [withRange_of_pos pos]⟩)
  · exact .inl (.inr ⟨r, member, by rw [withRange_of_pos pos]⟩)
  · exact .inr ⟨r, member, by rw [withRange_of_pos pos]⟩
  · exact .inl (.inr ⟨r, member, by rw [withRange_of_pos pos]⟩)

end Entries

/-- For every configuration that is accepted and every packet that is received. -/
theorem rewrites_as_configured_iff (cfg : MMDVM) (accepted : validateRewrites cfg = none) (data : Bytes) (pkt : Packet)
    (received : decode data = some pkt) :
    (∀ entry ∈ entries cfg, entry.AsConfigured pkt) ↔ ∀ entry ∈ entries cfg, entry.WithinBounds pkt := by
  refine forall₂_congr fun entry listed => ?_
  obtain ⟨built, mapped, positive⟩ := entry_built accepted listed
  exact asConfigured_iff built mapped positive (address_lt received entry.rule)

private def talk : Packet := { signature := dmrd, src := 7, dst := 13, groupCall := true }

theorem rewrites_as_configured_short :
    validateRewrites (networkOf [⟨1, 10, 2, 500, 5⟩]) = none ∧ decode talk.encode = some talk ∧
      ∀ entry ∈ entries (networkOf [⟨1, 10, 2, 500, 5⟩]), entry.AsConfigured talk := by
  refine ⟨by decide, by decide +kernel,
    (rewrites_as_configured_iff _ (by decide) talk.encode talk (by decide +kernel)).mpr ?_⟩
  intro entry listed
  simp only [entries, networkOf, List.map_cons, List.map_nil, List.append_nil, List.mem_append, List.mem_singleton] at listed
  rcases listed with rfl | rfl
  · exact ⟨by decide, fun _ _ => by decide⟩
  · exact ⟨by decide, fun _ _ => by decide⟩

/-- An accepted range that wraps matches none of its talkgroups, and a target above
24 bits arrives as another talkgroup. -/
theorem rewrites_otherwise_than_configured :
    (validateRewrites (networkOf [⟨1, 13, 1, 13, 18446744073709551615⟩]) = none ∧
        ¬ ∀ entry ∈ entries (networkOf [⟨1, 13, 1, 13, 18446744073709551615⟩]), entry.AsConfigured talk) ∧
      (validateRewrites (networkOf [⟨1, 13, 1, 16777225, 1⟩]) = none ∧
        ¬ ∀ entry ∈ entries (networkOf [⟨1, 13, 1, 16777225, 1⟩]), entry.AsConfigured talk) := by
  refine ⟨⟨by decide, fun all => ?_⟩, by decide, fun all => ?_⟩
  · have matched := (all _ List.mem_cons_self).selected.mpr (by decide)
    exact absurd matched (by decide)
  · obtain ⟨received, decoded, value⟩ := (all _ List.mem_cons_self).mapped [] { talk with dst := 16777225 }
      ⟨⟨[], rfl⟩, by simp⟩ rfl
    have read : (decode { talk with dst := 16777225 }.encode).map Packet.dst = some 9 := by decide +kernel
    rw [decoded] at read
    have dst : received.dst = 9 := Option.some.inj read
    change (received.dst.toNat : Int) = _ at value
    rw [dst] at value
    exact absurd value (by decide)

end Ipsc2Mmdvm.Rewrite
