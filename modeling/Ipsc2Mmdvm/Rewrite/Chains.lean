import Ipsc2Mmdvm.Web.Upstream

namespace Ipsc2Mmdvm.Rewrite

open Proto Web List Mapping

/-! A talkgroup mapping becomes one rule for packets to the network and the mirrored rule for
packets from it. -/

namespace Mapping

def withRange (cfg : Mapping) : Mapping := { cfg with range := if cfg.range = 0 then 1 else cfg.range }

def mirror (r : Mapping) : Mapping :=
  { fromSlot := r.toSlot, fromID := r.toID, toSlot := r.fromSlot, toID := r.fromID, range := r.range }

end Mapping

structure Chains where
  rfRewrites : List Rule
  netRewrites : List Rule
  passallRewrites : List Rule

def passAllSlots (slots : List Int) : List UInt64 :=
  (slots.filter fun slot => decide (0 ≤ slot)).map fun slot => slot.toNat.toUInt64

def buildRewriteRules (cfg : MMDVM) : Chains :=
  let passAll := (passAllSlots cfg.passAllTG).map Rule.passAllTG ++ (passAllSlots cfg.passAllPC).map Rule.passAllPC
  { rfRewrites :=
      cfg.tgRewrites.map (fun r => .tgRewrite r.withRange) ++ cfg.pcRewrites.map (fun r => .pcRewrite r.withRange) ++
        cfg.typeRewrites.map fun r => .typeRewrite r.withRange
    netRewrites :=
      cfg.tgRewrites.map (fun r => .tgRewrite r.withRange.mirror) ++
        cfg.srcRewrites.map (fun r => .srcRewrite r.withRange) ++ passAll
    passallRewrites := passAll }

theorem apply_eq_findSome? (rules : List Rule) (pkt : Packet) : apply rules pkt = rules.findSome? (·.process pkt) := by
  induction rules with
  | nil => rfl
  | cons rule rules ih =>
    rw [apply, findSome?_cons, ih]
    cases rule.process pkt <;> rfl

variable {pkt rewritten : Packet}

theorem apply_of_first {before after : List Rule} {rule : Rule} (first : ∀ other ∈ before, other.process pkt = none)
    (matched : rule.process pkt = some rewritten) :
    apply (before ++ rule :: after) pkt = some rewritten := by
  rw [apply_eq_findSome?]
  exact findSome?_eq_some_iff.mpr ⟨before, rule, after, rfl, matched, first⟩

theorem exists_first {α : Type} {items : List α} {rule : α → Rule}
    (some' : ∃ item ∈ items, ((rule item).process pkt).isSome = true) :
    ∃ before item after rewritten, items = before ++ item :: after ∧
      (∀ other ∈ before, (rule other).process pkt = none) ∧ (rule item).process pkt = some rewritten := by
  have found : (items.findSome? fun item => (rule item).process pkt).isSome = true := by
    rw [findSome?_isSome_iff]
    exact some'
  obtain ⟨rewritten, found⟩ := Option.isSome_iff_exists.mp found
  obtain ⟨before, item, after, split, matched, first⟩ := findSome?_eq_some_iff.mp found
  exact ⟨before, item, after, rewritten, split, first, matched⟩

def InRange (start range id : UInt64) : Prop := start.toNat ≤ id.toNat ∧ id.toNat < start.toNat + range.toNat

instance (start range id : UInt64) : Decidable (InRange start range id) := inferInstanceAs (Decidable (_ ∧ _))

namespace Mapping

variable {r : Mapping} {id : UInt64}

theorem withRange_pos (cfg : Mapping) : 0 < cfg.withRange.range.toNat := by
  simp only [withRange]
  split
  · decide
  · rename_i nonzero
    exact Nat.pos_of_ne_zero fun zero => nonzero (UInt64.toNat.inj zero)

theorem covers_iff_toNat : r.covers id = true ↔ r.fromID.toNat ≤ id.toNat ∧
    id.toNat ≤ (r.fromID.toNat + r.range.toNat + (2 ^ 64 - 1)) % 2 ^ 64 := by
  have last : r.fromEnd.toNat = (r.fromID.toNat + r.range.toNat + (2 ^ 64 - 1)) % 2 ^ 64 := by
    simp only [fromEnd, UInt64.toNat_sub, UInt64.toNat_add]
    have one : (1 : UInt64).toNat = 1 := rfl
    omega
  simp only [covers, Bool.and_eq_true, decide_eq_true_eq, UInt64.le_iff_toNat_le, last]

theorem covers_iff (positive : 0 < r.range.toNat) (fits : r.fromID.toNat + r.range.toNat ≤ 2 ^ 64) :
    r.covers id = true ↔ InRange r.fromID r.range id := by
  rw [covers_iff_toNat, InRange]
  omega

theorem covers_eq_false (wraps : 2 ^ 64 < r.fromID.toNat + r.range.toNat) : r.covers id = false := by
  rw [Bool.eq_false_iff, ne_eq, covers_iff_toNat]
  have first := r.fromID.toNat_lt
  have second := r.range.toNat_lt
  omega

theorem moved_eq {pkt : Packet} (onSlot : pktSlot pkt = r.fromSlot) :
    r.moveDst (r.moveSlot pkt) = { pkt with slot := r.toSlot == 2, dst := pkt.dst + r.toID - r.fromID } := by
  have slot : r.moveSlot pkt = { pkt with slot := r.toSlot == 2 } := by
    simp only [moveSlot, setPktSlot]
    split
    · rfl
    · rename_i same
      have kept : (r.toSlot == 2) = pkt.slot := by
        rw [← Decidable.not_not.mp same, ← onSlot, pktSlot]
        cases pkt.slot <;> rfl
      rw [kept]
  rw [slot, moveDst]
  split
  · rfl
  · rename_i same
    have kept : pkt.dst + r.toID - r.fromID = pkt.dst := by
      rw [Decidable.not_not.mp same]
      grind
    rw [kept]

theorem pktSlot_of_valid {pkt : Packet} {slot : UInt64} (valid : validateSlot slot = true) :
    pktSlot { pkt with slot := slot == 2 } = slot := by
  simp only [validateSlot, Bool.or_eq_true, beq_iff_eq] at valid
  rcases valid with rfl | rfl <;> rfl

theorem inRange_target (fits : r.toID.toNat + r.range.toNat ≤ 2 ^ 64) (inside : InRange r.fromID r.range id) :
    InRange r.toID r.range (id + r.toID - r.fromID) := by
  obtain ⟨lower, upper⟩ := inside
  have bound := r.fromID.toNat_lt
  have value : (id + r.toID - r.fromID).toNat = id.toNat + r.toID.toNat - r.fromID.toNat := by
    simp only [UInt64.toNat_sub, UInt64.toNat_add]
    omega
  rw [InRange, value]
  omega

end Mapping

theorem process_tgRewrite {r : Mapping} : (Rule.tgRewrite r).process pkt = some rewritten ↔
      pkt.groupCall = true ∧ pktSlot pkt = r.fromSlot ∧ r.covers pkt.dst = true ∧
        rewritten = r.moveDst (r.moveSlot pkt) := by
  simp only [Rule.process]
  split
  · rename_i refused
    simp only [Bool.or_eq_true, Bool.not_eq_true', bne_iff_ne] at refused
    refine iff_of_false (by simp) fun accepted => ?_
    obtain ⟨group, slot, covered, _⟩ := accepted
    rcases refused with (other | other) | other
    · rw [group] at other
      cases other
    · exact other slot
    · rw [covered] at other
      cases other
  · rename_i accepted
    simp only [Bool.or_eq_true, Bool.not_eq_true', bne_iff_ne, not_or, Bool.not_eq_false, Decidable.not_not] at accepted
    obtain ⟨⟨group, slot⟩, covered⟩ := accepted
    simp only [Option.some.injEq]
    constructor
    · intro same
      exact ⟨group, slot, covered, same.symm⟩
    · intro same
      exact same.2.2.2.symm

def Mapping.Target (cfg : Mapping) (slot id : UInt64) : Prop :=
  slot = cfg.toSlot ∧ InRange cfg.toID cfg.withRange.range id

structure Reversible (cfgs : List Mapping) : Prop where
  slots : ∀ cfg ∈ cfgs, validateSlot cfg.fromSlot = true ∧ validateSlot cfg.toSlot = true
  unwrapped : ∀ cfg ∈ cfgs, cfg.fromID.toNat + cfg.withRange.range.toNat ≤ 2 ^ 64 ∧
    cfg.toID.toNat + cfg.withRange.range.toNat ≤ 2 ^ 64
  disjoint : cfgs.Pairwise fun a b => ∀ slot id, ¬ (a.Target slot id ∧ b.Target slot id)

section

variable {cfg : Mapping} {pkt rewritten : Packet}

theorem mirror_undoes (slots : validateSlot cfg.fromSlot = true ∧ validateSlot cfg.toSlot = true)
    (unwrapped : cfg.fromID.toNat + cfg.withRange.range.toNat ≤ 2 ^ 64 ∧
      cfg.toID.toNat + cfg.withRange.range.toNat ≤ 2 ^ 64)
    (matched : (Rule.tgRewrite cfg.withRange).process pkt = some rewritten) :
    cfg.Target (pktSlot rewritten) rewritten.dst ∧
      (Rule.tgRewrite cfg.withRange.mirror).process rewritten = some pkt := by
  obtain ⟨group, onSlot, covered, moved⟩ := process_tgRewrite.mp matched
  have source := (covers_iff cfg.withRange_pos unwrapped.1).mp covered
  have target := inRange_target unwrapped.2 source
  rw [moved_eq onSlot] at moved
  subst moved
  have back := @pktSlot_of_valid { pkt with dst := pkt.dst + cfg.withRange.toID - cfg.withRange.fromID }
    cfg.withRange.toSlot slots.2
  refine ⟨⟨back, target⟩, process_tgRewrite.mpr ⟨group, back, ?_, ?_⟩⟩
  · exact (@covers_iff cfg.withRange.mirror _ cfg.withRange_pos unwrapped.2).mpr target
  · rw [@moved_eq cfg.withRange.mirror _ back]
    have slot : (cfg.withRange.mirror.toSlot == 2) = pkt.slot := by
      change (cfg.withRange.fromSlot == 2) = pkt.slot
      rw [← onSlot, pktSlot]
      cases pkt.slot <;> rfl
    have dst : pkt.dst + cfg.withRange.toID - cfg.withRange.fromID + cfg.withRange.mirror.toID -
        cfg.withRange.mirror.fromID = pkt.dst := by
      change pkt.dst + cfg.toID - cfg.fromID + cfg.fromID - cfg.toID = pkt.dst
      grind
    rw [slot, dst]

theorem target_of_mirror (unwrapped : cfg.toID.toNat + cfg.withRange.range.toNat ≤ 2 ^ 64)
    {back : Packet} (matched : (Rule.tgRewrite cfg.withRange.mirror).process pkt = some back) :
    cfg.Target (pktSlot pkt) pkt.dst := by
  obtain ⟨_, onSlot, covered, _⟩ := process_tgRewrite.mp matched
  exact ⟨onSlot, (@covers_iff cfg.withRange.mirror _ cfg.withRange_pos unwrapped).mp covered⟩

end

/-- Every group packet that a talkgroup rule takes to the network comes back as it was. -/
theorem talkgroup_rewrites_undone (cfg : MMDVM) (reversible : Reversible cfg.tgRewrites) (pkt : Packet)
    (matched : ∃ r ∈ cfg.tgRewrites, ((Rule.tgRewrite r.withRange).process pkt).isSome = true) :
    ∃ rewritten, apply (buildRewriteRules cfg).rfRewrites pkt = some rewritten ∧
      apply (buildRewriteRules cfg).netRewrites rewritten = some pkt := by
  obtain ⟨before, r, after, rewritten, split, first, fires⟩ := exists_first matched
  have member : r ∈ cfg.tgRewrites := by simp [split]
  obtain ⟨target, undone⟩ := mirror_undoes (reversible.slots r member) (reversible.unwrapped r member) fires
  -- a mirrored rule before that of `r` would have the packet in its target too
  have firstBack : ∀ other ∈ before, (Rule.tgRewrite other.withRange.mirror).process rewritten = none := by
    intro other earlier
    cases back : (Rule.tgRewrite other.withRange.mirror).process rewritten with
    | none => rfl
    | some undone' =>
      have listed : other ∈ cfg.tgRewrites := by simp [split, earlier]
      have disjoint := reversible.disjoint
      rw [split, List.pairwise_append] at disjoint
      exact absurd ⟨target_of_mirror (reversible.unwrapped other listed).2 back, target⟩
        (disjoint.2.2 other earlier r List.mem_cons_self _ _)
  refine ⟨rewritten, ?_, ?_⟩
  · simp only [buildRewriteRules, split, List.map_append, List.map_cons, List.append_assoc, List.cons_append]
    refine apply_of_first ?_ fires
    intro rule member
    obtain ⟨other, earlier, rfl⟩ := List.mem_map.mp member
    exact first other earlier
  · simp only [buildRewriteRules, split, List.map_append, List.map_cons, List.append_assoc, List.cons_append]
    refine apply_of_first ?_ undone
    intro rule member
    obtain ⟨other, earlier, rfl⟩ := List.mem_map.mp member
    exact firstBack other earlier

def networkOf (tgRewrites : List Mapping) : MMDVM :=
  { sourceKey := "", name := "net", callsign := "N0CALL", id := 1, rxFreq := 0, txFreq := 0, txPower := 0
    colorCode := 1, latitude := 0, longitude := 0, height := 0, location := "", description := "", url := ""
    slots := 3, masterServer := "master:62031", password := "secret", tgRewrites, pcRewrites := [], typeRewrites := []
    srcRewrites := [], passAllPC := [], passAllTG := [] }

private def bridged : MMDVM :=
  { networkOf [⟨1, 10, 2, 500, 5⟩, ⟨1, 12, 2, 600, 5⟩] with srcRewrites := [⟨2, 1, 1, 100, 1000⟩], passAllTG := [1, 2] }

theorem talkgroup_rewrites_undone_overlapping :
    ∃ rewritten, apply (buildRewriteRules bridged).rfRewrites { src := 7, dst := 13, groupCall := true } = some rewritten ∧
      apply (buildRewriteRules bridged).netRewrites rewritten = some { src := 7, dst := 13, groupCall := true } := by
  refine talkgroup_rewrites_undone bridged ⟨by decide, by decide, ?_⟩ _ ⟨⟨1, 10, 2, 500, 5⟩, by decide, by decide⟩
  refine List.pairwise_pair.mpr fun slot id both => ?_
  obtain ⟨⟨_, _, below⟩, _, above, _⟩ := both
  have first : id.toNat < 505 := below
  have second : 600 ≤ id.toNat := above
  omega

end Ipsc2Mmdvm.Rewrite
