import Mathlib.Data.List.Sort

namespace Ipsc2Mmdvm.Data

/-! `sort.Slice` leaves open in which order elements end up that compare equal.  For the strict
total orders used here there is only one sorted list. -/

section

variable {α : Type} {less : α → α → Bool}

def sortSlice (less : α → α → Bool) (slice : List α) : List α :=
  slice.insertionSort fun a b => less b a = false

structure StrictOrder (less : α → α → Bool) : Prop where
  irrefl : ∀ a, less a a = false
  trans : ∀ a b c, less a b = true → less b c = true → less a c = true
  total : ∀ a b, a ≠ b → less a b = true ∨ less b a = true

theorem sortSlice_perm (slice : List α) : (sortSlice less slice).Perm slice := List.perm_insertionSort ..

@[simp] theorem mem_sortSlice {slice : List α} {a : α} : a ∈ sortSlice less slice ↔ a ∈ slice :=
  (sortSlice_perm slice).mem_iff

theorem StrictOrder.asymm (order : StrictOrder less) {a b : α} (below : less a b = true) : less b a = false := by
  cases above : less b a with
  | false => rfl
  | true =>
    have := order.trans a b a below above
    rw [order.irrefl] at this
    cases this

theorem StrictOrder.sorted (order : StrictOrder less) {slice : List α} (distinct : slice.Nodup) :
    (sortSlice less slice).Pairwise fun a b => less a b = true := by
  have total : Std.Total fun a b => less b a = false := by
    constructor
    intro a b
    by_cases same : a = b
    · exact .inl (same ▸ order.irrefl b)
    · obtain below | below := order.total a b same
      · exact .inl (order.asymm below)
      · exact .inr (order.asymm below)
  have trans : IsTrans α fun a b => less b a = false := by
    constructor
    intro a b c notAbove notAbove'
    by_contra above
    rw [Bool.not_eq_false] at above
    by_cases same : a = b
    · rw [same, notAbove'] at above
      cases above
    · obtain below | below := order.total a b same
      · rw [order.trans c a b above below] at notAbove'
        cases notAbove'
      · rw [below] at notAbove
        cases notAbove
  have weakly : (sortSlice less slice).Pairwise fun a b => less b a = false :=
    List.pairwise_insertionSort (fun a b => less b a = false) slice
  have distinct' : (sortSlice less slice).Nodup := (sortSlice_perm slice).nodup_iff.mpr distinct
  refine (weakly.and distinct').imp fun {a b} both => ?_
  obtain ⟨notAbove, differ⟩ := both
  obtain below | above := order.total a b differ
  · exact below
  · rw [above] at notAbove
    cases notAbove

theorem StrictOrder.unique (order : StrictOrder less) {l l' : List α} (sorted : l.Pairwise fun a b => less a b = true)
    (sorted' : l'.Pairwise fun a b => less a b = true) (same : ∀ a, a ∈ l ↔ a ∈ l') : l = l' := by
  have distinct {l : List α} (sorted : l.Pairwise fun a b => less a b = true) : l.Nodup :=
    sorted.imp fun {a b} below equal => by
      subst equal
      rw [order.irrefl] at below
      cases below
  have perm : l.Perm l' := (List.perm_ext_iff_of_nodup (distinct sorted) (distinct sorted')).mpr same
  refine perm.eq_of_pairwise (fun a b _ _ below above => ?_) sorted sorted'
  rw [order.asymm below] at above
  cases above

end

/-! `DELETE … WHERE id NOT IN (SELECT id … ORDER BY key DESC LIMIT k)` keeps the elements that fewer
than `k` others precede. -/

open List

section

variable {α κ : Type} [LinearOrder κ] (key : α → κ)

def keepGreatest (k : Nat) (l : List α) : List α :=
  l.filter fun x => !decide (k ≤ l.countP fun y => decide (key x < key y))

variable {key} {k : Nat} {old new l : List α}

theorem keepGreatest_of_lt (full : old = [] ∨ new.length = k) (fits : new.length ≤ k)
    (above : ∀ a ∈ old, ∀ b ∈ new, key a < key b) : keepGreatest key k (old ++ new) = new := by
  have dropped : ∀ a ∈ old, k ≤ (old ++ new).countP fun y => decide (key a < key y) := by
    intro a member
    have whole : (new.countP fun y => decide (key a < key y)) = new.length := by
      rw [countP_eq_length]
      intro b member'
      exact decide_eq_true (above a member b member')
    obtain rfl | full := full
    · cases member
    · rw [countP_append]
      omega
  have kept : ∀ b ∈ new, ((old ++ new).countP fun y => decide (key b < key y)) < k := by
    intro b member
    have none : (old.countP fun y => decide (key b < key y)) = 0 := by
      rw [countP_eq_zero]
      intro a member'
      simpa using (above a member' b member).le
    have some : (new.countP fun y => decide (key b < key y)) ≠ new.length := by
      rw [ne_eq, countP_eq_length]
      intro all
      simpa using all b member
    have most : (new.countP fun y => decide (key b < key y)) ≤ new.length := countP_le_length
    rw [countP_append]
    omega
  rw [keepGreatest, filter_append, filter_eq_nil_iff.mpr, nil_append, filter_eq_self]
  · intro b member
    simpa using kept b member
  · intro a member
    simpa using dropped a member

theorem lt_of_keepGreatest (distinct : (old ++ new).Pairwise fun a b => key a ≠ key b)
    (kept : keepGreatest key k (old ++ new) = new) : ∀ a ∈ old, ∀ b ∈ new, key a < key b := by
  intro a member b member'
  have differ : ∀ b ∈ new, key a ≠ key b := (pairwise_append.mp distinct).2.2 a member
  refine lt_of_le_of_ne (le_of_not_gt fun below => ?_) (differ b member')
  have few : ((old ++ new).countP fun y => decide (key b < key y)) < k := by
    rw [← kept] at member'
    simpa [keepGreatest] using (mem_filter.mp member').2
  have many : k ≤ (old ++ new).countP fun y => decide (key a < key y) := by
    by_contra few
    have missing : a ∈ new := by
      rw [← kept]
      exact mem_filter.mpr ⟨mem_append_left _ member, by simpa using few⟩
    exact differ a missing rfl
  -- whatever precedes `a` precedes `b`
  have more : ((old ++ new).countP fun y => decide (key a < key y)) ≤ (old ++ new).countP fun y => decide (key b < key y) :=
    countP_mono_left fun y _ above => decide_eq_true (below.trans (of_decide_eq_true above))
  omega

theorem sortSlice_eq_reverse_iff (distinct : l.Pairwise fun a b => key a ≠ key b) :
    sortSlice (fun a b => decide (key b < key a)) l = l.reverse ↔ l.Pairwise fun a b => key a < key b := by
  have total : Std.Total fun a b : α => decide (key a < key b) = false :=
    ⟨fun a b => by simpa using le_total (key b) (key a)⟩
  have trans : IsTrans α fun a b : α => decide (key a < key b) = false :=
    ⟨fun a b c => by simpa using fun first second => le_trans second first⟩
  have sorted : (sortSlice (fun a b => decide (key b < key a)) l).Pairwise fun a b => decide (key a < key b) = false :=
    pairwise_insertionSort (fun a b => decide (key a < key b) = false) l
  constructor
  · intro same
    rw [same, pairwise_reverse] at sorted
    refine (sorted.and distinct).imp fun {a b} both => ?_
    exact lt_of_le_of_ne (by simpa using both.1) both.2
  · intro ascending
    have reversed : l.reverse.Pairwise fun a b => decide (key a < key b) = false :=
      pairwise_reverse.mpr (ascending.imp fun {a b} below => by simpa using below.le)
    have perm : (sortSlice (fun a b => decide (key b < key a)) l).Perm l.reverse :=
      (sortSlice_perm l).trans (reverse_perm l).symm
    refine perm.eq_of_pairwise (fun a b member member' below above => ?_) sorted reversed
    have same : key a = key b := le_antisymm (by simpa using above) (by simpa using below)
    rw [mem_sortSlice] at member
    rw [mem_reverse] at member'
    exact inj_on_of_nodup_map (pairwise_map.mpr distinct) member member' same

theorem pairwise_iff_of_increasing (increasing : l.Pairwise fun a b => key a < key b) (r : α → α → Prop) :
    l.Pairwise r ↔ ∀ a ∈ l, ∀ b ∈ l, key a < key b → r a b := by
  induction l with
  | nil => simp
  | cons x l ih =>
    obtain ⟨above, increasing⟩ := pairwise_cons.mp increasing
    rw [pairwise_cons, ih increasing]
    simp only [forall_mem_cons]
    constructor
    · intro ⟨head, tail⟩
      refine ⟨⟨fun less => absurd less (lt_irrefl _), fun b member _ => head b member⟩, fun a member => ⟨fun less => ?_, tail a member⟩⟩
      exact absurd less (above a member).not_gt
    · intro ⟨⟨_, head⟩, tail⟩
      exact ⟨fun b member => head b member (above b member), fun a member => (tail a member).2⟩

end

end Ipsc2Mmdvm.Data
