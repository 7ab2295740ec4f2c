import Mathlib.Data.List.Chain

namespace Ipsc2Mmdvm.Data

/-! A relation says which elements follow on each other without a gap.  A segment is a piece without
a gap inside that is bounded by gaps or by the ends of the list. -/

section

variable {α : Type} {R : α → α → Prop}

structure SegmentAt (R : α → α → Prop) (before segment after : List α) : Prop where
  nonempty : segment ≠ []
  chain : segment.IsChain R
  left : ∀ a ∈ before.getLast?, ∀ b ∈ segment.head?, ¬R a b
  right : ∀ a ∈ segment.getLast?, ∀ b ∈ after.head?, ¬R a b

def Segment (R : α → α → Prop) (list segment : List α) : Prop :=
  ∃ before after, list = before ++ segment ++ after ∧ SegmentAt R before segment after

def LastSegment (R : α → α → Prop) (list segment : List α) : Prop :=
  ∃ before, list = before ++ segment ∧ SegmentAt R before segment []

def PastSegment (R : α → α → Prop) (Late : α → Prop) (list segment : List α) : Prop :=
  ∃ before after, list = before ++ segment ++ after ∧ SegmentAt R before segment after ∧
    (after = [] → ∀ a ∈ segment.getLast?, Late a)

variable {list segment : List α} {x : α} {Late Later : α → Prop}

theorem LastSegment.toSegment (last : LastSegment R list segment) : Segment R list segment := by
  obtain ⟨before, rfl, at_end⟩ := last
  exact ⟨before, [], (List.append_nil _).symm, at_end⟩

theorem PastSegment.toSegment (past : PastSegment R Late list segment) : Segment R list segment := by
  obtain ⟨before, after, whole, placed, -⟩ := past
  exact ⟨before, after, whole, placed⟩

theorem LastSegment.getLast?_eq (last : LastSegment R list segment) : list.getLast? = segment.getLast? := by
  obtain ⟨before, rfl, at_end⟩ := last
  exact List.getLast?_append_of_ne_nil _ at_end.nonempty

theorem LastSegment.extend (last : LastSegment R list segment) (follows : ∀ a ∈ list.getLast?, R a x) :
    LastSegment R (list ++ [x]) (segment ++ [x]) := by
  have end_eq := last.getLast?_eq
  obtain ⟨before, rfl, placed⟩ := last
  refine ⟨before, List.append_assoc .., ?_, ?_, ?_, ?_⟩
  · simp
  · rw [List.isChain_append]
    refine ⟨placed.chain, List.isChain_singleton x, ?_⟩
    intro a member b first
    cases first
    exact follows a (end_eq ▸ member)
  · intro a member b first
    rw [List.head?_append_of_ne_nil _ placed.nonempty] at first
    exact placed.left a member b first
  · intro a member b first
    cases first

theorem LastSegment.start (gap : ∀ a ∈ list.getLast?, ¬R a x) : LastSegment R (list ++ [x]) [x] := by
  refine ⟨list, rfl, List.cons_ne_nil x [], List.isChain_singleton x, ?_, ?_⟩
  · intro a member b first
    cases first
    exact gap a member
  · intro a member b first
    cases first

theorem LastSegment.past (last : LastSegment R list segment) (late : ∀ a ∈ list.getLast?, Late a) :
    PastSegment R Late list segment := by
  have end_eq := last.getLast?_eq
  obtain ⟨before, rfl, placed⟩ := last
  refine ⟨before, [], (List.append_nil _).symm, placed, ?_⟩
  intro _ a member
  exact late a (end_eq ▸ member)

theorem PastSegment.mono (past : PastSegment R Late list segment) (later : ∀ a, Late a → Later a) :
    PastSegment R Later list segment := by
  obtain ⟨before, after, whole, placed, latest⟩ := past
  exact ⟨before, after, whole, placed, fun none a member => later a (latest none a member)⟩

theorem PastSegment.concat (past : PastSegment R Late list segment) (gap : ∀ a, Late a → ¬R a x) :
    PastSegment R Later (list ++ [x]) segment := by
  obtain ⟨before, after, rfl, placed, latest⟩ := past
  refine ⟨before, after ++ [x], List.append_assoc .., ⟨placed.nonempty, placed.chain, placed.left, ?_⟩, ?_⟩
  · intro a member b first
    cases after with
    | nil =>
      cases first
      exact gap a (latest rfl a member)
    | cons head rest => exact placed.right a member b first
  · intro none
    simp at none

end

end Ipsc2Mmdvm.Data
