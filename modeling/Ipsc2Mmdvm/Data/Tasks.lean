import Mathlib.Data.List.Basic
import Mathlib.Data.List.Pairwise

namespace Ipsc2Mmdvm.Data

/-! An execution is what remains of it to be done.  A step replaces one entry of the list. -/

variable {α : Type} {l : List α} {i : Nat} {a b old : α} {R : α → α → Prop}

open List

theorem mem_set_of_ne (member : a ∈ l) (at' : l[i]? = some old) (differs : a ≠ old) : a ∈ l.set i b := by
  obtain ⟨j, found⟩ := mem_iff_getElem?.mp member
  have elsewhere : i ≠ j := by
    intro same
    rw [← same, at'] at found
    exact differs (Option.some.inj found).symm
  exact mem_of_getElem? (i := j) (by rw [getElem?_set_ne elsewhere, found])

theorem pairwise_set (pairs : l.Pairwise R) (at' : l[i]? = some old) (left : ∀ c, R c old → R c b)
    (right : ∀ c, R old c → R b c) : (l.set i b).Pairwise R := by
  induction l generalizing i with
  | nil => exact pairs
  | cons head tail ih =>
    obtain ⟨first, rest⟩ := pairwise_cons.mp pairs
    cases i with
    | zero =>
      cases at'
      exact pairwise_cons.mpr ⟨fun c member => right c (first c member), rest⟩
    | succ i =>
      refine pairwise_cons.mpr ⟨fun c member => ?_, ih rest at'⟩
      rcases mem_or_eq_of_mem_set member with kept | rfl
      · exact first c kept
      · exact left head (first old (mem_of_getElem? at'))

theorem rel_of_mem_set [Std.Symm R] (pairs : l.Pairwise R) (at' : l[i]? = some old) (member : a ∈ l.set i b) :
    a = b ∨ R old a := by
  induction l generalizing i with
  | nil => cases at'
  | cons head tail ih =>
    obtain ⟨first, rest⟩ := pairwise_cons.mp pairs
    cases i with
    | zero =>
      cases at'
      exact (mem_cons.mp member).imp_right (first a)
    | succ i =>
      rcases mem_cons.mp member with rfl | later
      · exact .inr (Std.Symm.symm _ _ (first old (mem_of_getElem? at')))
      · exact ih rest at' later

theorem forall_mem_set {P : α → Prop} (all : ∀ c ∈ l, P c) (new : P b) : ∀ c ∈ l.set i b, P c := by
  intro c member
  rcases mem_or_eq_of_mem_set member with old | rfl
  · exact all c old
  · exact new

end Ipsc2Mmdvm.Data
