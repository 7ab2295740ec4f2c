import Mathlib.Data.List.DropRight

namespace Ipsc2Mmdvm.Data

/-! The last elements of a list that grows at its end. -/

open List

section

variable {α : Type} {l : List α}

theorem rtake_concat_rtake (l : List α) (x : α) (n : Nat) : (l.rtake n ++ [x]).rtake n = (l ++ [x]).rtake n := by
  cases n with
  | zero => simp
  | succ n => simp [rtake_eq_reverse_take_reverse, take_take]

theorem map_rtake {β : Type} (f : α → β) (l : List α) (n : Nat) : (l.rtake n).map f = (l.map f).rtake n := by
  simp only [rtake, map_drop, length_map]

theorem replaceF_eq_map {f : α → Option α} (unique : l.Pairwise fun a b => (f a).isSome = true → f b = none) :
    l.replaceF f = l.map fun a => (f a).getD a := by
  induction l with
  | nil => rfl
  | cons a l ih =>
    obtain ⟨others, unique⟩ := pairwise_cons.mp unique
    cases replaced : f a with
    | none => simp only [replaceF, replaced, map_cons, Option.getD_none, ih unique]
    | some b =>
      have kept : l.map (fun a => (f a).getD a) = l := by
        refine (map_congr_left fun c member => ?_).trans (map_id l)
        rw [others c member (by rw [replaced]; rfl)]
        rfl
      simp only [replaceF, replaced, map_cons, Option.getD_some, kept]

end

end Ipsc2Mmdvm.Data
