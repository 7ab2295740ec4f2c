import Mathlib.Data.List.Basic

namespace Ipsc2Mmdvm.Data

/-! Groups leave a buffer only once it has reached a watermark, and then as many as it holds. -/

open List

section

variable {α β : Type} {size watermark fuel : Nat} {buffer : List α}

def cutGroups (size : Nat) : Nat → List α → List (List α) × List α
  | 0, buffer => ([], buffer)
  | fuel + 1, buffer =>
    if buffer.length < size then ([], buffer)
    else
      let rest := cutGroups size fuel (buffer.drop size)
      (buffer.take size :: rest.1, rest.2)

theorem cutGroups_conserves (fuel : Nat) (buffer : List α) :
    (cutGroups size fuel buffer).1.flatten ++ (cutGroups size fuel buffer).2 = buffer := by
  fun_induction cutGroups size fuel buffer with
  | case1 | case2 => rfl
  | case3 fuel buffer full rest ih =>
    rw [flatten_cons, append_assoc, ih, take_append_drop]

theorem length_of_mem_cutGroups {group : List α} (member : group ∈ (cutGroups size fuel buffer).1) : group.length = size := by
  fun_induction cutGroups size fuel buffer with
  | case1 | case2 => cases member
  | case3 fuel buffer full rest ih =>
    rcases mem_cons.mp member with rfl | later
    · exact length_take_of_le (Nat.le_of_not_lt full)
    · exact ih later

theorem length_cutGroups_lt (positive : 0 < size) (enough : buffer.length ≤ fuel) :
    (cutGroups size fuel buffer).2.length < size := by
  fun_induction cutGroups size fuel buffer with
  | case1 buffer => exact Nat.lt_of_le_of_lt enough positive
  | case2 fuel buffer short => exact short
  | case3 fuel buffer full rest ih =>
    refine ih ?_
    rw [length_drop]
    omega

theorem length_cutGroups (fuel : Nat) (buffer : List α) :
    size * (cutGroups size fuel buffer).1.length + (cutGroups size fuel buffer).2.length = buffer.length := by
  fun_induction cutGroups size fuel buffer with
  | case1 | case2 => simp
  | case3 fuel buffer full rest ih =>
    have later : size * rest.1.length + rest.2.length = buffer.length - size := ih.trans length_drop
    rw [length_cons, Nat.mul_add_one]
    change size * rest.1.length + size + rest.2.length = buffer.length
    omega

theorem cutGroups_flatten {groups : List (List α)} (each : ∀ group ∈ groups, group.length = size) (positive : 0 < size)
    (enough : groups.flatten.length ≤ fuel) : cutGroups size fuel groups.flatten = (groups, []) := by
  induction groups generalizing fuel with
  | nil => cases fuel <;> simp [cutGroups, positive]
  | cons group groups ih =>
    have whole := each group mem_cons_self
    rw [flatten_cons, length_append] at enough
    cases fuel with
    | zero => omega
    | succ fuel =>
      have full : ¬(group ++ groups.flatten).length < size := by
        rw [length_append]
        omega
      rw [flatten_cons, cutGroups, if_neg full, take_left' whole, drop_left' whole,
        ih (fun other member => each other (mem_cons_of_mem _ member)) (by omega)]

theorem dvd_length_cutGroups {unit : Nat} (groups : unit ∣ size) (whole : unit ∣ buffer.length) :
    unit ∣ (cutGroups size fuel buffer).2.length := by
  fun_induction cutGroups size fuel buffer with
  | case1 | case2 => exact whole
  | case3 fuel buffer full rest ih =>
    refine ih ?_
    rw [length_drop]
    exact Nat.dvd_sub whole groups

theorem cutGroups_map (f : α → β) (fuel : Nat) (buffer : List α) : cutGroups size fuel (buffer.map f) =
      ((cutGroups size fuel buffer).1.map (map f), (cutGroups size fuel buffer).2.map f) := by
  fun_induction cutGroups size fuel buffer with
  | case1 buffer => rfl
  | case2 fuel buffer short => simp [cutGroups, short]
  | case3 fuel buffer full rest ih => simp [cutGroups, full, ← map_drop, ← map_take, ih, rest]

def rechunk (size watermark : Nat) (buffer : List α) : List (List α) × List α :=
  if buffer.length < watermark then ([], buffer) else cutGroups size buffer.length buffer

theorem rechunk_of_short (short : buffer.length < watermark) : rechunk size watermark buffer = ([], buffer) :=
  if_pos short

theorem rechunk_conserves (size watermark : Nat) (buffer : List α) :
    (rechunk size watermark buffer).1.flatten ++ (rechunk size watermark buffer).2 = buffer := by
  simp only [rechunk]
  split
  · rfl
  · exact cutGroups_conserves ..

theorem length_of_mem_rechunk {group : List α} (member : group ∈ (rechunk size watermark buffer).1) :
    group.length = size := by
  simp only [rechunk] at member
  split at member
  · cases member
  · exact length_of_mem_cutGroups member

theorem length_rechunk_lt (positive : 0 < size) (below : size ≤ watermark) (buffer : List α) :
    (rechunk size watermark buffer).2.length < watermark := by
  simp only [rechunk]
  split
  · assumption
  · exact Nat.lt_of_lt_of_le (length_cutGroups_lt positive (Nat.le_refl _)) below

theorem dvd_length_rechunk {unit : Nat} (groups : unit ∣ size) (whole : unit ∣ buffer.length) :
    unit ∣ (rechunk size watermark buffer).2.length := by
  simp only [rechunk]
  split
  · exact whole
  · exact dvd_length_cutGroups groups whole

theorem rechunk_map (f : α → β) (buffer : List α) : rechunk size watermark (buffer.map f) =
      ((rechunk size watermark buffer).1.map (map f), (rechunk size watermark buffer).2.map f) := by
  simp only [rechunk, length_map]
  split
  · rfl
  · exact cutGroups_map ..

theorem prefix_flatten_rechunk {held fresh : List α} (fits : held.length ≤ size) (below : size ≤ watermark)
    (positive : 0 < size) (full : watermark ≤ (held ++ fresh).length) :
    held <+: (rechunk size watermark (held ++ fresh)).1.flatten := by
  have conserved := rechunk_conserves size watermark (held ++ fresh)
  refine prefix_of_prefix_length_le (prefix_append held fresh) ⟨_, conserved⟩ ?_
  rw [rechunk, if_neg (Nat.not_lt.mpr full)] at conserved ⊢
  cases groups : (cutGroups size (held ++ fresh).length (held ++ fresh)).1 with
  | nil =>
    -- no group left, so the rest is the whole buffer and yet shorter than a group
    have short := @length_cutGroups_lt α size _ (held ++ fresh) positive (Nat.le_refl _)
    rw [groups, flatten_nil, nil_append] at conserved
    rw [conserved] at short
    omega
  | cons group rest =>
    have whole : group.length = size := length_of_mem_cutGroups (by rw [groups]; exact mem_cons_self)
    rw [flatten_cons, length_append]
    omega

theorem forall_mem_rechunk_iff {P : α → Prop} {held fresh : List α} (fits : held.length ≤ size) (below : size ≤ watermark)
    (positive : 0 < size) (new : ∀ x ∈ fresh, P x) :
    (∀ group ∈ (rechunk size watermark (held ++ fresh)).1, ∀ x ∈ group, P x) ↔
      (watermark ≤ (held ++ fresh).length → ∀ x ∈ held, P x) := by
  constructor
  · intro clean full x member
    obtain ⟨group, among, within⟩ := mem_flatten.mp ((prefix_flatten_rechunk fits below positive full).subset member)
    exact clean group among x within
  · intro clean group among x within
    by_cases full : watermark ≤ (held ++ fresh).length
    · have inside : x ∈ held ++ fresh := by
        rw [← rechunk_conserves size watermark (held ++ fresh)]
        exact mem_append_left _ (mem_flatten.mpr ⟨group, among, within⟩)
      exact (mem_append.mp inside).elim (clean full x) (new x)
    · rw [rechunk_of_short (Nat.lt_of_not_le full)] at among
      cases among

end

end Ipsc2Mmdvm.Data
