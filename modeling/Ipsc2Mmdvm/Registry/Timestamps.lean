import Ipsc2Mmdvm.Data.Calendar
import Ipsc2Mmdvm.Data.Decimal
import Ipsc2Mmdvm.Data.SortSlice
import Ipsc2Mmdvm.Registry.Calls
import Mathlib.Data.Prod.Lex

namespace Ipsc2Mmdvm.Registry

open Data List

/-! `formatTime` writes an instant as RFC 3339 does, with a fraction of the second whose trailing
zeros are removed, and SQL compares the texts.  All but the fraction is ordered as the instants are.
-/

def rfc3339 : List (Nat × List Char) := [(4, ['-']), (2, ['-']), (2, ['T']), (2, [':']), (2, [':']), (2, [])]

def year (t : Time) : Nat := (yearOf (t / 1000000000 / 86400)).1 + 1

def dateFields (t : Time) : List Nat :=
  let seconds := t / 1000000000
  let (year, days) := yearOf (seconds / 86400)
  let (month, day) := monthOf (monthLengths year) days
  [year + 1, month + 1, day + 1, seconds % 86400 / 3600, seconds % 3600 / 60, seconds % 60]

def formatTime (t : Time) : String :=
  if Time.isZero t then "" else String.ofList (layoutText rfc3339 (dateFields t)) ++ fractionText (t % 1000000000)

example : formatTime 63902819045120000000 = "2025-12-31T23:04:05.12Z" := by decide +kernel

theorem fits_dateFields {t : Time} (dated : year t ≤ 9999) : Fits rfc3339 (dateFields t) := by
  have short : ∀ length ∈ monthLengths (yearOf (t / 1000000000 / 86400)).1, length ≤ 31 := by
    simp only [monthLengths]
    cases isLeap (yearOf (t / 1000000000 / 86400)).1 <;> decide
  obtain ⟨month, day⟩ := monthOf_bounds short (yearOf_days (t / 1000000000 / 86400))
  have months : (monthLengths (yearOf (t / 1000000000 / 86400)).1).length = 12 := rfl
  rw [months] at month
  simp only [year] at dated
  simp only [Fits, rfc3339, dateFields, forall₂_cons, List.Forall₂.nil, and_true]
  omega

theorem dateFields_lt {t u : Nat} (before : t / 1000000000 < u / 1000000000) : dateFields t < dateFields u := by
  simp only [dateFields, cons_lt_cons_iff, lt_irrefl, and_false, or_false]
  rcases (Nat.div_le_div_right before.le : t / 1000000000 / 86400 ≤ u / 1000000000 / 86400).lt_or_eq with
    earlier | same
  · rcases yearOf_lt earlier with less | ⟨sameYear, less⟩
    · omega
    · rw [sameYear]
      rcases @monthOf_lt _ _ (monthLengths (yearOf (u / 1000000000 / 86400)).1) less with less | ⟨sameMonth, less⟩ <;> omega
  · rw [same]
    omega

theorem toList_fractionText {nanoseconds : Nat} (small : nanoseconds < 1000000000) (some : nanoseconds ≠ 0) :
    (fractionText nanoseconds).toList = '.' :: (trimmedDecimal 9 nanoseconds ++ ['Z']) := by
  have digits : Nat.toDigits 10 (1000000000 + nanoseconds) = '1' :: decimal 9 nanoseconds := toDigits_pow_add 9 small
  simp only [fractionText, if_neg some, Nat.toString_eq_repr, Nat.toList_repr, digits, drop_one, tail_cons,
    String.toList_append, String.toList_ofList]
  rfl

section

variable {t u : Nat}

theorem fractionText_order (before : t < u) (same : t / 1000000000 = u / 1000000000) :
    (¬Begins 9 t u → fractionText (t % 1000000000) < fractionText (u % 1000000000)) ∧
      (Begins 9 t u → fractionText (u % 1000000000) < fractionText (t % 1000000000)) := by
  have digits (n : Nat) : trimmedDecimal 9 (n % 1000000000) = trimmedDecimal 9 n :=
    congrArg (rdropWhile _) (decimal_mod n (Nat.le_refl 9))
  have text := toList_fractionText (Nat.mod_lt u (by decide)) (show u % 1000000000 ≠ 0 by omega)
  by_cases whole : t % 1000000000 = 0
  · refine ⟨fun none => absurd ⟨9, by decide, le_rfl, Nat.dvd_of_mod_eq_zero whole, by omega⟩ none, fun _ => ?_⟩
    rw [String.lt_iff_toList_lt, text, whole]
    exact cons_lt_cons_iff.mpr (.inl (by decide))
  · have text' := toList_fractionText (Nat.mod_lt t (by decide)) whole
    rw [String.lt_iff_toList_lt, String.lt_iff_toList_lt, text, text', cons_lt_cons_iff, cons_lt_cons_iff, digits, digits]
    obtain ⟨less, greater⟩ := @trimmedDecimal_order 9 t u 'Z' (by decide) before same
    exact ⟨fun none => .inr ⟨rfl, less none⟩, fun begins => .inr ⟨rfl, greater begins⟩⟩

theorem not_begins_of_seconds (earlier : t / 1000000000 < u / 1000000000) : ¬Begins 9 t u := by
  intro ⟨k, _, bound, zeros, close⟩
  have within : t ≤ u := by omega
  exact Nat.ne_of_lt earlier (div_pow_eq_of_zeros bound zeros within close)

theorem year_mono (before : t ≤ u) : year t ≤ year u := by
  have days : t / 1000000000 / 86400 ≤ u / 1000000000 / 86400 := Nat.div_le_div_right (Nat.div_le_div_right before)
  simp only [year]
  rcases days.lt_or_eq with earlier | same
  · rcases yearOf_lt earlier with less | ⟨same, _⟩ <;> omega
  · rw [same]

section

variable (some : 0 < t)

include some

theorem toList_formatTime :
    (formatTime t).toList = layoutText rfc3339 (dateFields t) ++ (fractionText (t % 1000000000)).toList := by
  simp [formatTime, Nat.ne_of_gt some]

theorem formatTime_lt_of_seconds (dated : year u ≤ 9999)
    (earlier : t / 1000000000 < u / 1000000000) : formatTime t < formatTime u := by
  have before : t < u := by omega
  rw [String.lt_iff_toList_lt, toList_formatTime some, toList_formatTime (some.trans before)]
  have dated' : year t ≤ 9999 := (year_mono before.le).trans dated
  exact layoutText_lt (fits_dateFields dated') (fits_dateFields dated) (dateFields_lt earlier) _ _

theorem formatTime_lt_iff_of_same (some' : 0 < u) (same : t / 1000000000 = u / 1000000000) :
    formatTime t < formatTime u ↔ fractionText (t % 1000000000) < fractionText (u % 1000000000) := by
  have fields : dateFields t = dateFields u := by simp only [dateFields, same]
  rw [String.lt_iff_toList_lt, toList_formatTime some, toList_formatTime some', fields, append_left_lt_iff,
    ← String.lt_iff_toList_lt]

theorem formatTime_order (before : t < u) (dated : year u ≤ 9999) :
    (¬Begins 9 t u → formatTime t < formatTime u) ∧ (Begins 9 t u → formatTime u < formatTime t) := by
  rcases (Nat.div_le_div_right before.le : t / 1000000000 ≤ u / 1000000000).lt_or_eq with earlier | same
  · exact ⟨fun _ => formatTime_lt_of_seconds some dated earlier,
      fun begins => absurd begins (not_begins_of_seconds earlier)⟩
  · have some' := some.trans before
    rw [formatTime_lt_iff_of_same some some' same, formatTime_lt_iff_of_same some' some same.symm]
    exact fractionText_order before same

theorem formatTime_lt_iff (before : t < u) (dated : year u ≤ 9999) : formatTime t < formatTime u ↔ ¬Begins 9 t u := by
  obtain ⟨less, greater⟩ := formatTime_order some before dated
  exact ⟨fun below begins => lt_asymm below (greater begins), less⟩

theorem timeTextLess_eq (some' : 0 < u) (dated : year t ≤ 9999) (dated' : year u ≤ 9999) :
    timeTextLess t u = decide (formatTime t < formatTime u) := by
  have zero : Time.isZero t = false := by simpa using Nat.ne_of_gt some
  have zero' : Time.isZero u = false := by simpa using Nat.ne_of_gt some'
  simp only [timeTextLess, zero, zero', Bool.false_eq_true, if_false]
  rcases Nat.lt_trichotomy (t / 1000000000) (u / 1000000000) with earlier | same | later
  · rw [if_neg (Nat.ne_of_lt earlier), decide_eq_true earlier, decide_eq_true (formatTime_lt_of_seconds some dated' earlier)]
  · rw [if_pos same]
    exact decide_eq_decide.mpr (formatTime_lt_iff_of_same some some' same).symm
  · have above := formatTime_lt_of_seconds some' dated later
    rw [if_neg (Nat.ne_of_gt later), decide_eq_false later.not_gt, decide_eq_false above.not_gt]

end

end

def callKey (row : CallRecord) : Lex (String × Nat) := toLex (formatTime row.createdAt, row.id)

def loadCalls (rows : CallRows) (limit : Int) : List CallRecord :=
  (sortSlice (fun a b => decide (callKey b < callKey a)) rows.rows).take (if limit ≤ 0 then 50 else limit.toNat)

def Dated (t : Time) : Prop := 0 < t ∧ year t ≤ 9999

instance Dated.decidable (t : Time) : Decidable (Dated t) := inferInstanceAs (Decidable (0 < t ∧ year t ≤ 9999))

section

variable {a b : CallRecord} {rows : CallRows} {call : CallRecord} {α : Type}

theorem createdFirst_eq (dated : Dated a.createdAt) (dated' : Dated b.createdAt) :
    createdFirst a b = decide (callKey b < callKey a) := by
  simp only [createdFirst, timeTextLess_eq dated.1 dated'.1 dated.2 dated'.2,
    timeTextLess_eq dated'.1 dated.1 dated'.2 dated.2, callKey, Prod.Lex.toLex_lt_toLex, decide_eq_true_eq]
  rcases lt_trichotomy (formatTime b.createdAt) (formatTime a.createdAt) with less | same | greater
  · simp [less]
  · simp [same]
  · simp [greater.not_gt, greater, greater.ne']

theorem callKey_lt_iff (dated : Dated a.createdAt) (dated' : Dated b.createdAt) (before : a.createdAt < b.createdAt) :
    callKey a < callKey b ↔ ¬Begins 9 a.createdAt b.createdAt := by
  obtain ⟨less, greater⟩ := formatTime_order dated.1 before dated'.2
  constructor
  · intro below begins
    exact lt_asymm below (Prod.Lex.toLex_lt_toLex.mpr (.inl (greater begins)))
  · intro none
    exact Prod.Lex.toLex_lt_toLex.mpr (.inl (less none))

theorem insertCall_rows (dated : ∀ row ∈ rows.rows ++ [(insertCall rows call).2], Dated row.createdAt) :
    (insertCall rows call).1.rows = keepGreatest callKey recentCallLimit (rows.rows ++ [(insertCall rows call).2]) := by
  refine filter_congr fun row member => ?_
  have same : ((rows.rows ++ [(insertCall rows call).2]).countP fun newer => createdFirst newer row) =
      (rows.rows ++ [(insertCall rows call).2]).countP fun newer => decide (callKey row < callKey newer) := by
    refine countP_congr fun newer member' => ?_
    rw [createdFirst_eq (dated newer member') (dated row member)]
  change (!decide (recentCallLimit ≤ (rows.rows ++ [(insertCall rows call).2]).countP fun newer => createdFirst newer row)) = _
  rw [same]

theorem callKey_ne (rows : CallRows) (call : CallRecord) :
    (rows.rows ++ [(insertCall rows call).2]).Pairwise fun a b => callKey a ≠ callKey b := by
  have apart : (rows.rows ++ [(insertCall rows call).2]).Pairwise fun a b => a.id ≠ b.id := by
    refine pairwise_append.mpr ⟨pairwise_map.mp rows.nodupNumbers, pairwise_singleton .., ?_⟩
    intro row member stored new
    rw [mem_singleton] at new
    subst new
    exact Nat.ne_of_lt (rows.bounded row member)
  exact apart.imp fun {a b} differ same => differ (congrArg (fun key => (ofLex key).2) same)

def newest {α : Type} (l : List α) : List α := l.drop (l.length - recentCallLimit)

theorem length_newest (l : List α) : (newest l).length ≤ recentCallLimit := by
  simp only [newest, length_drop]
  omega

theorem take_append_newest (l : List α) : l.take (l.length - recentCallLimit) ++ newest l = l := take_append_drop ..

theorem newest_map {β : Type} (f : α → β) (l : List α) : newest (l.map f) = (newest l).map f := by
  simp only [newest, length_map, map_drop]

/-- `InsertCall` keeps the newest rows and `LoadCalls` returns them by time. -/
def Chronological (rows : CallRows) (call : CallRecord) : Prop :=
  (insertCall rows call).1.rows = newest (rows.rows ++ [(insertCall rows call).2]) ∧
    ∀ limit : Int, loadCalls (insertCall rows call).1 limit =
      (newest (rows.rows ++ [(insertCall rows call).2])).reverse.take (if limit ≤ 0 then 50 else limit.toNat)

theorem chronological_iff_callKey (dated : ∀ row ∈ rows.rows ++ [(insertCall rows call).2], Dated row.createdAt)
    (increasing : (rows.rows ++ [(insertCall rows call).2]).Pairwise fun a b => a.createdAt < b.createdAt) :
    Chronological rows call ↔ ∀ a ∈ rows.rows ++ [(insertCall rows call).2],
      ∀ b ∈ newest (rows.rows ++ [(insertCall rows call).2]), a.createdAt < b.createdAt → callKey a < callKey b := by
  have distinct := callKey_ne rows call
  simp only [Chronological, loadCalls, insertCall_rows dated]
  generalize rows.rows ++ [(insertCall rows call).2] = l at *
  have split := take_append_newest l
  have short := length_newest l
  have full : l.take (l.length - recentCallLimit) = [] ∨ (newest l).length = recentCallLimit := by
    rw [take_eq_nil_iff, newest, length_drop]
    omega
  generalize l.take (l.length - recentCallLimit) = old at *
  generalize newest l = new at *
  subst split
  have distinctNew := (pairwise_append.mp distinct).2.1
  obtain ⟨-, increasingNew, later⟩ := pairwise_append.mp increasing
  have ordered : (∀ a ∈ old ++ new, ∀ b ∈ new, a.createdAt < b.createdAt → callKey a < callKey b) ↔
      (∀ a ∈ old, ∀ b ∈ new, callKey a < callKey b) ∧ new.Pairwise fun a b => callKey a < callKey b := by
    rw [pairwise_iff_of_increasing increasingNew]
    simp only [forall_mem_append]
    refine and_congr_left fun _ => ?_
    exact ⟨fun all a member b member' => all a member b member' (later a member b member'),
      fun all a member b member' _ => all a member b member'⟩
  rw [ordered]
  constructor
  · intro ⟨kept, loaded⟩
    refine ⟨lt_of_keepGreatest distinct kept, (sortSlice_eq_reverse_iff distinctNew).mp ?_⟩
    have whole := loaded 0
    rw [kept] at whole
    have short' : (sortSlice (fun a b => decide (callKey b < callKey a)) new).length ≤ 50 := by
      rw [(sortSlice_perm new).length_eq]
      exact short
    rwa [if_pos (Int.le_refl 0), take_of_length_le short', take_of_length_le] at whole
    rw [length_reverse]
    exact short
  · intro ⟨above, ascending⟩
    have kept := keepGreatest_of_lt full short above
    refine ⟨kept, fun limit => ?_⟩
    rw [kept, (sortSlice_eq_reverse_iff distinctNew).mpr ascending]

end

/-- The texts of two instants are in the order of the instants unless the earlier one, in
units of a power of ten up to a second, is a whole number and the later one is within
one unit of it.  Calls are kept and loaded in the order of time unless this happens
between a call and one of the newest calls. -/
theorem stored_times_chronological_iff (t u : Time) (rows : CallRows) (call : CallRecord) :
    (Dated t → Dated u → t < u → (formatTime t < formatTime u ↔ ¬Begins 9 t u)) ∧
      ((rows.rows.map (·.createdAt) ++ [call.createdAt]).Pairwise (· < ·) →
        (∀ t ∈ rows.rows.map (·.createdAt) ++ [call.createdAt], Dated t) →
        (Chronological rows call ↔ ∀ t ∈ rows.rows.map (·.createdAt) ++ [call.createdAt],
            ∀ u ∈ newest (rows.rows.map (·.createdAt) ++ [call.createdAt]), t < u → ¬Begins 9 t u)) := by
  refine ⟨fun dated dated' before => formatTime_lt_iff dated.1 before dated'.2, fun increasing dated => ?_⟩
  have times : rows.rows.map (·.createdAt) ++ [call.createdAt] =
      (rows.rows ++ [(insertCall rows call).2]).map (·.createdAt) := by
    rw [List.map_append]
    rfl
  rw [times] at increasing dated ⊢
  rw [List.forall_mem_map] at dated
  rw [List.pairwise_map] at increasing
  rw [chronological_iff_callKey dated increasing, List.forall_mem_map]
  refine forall₂_congr fun a member => ?_
  rw [newest_map, List.forall_mem_map]
  refine forall₂_congr fun b member' => forall_congr' fun before => ?_
  exact callKey_lt_iff (dated a member) (dated b (List.mem_of_mem_drop member')) before

def callAt (t : Time) : CallRecord :=
  { createdAt := t, frontend := "ipsc", sourceCategory := .moto, sourceKey := "ipsc:1", slot := 1, callType := "group", streamID := 1 }

def callsAt (times : List Time) : CallRows :=
  have numbers : (times.mapIdx fun i t => { callAt t with id := i + 1 }).map CallRecord.id = List.range' 1 times.length := by
    refine List.ext_getElem (by simp) fun i _ _ => ?_
    simp [Nat.add_comm]
  { rows := times.mapIdx fun i t => { callAt t with id := i + 1 }
    next := times.length + 1
    nodupKeys := numbers ▸ List.nodup_range'
    nodupNumbers := numbers ▸ List.nodup_range'
    bounded := by
      intro row member
      obtain ⟨i, small, rfl⟩ := List.mem_mapIdx.mp member
      exact Nat.succ_lt_succ small }

theorem stored_times_chronological_second :
    formatTime 63902819045000000000 < formatTime 63902819046000000000 ∧
      Chronological (callsAt [63902819045000000000]) (callAt 63902819046000000000) := by
  have apart : ¬Begins 9 63902819045000000000 63902819046000000000 := not_begins_of_seconds (by decide)
  have dated : Dated 63902819045000000000 := by decide
  have dated' : Dated 63902819046000000000 := by decide
  obtain ⟨texts, calls⟩ := stored_times_chronological_iff 63902819045000000000 63902819046000000000
    (callsAt [63902819045000000000]) (callAt 63902819046000000000)
  refine ⟨(texts dated dated' (by decide)).mpr apart, ?_⟩
  have times : (callsAt [63902819045000000000]).rows.map (·.createdAt) ++ [(callAt 63902819046000000000).createdAt] =
      [63902819045000000000, 63902819046000000000] := by decide +kernel
  refine (calls (by rw [times]; decide) (by rw [times]; decide)).mpr ?_
  rw [times]
  simp only [newest, recentCallLimit, List.length_cons, List.length_nil, Nat.reduceAdd, Nat.reduceSub, List.drop_zero,
    List.forall_mem_cons]
  simpa using apart

/-- A tenth of a second after a whole second the text is the lesser one, and the earlier
call is loaded first.  Of 51 calls, a nanosecond apart from a whole second on, the first
is not the one that is deleted. -/
theorem stored_times_out_of_order : (Dated 63902819045000000000 ∧ Dated 63902819045100000000 ∧
      formatTime 63902819045100000000 < formatTime 63902819045000000000) ∧
      (loadCalls (callsAt [63902819045000000000, 63902819045100000000]) 0).map (·.createdAt) =
        [63902819045000000000, 63902819045100000000] ∧
      ¬Chronological (callsAt ((List.range 50).map (63902819045000000000 + ·))) (callAt 63902819045000000050) := by
  refine ⟨by decide +kernel, by decide +kernel, fun chronological => ?_⟩
  have below := (chronological_iff_callKey (by decide +kernel) (by decide +kernel)).mp chronological
    { callAt 63902819045000000000 with id := 1 } (by decide +kernel)
    { callAt 63902819045000000001 with id := 2 } (by decide +kernel) (by decide +kernel)
  rw [callKey_lt_iff (by decide +kernel) (by decide +kernel) (by decide +kernel)] at below
  exact below ⟨1, by decide, by decide, by decide, by decide⟩

end Ipsc2Mmdvm.Registry
