import Mathlib.Algebra.BigOperators.Group.List.Basic
import Mathlib.Algebra.GroupWithZero.Nat

namespace Ipsc2Mmdvm.Data

/-! The Gregorian calendar, from the first day of the year 1 on; everything is counted from zero.
The calendar repeats itself every 400 years; the last century of these and the last year of every
four have a day more. -/

def yearOf (days : Nat) : Nat × Nat :=
  let era := days / 146097
  let days := days % 146097
  let century := days / 36524 - days / 36524 / 4
  let days := days - 36524 * century
  let leap := days / 1461
  let days := days % 1461
  let year := days / 365 - days / 365 / 4
  (400 * era + 100 * century + 4 * leap + year, days - 365 * year)

def daysBefore (year : Nat) : Nat := 365 * year + year / 4 - year / 100 + year / 400

def isLeap (year : Nat) : Bool := (year + 1) % 4 == 0 && ((year + 1) % 100 != 0 || (year + 1) % 400 == 0)

def monthLengths (year : Nat) : List Nat :=
  [31, if isLeap year then 29 else 28, 31, 30, 31, 30, 31, 31, 30, 31, 30, 31]

def monthOf : List Nat → Nat → Nat × Nat
  | [], days => (0, days)
  | length :: lengths, days =>
    if days < length then (0, days)
    else
      let (month, days) := monthOf lengths (days - length)
      (month + 1, days)

theorem yearOf_cycles (days : Nat) : ∃ era century leap year rest,
    yearOf days = (400 * era + 100 * century + 4 * leap + year, rest) ∧
      days = 146097 * era + 36524 * century + 1461 * leap + 365 * year + rest ∧
      century < 4 ∧ leap < 25 ∧ year < 4 ∧ (rest < 365 ∨ rest = 365 ∧ year = 3 ∧ (leap < 24 ∨ century = 3)) := by
  refine ⟨_, _, _, _, _, rfl, ?_⟩
  have day := Nat.mod_lt days (show 0 < 146097 by decide)
  have whole := Nat.div_add_mod days 146097
  generalize days / 146097 = era at *
  generalize days % 146097 = inEra at *
  obtain ⟨century, isCentury⟩ : ∃ century, century = inEra / 36524 - inEra / 36524 / 4 := ⟨_, rfl⟩
  have centuries : century < 4 ∧ 36524 * century ≤ inEra ∧
      (inEra - 36524 * century < 36524 ∨ inEra - 36524 * century = 36524 ∧ century = 3) := by
    omega
  rw [← isCentury]
  clear isCentury
  obtain ⟨inCentury, isDay⟩ : ∃ inCentury, inCentury = inEra - 36524 * century := ⟨_, rfl⟩
  rw [← isDay] at centuries ⊢
  have year := Nat.mod_lt inCentury (show 0 < 1461 by decide)
  have quarter := Nat.div_add_mod inCentury 1461
  generalize inCentury / 1461 = leap at *
  generalize inCentury % 1461 = inLeap at *
  omega

theorem daysBefore_yearOf (days : Nat) :
    daysBefore (yearOf days).1 + (yearOf days).2 = days ∧ days < daysBefore ((yearOf days).1 + 1) := by
  obtain ⟨era, century, leap, year, rest, found, rfl, centuryLt, leapLt, yearLt, restLt⟩ := yearOf_cycles days
  rw [found]
  have fours : (400 * era + 100 * century + 4 * leap + year) / 4 = 100 * era + 25 * century + leap := by omega
  have hundreds : (400 * era + 100 * century + 4 * leap + year) / 100 = 4 * era + century := by omega
  have eras : (400 * era + 100 * century + 4 * leap + year) / 400 = era := by omega
  simp only [daysBefore, fours, hundreds, eras]
  omega

theorem daysBefore_succ (year : Nat) : daysBefore (year + 1) = daysBefore year + (monthLengths year).sum := by
  have lengths : (monthLengths year).sum = 337 + if isLeap year then 29 else 28 := by
    simp only [monthLengths, List.sum_cons, List.sum_nil]
    omega
  have leap : isLeap year = true ↔ 4 ∣ year + 1 ∧ (¬100 ∣ year + 1 ∨ 400 ∣ year + 1) := by
    simp [isLeap, Nat.dvd_iff_mod_eq_zero]
  have hundred : 100 ∣ year + 1 → 4 ∣ year + 1 := Nat.dvd_trans (by decide)
  have era : 400 ∣ year + 1 → 100 ∣ year + 1 := Nat.dvd_trans (by decide)
  have fewer : year / 100 ≤ 365 * year := by omega
  rw [lengths]
  simp only [daysBefore, Nat.succ_div, leap]
  generalize year / 4 = fours at *
  generalize year / 100 = hundreds at *
  generalize year / 400 = eras at *
  by_cases four : 4 ∣ year + 1 <;> by_cases century : 100 ∣ year + 1 <;> by_cases whole : 400 ∣ year + 1 <;>
    simp only [four, century, whole] at * <;> simp at * <;> omega

variable {later days : Nat} {lengths : List Nat}

theorem daysBefore_mono {year : Nat} (before : year ≤ later) : daysBefore year ≤ daysBefore later := by
  induction before with
  | refl => exact Nat.le_refl _
  | step _ ih =>
    rw [daysBefore_succ]
    omega

theorem yearOf_lt (before : days < later) : (yearOf days).1 < (yearOf later).1 ∨
      (yearOf days).1 = (yearOf later).1 ∧ (yearOf days).2 < (yearOf later).2 := by
  obtain ⟨start, finish⟩ := daysBefore_yearOf days
  obtain ⟨start', finish'⟩ := daysBefore_yearOf later
  rcases Nat.lt_trichotomy (yearOf days).1 (yearOf later).1 with less | same | greater
  · exact .inl less
  · rw [same] at start
    exact .inr ⟨same, by omega⟩
  · have := daysBefore_mono (show (yearOf later).1 + 1 ≤ (yearOf days).1 from greater)
    omega

theorem yearOf_days (days : Nat) : (yearOf days).2 < (monthLengths (yearOf days).1).sum := by
  obtain ⟨start, finish⟩ := daysBefore_yearOf days
  rw [daysBefore_succ] at finish
  omega

theorem monthOf_bounds {bound : Nat} (short : ∀ length ∈ lengths, length ≤ bound) (within : days < lengths.sum) :
    (monthOf lengths days).1 < lengths.length ∧ (monthOf lengths days).2 < bound := by
  induction lengths generalizing days with
  | nil => cases within
  | cons length lengths ih =>
    rw [List.forall_mem_cons] at short
    rw [List.sum_cons] at within
    rw [monthOf]
    split
    · next first => exact ⟨by simp, by dsimp only; omega⟩
    · obtain ⟨month, day⟩ := ih short.2 (show days - length < lengths.sum by omega)
      exact ⟨by simpa using month, day⟩

theorem monthOf_lt (before : days < later) : (monthOf lengths days).1 < (monthOf lengths later).1 ∨
      (monthOf lengths days).1 = (monthOf lengths later).1 ∧ (monthOf lengths days).2 < (monthOf lengths later).2 := by
  induction lengths generalizing days later with
  | nil => exact .inr ⟨rfl, before⟩
  | cons length lengths ih =>
    rw [monthOf, monthOf]
    by_cases first : later < length
    · rw [if_pos first, if_pos (by omega)]
      exact .inr ⟨rfl, before⟩
    · rw [if_neg first]
      by_cases first' : days < length
      · rw [if_pos first']
        exact .inl (Nat.succ_pos _)
      · rw [if_neg first']
        simpa using ih (show days - length < later - length by omega)

end Ipsc2Mmdvm.Data
