import Mathlib.Data.Int.Notation
import Mathlib.Data.Nat.Notation

namespace Ipsc2Mmdvm.Data

/-! An instant counts the nanoseconds since the zero `time.Time`; durations are signed. -/

abbrev Time := Nat

abbrev Duration := Int

def nanosecond : Duration := 1

def millisecond : Duration := 1000000 * nanosecond

def second : Duration := 1000 * millisecond

def minute : Duration := 60 * second

/-- `t.Sub(u)`.  Go saturates the result at about 292 years either way; every
caller compares it with a timeout of minutes at most, so the exact difference
is kept instead. -/
@[reducible] def Time.sub (t u : Time) : Duration := (t : Int) - (u : Int)

theorem Time.sub_mono {t t' u u' : Time} (later : t ≤ t') (earlier : u' ≤ u) : Time.sub t u ≤ Time.sub t' u' :=
  Int.sub_le_sub (Int.ofNat_le.mpr later) (Int.ofNat_le.mpr earlier)

/-- `t.Add(d)`, for results that are not before the zero time. -/
@[reducible] def Time.add (t : Time) (d : Duration) : Time := ((t : Int) + d).toNat

theorem Time.add_pos (t : Time) {d : Duration} (lasting : 0 < d) : 0 < Time.add t d :=
  Int.pos_iff_toNat_pos.mp (Int.add_pos_of_nonneg_of_pos (Int.natCast_nonneg t) lasting)

@[reducible] def Time.isZero (t : Time) : Bool := decide ((t : Nat) = 0)

@[reducible] def Time.after (t u : Time) : Bool := decide ((u : Nat) < t)

end Ipsc2Mmdvm.Data
