import Mathlib.Data.List.Basic

namespace Ipsc2Mmdvm.Data

/-! What a machine has done with the complete frames of a stream does not depend on what the stream
goes on with. -/

section

variable {α σ ι ο : Type}

def frameAt (width : Nat) (stream : List α) (i : Nat) : List α := (stream.drop (width * i)).take width

theorem length_frameAt {width i : Nat} {stream : List α} (complete : width * (i + 1) ≤ stream.length) :
    (frameAt width stream i).length = width := by
  rw [Nat.mul_add_one] at complete
  rw [frameAt, List.length_take, List.length_drop]
  omega

theorem frameAt_append {width i : Nat} {stream : List α} (complete : width * (i + 1) ≤ stream.length) (more : List α) :
    frameAt width (stream ++ more) i = frameAt width stream i := by
  rw [Nat.mul_add_one] at complete
  have start : width * i ≤ stream.length := by omega
  have rest : width ≤ (stream.drop (width * i)).length := by
    rw [List.length_drop]
    omega
  rw [frameAt, frameAt, List.drop_append_of_le_length start, List.take_append_of_le_length rest]

variable (step : σ → ι → σ × ο) (start : σ)

def stateAt (input : Nat → ι) : Nat → σ
  | 0 => start
  | i + 1 => (step (stateAt input i) (input i)).1

def outputAt (input : Nat → ι) (i : Nat) : ο := (step (stateAt step start input i) (input i)).2

variable {input other : Nat → ι} {n : Nat}

theorem stateAt_congr (same : ∀ i < n, input i = other i) : stateAt step start input n = stateAt step start other n := by
  induction n with
  | zero => rfl
  | succ n ih =>
    have earlier := ih fun i before => same i (Nat.lt_succ_of_lt before)
    rw [stateAt, stateAt, earlier, same n (Nat.lt_succ_self n)]

theorem outputAt_congr (same : ∀ i ≤ n, input i = other i) : outputAt step start input n = outputAt step start other n := by
  rw [outputAt, outputAt, stateAt_congr step start fun i before => same i (Nat.le_of_lt before), same n (Nat.le_refl n)]

end

end Ipsc2Mmdvm.Data
