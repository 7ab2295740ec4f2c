import Mathlib.Data.List.Basic
import Mathlib.Order.Basic

namespace Ipsc2Mmdvm.Data

/-! A machine is a step function; what its environment chooses (a datagram, a clock reading, the
order of a map iteration) is part of the event. -/

section

variable {σ ε : Type} {step : σ → ε → σ} {state : σ} {events later : List ε} {condition : σ → ε → Prop}
  {Invariant Safe : σ → Prop}

def runFrom (step : σ → ε → σ) (state : σ) (events : List ε) : σ :=
  events.foldl step state

@[simp] theorem runFrom_nil : runFrom step state [] = state := rfl

@[simp] theorem runFrom_cons {event : ε} :
    runFrom step state (event :: events) = runFrom step (step state event) events := rfl

@[simp] theorem runFrom_append :
    runFrom step state (events ++ later) = runFrom step (runFrom step state events) later :=
  List.foldl_append

/-- Every step of the run from `state` starts in a state that meets `condition`. -/
def EachStep (step : σ → ε → σ) (condition : σ → ε → Prop) : σ → List ε → Prop
  | _, [] => True
  | state, event :: events => condition state event ∧ EachStep step condition (step state event) events

@[simp] theorem eachStep_nil : EachStep step condition state [] := trivial

@[simp] theorem eachStep_cons {event : ε} : EachStep step condition state (event :: events) ↔
      condition state event ∧ EachStep step condition (step state event) events := Iff.rfl

@[simp] theorem eachStep_append : EachStep step condition state (events ++ later) ↔
      EachStep step condition state events ∧ EachStep step condition (runFrom step state events) later := by
  induction events generalizing state with
  | nil => simp
  | cons event events ih => simp [ih, and_assoc]

instance EachStep.decidable {condition : σ → ε → Prop} [∀ state event, Decidable (condition state event)] :
    ∀ (state : σ) (events : List ε), Decidable (EachStep step condition state events)
  | _, [] => .isTrue trivial
  | state, event :: events =>
    @instDecidableAnd _ _ inferInstance (EachStep.decidable (step state event) events)

/-- The induction principle behind every invariant of the development: what
holds initially and survives each step that meets the condition holds at the
end of every run all of whose steps meet it. -/
theorem runFrom_invariant (preserved : ∀ state event, Invariant state → condition state event → Invariant (step state event))
    (initial : Invariant state) (meets : EachStep step condition state events) :
    Invariant (runFrom step state events) := by
  induction events generalizing state with
  | nil => exact initial
  | cons event events ih => exact ih (preserved state event initial meets.1) meets.2

theorem runFrom_induct (preserved : ∀ state event, Invariant state → Invariant (step state event)) (initial : Invariant state) :
    Invariant (runFrom step state events) := by
  induction events generalizing state with
  | nil => exact initial
  | cons event events ih => exact ih (preserved state event initial)

theorem runFrom_history {β : Type} {Invariant : List β → σ → Prop} {contribution : ε → Option β} {history : List β}
    (preserved : ∀ history state event, Invariant history state →
      Invariant (history ++ (contribution event).toList) (step state event))
    (initial : Invariant history state) :
    Invariant (history ++ events.filterMap contribution) (runFrom step state events) := by
  induction events generalizing state history with
  | nil => simpa using initial
  | cons event events ih =>
    have rest := ih (preserved history state event initial)
    rw [List.append_assoc] at rest
    cases given : contribution event with
    | none | some => simpa [given] using rest

/-- Every state of the run from `state`, the first and the last included, is `Safe`. -/
def EachState (step : σ → ε → σ) (Safe : σ → Prop) : σ → List ε → Prop
  | state, [] => Safe state
  | state, event :: events => Safe state ∧ EachState step Safe (step state event) events

section

variable (safe : EachState step Safe state events)

include safe

theorem EachState.head : Safe state := by
  cases events with
  | nil => exact safe
  | cons event events => exact safe.1

theorem EachState.eachStep (implies : ∀ state event, Safe state → condition state event) :
    EachStep step condition state events := by
  induction events generalizing state with
  | nil => trivial
  | cons event events ih => exact ⟨implies state event safe.1, ih safe.2⟩

theorem EachState.mono {Weaker : σ → Prop}
    (implies : ∀ state, Safe state → Weaker state) : EachState step Weaker state events := by
  induction events generalizing state with
  | nil => exact implies state safe
  | cons event events ih => exact ⟨implies state safe.1, ih safe.2⟩

end

section

variable (meets : EachStep step condition state events)
  (preserved : ∀ state event, Invariant state → condition state event → Invariant (step state event))

include meets preserved

theorem EachStep.eachState (initial : Invariant state) : EachState step Invariant state events := by
  induction events generalizing state with
  | nil => exact initial
  | cons event events ih => exact ⟨initial, ih meets.2 (preserved state event initial meets.1)⟩

theorem EachStep.of_invariant {conclusion : σ → ε → Prop}
    (implies : ∀ state event, Invariant state → condition state event → conclusion state event) (initial : Invariant state) :
    EachStep step conclusion state events := by
  induction events generalizing state with
  | nil => trivial
  | cons event events ih =>
    exact ⟨implies state event initial meets.1, ih meets.2 (preserved state event initial meets.1)⟩

end

/-- If a condition on the event decides whether a safe state stays safe, the
states of a run are all safe exactly when its steps all meet the condition.
`Side` is what holds beside, safe or not. -/
theorem eachState_iff_eachStep (step : σ → ε → σ) (Safe : σ → Prop) (events : List ε) {Side : σ → Prop}
    (side : ∀ state event, Side state → Side (step state event))
    (decides : ∀ state event, Side state → Safe state → (Safe (step state event) ↔ condition state event)) (beside : Side state)
    (safe : Safe state) :
    EachState step Safe state events ↔ EachStep step condition state events := by
  induction events generalizing state with
  | nil => exact iff_of_true safe trivial
  | cons event events ih =>
    constructor
    · intro safeRun
      obtain ⟨_, rest⟩ := safeRun
      exact ⟨(decides state event beside safe).mp rest.head, (ih (side state event beside) rest.head).mp rest⟩
    · intro metRun
      obtain ⟨met, rest⟩ := metRun
      have stays := (decides state event beside safe).mpr met
      exact ⟨safe, (ih (side state event beside) stays).mpr rest⟩

end

end Ipsc2Mmdvm.Data
