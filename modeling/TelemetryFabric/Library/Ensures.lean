import Mathlib.Logic.Basic

/-! Contracts for programs with a state and exceptions: what holds when the program returns
a value, and what holds in the state it leaves behind when it throws. -/

namespace TelemetryFabric.Library

variable {ε σ α β : Type}

/-- Started where `pre` holds, the program returns into `post` or throws into `broken`. -/
def Ensures (pre : σ → Prop) (program : EStateM ε σ α) (post : α → σ → Prop) (broken : σ → Prop) :
    Prop :=
  ∀ state, pre state → match program state with
    | .ok value later => post value later
    | .error _ later => broken later

/-- The program has returned a value. -/
def returned : EStateM.Result ε σ α → Bool
  | .ok _ _ => true
  | .error _ _ => false

theorem eq_ok_of_returned {result : EStateM.Result ε σ α} (done : returned result = true) :
    ∃ value later, result = .ok value later := by
  cases result with
  | ok value later => exact ⟨value, later, rfl⟩
  | error halt later => cases done

namespace Ensures

variable {pre : σ → Prop} {program : EStateM ε σ α} {post : α → σ → Prop} {broken : σ → Prop}

theorem weaken {stronger : σ → Prop} {weaker : α → σ → Prop} (contract : Ensures pre program post broken)
    (before : ∀ state, stronger state → pre state)
    (after : ∀ value state, post value state → weaker value state) :
    Ensures stronger program weaker broken := by
  intro state holds
  have result := contract state (before state holds)
  cases ran : program state with
  | ok value later =>
    rw [ran] at result
    exact after value later result
  | error halt later =>
    rw [ran] at result
    exact result

theorem bind {next : α → EStateM ε σ β} {last : β → σ → Prop} (first : Ensures pre program post broken)
    (rest : ∀ value, Ensures (post value) (next value) last broken) :
    Ensures pre (program >>= next) last broken := by
  intro state holds
  have result := first state holds
  change match EStateM.bind program next state with
    | .ok value later => last value later
    | .error _ later => broken later
  unfold EStateM.bind
  cases ran : program state with
  | ok value later =>
    rw [ran] at result
    exact rest value later result
  | error halt later =>
    rw [ran] at result
    exact result

end Ensures

end TelemetryFabric.Library
