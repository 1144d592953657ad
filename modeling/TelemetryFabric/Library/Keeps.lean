import TelemetryFabric.Library.Refusals

/-! Invariants of programs with a state and exceptions. What a program keeps holds of the state it
leaves behind wherever it held of the state it was started in, whether the program returns or throws. -/

namespace TelemetryFabric.Library

variable {ε σ α β : Type} {invariant : σ → Prop}

def Keeps (invariant : σ → Prop) (program : EStateM ε σ α) : Prop :=
  Ensures invariant program (fun _ => invariant) invariant

/-- The state behind a program. -/
def behind : EStateM.Result ε σ α → σ
  | .ok _ later => later
  | .error _ later => later

theorem bind_eq_ok {program : EStateM ε σ α} {next : α → EStateM ε σ β} {state last : σ} {result : β}
    (ran : (program >>= next) state = .ok result last) :
    ∃ value later, program state = .ok value later ∧ next value later = .ok result last := by
  cases first : program state with
  | ok value later =>
    rw [bind_of_ok first] at ran
    exact ⟨value, later, rfl, ran⟩
  | error failure later =>
    rw [bind_of_error first] at ran
    cases ran

theorem given_bind_eq_ok {given : Except ε α} {next : α → EStateM ε σ β} {state last : σ} {result : β}
    (ran : (Library.given given >>= next) state = .ok result last) :
    ∃ value, given = .ok value ∧ next value state = .ok result last := by
  cases given with
  | ok value => exact ⟨value, rfl, ran⟩
  | error failure => cases ran

namespace Keeps

theorem behind {program : EStateM ε σ α} (keeps : Keeps invariant program) {state : σ} (holds : invariant state) :
    invariant (behind (program state)) := by
  have result := keeps state holds
  cases ran : program state with
  | ok value later =>
    rw [ran] at result
    exact result
  | error failure later =>
    rw [ran] at result
    exact result

theorem pure (value : α) : Keeps invariant (pure value : EStateM ε σ α) := fun _ holds => holds

theorem throw (failure : ε) : Keeps invariant (throw failure : EStateM ε σ α) := fun _ holds => holds

theorem modify {step : σ → σ} (onward : ∀ state, invariant state → invariant (step state)) :
    Keeps invariant (modify step : EStateM ε σ Unit) := fun state holds => onward state holds

theorem modifyGet {step : σ → α × σ} (onward : ∀ state, invariant state → invariant (step state).2) :
    Keeps invariant (modifyGet step : EStateM ε σ α) := fun state holds => onward state holds

theorem bind {program : EStateM ε σ α} {next : α → EStateM ε σ β} (first : Keeps invariant program)
    (rest : ∀ value, Keeps invariant (next value)) : Keeps invariant (program >>= next) :=
  Ensures.bind first rest

/-- What is read is a state of which the invariant holds. -/
theorem get_bind {next : σ → EStateM ε σ β} (rest : ∀ state, invariant state → Keeps invariant (next state)) :
    Keeps invariant (get >>= next) := fun state holds => rest state holds state holds

/-- What is read is the state that the rest starts in. -/
theorem get_bind_iff {next : σ → EStateM ε σ β} :
    Keeps invariant (get >>= next) ↔ ∀ read, invariant read → invariant (Library.behind (next read read)) := by
  constructor
  · exact fun keeps read holds => keeps.behind holds
  · intro rest read holds
    have result := rest read holds
    show match next read read with
      | .ok _ later => invariant later
      | .error _ later => invariant later
    cases ran : next read read with
    | ok value later =>
      rw [ran] at result
      exact result
    | error failure later =>
      rw [ran] at result
      exact result

/-- From what is read on, an invariant that is tied to it may be kept. -/
theorem get_bind_of {tied : σ → σ → Prop} {next : σ → EStateM ε σ β} (start : ∀ read, invariant read → tied read read)
    (rest : ∀ read, invariant read → Keeps (tied read) (next read))
    (onward : ∀ read later, invariant read → tied read later → invariant later) : Keeps invariant (get >>= next) := by
  rw [get_bind_iff]
  intro read holds
  exact onward read _ holds ((rest read holds).behind (start read holds))

theorem given_bind {result : Except ε α} {next : α → EStateM ε σ β}
    (rest : ∀ value, result = .ok value → Keeps invariant (next value)) : Keeps invariant (given result >>= next) := by
  cases result with
  | ok value => exact fun state holds => rest value rfl state holds
  | error failure => exact fun _ holds => holds

end Keeps

end TelemetryFabric.Library
