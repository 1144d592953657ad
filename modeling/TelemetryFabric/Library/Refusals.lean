import TelemetryFabric.Library.Ensures

/-! How programs fail. A result fails with some failures only; a program with a state refuses with
some failures only, and it refuses before it has changed the state. Both are read off the steps: a
check hands on what its own failures are, and steps that always return add none. -/

namespace TelemetryFabric.Library

variable {ε σ α β : Type}

/-- The result is no other failure. -/
def FailsOnly (allowed : ε → Prop) (result : Except ε α) : Prop := ∀ failure, result = .error failure → allowed failure

/-- From this state the program throws nothing else, and what it throws leaves the state as it is. -/
def RefusesOnly (allowed : ε → Prop) (program : EStateM ε σ α) (state : σ) : Prop :=
  ∀ failure later, program state = .error failure later → allowed failure ∧ later = state

def AlwaysReturns (program : EStateM ε σ α) : Prop := ∀ state, returned (program state) = true

/-- A result that does not depend on the state. -/
def given (result : Except ε α) : EStateM ε σ α := fun state =>
  match result with
  | .ok value => .ok value state
  | .error failure => .error failure state

/-! ### Results -/

namespace FailsOnly

variable {allowed : ε → Prop} {result : Except ε α} {next : α → Except ε β}

theorem ok (value : α) : FailsOnly allowed (.ok value : Except ε α) := fun _ failed => nomatch failed

theorem error_iff {failure : ε} : FailsOnly allowed (.error failure : Except ε α) ↔ allowed failure := by
  constructor
  · intro only
    exact only failure rfl
  · rintro fine _ ⟨⟩
    exact fine

theorem mono {wider : ε → Prop} (only : FailsOnly allowed result) (within : ∀ failure, allowed failure → wider failure) :
    FailsOnly wider result :=
  fun failure failed => within failure (only failure failed)

theorem bind_iff : FailsOnly allowed (result >>= next) ↔
    FailsOnly allowed result ∧ ∀ value, result = .ok value → FailsOnly allowed (next value) := by
  cases result with
  | ok value =>
    constructor
    · intro only
      refine ⟨ok value, ?_⟩
      rintro _ ⟨⟩
      exact only
    · rintro ⟨-, rest⟩
      exact rest value rfl
  | error failure =>
    constructor
    · intro only
      exact ⟨error_iff.mpr (only failure rfl), fun _ made => nomatch made⟩
    · rintro ⟨first, -⟩ _ ⟨⟩
      exact first failure rfl

theorem bind_iff_of (first : FailsOnly allowed result) :
    FailsOnly allowed (result >>= next) ↔ ∀ value, result = .ok value → FailsOnly allowed (next value) := by
  rw [bind_iff]
  exact and_iff_right first

end FailsOnly

/-! ### Runs -/

section Runs

variable {program : EStateM ε σ α} {next : α → EStateM ε σ β} {state later last : σ}

theorem bind_of_ok {value : α} (ran : program state = .ok value later) : (program >>= next) state = next value later := by
  show EStateM.bind program next state = _
  unfold EStateM.bind
  rw [ran]

theorem bind_of_error {failure : ε} (ran : program state = .error failure later) :
    (program >>= next) state = .error failure later := by
  show EStateM.bind program next state = _
  unfold EStateM.bind
  rw [ran]

end Runs

namespace AlwaysReturns

theorem pure (value : α) : AlwaysReturns (pure value : EStateM ε σ α) := fun _ => rfl

theorem get : AlwaysReturns (get : EStateM ε σ σ) := fun _ => rfl

theorem modifyGet (step : σ → α × σ) : AlwaysReturns (modifyGet step : EStateM ε σ α) := fun _ => rfl

theorem modify (step : σ → σ) : AlwaysReturns (modify step : EStateM ε σ Unit) := fun _ => rfl

variable {program : EStateM ε σ α} {next : α → EStateM ε σ β}

theorem ne_error (returns : AlwaysReturns program) {state later : σ} {failure : ε} : program state ≠ .error failure later := by
  intro ran
  have done := returns state
  rw [ran] at done
  cases done

theorem bind (first : AlwaysReturns program) (rest : ∀ value, AlwaysReturns (next value)) : AlwaysReturns (program >>= next) := by
  intro state
  obtain ⟨value, later, ran⟩ := eq_ok_of_returned (first state)
  rw [bind_of_ok ran]
  exact rest value later

end AlwaysReturns

/-! ### Programs -/

namespace RefusesOnly

variable {allowed : ε → Prop} {program : EStateM ε σ α} {next : α → EStateM ε σ β} {state : σ}

theorem of_alwaysReturns (returns : AlwaysReturns program) : RefusesOnly allowed program state :=
  fun _ _ ran => absurd ran returns.ne_error

theorem throw_iff {failure : ε} : RefusesOnly allowed (throw failure : EStateM ε σ α) state ↔ allowed failure := by
  constructor
  · intro only
    exact (only failure state rfl).1
  · intro fine other later ran
    cases ran
    exact ⟨fine, rfl⟩

theorem get_bind_iff {next : σ → EStateM ε σ β} :
    RefusesOnly allowed (get >>= next) state ↔ RefusesOnly allowed (next state) state := Iff.rfl

/-- Nothing has changed behind a check. -/
theorem given_bind_iff {result : Except ε α} : RefusesOnly allowed (given result >>= next) state ↔
    FailsOnly allowed result ∧ ∀ value, result = .ok value → RefusesOnly allowed (next value) state := by
  cases result with
  | ok value =>
    have same : (given (.ok value : Except ε α) >>= next) state = next value state := bind_of_ok rfl
    constructor
    · intro only
      refine ⟨FailsOnly.ok value, ?_⟩
      rintro _ ⟨⟩ failure later ran
      exact only failure later (same.trans ran)
    · rintro ⟨-, rest⟩ failure later ran
      exact rest value rfl failure later (same.symm.trans ran)
  | error failure =>
    have same : (given (.error failure : Except ε α) >>= next) state = .error failure state := bind_of_error rfl
    constructor
    · intro only
      exact ⟨FailsOnly.error_iff.mpr (only failure state same).1, fun _ made => nomatch made⟩
    · rintro ⟨first, -⟩ other later ran
      cases same.symm.trans ran
      exact ⟨first failure rfl, rfl⟩

theorem given_bind_iff_of {result : Except ε α} (first : FailsOnly allowed result) :
    RefusesOnly allowed (given result >>= next) state ↔
      ∀ value, result = .ok value → RefusesOnly allowed (next value) state := by
  rw [given_bind_iff]
  exact and_iff_right first

/-- Nothing throws behind the first step. -/
theorem andThen (first : RefusesOnly allowed program state) (rest : ∀ value, AlwaysReturns (next value)) :
    RefusesOnly allowed (program >>= next) state := by
  intro failure last ran
  cases made : program state with
  | ok value later =>
    rw [bind_of_ok made] at ran
    exact absurd ran (rest value).ne_error
  | error other later =>
    rw [bind_of_error made] at ran
    cases ran
    exact first failure last made

end RefusesOnly

end TelemetryFabric.Library
