import TelemetryFabric.Agent.Shared

/-!
Flushes and reloads over any interleaving: at most one flush is outstanding, the flag says
so, the exporter map is the configured one whenever none is, a completing flush gives its
exporters back only to the configuration it took them from, and the counters add up. File
system errors may end any step.
-/

namespace TelemetryFabric.Agent
open Library TelemetryFabric.Core Buffer Processors

variable {E : Type}

/-- The operations of a runtime that is shared from the start: no flush under one lock, no
restart. -/
def AgentOperation.shared : AgentOperation E → Bool
  | .flush _ _ _ _ => false
  | .restart _ _ _ => false
  | _ => true

/-- What is known while a flush is outstanding: how far the generation has moved since it was
prepared, and whose exporters are where. -/
structure Outgoing (control : Control E) (task : Task E) : Prop where
  few : task.reloads < 2 ^ 64
  generation : control.configGeneration = task.prepared.configGeneration + UInt64.ofNat task.reloads
  config : task.reloads = 0 → control.config = task.prepared.config
  taken : Configured task.prepared.config task.prepared.exporters
  installed : task.reloads ≠ 0 → Configured control.config control.exporters

/-- The generation is the one a flush was prepared with exactly when nothing has been
reloaded since. -/
theorem Outgoing.same_generation {control : Control E} {task : Task E} (outgoing : Outgoing control task) :
    control.configGeneration = task.prepared.configGeneration ↔ task.reloads = 0 := by
  have few := outgoing.few
  rw [outgoing.generation]
  constructor
  · intro same
    have none : UInt64.ofNat task.reloads = 0 := by simpa using same
    have digits := congrArg UInt64.toNat none
    rw [UInt64.toNat_ofNat', Nat.mod_eq_of_lt few] at digits
    exact digits
  · intro none
    simp [none]

/-- The flag tells whether a flush is outstanding, and there is never a second one. -/
def Exclusive (control : Control E) (tasks : List (Task E)) : Prop :=
  (control.flushInProgress = false ∧ tasks = []) ∨
    (control.flushInProgress = true ∧ ∃ task, tasks = [task])

theorem Exclusive.flag {control : Control E} {tasks : List (Task E)} (exclusive : Exclusive control tasks) :
    control.flushInProgress = true ↔ tasks ≠ [] := by
  rcases exclusive with ⟨flag, rfl⟩ | ⟨flag, task, rfl⟩ <;> simp [flag]

/-- The task an index finds is the only one. -/
theorem Exclusive.only {control : Control E} {tasks : List (Task E)} (exclusive : Exclusive control tasks)
    {index : Nat} {task : Task E} (found : tasks[index]? = some task) : index = 0 ∧ tasks = [task] := by
  rcases exclusive with ⟨-, rfl⟩ | ⟨-, only, rfl⟩
  · simp at found
  · cases index with
    | zero => exact ⟨rfl, by simpa using found⟩
    | succ index => simp at found

structure Steady (control : Control E) (tasks : List (Task E)) : Prop where
  exclusive : Exclusive control tasks
  idle : tasks = [] → Configured control.config control.exporters
  busy : ∀ task, tasks = [task] → Outgoing control task
  counted : control.attempts = control.successes + control.failures + tasks.length

/-- Control fields that agree on everything but the counters, which may have counted one
flush that is over already. -/
theorem Steady.recount {control later : Control E} {tasks : List (Task E)} (steady : Steady control tasks)
    {successes failures : Nat}
    (fields : later = { control with
      attempts := control.attempts + (successes + failures)
      successes := control.successes + successes
      failures := control.failures + failures }) : Steady later tasks := by
  subst fields
  have counted := steady.counted
  refine ⟨steady.exclusive, steady.idle, ?_, by simp only; omega⟩
  intro task one
  have outgoing := steady.busy task one
  exact ⟨outgoing.few, outgoing.generation, outgoing.config, outgoing.taken, outgoing.installed⟩

namespace AgentState

variable {state next : AgentState E}

theorem step_ingest_steers {record : TelemetryRecord} {plan : List (Option Fault)}
    (taken : state.step (.ingest record plan) = some next) :
    next.runtime.control = state.runtime.control ∧ next.tasks = state.tasks := by
  simp only [step] at taken
  cases ran : Agent.ingest record ⟨state.runtime, plan⟩ with
  | ok value later =>
    rw [ran] at taken
    cases taken
    exact ⟨(ingest_unsteered record).of_ok ran, rfl⟩
  | error halt later =>
    rw [ran] at taken
    cases halt with
    | raised error =>
      cases taken
      exact ⟨(ingest_unsteered record).of_error ran, rfl⟩
    | panicked => cases taken
    | crashed => cases taken
    | unfinished => cases taken

/-- A reload replaces configuration, processors and exporters together and starts the next
generation; one that fails changes none of them. -/
theorem step_reload {config : PipelineConfig} {build : ExporterConfig → Except ExporterError E}
    (taken : state.step (.reload config build) = some next) :
    (∃ exporters, config.validate = .ok () ∧ buildExporters build config.exporters .empty = .ok exporters ∧
      next = { state with
        runtime := AgentRuntime.countReload true { state.runtime with
          config := config
          processors := .fromConfig config
          exporters := exporters
          configGeneration := state.runtime.configGeneration + 1 }
        tasks := state.tasks.map fun task => { task with reloads := task.reloads + 1 } }) ∨
    (∃ error session, reloadConfig config build ⟨state.runtime, []⟩ = .error (.raised error) session ∧
      next = { state with runtime := state.runtime.countReload false }) := by
  simp only [step] at taken
  rcases reloadConfig_cases config build ⟨state.runtime, []⟩ with ⟨exporters, checked, built, done⟩ | ⟨error, failed⟩
  · rw [done] at taken
    cases taken
    exact Or.inl ⟨exporters, checked, built, rfl⟩
  · rw [failed] at taken
    cases taken
    exact Or.inr ⟨error, _, failed, rfl⟩

theorem step_prepare_steers {maxItems : Nat} {force : Bool} {clock : Nat → Nat → Nat}
    {plan : List (Option Fault)} (taken : state.step (.prepare maxItems force clock plan) = some next) :
    (next.tasks = state.tasks ∧ ∃ successes failures, next.runtime.control = { state.runtime.control with
        attempts := state.runtime.control.attempts + (successes + failures)
        successes := state.runtime.control.successes + successes
        failures := state.runtime.control.failures + failures }) ∨
    (∃ task, state.runtime.flushInProgress = false ∧ next.tasks = state.tasks ++ [task] ∧
      task.reloads = 0 ∧ task.prepared.config = state.runtime.config ∧
      task.prepared.exporters = state.runtime.exporters ∧
      task.prepared.configGeneration = state.runtime.configGeneration ∧
      next.runtime.control = { state.runtime.control with
        exporters := .empty
        flushInProgress := true
        attempts := state.runtime.control.attempts + 1 }) := by
  simp only [step] at taken
  have steers := prepareSharedFlush_steers maxItems force clock ⟨state.runtime, plan⟩
  cases ran : prepareSharedFlush maxItems force clock ⟨state.runtime, plan⟩ with
  | error halt later =>
    rw [ran] at taken steers
    cases halt with
    | raised error =>
      cases taken
      exact Or.inl ⟨rfl, 0, 1, steers⟩
    | panicked => cases taken
    | crashed => cases taken
    | unfinished => cases taken
  | ok turn later =>
    rw [ran] at taken steers
    cases turn with
    | nothing =>
      cases taken
      rcases steers with rfl | counted
      · exact Or.inl ⟨rfl, 0, 0, rfl⟩
      · exact Or.inl ⟨rfl, 1, 0, counted⟩
    | waiting =>
      cases taken
      obtain rfl := steers
      exact Or.inl ⟨rfl, 0, 0, rfl⟩
    | prepared flush =>
      cases taken
      obtain ⟨free, control, config, exporters, generation⟩ := steers
      exact Or.inr ⟨_, free, rfl, rfl, config, exporters, generation, control⟩

theorem step_deliver {index : Nat} {respond : Responses}
    (taken : state.step (.deliver index respond) = some next) :
    ∃ task outcome, state.tasks[index]? = some task ∧ task.outcome = none ∧
      outcome = exportRecords task.prepared.config task.prepared.exporters respond task.prepared.records ∧
      next = { state with
        tasks := state.tasks.set index { task with outcome := some outcome }
        calls := state.calls ++ [task.call outcome] } := by
  simp only [step] at taken
  cases found : state.tasks[index]? with
  | none => simp [found] at taken
  | some task =>
    simp only [found] at taken
    cases waiting : task.outcome with
    | some outcome => simp [waiting] at taken
    | none =>
      simp only [waiting, Option.some.injEq] at taken
      exact ⟨task, _, rfl, waiting, rfl, taken.symm⟩

/-- A completing flush leaves the list of tasks and is counted. -/
theorem step_complete_steers {index : Nat} {plan : List (Option Fault)}
    (taken : state.step (.complete index plan) = some next) :
    ∃ task successes failures, state.tasks[index]? = some task ∧ successes + failures = 1 ∧
      next.tasks = state.tasks.eraseIdx index ∧
      next.runtime.control = { state.runtime.control.restored task.prepared with
        successes := state.runtime.control.successes + successes
        failures := state.runtime.control.failures + failures } := by
  simp only [step] at taken
  cases found : state.tasks[index]? with
  | none => simp [found] at taken
  | some task =>
    simp only [found] at taken
    cases waiting : task.outcome with
    | none => simp [waiting] at taken
    | some outcome =>
      simp only [waiting] at taken
      have steers := completeFlush_steers task.prepared outcome ⟨state.runtime, plan⟩
      cases ran : completeFlush task.prepared outcome ⟨state.runtime, plan⟩ with
      | ok report later =>
        rw [ran] at taken steers
        cases taken
        exact ⟨task, 1, 0, rfl, rfl, rfl, steers⟩
      | error halt later =>
        rw [ran] at taken steers
        cases halt with
        | raised error =>
          cases taken
          exact ⟨task, 0, 1, rfl, rfl, rfl, steers⟩
        | panicked => cases taken
        | crashed => cases taken
        | unfinished => cases taken

/-! ### One flush at a time -/

theorem start_exclusive {config : PipelineConfig} {dir : Directory} {options : DiskQueueOptions}
    {build : ExporterConfig → Except ExporterError E} {runtime : AgentRuntime E}
    (opened : AgentRuntime.openDir config dir options build = .ok runtime) :
    Exclusive (start runtime).runtime.control (start runtime).tasks := by
  obtain ⟨-, exporters, -, rfl⟩ := openDir_eq_ok opened
  exact Or.inl ⟨rfl, rfl⟩

theorem step_exclusive (exclusive : Exclusive state.runtime.control state.tasks)
    {operation : AgentOperation E} (shared : operation.shared = true)
    (taken : state.step operation = some next) : Exclusive next.runtime.control next.tasks := by
  cases operation with
  | ingest record plan =>
    obtain ⟨control, tasks⟩ := step_ingest_steers taken
    rw [control, tasks]
    exact exclusive
  | reload config build =>
    rcases step_reload taken with ⟨exporters, -, -, rfl⟩ | ⟨error, session, -, rfl⟩
    · rcases exclusive with ⟨flag, none⟩ | ⟨flag, task, one⟩
      · exact Or.inl ⟨flag, by simp [none]⟩
      · exact Or.inr ⟨flag, _, by rw [one]; rfl⟩
    · exact exclusive
  | pause =>
    cases taken
    exact exclusive
  | resume =>
    cases taken
    exact exclusive
  | prepare maxItems force clock plan =>
    rcases step_prepare_steers taken with ⟨tasks, successes, failures, control⟩ |
      ⟨task, free, tasks, -, -, -, -, control⟩
    · rw [tasks, control]
      exact exclusive
    · rcases exclusive with ⟨-, none⟩ | ⟨flag, -⟩
      · rw [tasks, control, none]
        exact Or.inr ⟨rfl, task, rfl⟩
      · have busy : state.runtime.flushInProgress = true := flag
        rw [free] at busy
        cases busy
  | deliver index respond =>
    obtain ⟨task, outcome, found, -, -, rfl⟩ := step_deliver taken
    obtain ⟨rfl, one⟩ := exclusive.only found
    rcases exclusive with ⟨-, none⟩ | ⟨flag, -⟩
    · simp [none] at one
    · exact Or.inr ⟨flag, _, by rw [one]; rfl⟩
  | complete index plan =>
    obtain ⟨task, successes, failures, found, -, tasks, control⟩ := step_complete_steers taken
    obtain ⟨rfl, one⟩ := exclusive.only found
    rw [tasks, one, control]
    exact Or.inl ⟨rfl, rfl⟩
  | flush maxItems clock respond plan => cases shared
  | restart config options build => cases shared

/-! ### Exporters and counters -/

/-- The steps of a shared runtime with fewer than `2^64` reloads during one flush. -/
def Steered (state : AgentState E) (operation : AgentOperation E) : Prop :=
  operation.shared = true ∧
    (state.step operation).all (fun next => next.tasks.all fun task => task.reloads < 2 ^ 64) = true

instance (state : AgentState E) (operation : AgentOperation E) : Decidable (Steered state operation) :=
  inferInstanceAs (Decidable (_ ∧ _))

theorem start_steady {config : PipelineConfig} {dir : Directory} {options : DiskQueueOptions}
    {build : ExporterConfig → Except ExporterError E} {runtime : AgentRuntime E}
    (opened : AgentRuntime.openDir config dir options build = .ok runtime) :
    Steady (start runtime).runtime.control (start runtime).tasks := by
  have exclusive := start_exclusive opened
  obtain ⟨-, exporters, built, rfl⟩ := openDir_eq_ok opened
  exact ⟨exclusive, fun _ => configured_of_build built, fun task one => (by cases one), rfl⟩

theorem reload_steady (steady : Steady state.runtime.control state.tasks) {config : PipelineConfig}
    {build : ExporterConfig → Except ExporterError E}
    (few : ∀ task ∈ next.tasks, task.reloads < 2 ^ 64)
    (exclusive : Exclusive next.runtime.control next.tasks)
    (taken : state.step (.reload config build) = some next) :
    Steady next.runtime.control next.tasks := by
  rcases step_reload taken with ⟨exporters, -, built, rfl⟩ | ⟨error, session, -, rfl⟩
  · have configured : Configured config exporters := configured_of_build built
    have counted := steady.counted
    refine ⟨exclusive, fun _ => configured, ?_, by rw [List.length_map]; exact counted⟩
    intro task one
    obtain ⟨old, before, rfl⟩ := List.map_eq_singleton_iff.mp one
    have outgoing := steady.busy old before
    refine ⟨?_, ?_, by simp, outgoing.taken, fun _ => configured⟩
    · exact few _ (by rw [one]; simp)
    · change state.runtime.control.configGeneration + 1 = _
      rw [outgoing.generation, UInt64.ofNat_add, UInt64.add_assoc]
      rfl
  · exact steady

theorem prepare_steady (steady : Steady state.runtime.control state.tasks) {maxItems : Nat} {force : Bool}
    {clock : Nat → Nat → Nat} {plan : List (Option Fault)}
    (exclusive : Exclusive next.runtime.control next.tasks)
    (taken : state.step (.prepare maxItems force clock plan) = some next) :
    Steady next.runtime.control next.tasks := by
  rcases step_prepare_steers taken with ⟨tasks, successes, failures, control⟩ |
    ⟨task, free, tasks, none, config, exporters, generation, control⟩
  · rw [tasks]
    exact steady.recount control
  · have idle : state.tasks = [] := by
      by_contra some
      have flag : state.runtime.flushInProgress = true := steady.exclusive.flag.mpr some
      rw [free] at flag
      cases flag
    have counted := steady.counted
    rw [idle] at counted
    refine ⟨exclusive, ?_, ?_, ?_⟩
    · intro empty
      simp [tasks] at empty
    · intro other one
      rw [tasks, idle] at one
      cases one
      rw [control]
      refine ⟨by rw [none]; decide, ?_, fun _ => config.symm, ?_, fun some => absurd none some⟩
      · rw [none, generation]
        exact (UInt64.add_zero _).symm
      · rw [config, exporters]
        exact steady.idle idle
    · rw [control, tasks, idle]
      simp at counted ⊢
      omega

theorem complete_steady (steady : Steady state.runtime.control state.tasks) {index : Nat}
    {plan : List (Option Fault)} (exclusive : Exclusive next.runtime.control next.tasks)
    (taken : state.step (.complete index plan) = some next) :
    Steady next.runtime.control next.tasks := by
  obtain ⟨task, successes, failures, found, one, tasks, control⟩ := step_complete_steers taken
  obtain ⟨rfl, single⟩ := steady.exclusive.only found
  have outgoing := steady.busy task single
  have counted := steady.counted
  have none : next.tasks = [] := by rw [tasks, single]; rfl
  refine ⟨exclusive, fun _ => ?_, fun other same => (by rw [none] at same; cases same), ?_⟩
  · rw [control]
    by_cases reloaded : task.reloads = 0
    · have same := outgoing.same_generation.mpr reloaded
      simp only [Control.restored, if_pos same]
      rw [outgoing.config reloaded]
      exact outgoing.taken
    · have differs : ¬ state.runtime.control.configGeneration = task.prepared.configGeneration :=
        fun same => reloaded (outgoing.same_generation.mp same)
      simp only [Control.restored, if_neg differs]
      exact outgoing.installed reloaded
  · rw [single] at counted
    rw [none, control]
    change state.runtime.control.attempts = _
    simp at counted ⊢
    omega

theorem step_steady (steady : Steady state.runtime.control state.tasks) {operation : AgentOperation E}
    (allowed : Steered state operation) (taken : state.step operation = some next) :
    Steady next.runtime.control next.tasks := by
  obtain ⟨shared, few⟩ := allowed
  have exclusive := step_exclusive steady.exclusive shared taken
  rw [taken] at few
  have few : ∀ task ∈ next.tasks, task.reloads < 2 ^ 64 := by simpa using few
  cases operation with
  | ingest record plan =>
    obtain ⟨control, tasks⟩ := step_ingest_steers taken
    rw [control, tasks]
    exact steady
  | reload config build => exact reload_steady steady few exclusive taken
  | pause =>
    cases taken
    exact steady
  | resume =>
    cases taken
    exact steady
  | prepare maxItems force clock plan => exact prepare_steady steady exclusive taken
  | deliver index respond =>
    obtain ⟨task, outcome, found, -, -, rfl⟩ := step_deliver taken
    obtain ⟨rfl, single⟩ := steady.exclusive.only found
    have outgoing := steady.busy task single
    have counted := steady.counted
    refine ⟨exclusive, ?_, ?_, ?_⟩
    · intro none
      simp [single] at none
    · intro other one
      simp only [single, List.set_cons_zero, List.cons.injEq, and_true] at one
      subst one
      exact ⟨outgoing.few, outgoing.generation, outgoing.config, outgoing.taken, outgoing.installed⟩
    · simp only [List.length_set]
      exact counted
  | complete index plan => exact complete_steady steady exclusive taken
  | flush maxItems clock respond plan => cases shared
  | restart config options build => cases shared

end AgentState

end TelemetryFabric.Agent
