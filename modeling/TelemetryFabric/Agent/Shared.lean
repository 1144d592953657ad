import TelemetryFabric.Agent.Methods
import TelemetryFabric.Library.Machine

/-!
One agent runtime behind its lock. A flush task takes the lock twice, to prepare and to
complete, and exports in between; ingests, reloads, pauses and other flush tasks come in
any order. The state keeps the flushes that have been prepared and not completed, and the
history of what was ingested, exported and committed.
-/

namespace TelemetryFabric.Agent
open Library TelemetryFabric.Core Buffer Processors

variable {E : Type}

/-- A flush that has been prepared. `first` is the position of its first record among the
ingested ones, `decisions` what the processors made of each record, `outcome` the result of
its `export_records` call once that has returned, and `reloads` counts the successful
reloads since it was prepared. -/
structure Task (E : Type) where
  prepared : PreparedFlush E
  first : Nat
  decisions : List (Option TelemetryRecord)
  outcome : Option (Except DiskQueueError FlushReport)
  reloads : Nat

/-- An `export_records` call that has returned, with the batch it was made for. -/
structure Call where
  first : Nat
  payloads : List Bytes
  decisions : List (Option TelemetryRecord)
  records : List TelemetryRecord
  outcome : Except DiskQueueError FlushReport

def Task.call (task : Task E) (outcome : Except DiskQueueError FlushReport) : Call :=
  ⟨task.first, task.prepared.batch.payloads, task.decisions, task.prepared.records, outcome⟩

/-- `ingested` lists the records whose `ingest` returned `Ok`, `committed` counts the
records of committed batches, `calls` lists the exports of the flush tasks in the order
they returned, and `commits` those whose batch has been committed. -/
structure AgentState (E : Type) where
  runtime : AgentRuntime E
  tasks : List (Task E)
  ingested : List TelemetryRecord
  committed : Nat
  calls : List Call
  commits : List Call

inductive AgentOperation (E : Type) where
  | ingest (record : TelemetryRecord) (plan : List (Option Fault))
  | reload (config : PipelineConfig) (build : ExporterConfig → Except ExporterError E)
  | pause
  | resume
  /-- A flush task takes the lock; `force` for the one that runs at shutdown. -/
  | prepare (maxItems : Nat) (force : Bool) (clock : Nat → Nat → Nat) (plan : List (Option Fault))
  /-- The export of a prepared flush returns. -/
  | deliver (task : Nat) (respond : Responses)
  /-- A flush task whose export has returned takes the lock again. -/
  | complete (task : Nat) (plan : List (Option Fault))
  /-- A flush under one lock from beginning to end. -/
  | flush (maxItems : Nat) (clock : Nat → Nat → Nat) (respond : Responses) (plan : List (Option Fault))
  /-- The process ends and another one opens the directory. -/
  | restart (config : PipelineConfig) (options : DiskQueueOptions)
      (build : ExporterConfig → Except ExporterError E)

/-- The records of a batch. -/
def decodeAll (payloads : List Bytes) : List TelemetryRecord :=
  payloads.filterMap fun payload => (TelemetryRecord.decode payload).toOption

namespace AgentState

def start (runtime : AgentRuntime E) : AgentState E := ⟨runtime, [], [], 0, [], []⟩

/-- One operation. There is no next state when the process dies during it, or when the task
it names is not at that point. -/
def step (state : AgentState E) : AgentOperation E → Option (AgentState E)
  | .ingest record plan =>
      match Agent.ingest record ⟨state.runtime, plan⟩ with
      | .ok _ later => some { state with
          runtime := later.runtime
          ingested := state.ingested ++ [record] }
      | .error (.raised _) later => some { state with runtime := later.runtime }
      | .error _ _ => none
  | .reload config build =>
      match reloadConfig config build ⟨state.runtime, []⟩ with
      | .ok _ later => some { state with
          runtime := later.runtime
          tasks := state.tasks.map fun task => { task with reloads := task.reloads + 1 } }
      | .error (.raised _) later => some { state with runtime := later.runtime }
      | .error _ _ => none
  | .pause => some { state with runtime := { state.runtime with exportsPaused := true } }
  | .resume => some { state with runtime := { state.runtime with exportsPaused := false } }
  | .prepare maxItems force clock plan =>
      match prepareSharedFlush maxItems force clock ⟨state.runtime, plan⟩ with
      | .ok (.prepared flush) later => some { state with
          runtime := later.runtime
          tasks := state.tasks ++ [{
            prepared := flush
            first := state.committed
            decisions := (state.runtime.processors.pass clock (decodeAll flush.batch.payloads)).1
            outcome := none
            reloads := 0 }] }
      | .ok _ later => some { state with runtime := later.runtime }
      | .error (.raised _) later => some { state with runtime := later.runtime }
      | .error _ _ => none
  | .deliver index respond =>
      match state.tasks[index]? with
      | some task =>
          match task.outcome with
          | none =>
              let outcome := exportRecords task.prepared.config task.prepared.exporters respond
                task.prepared.records
              some { state with
                tasks := state.tasks.set index { task with outcome := some outcome }
                calls := state.calls ++ [task.call outcome] }
          | some _ => none
      | none => none
  | .complete index plan =>
      match state.tasks[index]? with
      | some task =>
          match task.outcome with
          | none => none
          | some outcome =>
              match completeFlush task.prepared outcome ⟨state.runtime, plan⟩ with
              | .ok _ later => some { state with
                  runtime := later.runtime
                  tasks := state.tasks.eraseIdx index
                  committed := state.committed + task.prepared.batch.payloads.length
                  commits := state.commits ++ [task.call outcome] }
              | .error (.raised _) later => some { state with
                  runtime := later.runtime
                  tasks := state.tasks.eraseIdx index }
              | .error _ _ => none
      | none => none
  | .flush maxItems clock respond plan =>
      match Agent.flush maxItems clock respond ⟨state.runtime, plan⟩ with
      | .ok report later => some { state with
          runtime := later.runtime
          committed := state.committed + report.drainedRecords }
      | .error (.raised _) later => some { state with runtime := later.runtime }
      | .error _ _ => none
  | .restart config options build =>
      match AgentRuntime.openDir config state.runtime.queue.dir options build with
      | .ok runtime => some { state with runtime := runtime, tasks := [] }
      | .error _ => none

end AgentState

/-! ### Properties of the runtime along a run -/

/-- The method behind an operation keeps a property of the runtime. -/
def AgentOperation.Preserves (property : AgentRuntime E → Prop) : AgentOperation E → Prop
  | .ingest record _ => Agent.Preserves property (Agent.ingest record)
  | .reload config build => Agent.Preserves property (reloadConfig config build)
  | .pause => Agent.Preserves property pauseExports
  | .resume => Agent.Preserves property resumeExports
  | .prepare maxItems force clock _ => Agent.Preserves property (prepareSharedFlush maxItems force clock)
  | .deliver _ _ => True
  | .complete _ _ => ∀ flush result, Agent.Preserves property (completeFlush flush result)
  | .flush maxItems clock respond _ => Agent.Preserves property (Agent.flush maxItems clock respond)
  | .restart config options build => ∀ dir runtime,
      AgentRuntime.openDir config dir options build = .ok runtime → property runtime

/-- One step, whatever fails during it. -/
theorem AgentState.step_preserves {property : AgentRuntime E → Prop} {state next : AgentState E}
    {operation : AgentOperation E} (keeps : operation.Preserves property) (holds : property state.runtime)
    (taken : state.step operation = some next) : property next.runtime := by
  cases operation with
  | ingest record plan =>
    simp only [step] at taken
    cases ran : Agent.ingest record ⟨state.runtime, plan⟩ with
    | ok value later =>
      rw [ran] at taken
      cases taken
      exact keeps.of_ok holds ran
    | error halt later =>
      rw [ran] at taken
      cases halt <;> cases taken
      exact keeps.of_error holds ran
  | reload config build =>
    simp only [step] at taken
    cases ran : reloadConfig config build ⟨state.runtime, []⟩ with
    | ok value later =>
      rw [ran] at taken
      cases taken
      exact keeps.of_ok holds ran
    | error halt later =>
      rw [ran] at taken
      cases halt <;> cases taken
      exact keeps.of_error holds ran
  | pause =>
    cases taken
    exact keeps ⟨state.runtime, []⟩ holds
  | resume =>
    cases taken
    exact keeps ⟨state.runtime, []⟩ holds
  | prepare maxItems force clock plan =>
    simp only [step] at taken
    cases ran : prepareSharedFlush maxItems force clock ⟨state.runtime, plan⟩ with
    | ok turn later =>
      have kept := keeps.of_ok holds ran
      rw [ran] at taken
      cases turn <;> cases taken <;> exact kept
    | error halt later =>
      rw [ran] at taken
      cases halt <;> cases taken
      exact keeps.of_error holds ran
  | deliver index respond =>
    simp only [step] at taken
    split at taken
    · split at taken <;> cases taken
      exact holds
    · cases taken
  | complete index plan =>
    simp only [step] at taken
    split at taken
    · next task found =>
      split at taken
      · cases taken
      · next outcome returned =>
        cases ran : completeFlush task.prepared outcome ⟨state.runtime, plan⟩ with
        | ok report later =>
          rw [ran] at taken
          cases taken
          exact (keeps task.prepared outcome).of_ok holds ran
        | error halt later =>
          rw [ran] at taken
          cases halt <;> cases taken
          exact (keeps task.prepared outcome).of_error holds ran
    · cases taken
  | flush maxItems clock respond plan =>
    simp only [step] at taken
    cases ran : Agent.flush maxItems clock respond ⟨state.runtime, plan⟩ with
    | ok report later =>
      rw [ran] at taken
      cases taken
      exact keeps.of_ok holds ran
    | error halt later =>
      rw [ran] at taken
      cases halt <;> cases taken
      exact keeps.of_error holds ran
  | restart config options build =>
    simp only [step] at taken
    cases opened : AgentRuntime.openDir config state.runtime.queue.dir options build with
    | error error =>
      rw [opened] at taken
      cases taken
    | ok runtime =>
      rw [opened] at taken
      cases taken
      exact keeps state.runtime.queue.dir runtime opened

/-! ### The exporter map -/

theorem mem_buildExporters {build : ExporterConfig → Except ExporterError E} {configs : List ExporterConfig}
    {exporters built : ExporterMap E} (done : buildExporters build configs exporters = .ok built)
    (name : String) :
    name ∈ built.keys ↔ name ∈ exporters.keys ∨ name ∈ configs.map ExporterConfig.name := by
  induction configs generalizing exporters with
  | nil =>
    cases done
    simp
  | cons config rest ih =>
    rw [buildExporters] at done
    cases made : build config with
    | error error =>
      rw [made] at done
      cases done
    | ok exporter =>
      rw [made] at done
      rw [ih done, OrderedMap.mem_keys_insert, List.map_cons, List.mem_cons]
      tauto

/-- The exporters are those of the configuration. -/
def Configured (config : PipelineConfig) (exporters : ExporterMap E) : Prop :=
  ∀ name, name ∈ exporters.keys ↔ name ∈ config.exporterNames

theorem configured_of_build {build : ExporterConfig → Except ExporterError E} {config : PipelineConfig}
    {exporters : ExporterMap E} (built : buildExporters build config.exporters .empty = .ok exporters) :
    Configured config exporters := by
  intro name
  rw [mem_buildExporters built name]
  exact or_iff_right (by simp [OrderedMap.keys, OrderedMap.empty])

/-- Everything a successful `open` has done. -/
theorem openDir_eq_ok {config : PipelineConfig} {dir : Directory} {options : DiskQueueOptions}
    {build : ExporterConfig → Except ExporterError E} {runtime : AgentRuntime E}
    (opened : AgentRuntime.openDir config dir options build = .ok runtime) :
    config.validate = .ok () ∧ ∃ exporters, buildExporters build config.exporters .empty = .ok exporters ∧
      runtime = ⟨config, .openDir dir options, .fromConfig config, exporters, .default, false, 0, false⟩ := by
  unfold AgentRuntime.openDir at opened
  cases checked : config.validate with
  | error error => simp [checked] at opened
  | ok done =>
    rw [checked] at opened
    cases built : buildExporters build config.exporters .empty with
    | error error => simp [built] at opened
    | ok exporters =>
      simp only [built, Except.ok.injEq] at opened
      exact ⟨rfl, exporters, rfl, opened.symm⟩

/-- The default configuration on an empty directory, with nothing to know of its exporter. -/
def defaultRuntime : AgentRuntime Unit where
  config := .default
  queue := .openDir (.fresh "queue") ⟨1000, false⟩
  processors := .fromConfig .default
  exporters := OrderedMap.empty.insert "stdout" ()
  metrics := .default
  exportsPaused := false
  configGeneration := 0
  flushInProgress := false

theorem defaultRuntime_opened :
    AgentRuntime.openDir .default (.fresh "queue") ⟨1000, false⟩ (fun _ => .ok ()) = .ok defaultRuntime := by
  unfold AgentRuntime.openDir
  rw [default_validate]
  rfl

end TelemetryFabric.Agent
