import TelemetryFabric.Agent.Drained
import TelemetryFabric.Agent.Receivers
import TelemetryFabric.Buffer.Covered
import TelemetryFabric.ControlPlane.PipelineStore

/-!
What the control plane says of an agent. With a heartbeat an agent reports the bytes that its
queue counts, and its status warns of a queue that is not empty while that number is above zero.
-/

namespace TelemetryFabric.ControlPlane
open Library Buffer Agent

/-! ### Heartbeats -/

structure RuntimeHealth where
  queuedBytes : Nat
  cursorSegmentId : Nat
  cursorOffset : Nat
  exportsPaused : Bool

def health {E : Type} (runtime : AgentRuntime E) : Except DiskQueueError RuntimeHealth :=
  .ok ⟨runtime.queue.queuedBytes, runtime.queue.cursor.segmentId, runtime.queue.cursor.offset, runtime.exportsPaused⟩

structure HeartbeatStats where
  configVersion : UInt64
  queueDepthBytes : Nat
  ingestBytesPerSecond : Nat

/-- What the control worker sends of the runtime. -/
def heartbeatStats {E : Type} (runtime : AgentRuntime E) (appliedConfigVersion : UInt64) : HeartbeatStats :=
  ⟨appliedConfigVersion, (((health runtime).toOption.map RuntimeHealth.queuedBytes).getD 0), 0⟩

def HeartbeatStats.attrs (stats : HeartbeatStats) (agentId tenantId : String) : HeartbeatAttrs :=
  ⟨agentId, some tenantId, some stats.configVersion.toNat, some stats.queueDepthBytes, some stats.ingestBytesPerSecond⟩

/-- `ControlService.heartbeat` as far as the registry goes. -/
def serviceHeartbeat (attrs : HeartbeatAttrs) (now : Int) (agents : Agents) : Except RegistryError AgentRecord × Agents :=
  if isBlank attrs.agentId then (.error (.empty "agent_id"), agents)
  else if isBlank (attrs.tenantId.getD "") then (.error (.empty "tenant_id"), agents)
  else heartbeat attrs now agents

/-! ### The status -/

structure AgentStatusResponse where
  agentId : String
  healthy : Bool
  configVersion : Int
  warnings : List String
  deriving DecidableEq

def latestConfigVersion (tenantId : String) (pipelines : Pipelines) : Except ServiceError Nat :=
  match getPipeline tenantId "default" pipelines with
  | .ok pipeline => .ok pipeline.version
  | .error .notFound => .ok 0
  | .error error => .error (.store error)

def maybeWarn (warnings : List String) (condition : Bool) (warning : String) : List String :=
  if condition then warning :: warnings else warnings

def reportStatus (agentId tenantId : String) (agents : Agents) (pipelines : Pipelines) :
    Except ServiceError AgentStatusResponse :=
  if isBlank agentId then .error (.registry (.empty "agent_id"))
  else if isBlank tenantId then .error (.registry (.empty "tenant_id"))
  else
    match getAgent agentId agents with
    | .error error => .error (.registry error)
    | .ok agent =>
        match requireSameTenant agent (some tenantId) with
        | .error error => .error (.registry error)
        | .ok () =>
            match latestConfigVersion agent.tenantId pipelines with
            | .error error => .error error
            | .ok latestVersion =>
                let warnings := maybeWarn (maybeWarn [] (agent.configVersion < latestVersion) "config_outdated")
                  (agent.queueDepthBytes > 0) "queue_not_empty"
                .ok ⟨agent.agentId, warnings.isEmpty, agent.configVersion, warnings.reverse⟩

/-! ### An agent and its control plane -/

structure Fleet (E : Type) where
  agent : AgentState E
  agents : Agents
  store : StoreState

inductive FleetEvent (E : Type) where
  | agent (operation : AgentOperation E)
  /-- The agent has died in the middle of anything, and another one opens what there is by then. -/
  | reopen (dir : Directory) (config : Core.PipelineConfig) (options : DiskQueueOptions)
      (build : Core.ExporterConfig → Except ExporterError E)
  | heartbeat (appliedConfigVersion : UInt64) (now : Int)
  /-- Of any agent; a heartbeat of this one may be old. -/
  | otherHeartbeat (attrs : HeartbeatAttrs) (now : Int)
  | register (attrs : RegisterAttrs) (now : Int)
  | store (event : StoreEvent)

namespace Fleet

variable {E : Type}

def start (runtime : AgentRuntime E) : Fleet E := ⟨.start runtime, .empty, .initial⟩

/-- What the next heartbeat of the agent says. -/
def attrs (agentId tenantId : String) (fleet : Fleet E) (appliedConfigVersion : UInt64) : HeartbeatAttrs :=
  (heartbeatStats fleet.agent.runtime appliedConfigVersion).attrs agentId tenantId

def step (agentId tenantId : String) (fleet : Fleet E) : FleetEvent E → Option (Fleet E)
  | .agent operation => (fleet.agent.step operation).map fun agent => { fleet with agent := agent }
  | .reopen dir config options build =>
      match AgentRuntime.openDir config dir options build with
      | .ok runtime => some { fleet with agent := { fleet.agent with runtime := runtime, tasks := [] } }
      | .error _ => none
  | .heartbeat appliedConfigVersion now => some { fleet with
      agents := (serviceHeartbeat (fleet.attrs agentId tenantId appliedConfigVersion) now fleet.agents).2 }
  | .otherHeartbeat attrs now => some { fleet with agents := (serviceHeartbeat attrs now fleet.agents).2 }
  | .register attrs now => some { fleet with agents := (ControlPlane.register attrs now fleet.agents).2 }
  | .store event => (fleet.store.step event).map fun store => { fleet with store := store }

/-- No file-system error, and the agent does not die in the middle of something. -/
def Undisturbed (fleet : Fleet E) : FleetEvent E → Prop
  | .agent operation => operation.Undisturbed fleet.agent
  | .reopen _ _ _ _ => False
  | _ => True

instance (fleet : Fleet E) (event : FleetEvent E) : Decidable (fleet.Undisturbed event) :=
  match event with
  | .agent operation => inferInstanceAs (Decidable (operation.Undisturbed fleet.agent))
  | .reopen _ _ _ _ => inferInstanceAs (Decidable False)
  | .heartbeat _ _ => inferInstanceAs (Decidable True)
  | .otherHeartbeat _ _ => inferInstanceAs (Decidable True)
  | .register _ _ => inferInstanceAs (Decidable True)
  | .store _ => inferInstanceAs (Decidable True)

/-- The agent is reported as drained: the next heartbeat carries zero, and behind it the status of
the agent is healthy and without a warning, if its configuration is the latest. -/
def ReportedDrained (agentId tenantId : String) (fleet : Fleet E) : Prop :=
  ∀ appliedConfigVersion, (fleet.attrs agentId tenantId appliedConfigVersion).queueDepthBytes = some 0 ∧
    ∀ now agent latest, isBlank agentId = false → isBlank tenantId = false →
      fleet.agents.find? agentId = some agent → agent.tenantId = tenantId →
      latestConfigVersion tenantId fleet.store.pipelines = .ok latest → latest ≤ appliedConfigVersion.toNat →
        reportStatus agentId tenantId
          (serviceHeartbeat (fleet.attrs agentId tenantId appliedConfigVersion) now fleet.agents).2
          fleet.store.pipelines = .ok ⟨agent.agentId, true, appliedConfigVersion.toNat, []⟩

end Fleet

/-! ### The status behind a heartbeat -/

section Status

variable {agentId tenantId : String} {agents : Agents} {pipelines : Pipelines} {agent : AgentRecord}

theorem serviceHeartbeat_agents {attrs : HeartbeatAttrs} (now : Int) (named : isBlank attrs.agentId = false)
    (tenant : isBlank tenantId = false) (given : attrs.tenantId = some tenantId)
    (registered : agents.find? attrs.agentId = some agent) (own : agent.tenantId = tenantId) :
    (serviceHeartbeat attrs now agents).2 = agents.insert attrs.agentId (attrs.refresh now agent) := by
  have found := getAgent_eq_ok.mpr registered
  have same := requireSameTenant_eq_ok.mpr own
  unfold serviceHeartbeat heartbeat
  rw [named, given, Option.getD_some, tenant, found]
  simp only [Bool.false_eq_true, if_false, same]

/-- An agent on the latest configuration is warned of its queue and nothing else. -/
theorem reportStatus_current (named : isBlank agentId = false) (tenant : isBlank tenantId = false)
    (registered : agents.find? agentId = some agent) (own : agent.tenantId = tenantId) {latest : Nat}
    (newest : latestConfigVersion tenantId pipelines = .ok latest) (current : (latest : Int) ≤ agent.configVersion) :
    reportStatus agentId tenantId agents pipelines = .ok ⟨agent.agentId, decide (agent.queueDepthBytes ≤ 0),
      agent.configVersion, if agent.queueDepthBytes ≤ 0 then [] else ["queue_not_empty"]⟩ := by
  have found := getAgent_eq_ok.mpr registered
  have same := requireSameTenant_eq_ok.mpr own
  have fresh : decide (agent.configVersion < latest) = false := decide_eq_false (not_lt.mpr current)
  unfold reportStatus
  rw [named, tenant, found]
  simp only [Bool.false_eq_true, if_false, same, own, newest, fresh, maybeWarn]
  by_cases empty : agent.queueDepthBytes ≤ 0
  · simp [empty]
  · simp [empty]

end Status

namespace Fleet

variable {E : Type} {agentId tenantId : String} {fleet next : Fleet E}

theorem reportedDrained_iff :
    fleet.ReportedDrained agentId tenantId ↔ fleet.agent.runtime.queue.queuedBytes = 0 := by
  constructor
  · intro reported
    have zero := (reported 0).1
    exact Int.ofNat.inj (Option.some.inj zero)
  · intro empty version
    have depth : (fleet.attrs agentId tenantId version).queueDepthBytes = some 0 := by
      change some ((fleet.agent.runtime.queue.queuedBytes : Nat) : Int) = some 0
      rw [empty]
      rfl
    apply And.intro depth
    intro now agent latest named tenant registered own newest current
    have refreshed : ((fleet.attrs agentId tenantId version).refresh now agent).queueDepthBytes = 0 := by
      unfold HeartbeatAttrs.refresh
      rw [depth]
      rfl
    have known := OrderedMap.find?_insert_self fleet.agents agentId
      ((fleet.attrs agentId tenantId version).refresh now agent)
    have status := reportStatus_current named tenant known own newest (Int.ofNat_le.mpr current)
    rw [serviceHeartbeat_agents now named tenant rfl registered own]
    apply status.trans
    rw [refreshed]
    rfl

/-! ### Runs -/

/-- Whatever fails, the agent counts no more than there is in its files. -/
theorem covered_of_reaches {config : Core.PipelineConfig} {path : String} {options : DiskQueueOptions}
    {build : Core.ExporterConfig → Except ExporterError E} {runtime : AgentRuntime E}
    (opened : AgentRuntime.openDir config (.fresh path) options build = .ok runtime)
    (reached : Reaches (step agentId tenantId) (fun _ _ => True) (start runtime) fleet) :
    fleet.agent.runtime.queue.Covered := by
  have invariant : QueueInvariant DiskQueue.Covered :=
    ⟨enqueue_covers, readBatch_retains reads_cover, commitBatch_retains commits_cover, openDir_covered⟩
  apply reached.invariant (P := fun fleet => fleet.agent.runtime.queue.Covered)
  · obtain ⟨-, exporters, -, rfl⟩ := openDir_eq_ok opened
    exact openDir_covered _ options
  · intro fleet event next covered _ taken
    cases event with
    | agent operation =>
      obtain ⟨agent, done, rfl⟩ := Option.map_eq_some_iff.mp taken
      exact AgentState.step_preserves (invariant.operation operation) covered done
    | reopen dir config options build =>
      simp only [step] at taken
      cases again : AgentRuntime.openDir config dir options build with
      | error error =>
        rw [again] at taken
        cases taken
      | ok runtime =>
        rw [again] at taken
        cases taken
        obtain ⟨-, exporters, -, rfl⟩ := openDir_eq_ok again
        exact openDir_covered dir options
    | heartbeat version now =>
      cases taken
      exact covered
    | otherHeartbeat attrs now =>
      cases taken
      exact covered
    | register attrs now =>
      cases taken
      exact covered
    | store event =>
      obtain ⟨store, -, rfl⟩ := Option.map_eq_some_iff.mp taken
      exact covered

/-- The agent goes its own way. -/
theorem agent_reaches {runtime : AgentRuntime E}
    (reached : Reaches (step agentId tenantId) Undisturbed (start runtime) fleet) :
    Reaches AgentState.step (fun state operation => operation.Undisturbed state) (.start runtime) fleet.agent := by
  apply reached.invariant
    (P := fun fleet => Reaches AgentState.step (fun state operation => operation.Undisturbed state)
      (.start runtime) fleet.agent)
  · exact .here
  · intro fleet event next before allowed taken
    cases event with
    | agent operation =>
      obtain ⟨agent, done, rfl⟩ := Option.map_eq_some_iff.mp taken
      exact before.after allowed done
    | reopen dir config options build => exact absurd allowed id
    | heartbeat version now =>
      cases taken
      exact before
    | otherHeartbeat attrs now =>
      cases taken
      exact before
    | register attrs now =>
      cases taken
      exact before
    | store event =>
      obtain ⟨store, -, rfl⟩ := Option.map_eq_some_iff.mp taken
      exact before

end Fleet

/-- In every run of an agent that starts with an empty directory. Whatever fails, the agent is
reported as drained if there is nothing in its segment files. If nothing fails and all records are
committed, that is only so if there never was one. -/
theorem drained_reported_iff {E : Type} {config : Core.PipelineConfig} {path : String} {options : DiskQueueOptions}
    {build : Core.ExporterConfig → Except ExporterError E} {runtime : AgentRuntime E}
    (opened : AgentRuntime.openDir config (.fresh path) options build = .ok runtime) (agentId tenantId : String) :
    (∀ fleet, Reaches (Fleet.step agentId tenantId) (fun _ _ => True) (.start runtime) fleet →
      fleet.agent.runtime.queue.dir.segmentBytes = 0 → fleet.ReportedDrained agentId tenantId) ∧
    ∀ fleet, Reaches (Fleet.step agentId tenantId) Fleet.Undisturbed (.start runtime) fleet →
      fleet.agent.runtime.queue.readable = [] →
        (fleet.ReportedDrained agentId tenantId ↔ fleet.agent.ingested = []) := by
  constructor
  · intro fleet reached empty
    have covered := Fleet.covered_of_reaches opened reached
    exact Fleet.reportedDrained_iff.mpr (Nat.le_zero.mp (empty ▸ covered.bytes))
  · intro fleet reached drained
    obtain ⟨tended, unused⟩ := AgentState.onward_of_reaches opened (Fleet.agent_reaches reached)
    rw [Fleet.reportedDrained_iff, tended.tidy.queuedBytes_of_drained drained]
    exact unused.symm

/-- A record is ingested, exported and committed by a registered agent. -/
def drainedFleet : List (FleetEvent Unit) :=
  [.register ⟨"agent-1", "acme", none, none, none, none, none, none⟩ 1, .heartbeat 0 2,
    .agent (.ingest (Processors.leastRecord .log) []),
    .agent (.flush 10 (fun _ _ => 0) (fun _ _ _ => .delivered ⟨1, 1⟩) []), .heartbeat 0 3]

/-- The steps of such a run, as long as nothing fails. -/
def undisturbedFleet (fleet : Fleet Unit) (event : FleetEvent Unit) : Option (Fleet Unit) :=
  if fleet.Undisturbed event then fleet.step "agent-1" "acme" event else none

theorem drained_reported_default :
    (Fleet.start defaultRuntime).ReportedDrained "agent-1" "acme" ∧
    ∃ fleet, run undisturbedFleet (.start defaultRuntime) drainedFleet = some fleet ∧
      fleet.agent.runtime.queue.readable = [] ∧ ¬fleet.ReportedDrained "agent-1" "acme" := by
  have reported := drained_reported_iff defaultRuntime_opened "agent-1" "acme"
  apply And.intro (reported.1 _ .here (by decide +kernel))
  have ran : (run undisturbedFleet (.start defaultRuntime) drainedFleet).map (fun fleet =>
      (fleet.agent.runtime.queue.readable, fleet.agent.ingested.length)) = some ([], 1) := by
    decide +kernel
  obtain ⟨fleet, reached, facts⟩ := Option.map_eq_some_iff.mp ran
  obtain ⟨nothing, ingested⟩ := Prod.mk.inj facts
  apply Exists.intro fleet
  apply And.intro reached
  apply And.intro nothing
  rw [reported.2 fleet (.of_checked_run reached) nothing]
  exact List.ne_nil_of_length_pos (Nat.lt_of_lt_of_eq Nat.zero_lt_one ingested.symm)

/-- The record is committed and the configuration is the latest, and the queue is said not to be empty. -/
theorem drained_agent_not_empty :
    ∃ fleet, run undisturbedFleet (.start defaultRuntime) drainedFleet = some fleet ∧
      fleet.agent.runtime.queue.readable = [] ∧ fleet.agent.committed = 1 ∧
      (latestConfigVersion "acme" fleet.store.pipelines).toOption = some 0 ∧
      (fleet.attrs "agent-1" "acme" 0).queueDepthBytes = some 38 ∧
      (reportStatus "agent-1" "acme" (serviceHeartbeat (fleet.attrs "agent-1" "acme" 0) 4 fleet.agents).2
        fleet.store.pipelines).toOption = some ⟨"agent-1", false, 0, ["queue_not_empty"]⟩ := by
  have ran : (run undisturbedFleet (.start defaultRuntime) drainedFleet).any (fun fleet =>
      decide (fleet.agent.runtime.queue.readable = [] ∧ fleet.agent.committed = 1 ∧
        (latestConfigVersion "acme" fleet.store.pipelines).toOption = some 0 ∧
        (fleet.attrs "agent-1" "acme" 0).queueDepthBytes = some 38 ∧
        (reportStatus "agent-1" "acme" (serviceHeartbeat (fleet.attrs "agent-1" "acme" 0) 4 fleet.agents).2
          fleet.store.pipelines).toOption = some ⟨"agent-1", false, 0, ["queue_not_empty"]⟩)) = true := by
    decide +kernel
  obtain ⟨fleet, reached, facts⟩ := Option.any_eq_true _ _ |>.mp ran
  exact ⟨fleet, reached, of_decide_eq_true facts⟩

end TelemetryFabric.ControlPlane
