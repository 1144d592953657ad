import TelemetryFabric.ControlPlane.AuditLog
import TelemetryFabric.ControlPlane.CommandStores
import TelemetryFabric.ControlPlane.PipelineStore
import TelemetryFabric.Library.Collect

/-!
The snapshot a sync writes to PostgreSQL. It is collected with one call to each of four processes,
and requests go on between the calls. Its rows are inserted in one transaction, in which a row
that refers to another table comes after the rows of that table.
-/

namespace TelemetryFabric.ControlPlane
open Library

/-! ### Rows -/

structure ControlStateSnapshot where
  agents : List AgentRecord
  pipelineVersions : List PipelineConfig
  agentCommands : List ControlCommand
  auditEvents : List AuditEvent

structure AgentRow where
  agentId : String
  tenantId : String
  hostname : String
  version : String
  configVersion : Int
  queueDepthBytes : Int
  ingestBytesPerSecond : Int
  labels : Entries
  lastSeenAt : Int

structure CommandRow where
  commandId : String
  agentId : String
  tenantId : String
  kind : String
  reason : String
  status : String
  insertedAt : Int
  deliveredAt : Option Int
  acknowledgedAt : Option Int
  lastError : Option String

/-- A row of `tenants` is the id alone. -/
structure SnapshotRows where
  tenants : List String
  agents : List AgentRow
  pipelineVersions : List PipelineVersionRow
  agentCommands : List CommandRow
  auditEvents : List AuditRow

def tenantIds (snapshot : ControlStateSnapshot) : List String :=
  (snapshot.agents.map AgentRecord.tenantId ++ snapshot.pipelineVersions.map PipelineConfig.tenantId ++
    snapshot.agentCommands.map ControlCommand.tenantId).eraseDups.mergeSort fun first second => decide (first ≤ second)

def commandRow (command : ControlCommand) : CommandRow where
  commandId := command.commandId
  agentId := command.agentId
  tenantId := command.tenantId
  kind := command.kind.text
  reason := command.reason
  status := command.status.text
  insertedAt := command.insertedAt
  deliveredAt := command.deliveredAt
  acknowledgedAt := command.acknowledgedAt
  lastError := command.lastError

section Rows

variable (enumerate : Entries → Entries) (sha256 : String → String)

def agentRow (agent : AgentRecord) : AgentRow where
  agentId := agent.agentId
  tenantId := agent.tenantId
  hostname := agent.hostname
  version := agent.version
  configVersion := agent.configVersion
  queueDepthBytes := agent.queueDepthBytes
  ingestBytesPerSecond := agent.ingestBytesPerSecond
  labels := atomizeJsonMap enumerate
    (agent.labels.map fun label => (.string label.1, .term (.scalar (.string label.2))))
  lastSeenAt := agent.lastSeenAt

/-- There are none where a pipeline cannot be written for agents. -/
def snapshotRows (snapshot : ControlStateSnapshot) : Option SnapshotRows := do
  let pipelineVersions ← snapshot.pipelineVersions.mapM fun pipeline =>
    pipelineVersionRow enumerate sha256 pipeline "unknown"
  return {
    tenants := tenantIds snapshot
    agents := snapshot.agents.map (agentRow enumerate)
    pipelineVersions := pipelineVersions
    agentCommands := snapshot.agentCommands.map commandRow
    auditEvents := snapshot.auditEvents.map (auditEventRow enumerate) }

end Rows

/-! ### The transaction -/

structure Database where
  tenants : List String
  agents : List AgentRow
  pipelineVersions : List PipelineVersionRow
  agentCommands : List CommandRow
  auditEvents : List AuditRow

def Database.empty : Database := ⟨[], [], [], [], []⟩

inductive Operation where
  | tenants
  | agents
  | pipelineVersions
  | agentCommands
  | auditEvents
  deriving DecidableEq

/-- A statement that would update a row twice, and one that leaves a reference to no row. -/
inductive TransactionError where
  | cardinality (operation : Operation)
  | foreignKey (operation : Operation)
  deriving DecidableEq

def PipelineVersionRow.key (row : PipelineVersionRow) : String × String × Nat :=
  (row.tenantId, row.pipelineName, row.version)

def replaceAgent (_ new : AgentRow) : AgentRow := new

def replaceCommand (old new : CommandRow) : CommandRow :=
  { new with agentId := old.agentId, tenantId := old.tenantId }

section Statements

variable {ρ : Type} (operation : Operation)

def upserted (rows : Option (List ρ)) : Except TransactionError (List ρ) :=
  match rows with
  | some rows => .ok rows
  | none => .error (.cardinality operation)

/-- The foreign keys are checked at the end of the statement. -/
def requireReferences (valid : ρ → Bool) (rows : List ρ) : Except TransactionError (List ρ) :=
  if rows.all valid then .ok rows else .error (.foreignKey operation)

end Statements

/-- The transaction of `to_multi`. -/
def toMulti (rows : SnapshotRows) (database : Database) : Except TransactionError Database := do
  let tenants := insertAllNew id database.tenants rows.tenants
  let agents ← upserted .agents (upsertAll AgentRow.agentId replaceAgent database.agents rows.agents)
  let agents ← requireReferences .agents (fun row => row.tenantId ∈ tenants) agents
  let pipelineVersions ← requireReferences .pipelineVersions (fun row => row.tenantId ∈ tenants)
    (insertAllNew PipelineVersionRow.key database.pipelineVersions rows.pipelineVersions)
  let agentCommands ← upserted .agentCommands
    (upsertAll CommandRow.commandId replaceCommand database.agentCommands rows.agentCommands)
  let agentCommands ← requireReferences .agentCommands
    (fun row => row.agentId ∈ agents.map AgentRow.agentId && row.tenantId ∈ tenants) agentCommands
  return {
    tenants := tenants
    agents := agents
    pipelineVersions := pipelineVersions
    agentCommands := agentCommands
    auditEvents := insertAllNew AuditRow.eventId database.auditEvents rows.auditEvents }

/-- Every reference of the schema is one to another of the rows. -/
structure References (rows : SnapshotRows) : Prop where
  agents : ∀ row ∈ rows.agents, row.tenantId ∈ rows.tenants
  pipelineVersions : ∀ row ∈ rows.pipelineVersions, row.tenantId ∈ rows.tenants
  commandTenants : ∀ row ∈ rows.agentCommands, row.tenantId ∈ rows.tenants
  commandAgents : ∀ row ∈ rows.agentCommands, row.agentId ∈ rows.agents.map AgentRow.agentId

/-- The computation returns what is described, or fails on something else than a reference. -/
def Resolves {α : Type} (result : Except TransactionError α) (described : α → Prop) : Prop :=
  (∀ operation, result ≠ .error (.foreignKey operation)) ∧ ∀ value, result = .ok value → described value

theorem resolves_ok {α : Type} {value : α} {described : α → Prop} (holds : described value) :
    Resolves (.ok value) described := by
  constructor
  · intro operation failed
    cases failed
  · intro other same
    rwa [← Except.ok.inj same]

theorem Resolves.bind {α β : Type} {result : Except TransactionError α} {next : α → Except TransactionError β}
    {described : α → Prop} {last : β → Prop} (first : Resolves result described)
    (rest : ∀ value, described value → Resolves (next value) last) : Resolves (result >>= next) last := by
  cases result with
  | error error =>
    constructor
    · intro operation failed
      exact first.1 operation (congrArg Except.error (Except.error.inj failed))
    · intro value done
      cases done
  | ok value => exact rest value (first.2 value rfl)

theorem resolves_upserted {ρ κ : Type} [DecidableEq κ] {key : ρ → κ} {update : ρ → ρ → ρ} (operation : Operation)
    (rows : List ρ) : Resolves (upserted operation (upsertAll key update [] rows)) (· = rows) := by
  cases stored : upsertAll key update [] rows with
  | none =>
    constructor
    · intro other failed
      cases failed
    · intro value done
      cases done
  | some table => exact resolves_ok (upsertAll_nil_eq_some.mp stored).2

theorem resolves_requireReferences {ρ : Type} {valid : ρ → Bool} {rows : List ρ} (operation : Operation)
    (all : ∀ row ∈ rows, valid row = true) : Resolves (requireReferences operation valid rows) (· = rows) := by
  rw [requireReferences, if_pos (List.all_eq_true.mpr all)]
  exact resolves_ok rfl

/-- With these, a transaction into an empty database does not fail on a reference. -/
theorem References.resolves {rows : SnapshotRows} (references : References rows) :
    Resolves (toMulti rows .empty) fun _ => True := by
  have known : ∀ {tenant}, tenant ∈ rows.tenants → tenant ∈ insertAllNew id [] rows.tenants := by
    intro tenant member
    have taken : id tenant ∈ (insertAllNew id [] rows.tenants).map id := key_mem_insertAllNew member
    rwa [List.map_id] at taken
  apply (resolves_upserted .agents rows.agents).bind
  rintro _ rfl
  apply Resolves.bind (resolves_requireReferences .agents ?_)
  · rintro _ rfl
    apply Resolves.bind (resolves_requireReferences .pipelineVersions ?_)
    · rintro versions -
      apply (resolves_upserted .agentCommands rows.agentCommands).bind
      rintro _ rfl
      apply Resolves.bind (resolves_requireReferences .agentCommands ?_)
      · intro commands _
        exact resolves_ok trivial
      · intro row member
        rw [Bool.and_eq_true, decide_eq_true_iff, decide_eq_true_iff]
        exact ⟨references.commandAgents row member, known (references.commandTenants row member)⟩
    · intro row member
      rcases mem_or_mem_of_insertAllNew member with old | new
      · cases old
      · exact decide_eq_true (known (references.pipelineVersions row new))
  · intro row member
    exact decide_eq_true (known (references.agents row member))

/-! ### Requests beside a collection -/

/-- `Map.values`. -/
def listAgents (agents : Agents) : List AgentRecord := agents.entries.map Prod.snd

def PipelineConfig.listsBefore (first second : PipelineConfig) : Bool :=
  decide (first.tenantId < second.tenantId) || (first.tenantId == second.tenantId &&
    (decide (first.name < second.name) || (first.name == second.name && decide (first.version ≤ second.version))))

/-- The names are those with a version. -/
def listVersions (names : List (String × String)) (pipelines : Pipelines) : List PipelineConfig :=
  (names.flatMap pipelines).mergeSort PipelineConfig.listsBefore

def ControlCommand.listsBefore (first second : ControlCommand) : Bool :=
  decide (first.agentId < second.agentId) || (first.agentId == second.agentId && first.sortsBefore second)

def listAll (commands : Commands) : List ControlCommand := (stored commands).mergeSort ControlCommand.listsBefore

/-- What a call of `collect` has been told so far. -/
inductive Collecting where
  | idle
  | agents (agents : List AgentRecord)
  | versions (agents : List AgentRecord) (versions : List PipelineConfig)
  | commands (agents : List AgentRecord) (versions : List PipelineConfig) (commands : List ControlCommand)
  | collected (snapshot : ControlStateSnapshot)

/-- The agents are known, the commands are not. -/
def Collecting.isOpen : Collecting → Bool
  | .agents _ => true
  | .versions _ _ => true
  | _ => false

/-- What the call has returned. -/
def Collecting.returned : Collecting → Option ControlStateSnapshot
  | .collected snapshot => some snapshot
  | _ => none

/-- The stores, the commands whose agent has been looked up, and a call of `collect`. Kept beside
them are the agents that were registered at its first call, and the commands that were enqueued
between that and the one to the queue. -/
structure ServiceState where
  agents : Agents
  names : List (String × String)
  pipelines : Pipelines
  commands : Commands
  audits : List AuditEvent
  prepared : List ControlCommand
  collecting : Collecting
  registered : List String
  late : List ControlCommand

/-- What the processes are asked for. `enqueue_command` looks up the agent, then enqueues; the audit
events of an operation are appended by another process. -/
inductive ServiceEvent where
  | register (attrs : RegisterAttrs) (now : Int)
  | heartbeat (attrs : HeartbeatAttrs) (now : Int)
  | putPipeline (config : PipelineConfig)
  | rollbackPipeline (tenantId name : String) (target : Term)
  | getAgent (commandId agentId : String) (kind : CommandKind) (reason : String) (now : Int)
  | enqueue (command : ControlCommand)
  | drain (agentId : String) (now : Int)
  | ack (agentId commandId : String) (success : Bool) (message : Option String) (now : Int)
  | append (attrs : AuditAttrs) (id : Nat) (now : Int)
  | collect
  | restart

namespace ServiceState

def initial : ServiceState := ⟨.empty, [], fun _ => [], .empty, [], [], .idle, [], []⟩

/-- Behind a call of the pipeline store. -/
def afterStore (state : ServiceState) (name : String × String) :
    Except StoreError (PipelineConfig × Pipelines) → ServiceState
  | .ok (_, pipelines) => { state with names := insertNew id state.names name, pipelines := pipelines }
  | .error _ => state

/-- The next call of `collect`. -/
def collectNext (state : ServiceState) : ServiceState :=
  match state.collecting with
  | .agents agents =>
      { state with collecting := .versions agents (listVersions state.names state.pipelines) }
  | .versions agents versions => { state with collecting := .commands agents versions (listAll state.commands) }
  | .commands agents versions commands =>
      { state with collecting := .collected ⟨agents, versions, commands, state.audits⟩ }
  | _ =>
      { state with
        collecting := .agents (listAgents state.agents)
        registered := state.agents.keys
        late := [] }

/-- Behind a restart the stores hold what they did, as it is in their state files. -/
def step (leaseMs : Int) (state : ServiceState) : ServiceEvent → Option ServiceState
  | .register attrs now => some { state with agents := (ControlPlane.register attrs now state.agents).2 }
  | .heartbeat attrs now => some { state with agents := (ControlPlane.heartbeat attrs now state.agents).2 }
  | .putPipeline config =>
      some (state.afterStore (config.tenantId, config.name) (ControlPlane.putPipeline config state.pipelines))
  | .rollbackPipeline tenantId name target =>
      some (state.afterStore (tenantId, name) (ControlPlane.rollbackPipeline tenantId name target state.pipelines))
  | .getAgent commandId agentId kind reason now =>
      match ControlPlane.getAgent agentId state.agents with
      | .ok agent => some { state with
          prepared := newCommand commandId agent.agentId agent.tenantId kind reason now :: state.prepared }
      | .error _ => some state
  | .enqueue command =>
      if command ∈ state.prepared then
        some { state with
          commands := ControlPlane.enqueue command state.commands
          prepared := state.prepared.erase command
          late := if state.collecting.isOpen then state.late ++ [command] else state.late }
      else none
  | .drain agentId now => some { state with commands := (ControlPlane.drain agentId now leaseMs state.commands).2 }
  | .ack agentId commandId success message now =>
      some { state with commands :=
        ((ControlPlane.ack agentId commandId success message now state.commands).2).getD state.commands }
  | .append attrs id now => some { state with audits := attrs.entry id now :: state.audits }
  | .collect => some state.collectNext
  | .restart => some { state with prepared := [], collecting := .idle }

end ServiceState

/-! ### The agents of the commands -/

/-- The agents that some of the commands are for. -/
def recipients (commands : List ControlCommand) : List String := commands.map ControlCommand.agentId

/-- What is known of the commands while they are collected: they are for agents that were registered
or for those of the late commands, which are among them. -/
structure Seen (registered : List String) (late commands : List ControlCommand) : Prop where
  known : ∀ agentId ∈ recipients commands, agentId ∈ registered ∨ agentId ∈ recipients late
  listed : ∀ agentId ∈ recipients late, agentId ∈ recipients commands

namespace Seen

variable {registered : List String} {late commands after : List ControlCommand}

theorem of_perm (seen : Seen registered late commands) (same : (recipients after).Perm (recipients commands)) :
    Seen registered late after :=
  ⟨fun agentId member => seen.known agentId (same.mem_iff.mp member),
    fun agentId member => same.mem_iff.mpr (seen.listed agentId member)⟩

theorem enqueue (seen : Seen registered late commands) {command : ControlCommand}
    (same : (recipients after).Perm (command.agentId :: recipients commands)) :
    Seen registered (late ++ [command]) after := by
  have more : ∀ agentId, agentId ∈ recipients (late ++ [command]) ↔
      agentId ∈ recipients late ∨ agentId = command.agentId := by
    intro agentId
    unfold recipients
    rw [List.map_append, List.mem_append, List.map_singleton, List.mem_singleton]
  constructor
  · intro agentId member
    rw [more]
    rcases List.mem_cons.mp (same.mem_iff.mp member) with new | old
    · exact Or.inr (Or.inr new)
    · exact (seen.known agentId old).imp_right Or.inl
  · intro agentId member
    apply same.mem_iff.mpr
    rcases (more agentId).mp member with old | new
    · exact List.mem_cons_of_mem _ (seen.listed agentId old)
    · rw [new]
      exact List.mem_cons_self

/-- All commands are for registered agents exactly when the late ones are. -/
theorem registered_iff (seen : Seen registered late commands) :
    (∀ agentId ∈ recipients commands, agentId ∈ registered) ↔ ∀ agentId ∈ recipients late, agentId ∈ registered := by
  constructor
  · intro all agentId member
    exact all agentId (seen.listed agentId member)
  · intro all agentId member
    exact (seen.known agentId member).elim id (all agentId)

end Seen

/-! ### Every run -/

namespace ServiceState

variable {leaseMs : Int} {state next : ServiceState}

/-- The collected agents are those that were registered at the first call, and the commands, in the
queue or already collected, are known. -/
def Collects (state : ServiceState) : Prop :=
  match state.collecting with
  | .idle => True
  | .agents agents =>
      agents.map AgentRecord.agentId = state.registered ∧ Seen state.registered state.late (stored state.commands)
  | .versions agents _ =>
      agents.map AgentRecord.agentId = state.registered ∧ Seen state.registered state.late (stored state.commands)
  | .commands agents _ commands =>
      agents.map AgentRecord.agentId = state.registered ∧ Seen state.registered state.late commands
  | .collected snapshot => snapshot.agents.map AgentRecord.agentId = state.registered ∧
      Seen state.registered state.late snapshot.agentCommands

/-- An agent is stored under its id and stays, and commands are for such agents. -/
structure Sound (state : ServiceState) : Prop where
  keyed : ∀ entry ∈ state.agents.entries, entry.2.agentId = entry.1
  commands : ∀ agentId ∈ recipients (stored state.commands), agentId ∈ state.agents.keys
  prepared : ∀ agentId ∈ recipients state.prepared, agentId ∈ state.agents.keys
  collects : state.Collects

theorem sound_initial : initial.Sound :=
  ⟨(fun _ absent => nomatch absent), (fun _ absent => nomatch absent), (fun _ absent => nomatch absent), trivial⟩

/-- A record is stored under its id. -/
theorem Sound.insertAgent (sound : state.Sound) {agentId : String} {agent : AgentRecord}
    (named : agent.agentId = agentId) : { state with agents := state.agents.insert agentId agent }.Sound := by
  constructor
  · intro entry member
    rcases OrderedMap.mem_place member with rfl | old
    · exact named
    · exact sound.keyed entry old
  · intro other member
    exact (OrderedMap.mem_keys_insert _ _ _ _).mpr (Or.inr (sound.commands other member))
  · intro other member
    exact (OrderedMap.mem_keys_insert _ _ _ _).mpr (Or.inr (sound.prepared other member))
  · exact sound.collects

/-- The commands are marked. -/
theorem Sound.markCommands (sound : state.Sound) {commands : Commands}
    (same : (recipients (stored commands)).Perm (recipients (stored state.commands))) :
    { state with commands := commands }.Sound := by
  refine ⟨sound.keyed, ?_, sound.prepared, ?_⟩
  · intro agentId member
    exact sound.commands agentId (same.mem_iff.mp member)
  · have collects := sound.collects
    unfold Collects at collects ⊢
    cases stage : state.collecting with
    | idle => trivial
    | agents agents =>
      simp only [stage] at collects ⊢
      exact ⟨collects.1, collects.2.of_perm same⟩
    | versions agents versions =>
      simp only [stage] at collects ⊢
      exact ⟨collects.1, collects.2.of_perm same⟩
    | commands agents versions listed =>
      simp only [stage] at collects ⊢
      exact collects
    | collected snapshot =>
      simp only [stage] at collects ⊢
      exact collects

theorem Sound.enqueue (sound : state.Sound) {command : ControlCommand} (member : command ∈ state.prepared) :
    { state with
      commands := ControlPlane.enqueue command state.commands
      prepared := state.prepared.erase command
      late := if state.collecting.isOpen then state.late ++ [command] else state.late }.Sound := by
  have grown := (stored_enqueue_perm command state.commands).map ControlCommand.agentId
  refine ⟨sound.keyed, ?_, ?_, ?_⟩
  · intro agentId listed
    rcases List.mem_cons.mp (grown.mem_iff.mp listed) with new | old
    · rw [new]
      exact sound.prepared _ (List.mem_map_of_mem member)
    · exact sound.commands agentId old
  · intro agentId listed
    exact sound.prepared agentId ((List.erase_sublist.map ControlCommand.agentId).mem listed)
  · have collects := sound.collects
    unfold Collects at collects ⊢
    cases stage : state.collecting with
    | idle => trivial
    | agents agents =>
      simp only [stage, Collecting.isOpen] at collects ⊢
      exact ⟨collects.1, collects.2.enqueue grown⟩
    | versions agents versions =>
      simp only [stage, Collecting.isOpen] at collects ⊢
      exact ⟨collects.1, collects.2.enqueue grown⟩
    | commands agents versions listed =>
      simp only [stage, Collecting.isOpen] at collects ⊢
      exact collects
    | collected snapshot =>
      simp only [stage, Collecting.isOpen] at collects ⊢
      exact collects

theorem listAgents_agentId {agents : Agents} (keyed : ∀ entry ∈ agents.entries, entry.2.agentId = entry.1) :
    (listAgents agents).map AgentRecord.agentId = agents.keys := by
  unfold listAgents OrderedMap.keys
  rw [List.map_map]
  exact List.map_congr_left keyed

/-- The first call begins anew. -/
theorem Sound.collectAgents (sound : state.Sound) :
    { state with
      collecting := .agents (listAgents state.agents)
      registered := state.agents.keys
      late := [] }.Sound := by
  refine ⟨sound.keyed, sound.commands, sound.prepared, listAgents_agentId sound.keyed, ?_⟩
  constructor
  · intro agentId member
    exact Or.inl (sound.commands agentId member)
  · intro agentId absent
    cases absent

theorem Sound.collectNext (sound : state.Sound) : state.collectNext.Sound := by
  have collects := sound.collects
  unfold ServiceState.collectNext
  unfold Collects at collects
  cases stage : state.collecting with
  | idle => exact sound.collectAgents
  | agents agents =>
    rw [stage] at collects
    exact ⟨sound.keyed, sound.commands, sound.prepared, collects⟩
  | versions agents versions =>
    rw [stage] at collects
    have sorted := (List.mergeSort_perm (stored state.commands) ControlCommand.listsBefore).map ControlCommand.agentId
    exact ⟨sound.keyed, sound.commands, sound.prepared, collects.1, collects.2.of_perm sorted⟩
  | commands agents versions commands =>
    rw [stage] at collects
    exact ⟨sound.keyed, sound.commands, sound.prepared, collects⟩
  | collected snapshot => exact sound.collectAgents

/-- One event. -/
theorem Sound.step {event : ServiceEvent} (sound : state.Sound) (taken : state.step leaseMs event = some next) :
    next.Sound := by
  have stays : ∀ name result, (state.afterStore name result).Sound := by
    intro name result
    cases result with
    | ok stored => exact ⟨sound.keyed, sound.commands, sound.prepared, sound.collects⟩
    | error error => exact sound
  cases event with
  | register attrs now =>
    cases taken
    exact sound.insertAgent rfl
  | heartbeat attrs now =>
    cases taken
    cases result : heartbeat attrs now state.agents with
    | mk reply after =>
      cases reply with
      | error error =>
        obtain rfl := heartbeat_eq_error result
        exact sound
      | ok updated =>
        obtain ⟨agent, found, -, rfl, rfl⟩ := heartbeat_eq_ok result
        exact sound.insertAgent (sound.keyed _ ((state.agents.find?_eq_some_iff _ _).mp found))
  | putPipeline config =>
    cases taken
    exact stays _ _
  | rollbackPipeline tenantId name target =>
    cases taken
    exact stays _ _
  | getAgent commandId agentId kind reason now =>
    simp only [ServiceState.step] at taken
    cases result : getAgent agentId state.agents with
    | error error =>
      rw [result] at taken
      cases taken
      exact sound
    | ok agent =>
      rw [result] at taken
      cases taken
      have entry := (state.agents.find?_eq_some_iff _ _).mp (getAgent_eq_ok.mp result)
      refine ⟨sound.keyed, sound.commands, ?_, sound.collects⟩
      intro other member
      rcases List.mem_cons.mp member with new | old
      · have named : other = agentId := new.trans (sound.keyed _ entry)
        rw [named]
        exact List.mem_map_of_mem entry
      · exact sound.prepared other old
  | enqueue command =>
    simp only [ServiceState.step] at taken
    by_cases member : command ∈ state.prepared
    · rw [if_pos member] at taken
      cases taken
      exact sound.enqueue member
    · rw [if_neg member] at taken
      cases taken
  | drain agentId now =>
    cases taken
    exact sound.markCommands (map_stored_drain_perm agentId now leaseMs fun _ => rfl)
  | ack agentId commandId success message now =>
    cases taken
    cases persisted : (ack agentId commandId success message now state.commands).2 with
    | none => exact sound
    | some after => exact sound.markCommands (map_stored_ack_perm (fun _ => rfl) persisted)
  | append attrs id now =>
    cases taken
    exact ⟨sound.keyed, sound.commands, sound.prepared, sound.collects⟩
  | collect =>
    cases taken
    exact sound.collectNext
  | restart =>
    cases taken
    exact ⟨sound.keyed, sound.commands, (fun _ absent => nomatch absent), trivial⟩

theorem sound_of_reaches (reached : Reaches (ServiceState.step leaseMs) (fun _ _ => True) initial state) :
    state.Sound :=
  reached.invariant (P := Sound) sound_initial fun sound _ taken => sound.step taken

end ServiceState

/-! ### Consistency -/

section Consistency

variable {enumerate : Entries → Entries} {sha256 : String → String} {snapshot : ControlStateSnapshot}
  {rows : SnapshotRows}

theorem mem_tenantIds {tenantId : String} : tenantId ∈ tenantIds snapshot ↔
    tenantId ∈ snapshot.agents.map AgentRecord.tenantId ∨
      tenantId ∈ snapshot.pipelineVersions.map PipelineConfig.tenantId ∨
      tenantId ∈ snapshot.agentCommands.map ControlCommand.tenantId := by
  unfold tenantIds
  rw [List.mem_mergeSort, List.mem_eraseDups, List.mem_append, List.mem_append, or_assoc]

theorem pipelineVersionRow_tenantId {pipeline : PipelineConfig} {updatedBy : String} {row : PipelineVersionRow}
    (made : pipelineVersionRow enumerate sha256 pipeline updatedBy = some row) : row.tenantId = pipeline.tenantId := by
  obtain ⟨payload, -, rest⟩ := Option.bind_eq_some_iff.mp made
  cases rest
  rfl

/-- The rows of versions have the tenants of the versions. -/
theorem tenantIds_of_mapM {pipelines : List PipelineConfig} {versions : List PipelineVersionRow}
    (made : pipelines.mapM (fun pipeline => pipelineVersionRow enumerate sha256 pipeline "unknown") = some versions) :
    versions.map PipelineVersionRow.tenantId = pipelines.map PipelineConfig.tenantId := by
  have each := mapM_eq_some_iff.mp made
  clear made
  induction each with
  | nil => rfl
  | cons first rest ih => rw [List.map_cons, List.map_cons, ih, pipelineVersionRow_tenantId first]

/-- The tenants are always there, so the references are complete exactly when the agents of all
commands are. -/
theorem references_iff (derived : snapshotRows enumerate sha256 snapshot = some rows) :
    References rows ↔
      ∀ agentId ∈ recipients snapshot.agentCommands, agentId ∈ snapshot.agents.map AgentRecord.agentId := by
  obtain ⟨versions, made, rest⟩ := Option.bind_eq_some_iff.mp derived
  cases rest
  have agents : (snapshot.agents.map (agentRow enumerate)).map AgentRow.agentId =
      snapshot.agents.map AgentRecord.agentId := List.map_map
  constructor
  · intro references agentId member
    obtain ⟨command, listed, rfl⟩ := List.mem_map.mp member
    rw [← agents]
    exact references.commandAgents (commandRow command) (List.mem_map_of_mem listed)
  · intro all
    constructor
    · intro row member
      obtain ⟨agent, listed, rfl⟩ := List.mem_map.mp member
      exact mem_tenantIds.mpr (Or.inl (List.mem_map_of_mem listed))
    · intro row member
      apply mem_tenantIds.mpr
      rw [← tenantIds_of_mapM made]
      exact Or.inr (Or.inl (List.mem_map_of_mem member))
    · intro row member
      obtain ⟨command, listed, rfl⟩ := List.mem_map.mp member
      exact mem_tenantIds.mpr (Or.inr (Or.inr (List.mem_map_of_mem listed)))
    · intro row member
      obtain ⟨command, listed, rfl⟩ := List.mem_map.mp member
      show command.agentId ∈ _
      rw [agents]
      exact all _ (List.mem_map_of_mem listed)

end Consistency

/-- In every run, whatever requests are served between the calls of `collect`: the rows of the snapshot
refer to one another, and their transaction into an empty database does not fail on a reference,
exactly when the commands that were enqueued between its calls for the agents and for the commands
are for agents that were registered at the former. -/
theorem snapshot_consistent_iff (leaseMs : Int) (enumerate : Entries → Entries) (sha256 : String → String)
    {state : ServiceState} {snapshot : ControlStateSnapshot} {rows : SnapshotRows}
    (reached : Reaches (ServiceState.step leaseMs) (fun _ _ => True) .initial state)
    (collected : state.collecting.returned = some snapshot)
    (derived : snapshotRows enumerate sha256 snapshot = some rows) :
    (References rows ∧ ∀ operation, toMulti rows .empty ≠ .error (.foreignKey operation)) ↔
      ∀ command ∈ state.late, command.agentId ∈ state.registered := by
  have stage : state.collecting = .collected snapshot := by
    cases phase : state.collecting <;> rw [phase] at collected <;> cases collected
    rfl
  have collects := (ServiceState.sound_of_reaches reached).collects
  unfold ServiceState.Collects at collects
  rw [stage] at collects
  obtain ⟨agents, seen⟩ := collects
  have complete : References rows ↔ ∀ command ∈ state.late, command.agentId ∈ state.registered := by
    rw [references_iff derived, agents, seen.registered_iff]
    exact List.forall_mem_map
  rw [← complete]
  exact ⟨fun both => both.1, fun references => ⟨references, references.resolves.1⟩⟩

/-- A command for an agent is enqueued behind the first call of `collect`, and the agent is
registered behind the given number of them. -/
def snapshotRun (calls : Nat) : List ServiceEvent :=
  List.replicate calls .collect ++
    .register ⟨"agent-1", "acme", none, none, none, none, none, none⟩ 1 ::
    List.replicate (1 - calls) .collect ++
    [.getAgent "cmd-1" "agent-1" .pauseExports "" 2,
      .enqueue (newCommand "cmd-1" "agent-1" "acme" .pauseExports "" 2)] ++
    List.replicate 3 .collect

theorem snapshot_consistent_before :
    ∃ state snapshot rows, run (ServiceState.step 30000) .initial (snapshotRun 0) = some state ∧
      state.collecting.returned = some snapshot ∧ snapshotRows id id snapshot = some rows ∧
      rows.agentCommands.map CommandRow.commandId = ["cmd-1"] ∧ References rows ∧
      ∀ operation, toMulti rows .empty ≠ .error (.foreignKey operation) := by
  have checked : ((run (ServiceState.step 30000) .initial (snapshotRun 0)).any fun state =>
      (state.collecting.returned.bind (snapshotRows id id)).any fun rows =>
        decide (rows.agentCommands.map CommandRow.commandId = ["cmd-1"] ∧
          state.late.map ControlCommand.agentId = ["agent-1"] ∧ "agent-1" ∈ state.registered)) = true := by decide +kernel
  obtain ⟨state, ran, inner⟩ := (Option.any_eq_true _ _).mp checked
  obtain ⟨rows, bound, holds⟩ := (Option.any_eq_true _ _).mp inner
  obtain ⟨snapshot, collected, derived⟩ := Option.bind_eq_some_iff.mp bound
  obtain ⟨ids, late, known⟩ := of_decide_eq_true holds
  refine ⟨state, snapshot, rows, ran, collected, derived, ids, ?_⟩
  apply (snapshot_consistent_iff 30000 id id (.of_run (fun _ _ _ => trivial) ran) collected derived).mpr
  intro command member
  have same : command.agentId ∈ state.late.map ControlCommand.agentId := List.mem_map_of_mem member
  rw [late, List.mem_singleton] at same
  rw [same]
  exact known

/-- How a transaction fails. -/
def failure : Except TransactionError Database → Option TransactionError
  | .error error => some error
  | .ok _ => none

/-- An agent that registers behind the call for the agents is missing, and its command is not. -/
theorem snapshot_reference_missing :
    ∃ state snapshot rows, run (ServiceState.step 30000) .initial (snapshotRun 1) = some state ∧
      state.collecting.returned = some snapshot ∧ snapshotRows id id snapshot = some rows ∧
      rows.agents.map AgentRow.agentId = [] ∧ rows.agentCommands.map CommandRow.agentId = ["agent-1"] ∧
      ¬References rows ∧ failure (toMulti rows .empty) = some (.foreignKey .agentCommands) := by
  have checked : ((run (ServiceState.step 30000) .initial (snapshotRun 1)).any fun state =>
      (state.collecting.returned.bind (snapshotRows id id)).any fun rows =>
        decide (rows.agents.map AgentRow.agentId = [] ∧ rows.agentCommands.map CommandRow.agentId = ["agent-1"] ∧
          failure (toMulti rows .empty) = some (.foreignKey .agentCommands))) = true := by decide +kernel
  obtain ⟨state, ran, inner⟩ := (Option.any_eq_true _ _).mp checked
  obtain ⟨rows, bound, holds⟩ := (Option.any_eq_true _ _).mp inner
  obtain ⟨snapshot, collected, derived⟩ := Option.bind_eq_some_iff.mp bound
  obtain ⟨agents, commands, failed⟩ := of_decide_eq_true holds
  refine ⟨state, snapshot, rows, ran, collected, derived, agents, commands, ?_, failed⟩
  intro references
  have all := List.forall_mem_map.mpr references.commandAgents
  rw [commands, agents] at all
  exact absurd (all "agent-1" List.mem_cons_self) (by decide)

end TelemetryFabric.ControlPlane
