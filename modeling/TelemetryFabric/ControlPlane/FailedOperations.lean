import TelemetryFabric.ControlPlane.AuditLog
import TelemetryFabric.ControlPlane.CommandStores
import TelemetryFabric.ControlPlane.PipelineStore
import TelemetryFabric.ControlPlane.StateFile
import TelemetryFabric.Library.Saved

/-!
Operations on the stores that fail. An operation updates a store and appends to the audit log, each
in a process with a state file of its own. Where writing one of the files raises, its process and
the one that waits for it end, and are started again from their files.
-/

namespace TelemetryFabric.ControlPlane
open Library

/-! ### Processes and their files -/

inductive StateProcess where
  | auditLog
  | agentRegistry
  | pipelineStore
  | commandQueue
  deriving DecidableEq

namespace StateProcess

/-- Its file in the storage directory. -/
def file : StateProcess → String
  | auditLog => "audit_log.term"
  | agentRegistry => "agent_registry.term"
  | pipelineStore => "pipeline_store.term"
  | commandQueue => "command_queue.term"

/-- Events are kept newest first. -/
abbrev Content : StateProcess → Type
  | auditLog => List AuditEvent
  | agentRegistry => Agents
  | pipelineStore => Pipelines
  | commandQueue => Commands

/-- What a process starts with where there is no file. -/
def default : (process : StateProcess) → process.Content
  | auditLog => []
  | agentRegistry => OrderedMap.empty
  | pipelineStore => fun _ => []
  | commandQueue => OrderedMap.empty

end StateProcess

abbrev ControlState := Cells StateProcess.Content

abbrev ControlUpdate := CellUpdate StateProcess.Content

/-- How `persist` ends for the state file: the old one is lost if the new one cannot be renamed. -/
def Faults.saving (faults : Faults) : Saving :=
  let abandoned (lost : Bool) : Saving :=
    match faults.cleanup with
    | .stopped => .stopped
    | _ => .failed lost
  let renamed (lost : Bool) : Saving :=
    match faults.rename with
    | .done => .done
    | .failed => abandoned lost
    | .stopped => .stopped
  match faults.mkdir with
  | .stopped => .stopped
  | .failed => .failed false
  | .done =>
      match faults.write with
      | .stopped => .stopped
      | .failed => abandoned false
      | .done =>
          match faults.remove with
          | .done => renamed true
          | .failed => renamed false
          | .stopped => .stopped

/-! ### What is on the disk -/

/-- The ending of `persist`. -/
def endingOf : Saving → Ending
  | .done => .persisted
  | .failed _ => .raised
  | .stopped => .stopped

theorem persist_ending {Term : Type} (format : TermFormat Term) (faults : Faults) (unique : Nat) (file : String)
    (data : Term) (files : Files) :
    (persist format faults unique (some file) data files).2 = endingOf faults.saving := by
  obtain ⟨mkdir, write, leftover, remove, rename, cleanup⟩ := faults
  cases mkdir <;> cases write <;> cases remove <;> cases rename <;> cases cleanup <;> rfl

/-- What the saving leaves under the name of the state file. -/
theorem persist_saving {Term : Type} (format : TermFormat Term) (faults : Faults) (unique : Nat) (file : String)
    (data : Term) (files : Files) (goesOn : faults.saving ≠ .stopped) :
    (persist format faults unique (some file) data files).1 file =
      match faults.saving with
      | .done => some (format.toBinary ⟨formatVersion, data⟩)
      | .failed true => none
      | _ => files file := by
  rw [persist_file]
  obtain ⟨mkdir, write, leftover, remove, rename, cleanup⟩ := faults
  cases mkdir <;> cases write <;> cases remove <;> cases rename <;> cases cleanup <;>
    first | rfl | exact absurd rfl goesOn

theorem file_injective : Function.Injective StateProcess.file := by
  intro first second same
  cases first <;> cases second <;> first | rfl | exact absurd same (by decide)

/-- No state file has the name of a temporary one, which begins with a dot. -/
theorem file_ne_temporaryName (process : StateProcess) (file : String) (unique : Nat) :
    process.file ≠ temporaryName file unique := by
  intro same
  have heads := congrArg (fun name => name.toList.head?) same
  simp only [temporaryName, String.toList_append] at heads
  cases process <;> exact absurd heads (by simp [StateProcess.file])

section Files

variable {formats : (process : StateProcess) → TermFormat process.Content} {files : Files} {state : ControlState}

/-- The files hold what the processes have saved. -/
def Represents (formats : (process : StateProcess) → TermFormat process.Content) (files : Files)
    (saved : (process : StateProcess) → Option process.Content) : Prop :=
  ∀ process, load (formats process) (some process.file) process.default files =
    .ok (Cells.load StateProcess.default saved process)

/-- A call of `persist` goes as the update of the cells, if what is written can be read. -/
theorem represents_persist (represents : Represents formats files state.saved) (update : ControlUpdate)
    (faults : Faults) (unique : Nat)
    (reads : decode (formats update.cell) ((formats update.cell).toBinary
      ⟨formatVersion, update.change (state.memory update.cell)⟩) = .ok (update.change (state.memory update.cell))) :
    let result := persist (formats update.cell) faults unique (some update.cell.file)
      (update.change (state.memory update.cell)) files
    result.2 = endingOf faults.saving ∧
      match faults.saving with
      | .done => Represents formats result.1 (state.commit update).saved
      | .failed lost => Represents formats result.1 (state.left update lost)
      | .stopped => True := by
  refine ⟨persist_ending .., ?_⟩
  have own := persist_saving (formats update.cell) faults unique update.cell.file
    (update.change (state.memory update.cell)) files
  have others : ∀ process, process ≠ update.cell →
      load (formats process) (some process.file) process.default (persist (formats update.cell) faults unique
        (some update.cell.file) (update.change (state.memory update.cell)) files).1 =
          .ok (Cells.load StateProcess.default state.saved process) := by
    intro process other
    rw [← represents process]
    simp only [load]
    rw [persist_other faults unique _ _ files (fun names => other (file_injective names))
      (file_ne_temporaryName process _ _)]
  cases outcome : faults.saving with
  | done =>
    rw [outcome] at own
    intro process
    by_cases here : process = update.cell
    · subst here
      rw [load_of_some (own (by decide)), reads]
      simp only [Cells.load, Cells.commit, Function.update_self, Option.getD_some]
    · rw [others process here]
      simp only [Cells.load, Cells.commit, Function.update_of_ne here]
  | failed lost =>
    rw [outcome] at own
    intro process
    by_cases here : process = update.cell
    · subst here
      cases lost with
      | true =>
        rw [load_of_none (own (by decide))]
        simp only [Cells.load, Cells.left, if_true, Function.update_self, Option.getD_none]
      | false =>
        have kept := own (by decide)
        have before := represents update.cell
        simp only [load] at before ⊢
        rw [kept]
        exact before
    · rw [others process here]
      simp only [Cells.load, Cells.left_of_ne state update lost here]
  | stopped => trivial

end Files

/-! ### Operations -/

/-- The call of `append`, with the id and the time of the event. -/
def appendEvent (attrs : AuditAttrs) (stamp : Nat × Int) : ControlUpdate where
  cell := .auditLog
  change events := attrs.entry stamp.1 stamp.2 :: events

/-- `persist!`. -/
def persistContent (process : StateProcess) (content : process.Content) : ControlUpdate where
  cell := process
  change _ := content

def textMetadata (key text : String) : MapKey × AuditValue := (.atom key, .term (.scalar (.string text)))

def versionMetadata (version : Nat) : MapKey × AuditValue := (.atom "version", .term (.scalar (.integer version)))

/-- The attributes of `audit_command`. -/
def auditCommand (action actor : String) (command : ControlCommand) : AuditAttrs where
  actor := some actor
  action := action
  resource := some command.commandId
  metadata := some [textMetadata "agent_id" command.agentId, textMetadata "tenant_id" command.tenantId,
    (.atom "kind", .atom command.kind.text), textMetadata "reason" command.reason]

section Updates

variable (stamps : Nat → Nat × Int)

def putPipelineUpdates (config : PipelineConfig) (actor : String) (pipelines : Pipelines) : List ControlUpdate :=
  match putPipeline config pipelines with
  | .error _ => []
  | .ok (updated, after) =>
      [appendEvent ⟨some actor, "pipeline.updated", some (config.tenantId ++ "/" ++ config.name),
          some [versionMetadata updated.version]⟩ (stamps 0),
        persistContent .pipelineStore after]

def rollbackPipelineUpdates (tenantId name : String) (target : Term) (actor : String) (pipelines : Pipelines) :
    List ControlUpdate :=
  match rollbackPipeline tenantId name target pipelines with
  | .error _ => []
  | .ok (rolledBack, after) =>
      [appendEvent ⟨some actor, "pipeline.rolled_back", some (tenantId ++ "/" ++ name),
          some [versionMetadata rolledBack.version, (.atom "target_version", .term target)]⟩ (stamps 0),
        persistContent .pipelineStore after]

def registerUpdates (attrs : RegisterAttrs) (now : Int) (agents : Agents) : List ControlUpdate :=
  [appendEvent ⟨some "system", "agent.registered", some attrs.agentId, some [textMetadata "tenant_id" attrs.tenantId]⟩
      (stamps 0),
    persistContent .agentRegistry (register attrs now agents).2]

def enqueueUpdates (command : ControlCommand) (commands : Commands) : List ControlUpdate :=
  [persistContent .commandQueue (enqueue command commands),
    appendEvent (auditCommand "command.enqueued" "operator" command) (stamps 0)]

def drainUpdates (leaseMs : Int) (agentId : String) (now : Int) (commands : Commands) : List ControlUpdate :=
  let drained := drain agentId now leaseMs commands
  persistContent .commandQueue drained.2 ::
    drained.1.mapIdx fun index command => appendEvent (auditCommand "command.delivered" agentId command) (stamps index)

def ackUpdates (agentId commandId : String) (success : Bool) (message : Option String) (now : Int)
    (commands : Commands) : List ControlUpdate :=
  match ack agentId commandId success message now commands with
  | (.ok acknowledged, some after) =>
      [persistContent .commandQueue after,
        appendEvent (auditCommand (ackAction success) agentId acknowledged) (stamps 0)]
  | _ => []

end Updates

inductive ControlOperation where
  | putPipeline (config : PipelineConfig) (actor : String)
  | rollbackPipeline (tenantId name : String) (target : Term) (actor : String)
  | register (attrs : RegisterAttrs) (now : Int)
  | enqueue (command : ControlCommand)
  | drain (agentId : String) (now : Int)
  | ack (agentId commandId : String) (success : Bool) (message : Option String) (now : Int)

namespace ControlOperation

/-- The process that is called. -/
def owner : ControlOperation → StateProcess
  | putPipeline _ _ => .pipelineStore
  | rollbackPipeline _ _ _ _ => .pipelineStore
  | register _ _ => .agentRegistry
  | enqueue _ => .commandQueue
  | drain _ _ => .commandQueue
  | ack _ _ _ _ _ => .commandQueue

/-- The process whose file is written first. -/
def writesFirst : ControlOperation → StateProcess
  | putPipeline _ _ => .auditLog
  | rollbackPipeline _ _ _ _ => .auditLog
  | register _ _ => .auditLog
  | enqueue _ => .commandQueue
  | drain _ _ => .commandQueue
  | ack _ _ _ _ _ => .commandQueue

variable (leaseMs : Int) (stamps : Nat → Nat × Int)

def updates (memory : (process : StateProcess) → process.Content) : ControlOperation → List ControlUpdate
  | putPipeline config actor => putPipelineUpdates stamps config actor (memory .pipelineStore)
  | rollbackPipeline tenantId name target actor =>
      rollbackPipelineUpdates stamps tenantId name target actor (memory .pipelineStore)
  | register attrs now => registerUpdates stamps attrs now (memory .agentRegistry)
  | enqueue command => enqueueUpdates stamps command (memory .commandQueue)
  | drain agentId now => drainUpdates stamps leaseMs agentId now (memory .commandQueue)
  | ack agentId commandId success message now =>
      ackUpdates stamps agentId commandId success message now (memory .commandQueue)

/-- The operation, with what becomes of each call of `persist`. -/
def perform (faults : Nat → Faults) (operation : ControlOperation) (state : ControlState) :
    Performed StateProcess.Content :=
  Library.perform StateProcess.default operation.owner (fun index => (faults index).saving) 0
    (operation.updates leaseMs stamps state.memory) state

/-- An operation that has gone through, or whose processes have been started again. -/
structure Attempt where
  operation : ControlOperation
  stamps : Nat → Nat × Int
  faults : Nat → Faults

def Attempt.step (leaseMs : Int) (state : ControlState) (attempt : Attempt) : Option ControlState :=
  match attempt.operation.perform leaseMs attempt.stamps attempt.faults state with
  | .done after => some after
  | .failed after => some after
  | .stopped => none

end ControlOperation

/-- The processes as they are started from their files. -/
def started (saved : (process : StateProcess) → Option process.Content) : ControlState :=
  ⟨Cells.load StateProcess.default saved, saved⟩

/-! ### What the first update changes -/

theorem enqueue_ne (command : ControlCommand) (commands : Commands) : enqueue command commands ≠ commands := by
  intro same
  have lengths := congrArg (fun commands => (commandsOf commands command.agentId).length) same
  simp only [enqueue, commandsOf_insert, if_true, List.length_append, List.length_singleton] at lengths
  omega

/-- A lease that has just begun has not run out. -/
theorem not_deliverable_markDelivered {leaseMs : Int} (lease : 0 < leaseMs) (command : ControlCommand) (now : Int) :
    (command.markDelivered now).deliverable now leaseMs = false := by
  have running : ¬ now + leaseMs * 1000 ≤ now := by omega
  simpa [ControlCommand.deliverable, ControlCommand.isPending, ControlCommand.leaseExpired,
    ControlCommand.markDelivered] using running

/-- A drain that delivers something changes what is stored. -/
theorem drain_ne {leaseMs : Int} (lease : 0 < leaseMs) {agentId : String} {now : Int} {commands : Commands}
    (delivers : (drain agentId now leaseMs commands).1 ≠ []) : (drain agentId now leaseMs commands).2 ≠ commands := by
  intro same
  have marked := @commandsOf_drain commands agentId now leaseMs agentId
  rw [same, if_pos rfl] at marked
  have each := List.map_inj_left.mp (marked.symm.trans (List.map_id _).symm)
  apply delivers
  unfold drain
  dsimp only
  rw [← marked]
  apply List.filter_eq_nil_iff.mpr
  intro command member listed
  have among : command.commandId ∈ deliverableIds now leaseMs (commandsOf commands agentId) :=
    of_decide_eq_true listed
  -- a deliverable command is marked, and would be what it was
  obtain ⟨other, due, named⟩ := List.mem_map.mp among
  obtain ⟨also, deliverable⟩ := List.mem_filter.mp due
  have unchanged := each other also
  rw [named, if_pos among] at unchanged
  rw [← show other.markDelivered now = other from unchanged, not_deliverable_markDelivered lease] at deliverable
  cases deliverable

theorem ack_ne {agentId commandId : String} {success : Bool} {message : Option String} {now : Int}
    {commands after : Commands} (persisted : (ack agentId commandId success message now commands).2 = some after) :
    after ≠ commands := by
  intro same
  obtain ⟨found, single, unfinished, made⟩ := ack_persisted persisted
  have named : found.commandId = commandId := by
    have listed : found ∈ (commandsOf commands agentId).filter fun command => command.commandId = commandId := by
      rw [single]
      exact List.mem_singleton_self found
    exact of_decide_eq_true (List.mem_filter.mp listed).2
  have inside : found.markAcknowledged success message now ∈ commandsOf after agentId := by
    rw [made, commandsOf_insert, if_pos rfl, List.mem_mergeSort]
    exact List.mem_cons_self
  rw [same] at inside
  have again : found.markAcknowledged success message now ∈ [found] := by
    rw [← single]
    exact List.mem_filter.mpr ⟨inside, decide_eq_true named⟩
  have finished : (found.markAcknowledged success message now).isTerminal = true := by
    cases success <;> rfl
  rw [List.mem_singleton.mp again, unfinished] at finished
  cases finished

/-! ### Failed operations -/

namespace ControlOperation

variable {leaseMs : Int} {stamps : Nat → Nat × Int} {memory : (process : StateProcess) → process.Content}

/-- The log, then the store. -/
theorem staged_append (attrs : AuditAttrs) (stamp : Nat × Int) {process : StateProcess} (content : process.Content)
    (other : process ≠ .auditLog) :
    Staged memory (appendEvent attrs stamp) [persistContent process content] := by
  constructor
  · intro update member
    rw [List.mem_singleton.mp member]
    exact other
  · intro _
    exact List.cons_ne_self _ _

/-- The queue, then the log. -/
theorem staged_persist {commands : Commands} {rest : List ControlUpdate}
    (appends : ∀ update ∈ rest, update.cell = .auditLog) (changes : rest ≠ [] → commands ≠ memory .commandQueue) :
    Staged memory (persistContent .commandQueue commands) rest := by
  refine ⟨?_, changes⟩
  intro update member same
  rw [appends update member] at same
  cases same

/-- In every operation the first update makes a difference, and the others are of another process. -/
theorem staged_updates (lease : 0 < leaseMs) (operation : ControlOperation) {first : ControlUpdate}
    {rest : List ControlUpdate} (listed : operation.updates leaseMs stamps memory = first :: rest) :
    first.cell = operation.writesFirst ∧ Staged memory first rest := by
  cases operation with
  | putPipeline config actor =>
    simp only [updates, putPipelineUpdates] at listed
    split at listed
    next => cases listed
    next =>
      cases listed
      exact ⟨rfl, staged_append _ _ _ (by decide)⟩
  | rollbackPipeline tenantId name target actor =>
    simp only [updates, rollbackPipelineUpdates] at listed
    split at listed
    next => cases listed
    next =>
      cases listed
      exact ⟨rfl, staged_append _ _ _ (by decide)⟩
  | register attrs now =>
    cases listed
    exact ⟨rfl, staged_append _ _ _ (by decide)⟩
  | enqueue command =>
    cases listed
    refine ⟨rfl, staged_persist ?_ fun _ => enqueue_ne command _⟩
    intro update member
    rw [List.mem_singleton.mp member]
    rfl
  | drain agentId now =>
    cases listed
    refine ⟨rfl, staged_persist ?_ fun more => drain_ne lease ?_⟩
    · intro update member
      obtain ⟨index, inside, rfl⟩ := List.mem_mapIdx.mp member
      rfl
    · intro none_
      apply more
      rw [none_]
      rfl
  | ack agentId commandId success message now =>
    simp only [updates, ackUpdates] at listed
    split at listed
    next acknowledged after result =>
      cases listed
      refine ⟨rfl, staged_persist ?_ fun _ => ack_ne (congrArg Prod.snd result)⟩
      intro update member
      rw [List.mem_singleton.mp member]
      rfl
    next => cases listed

end ControlOperation

theorem settled_started (saved : (process : StateProcess) → Option process.Content) :
    (started saved).Settled StateProcess.default := fun _ => rfl

theorem settled_of_attempts {leaseMs : Int} {saved : (process : StateProcess) → Option process.Content}
    {state : ControlState} (reached : Reaches (ControlOperation.Attempt.step leaseMs) (fun _ _ => True) (started saved) state) :
    state.Settled StateProcess.default := by
  apply reached.invariant (P := fun state => state.Settled StateProcess.default) (settled_started saved)
  intro state attempt next settled _ taken
  unfold ControlOperation.Attempt.step at taken
  split at taken
  next after done =>
    cases taken
    exact settled_of_perform settled (Or.inl done)
  next after failed =>
    cases taken
    exact settled_of_perform settled (Or.inr failed)
  next => cases taken

/-- In every state that operations lead to, whether they go through or fail: an operation in which
`persist` raises leaves the stores and the audit log as they were exactly when it is the first call
that raises, and the old file is not lost, or held what a process starts with. -/
theorem failed_operation_unchanged_iff {leaseMs : Int} (lease : 0 < leaseMs) (operation : ControlOperation)
    (stamps : Nat → Nat × Int) (faults : Nat → Faults)
    {saved : (process : StateProcess) → Option process.Content} {before after : ControlState}
    (reached : Reaches (ControlOperation.Attempt.step leaseMs) (fun _ _ => True) (started saved) before)
    (raised : operation.perform leaseMs stamps faults before = .failed after) :
    after.memory = before.memory ↔ (faults 0).saving = .failed false ∨
      (faults 0).saving = .failed true ∧ before.memory operation.writesFirst = operation.writesFirst.default := by
  have settled := settled_of_attempts reached
  unfold ControlOperation.perform at raised
  cases listed : operation.updates leaseMs stamps before.memory with
  | nil =>
    rw [listed] at raised
    cases raised
  | cons first rest =>
    obtain ⟨named, staged⟩ := ControlOperation.staged_updates lease operation listed
    rw [listed] at raised
    rw [← named]
    exact unchanged_iff settled staged raised

/-- The given call of `persist` cannot write its temporary file. -/
def writeFails (failing index : Nat) : Faults :=
  if index = failing then { Faults.none with write := .failed } else .none

def oneAgent : RegisterAttrs := ⟨"agent-1", "acme", none, none, none, none, none, none⟩

def otherAgent : RegisterAttrs := ⟨"agent-2", "acme", none, none, none, none, none, none⟩

/-- An agent is registered, and a command is enqueued for it. -/
def stocking : List ControlOperation.Attempt :=
  [⟨.register oneAgent 1, fun index => (index + 1, 1), fun _ => .none⟩,
    ⟨.enqueue (newCommand "cmd-1" "agent-1" "acme" .pauseExports "" 2), fun index => (index + 3, 2), fun _ => .none⟩]

/-- A second agent cannot be registered, and the first one, its command and the events stay. -/
theorem failed_operation_unchanged_register :
    ∃ before after, run (ControlOperation.Attempt.step 30000) (started fun _ => none) stocking = some before ∧
      (before.memory .agentRegistry).keys = ["agent-1"] ∧
      (stored (before.memory .commandQueue)).map ControlCommand.commandId = ["cmd-1"] ∧
      (before.memory .auditLog).map AuditEvent.action = ["command.enqueued", "agent.registered"] ∧
      (ControlOperation.register otherAgent 3).perform 30000 (fun _ => (5, 3)) (writeFails 0) before = .failed after ∧
      after.memory = before.memory := by
  refine ⟨_, _, rfl, rfl, rfl, rfl, rfl, ?_⟩
  have reached : Reaches (ControlOperation.Attempt.step 30000) (fun _ _ => True) (started fun _ => none) _ :=
    Reaches.of_run (fun _ _ _ => trivial) (show run _ (started fun _ => none) stocking = _ from rfl)
  exact (failed_operation_unchanged_iff (show (0 : Int) < 30000 by decide) (.register otherAgent 3) (fun _ => (5, 3))
    (writeFails 0) reached rfl).mpr (Or.inl rfl)

/-- If it is the second one, the log has an agent that is not registered, and the queue has a command
that is not in the log. -/
theorem failed_operation_leaves_trace :
    (∃ after, (ControlOperation.register oneAgent 1).perform 30000 (fun _ => (1, 1)) (writeFails 1)
      (started fun _ => none) = .failed after ∧
      (after.memory .auditLog).map AuditEvent.action = ["agent.registered"] ∧
      after.memory .agentRegistry = OrderedMap.empty ∧ after.memory ≠ (started fun _ => none).memory) ∧
    ∃ after, (ControlOperation.enqueue (newCommand "cmd-1" "agent-1" "acme" .pauseExports "" 1)).perform 30000
      (fun _ => (1, 1)) (writeFails 1) (started fun _ => none) = .failed after ∧
      (after.memory .auditLog).map AuditEvent.action = [] ∧
      (stored (after.memory .commandQueue)).map ControlCommand.commandId = ["cmd-1"] := by
  refine ⟨⟨_, rfl, rfl, rfl, ?_⟩, _, rfl, rfl, rfl⟩
  intro same
  have events := congrArg (fun memory => (memory .auditLog).length) same
  cases events

end TelemetryFabric.ControlPlane
