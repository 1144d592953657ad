import TelemetryFabric.ControlPlane.CommandLife
import TelemetryFabric.ControlPlane.CommandTable
import TelemetryFabric.Library.NewRows

/-!
The two stores for commands side by side: the process with its lists and its log, and the tables
of a database. Both enqueue, drain and acknowledge under the same clock, and both record an audit
event for each command they enqueue, deliver or finish.
-/

namespace TelemetryFabric.ControlPlane
open Library

/-! ### Operations -/

/-- `registered` is the tenant of the agent where it is registered, and `commandId` and `now` are
what `ControlCommand.new` draws. -/
inductive StoreOperation where
  | enqueue (agentId : String) (registered : Option String) (commandId : String) (kind : CommandKind)
      (reason : String) (now : Int)
  | drain (agentId : String) (now : Int)
  | ack (agentId commandId : String) (success : Bool) (message : Option String) (now : Int)

/-- What an operation returns; `raised` for one that ends with an exception. -/
inductive StoreReply where
  | command (command : ControlCommand)
  | commands (commands : List ControlCommand)
  | notFound
  | raised
  deriving DecidableEq

/-- `ControlCommand.new`, of a command that is enqueued. -/
def newCommand (commandId agentId tenantId : String) (kind : CommandKind) (reason : String) (now : Int) :
    ControlCommand :=
  ⟨commandId, agentId, tenantId, kind, reason, now, .pending, none, none, none⟩

/-- The command an operation brings in. -/
def StoreOperation.created : StoreOperation → Option ControlCommand
  | .enqueue agentId registered commandId kind reason now =>
      registered.map fun tenantId => newCommand commandId agentId tenantId kind reason now
  | _ => none

/-- An audit event of a command, without its id and its time. -/
structure CommandAudit where
  actor : String
  action : String
  resource : String
  agentId : String
  tenantId : String
  kind : CommandKind
  reason : String
  deriving DecidableEq

/-- `audit_command`. -/
def ControlCommand.audit (action actor : String) (command : ControlCommand) : CommandAudit :=
  ⟨actor, action, command.commandId, command.agentId, command.tenantId, command.kind, command.reason⟩

def ackAction (success : Bool) : String := if success then "command.succeeded" else "command.failed"

def runStore {σ : Type} (step : StoreOperation → σ → StoreReply × σ) :
    List StoreOperation → σ → List StoreReply × σ
  | [], store => ([], store)
  | operation :: rest, store =>
      let (reply, next) := step operation store
      let (replies, last) := runStore step rest next
      (reply :: replies, last)

/-! ### The process -/

/-- The commands, and the audit events in the order they were appended. -/
structure QueueStore where
  commands : Commands
  log : List CommandAudit

def QueueStore.initial : QueueStore := ⟨.empty, []⟩

def QueueStore.step (leaseMs : Int) : StoreOperation → QueueStore → StoreReply × QueueStore
  | .enqueue agentId registered commandId kind reason now, store =>
      match registered with
      | none => (.notFound, store)
      | some tenantId =>
          let command := newCommand commandId agentId tenantId kind reason now
          (.command command, ⟨enqueue command store.commands,
            store.log ++ [command.audit "command.enqueued" "operator"]⟩)
  | .drain agentId now, store =>
      let (delivered, commands) := drain agentId now leaseMs store.commands
      (.commands delivered, ⟨commands, store.log ++ delivered.map (ControlCommand.audit "command.delivered" agentId)⟩)
  | .ack agentId commandId success message now, store =>
      match ack agentId commandId success message now store.commands with
      | (.ok command, some commands) => (.command command, ⟨commands,
          store.log ++ [command.audit (ackAction success) agentId]⟩)
      | (.ok command, none) => (.command command, store)
      | (.notFound, _) => (.notFound, store)
      | (.noReply, _) => (.raised, store)

/-! ### The tables -/

/-- A text column takes every string without a character of code zero. -/
def storable (text : String) : Bool := !text.toList.contains (Char.ofNat 0)

/-- `new_event_id`. -/
def newEventId (systemTime unique : Nat) : Nat := systemTime * 1000 + unique % 1000

/-- The clock reading and the unique integer drawn for each audit event. -/
abbrev EventDraws := Nat → Nat × Nat

def EventDraws.id (draws : EventDraws) (n : Nat) : Nat := newEventId (draws n).1 (draws n).2

/-- `audits` are the rows of `audit_events` with their ids, none for an event that is not about a
command; `drawn` counts the ids drawn for events of commands. -/
structure RowStore where
  table : CommandRows
  audits : List (Nat × Option CommandAudit)
  drawn : Nat
  deriving DecidableEq

namespace RowStore

/-- No commands yet, and the audit events of what has happened before. -/
def initial (earlier : List Nat) : RowStore := ⟨.empty, earlier.map fun id => (id, none), 0⟩

/-- The audit events of commands in the order they were recorded. -/
def recorded (store : RowStore) : List CommandAudit := store.audits.filterMap Prod.snd

/-- `insert_audit!`: an event whose id is taken is not inserted. -/
def insertAudit (draws : EventDraws) (store : RowStore) (audit : CommandAudit) : RowStore :=
  { store with
    audits := insertNew Prod.fst store.audits (draws.id store.drawn, some audit)
    drawn := store.drawn + 1 }

def insertAudits (draws : EventDraws) (store : RowStore) (audits : List CommandAudit) : RowStore :=
  audits.foldl (insertAudit draws) store

def step (leaseMs : Int) (draws : EventDraws) : StoreOperation → RowStore → StoreReply × RowStore
  | .enqueue agentId registered commandId kind reason now, store =>
      if storable agentId then
        match registered with
        | none => (.notFound, store)
        | some tenantId =>
            let command := newCommand commandId agentId tenantId kind reason now
            if storable commandId && storable tenantId && storable reason then
              match store.table.insertCommand command with
              | none => (.raised, store)
              | some table => (.command command,
                  insertAudits draws { store with table := table } [command.audit "command.enqueued" "operator"])
            else (.raised, store)
      else (.raised, store)
  | .drain agentId now, store =>
      if storable agentId then
        let (delivered, table) := store.table.drainCommands agentId now leaseMs
        (.commands delivered, insertAudits draws { store with table := table }
          (delivered.map (ControlCommand.audit "command.delivered" agentId)))
      else (.raised, store)
  | .ack agentId commandId success message now, store =>
      if storable agentId && storable commandId then
        match store.table.rows.find? fun row => row.agentId = agentId ∧ row.commandId = commandId with
        | none => (.notFound, store)
        | some command =>
            if command.isTerminal then (.command command, store)
            else if (ControlCommand.normalizeError success message).all storable then
              let acknowledged := command.markAcknowledged success message now
              (.command acknowledged, insertAudits draws
                { store with table := (store.table.ackCommand agentId commandId success message now).2 }
                [acknowledged.audit (ackAction success) agentId])
            else (.raised, store)
      else (.raised, store)

end RowStore

/-! ### Commands in the order they came -/

/-- What orders the commands of an agent, and identifies them. -/
def ControlCommand.place (command : ControlCommand) : String × Int := (command.commandId, command.insertedAt)

/-- The ids are different and the times increase. -/
def InSequence (commands : List ControlCommand) : Prop :=
  (commands.map ControlCommand.place).Pairwise fun first second => first.1 ≠ second.1 ∧ first.2 < second.2

section Order

variable {commands : List ControlCommand}

theorem sortsBefore_trans (first second third : ControlCommand) (left : first.sortsBefore second = true)
    (right : second.sortsBefore third = true) : first.sortsBefore third = true := by
  simp only [ControlCommand.sortsBefore, Bool.or_eq_true, decide_eq_true_eq, Bool.and_eq_true, beq_iff_eq] at *
  rcases left with earlier | ⟨same, below⟩
  · rcases right with later | ⟨equal, -⟩
    · exact Or.inl (by omega)
    · exact Or.inl (by omega)
  · rcases right with later | ⟨equal, above⟩
    · exact Or.inl (by omega)
    · exact Or.inr ⟨by omega, le_trans below above⟩

theorem sortsBefore_total (first second : ControlCommand) :
    (first.sortsBefore second || second.sortsBefore first) = true := by
  simp only [ControlCommand.sortsBefore, Bool.or_eq_true, decide_eq_true_eq, Bool.and_eq_true, beq_iff_eq]
  rcases lt_trichotomy first.insertedAt second.insertedAt with earlier | same | later
  · exact Or.inl (Or.inl earlier)
  · rcases le_total first.commandId second.commandId with below | above
    · exact Or.inl (Or.inr ⟨same, below⟩)
    · exact Or.inr (Or.inr ⟨same.symm, above⟩)
  · exact Or.inr (Or.inl later)

theorem InSequence.sorted (ordered : InSequence commands) :
    commands.Pairwise fun first second => first.sortsBefore second = true := by
  refine (List.pairwise_map.mp ordered).imp ?_
  intro first second before
  simp only [ControlCommand.sortsBefore, Bool.or_eq_true, decide_eq_true_eq]
  exact Or.inl before.2

theorem InSequence.filter (ordered : InSequence commands) (chosen : ControlCommand → Bool) :
    InSequence (commands.filter chosen) :=
  List.Pairwise.sublist (List.filter_sublist.map ControlCommand.place) ordered

theorem InSequence.ids (ordered : InSequence commands) : (commands.map ControlCommand.commandId).Nodup := by
  have apart := (List.pairwise_map.mp ordered).imp fun before => before.1
  exact List.pairwise_map.mpr apart

theorem InSequence.times (ordered : InSequence commands) : (commands.map ControlCommand.insertedAt).Nodup := by
  have apart := (List.pairwise_map.mp ordered).imp fun before => before.2.ne
  exact List.pairwise_map.mpr apart

/-- Sorting commands that are in order, but for where they stand, puts them in order. -/
theorem InSequence.mergeSort_eq (ordered : InSequence commands) {others : List ControlCommand}
    (same : others.Perm commands) : others.mergeSort ControlCommand.sortsBefore = commands := by
  refine List.Perm.eq_of_pairwise ?_ (List.pairwise_mergeSort sortsBefore_trans sortsBefore_total others)
    ordered.sorted ((List.mergeSort_perm _ _).trans same)
  intro first second left right before after
  have member : first ∈ commands := same.mem_iff.mp (List.mem_mergeSort.mp left)
  simp only [ControlCommand.sortsBefore, Bool.or_eq_true, decide_eq_true_eq, Bool.and_eq_true, beq_iff_eq] at before after
  exact List.inj_on_of_nodup_map ordered.times member right (by omega)

end Order

/-- A change to some commands that leaves the place of each. -/
theorem map_place {commands : List ControlCommand} {change : ControlCommand → ControlCommand}
    (keeps : ∀ command ∈ commands, (change command).place = command.place) :
    (commands.map change).map ControlCommand.place = commands.map ControlCommand.place := by
  rw [List.map_map]
  exact List.map_congr_left keeps

/-! ### The lists of the process as the rows of the table -/

/-- The process has for each agent the rows of the table, in the order they were inserted. -/
def SameCommands (commands : Commands) (table : CommandRows) : Prop :=
  ∀ agentId, commandsOf commands agentId = table.rowsOf agentId

section Same

variable {commands : Commands} {table : CommandRows}

theorem rowsOf_map {rows : List ControlCommand} {change : ControlCommand → ControlCommand}
    (keeps : ∀ row, (change row).agentId = row.agentId) (agentId : String) :
    (rows.map change).filter (fun row => row.agentId = agentId) =
      (rows.filter fun row => row.agentId = agentId).map change := by
  rw [List.filter_map]
  congr 2
  funext row
  exact congrArg (fun name => decide (name = agentId)) (keeps row)

theorem InSequence.rowsOf (ordered : InSequence table.rows) (agentId : String) : InSequence (table.rowsOf agentId) :=
  ordered.filter _

/-- The two ways to put the lease: the end of it has come, or the delivery is before the deadline. -/
theorem drainable_eq {row : ControlCommand} (now leaseMs : Int) :
    CommandRows.drainable row.agentId (now - leaseMs * 1000) row = row.deliverable now leaseMs := by
  obtain ⟨commandId, agentId, tenantId, kind, reason, insertedAt, status, deliveredAt, acknowledgedAt, lastError⟩ := row
  unfold CommandRows.drainable ControlCommand.deliverable ControlCommand.leaseExpired ControlCommand.isPending
  cases status with
  | delivered =>
    cases deliveredAt with
    | none => simp
    | some deliveredAt =>
      simp only [beq_self_eq_true, Bool.true_and, decide_eq_decide,
        show (CommandStatus.delivered == CommandStatus.pending) = false from rfl, Bool.false_or]
      constructor <;> intro before <;> omega
  | pending => simp
  | succeeded => simp
  | failed => simp

theorem drainable_other {row : ControlCommand} {agentId : String} (deadline : Int) (other : row.agentId ≠ agentId) :
    CommandRows.drainable agentId deadline row = false := by
  unfold CommandRows.drainable
  rw [show (row.agentId == agentId) = false from beq_eq_false_iff_ne.mpr other, Bool.false_and]

theorem SameCommands.nodup (same : SameCommands commands table) (agentId : String) :
    ((commandsOf commands agentId).map ControlCommand.commandId).Nodup := by
  rw [same agentId]
  exact table.unique.sublist (List.filter_sublist.map ControlCommand.commandId)

/-- What a drain of the process delivers, and what it leaves of the agent. -/
theorem SameCommands.drain_delivered (same : SameCommands commands table) (agentId : String) (now leaseMs : Int) :
    (drain agentId now leaseMs commands).1 =
      ((table.rowsOf agentId).filter fun row => row.deliverable now leaseMs).map fun row => row.markDelivered now := by
  rw [← same agentId]
  exact filter_map_of_ids _ fun _ member => mem_deliverableIds_of_nodup (same.nodup agentId) member

/-- A drain of the tables returns the same commands, and leaves the same behind. -/
theorem SameCommands.drain (same : SameCommands commands table) (ordered : InSequence table.rows) (agentId : String)
    (now leaseMs : Int) :
    (table.drainCommands agentId now leaseMs).1 = (ControlPlane.drain agentId now leaseMs commands).1 ∧
      SameCommands (ControlPlane.drain agentId now leaseMs commands).2 (table.drainCommands agentId now leaseMs).2 := by
  constructor
  · rw [same.drain_delivered]
    change List.map _ (List.mergeSort _ _) = _
    rw [List.mergeSort_of_pairwise (ordered.filter _).sorted]
    congr 1
    unfold CommandRows.rowsOf
    rw [List.filter_filter]
    apply List.filter_congr
    intro row _
    by_cases named : row.agentId = agentId
    · rw [← named, drainable_eq, decide_eq_true rfl, Bool.and_true]
    · rw [drainable_other _ named, decide_eq_false named, Bool.and_false]
  · intro other
    have nodup := same.nodup agentId
    have left : (table.drainCommands agentId now leaseMs).2.rowsOf other = (table.rowsOf other).map fun row =>
        if CommandRows.drainable agentId (now - leaseMs * 1000) row then row.markDelivered now else row := by
      unfold CommandRows.rowsOf
      rw [CommandRows.drainCommands_rows, rowsOf_map]
      intro row
      split_ifs <;> rfl
    rw [commandsOf_drain, left]
    split_ifs with named
    · rw [named, ← same agentId]
      apply List.map_congr_left
      intro command member
      have owner : command.agentId = agentId := by
        rw [same agentId] at member
        exact (CommandRows.mem_rowsOf.mp member).2
      apply if_congr _ rfl rfl
      rw [mem_deliverableIds_of_nodup nodup member, ← owner, drainable_eq]
    · rw [same other]
      have untouched : ∀ row ∈ table.rowsOf other,
          (if CommandRows.drainable agentId (now - leaseMs * 1000) row then row.markDelivered now else row) = row := by
        intro row member
        have owner := (CommandRows.mem_rowsOf.mp member).2
        rw [drainable_other _ (owner ▸ named)]
        exact if_neg Bool.false_ne_true
      rw [List.map_congr_left untouched, List.map_id']

theorem SameCommands.enqueue (same : SameCommands commands table) {command : ControlCommand} {after : CommandRows}
    (inserted : table.insertCommand command = some after) :
    SameCommands (ControlPlane.enqueue command commands) after := by
  intro other
  unfold ControlPlane.enqueue CommandRows.rowsOf
  rw [commandsOf_insert, CommandRows.insertCommand_rows inserted, List.filter_append, same, same]
  by_cases named : other = command.agentId
  · rw [if_pos named, List.filter_cons_of_pos (by simpa using named.symm), named]
    rfl
  · rw [if_neg named, List.filter_cons_of_neg (by simpa using Ne.symm named)]
    exact (List.append_nil _).symm

/-- Where the table has no row of the agent under the id, the process has no command. -/
theorem SameCommands.ack_none (same : SameCommands commands table) {agentId commandId : String}
    (absent : table.rows.find? (fun row => row.agentId = agentId ∧ row.commandId = commandId) = none)
    (success : Bool) (message : Option String) (now : Int) :
    ack agentId commandId success message now commands = (.notFound, none) := by
  have none : (commandsOf commands agentId).filter (fun command => command.commandId = commandId) = [] := by
    rw [same agentId]
    apply List.filter_eq_nil_iff.mpr
    intro row member named
    obtain ⟨listed, owner⟩ := CommandRows.mem_rowsOf.mp member
    exact List.find?_eq_none.mp absent row listed (decide_eq_true ⟨owner, of_decide_eq_true named⟩)
  unfold ControlPlane.ack
  dsimp only
  rw [none]

/-- The row that an acknowledgement finds is the command of the process. -/
theorem SameCommands.ack_single (same : SameCommands commands table) {agentId commandId : String}
    {command : ControlCommand}
    (found : table.rows.find? (fun row => row.agentId = agentId ∧ row.commandId = commandId) = some command) :
    command ∈ table.rowsOf agentId ∧ command.commandId = commandId ∧
      (commandsOf commands agentId).filter (fun command => command.commandId = commandId) = [command] := by
  have named := List.find?_some found
  rw [decide_eq_true_iff] at named
  have member : command ∈ table.rowsOf agentId :=
    CommandRows.mem_rowsOf.mpr ⟨List.mem_of_find?_eq_some found, named.1⟩
  refine ⟨member, named.2, ?_⟩
  rw [← same agentId] at member
  rw [← named.2]
  exact filter_eq_singleton (same.nodup agentId) member

/-- The command that is acknowledged goes back to where it was. -/
theorem sorted_back {existing : List ControlCommand} (ordered : InSequence existing) {command : ControlCommand}
    (member : command ∈ existing) {change : ControlCommand → ControlCommand}
    (keeps : ∀ row, (change row).place = row.place) :
    (change command :: existing.filter fun row => row.commandId ≠ command.commandId).mergeSort
        ControlCommand.sortsBefore =
      existing.map fun row => if row.commandId = command.commandId then change row else row := by
  have kept : InSequence (existing.map fun row => if row.commandId = command.commandId then change row else row) := by
    unfold InSequence
    rw [map_place]
    · exact ordered
    · intro row _
      split_ifs
      · exact keeps row
      · rfl
  apply kept.mergeSort_eq
  have parts := (List.filter_append_perm (fun row : ControlCommand => decide (row.commandId = command.commandId))
    existing).map fun row => if row.commandId = command.commandId then change row else row
  rw [filter_eq_singleton ordered.ids member, List.map_append] at parts
  have others : (existing.filter fun row => !decide (row.commandId = command.commandId)).map
      (fun row => if row.commandId = command.commandId then change row else row) =
      existing.filter fun row => decide (row.commandId ≠ command.commandId) := by
    have same : existing.filter (fun row => !decide (row.commandId = command.commandId)) =
        existing.filter fun row => decide (row.commandId ≠ command.commandId) :=
      List.filter_congr fun row _ => (decide_not ..).symm
    rw [same]
    refine (List.map_congr_left ?_).trans (List.map_id' _)
    intro row listed
    exact if_neg (of_decide_eq_true (List.mem_filter.mp listed).2)
  rw [others, List.map_singleton, if_pos rfl] at parts
  exact parts

/-- Acknowledging an open command replies with it on both sides and leaves the same behind. -/
theorem SameCommands.ack_open (same : SameCommands commands table) (ordered : InSequence table.rows)
    {agentId commandId : String} {command : ControlCommand}
    (found : table.rows.find? (fun row => row.agentId = agentId ∧ row.commandId = commandId) = some command)
    (unfinished : command.isTerminal = false) (success : Bool) (message : Option String) (now : Int) :
    ∃ after, ack agentId commandId success message now commands =
        (.ok (command.markAcknowledged success message now), some after) ∧
      SameCommands after (table.ackCommand agentId commandId success message now).2 ∧
      (table.ackCommand agentId commandId success message now).2.rows.map ControlCommand.place =
        table.rows.map ControlCommand.place := by
  obtain ⟨member, named, single⟩ := same.ack_single found
  have rows : (table.ackCommand agentId commandId success message now).2.rows =
      table.rows.map fun row => if row.commandId = commandId then row.markAcknowledged success message now else row := by
    unfold CommandRows.ackCommand
    rw [found]
    simp only [unfinished, Bool.false_eq_true, if_false, CommandRows.updateAll, decide_eq_true_eq]
  have kept : ∀ row : ControlCommand, (row.markAcknowledged success message now).place = row.place := fun _ => rfl
  have back := sorted_back (ordered.rowsOf agentId) member kept
  refine ⟨commands.insert agentId ((table.rowsOf agentId).map fun row =>
    if row.commandId = commandId then row.markAcknowledged success message now else row), ?_, ?_, ?_⟩
  · unfold ControlPlane.ack
    dsimp only
    rw [single]
    simp only [unfinished, Bool.false_eq_true, if_false]
    rw [same agentId, ← named, back]
  · intro other
    have left : (table.ackCommand agentId commandId success message now).2.rowsOf other = (table.rowsOf other).map
        fun row => if row.commandId = commandId then row.markAcknowledged success message now else row := by
      unfold CommandRows.rowsOf
      rw [rows, rowsOf_map]
      intro row
      split_ifs <;> rfl
    rw [commandsOf_insert, left]
    split_ifs with owner
    · rw [owner]
    · rw [same other]
      refine ((List.map_congr_left ?_).trans (List.map_id' _)).symm
      intro row listed
      apply if_neg
      intro also
      obtain ⟨inside, elsewhere⟩ := CommandRows.mem_rowsOf.mp listed
      obtain ⟨here, mine⟩ := CommandRows.mem_rowsOf.mp member
      have equal := CommandRows.same_of_id inside here (also.trans named.symm)
      exact owner (elsewhere.symm.trans (equal ▸ mine))
  · rw [rows]
    apply map_place
    intro row _
    split_ifs <;> rfl

end Same

/-! ### One operation -/

/-- The texts an operation sends to the database can be stored there: the names it looks for, the
command it inserts, and the error it writes to a command that is open. -/
def Sendable (commands : Commands) : StoreOperation → Prop
  | .enqueue agentId registered commandId _ reason _ => storable agentId = true ∧
      ∀ tenantId ∈ registered, storable commandId = true ∧ storable tenantId = true ∧ storable reason = true
  | .drain agentId _ => storable agentId = true
  | .ack agentId commandId success message _ => storable agentId = true ∧ storable commandId = true ∧
      ∀ command ∈ commandsOf commands agentId, command.commandId = commandId → command.isTerminal = false →
        ∀ error ∈ ControlCommand.normalizeError success message, storable error = true

/-- The number of audit events an operation is due. -/
def due (leaseMs : Int) (commands : Commands) : StoreOperation → Nat
  | .enqueue _ registered _ _ _ _ => if registered.isSome then 1 else 0
  | .drain agentId now => (commandsOf commands agentId).countP fun command => command.deliverable now leaseMs
  | .ack agentId commandId _ _ _ => if ∃ command ∈ commandsOf commands agentId,
      command.commandId = commandId ∧ command.isTerminal = false then 1 else 0

/-- An operation gives one reply, and is due the same audit events, in both stores. -/
def Agrees (leaseMs : Int) (draws : EventDraws) (operation : StoreOperation) (store : QueueStore)
    (rows : RowStore) : Prop :=
  ∃ reply after table audits, audits.length = due leaseMs store.commands operation ∧
    store.step leaseMs operation = (reply, ⟨after, store.log ++ audits⟩) ∧
    rows.step leaseMs draws operation = (reply, RowStore.insertAudits draws { rows with table := table } audits) ∧
    SameCommands after table ∧ table.rows.map ControlCommand.place =
      rows.table.rows.map ControlCommand.place ++ operation.created.toList.map ControlCommand.place

section Step

variable {leaseMs : Int} {draws : EventDraws} {store : QueueStore} {rows : RowStore}

theorem insertCommand_some {table : CommandRows} {command : ControlCommand}
    (ordered : InSequence (table.rows ++ [command])) : ∃ after, table.insertCommand command = some after := by
  unfold CommandRows.insertCommand
  have fresh : command.commandId ∉ table.rows.map ControlCommand.commandId := by
    have ids := ordered.ids
    rw [List.map_append] at ids
    intro taken
    exact (List.nodup_append.mp ids).2.2 _ taken _ (by simp) rfl
  rw [dif_neg fresh]
  exact ⟨_, rfl⟩

theorem enqueue_agrees (same : SameCommands store.commands rows.table) {agentId commandId reason : String}
    {registered : Option String} {kind : CommandKind} {now : Int}
    (ordered : InSequence (rows.table.rows ++
      (StoreOperation.enqueue agentId registered commandId kind reason now).created.toList))
    (sendable : Sendable store.commands (.enqueue agentId registered commandId kind reason now)) :
    Agrees leaseMs draws (.enqueue agentId registered commandId kind reason now) store rows := by
  obtain ⟨name, texts⟩ := sendable
  cases registered with
  | none =>
    refine ⟨.notFound, store.commands, rows.table, [], rfl, ?_, ?_, same, (List.append_nil _).symm⟩
    · rw [List.append_nil]
      rfl
    · simp only [RowStore.step, name, if_true]
      rfl
  | some tenantId =>
    obtain ⟨id, tenant, text⟩ := texts tenantId rfl
    obtain ⟨after, inserted⟩ := insertCommand_some ordered
    refine ⟨_, _, after, _, rfl, rfl, ?_, same.enqueue inserted, ?_⟩
    · simp only [RowStore.step, name, id, tenant, text, Bool.and_self, if_true, inserted]
    · rw [CommandRows.insertCommand_rows inserted, List.map_append]
      rfl

theorem drain_agrees (same : SameCommands store.commands rows.table) (ordered : InSequence rows.table.rows)
    {agentId : String} {now : Int} (sendable : Sendable store.commands (.drain agentId now)) :
    Agrees leaseMs draws (.drain agentId now) store rows := by
  obtain ⟨delivered, left⟩ := same.drain ordered agentId now leaseMs
  refine ⟨.commands (drain agentId now leaseMs store.commands).1, (drain agentId now leaseMs store.commands).2,
    (rows.table.drainCommands agentId now leaseMs).2, (drain agentId now leaseMs store.commands).1.map
      (ControlCommand.audit "command.delivered" agentId), ?_, rfl, ?_, left, ?_⟩
  · rw [List.length_map, same.drain_delivered, List.length_map, due, same agentId, List.countP_eq_length_filter]
  · have name : storable agentId = true := sendable
    simp only [RowStore.step, name, if_true, delivered]
  · rw [CommandRows.drainCommands_rows]
    refine (map_place ?_).trans (List.append_nil _).symm
    intro row _
    split_ifs <;> rfl

/-- Without an open command an acknowledgement changes nothing. -/
theorem due_ack_closed {agentId commandId : String} {success : Bool} {message : Option String} {now : Int}
    {commands : Commands} (closed : ∀ command ∈ commandsOf commands agentId, command.commandId = commandId →
      command.isTerminal = true) : due leaseMs commands (.ack agentId commandId success message now) = 0 := by
  apply if_neg
  rintro ⟨command, member, named, unfinished⟩
  rw [closed command member named] at unfinished
  cases unfinished

theorem ack_agrees (same : SameCommands store.commands rows.table) (ordered : InSequence rows.table.rows)
    {agentId commandId : String} {success : Bool} {message : Option String} {now : Int}
    (sendable : Sendable store.commands (.ack agentId commandId success message now)) :
    Agrees leaseMs draws (.ack agentId commandId success message now) store rows := by
  obtain ⟨name, id, error⟩ := sendable
  cases found : rows.table.rows.find? (fun row => row.agentId = agentId ∧ row.commandId = commandId) with
  | none =>
    refine ⟨.notFound, store.commands, rows.table, [], ?_, ?_, ?_, same, (List.append_nil _).symm⟩
    · refine (due_ack_closed ?_).symm
      intro command member named
      rw [same agentId] at member
      obtain ⟨listed, owner⟩ := CommandRows.mem_rowsOf.mp member
      exact absurd (decide_eq_true ⟨owner, named⟩) (List.find?_eq_none.mp found command listed)
    · simp only [QueueStore.step, same.ack_none found, List.append_nil]
    · simp only [RowStore.step, name, id, Bool.and_self, if_true, found]
      rfl
  | some command =>
    obtain ⟨member, named, single⟩ := same.ack_single found
    rw [← same agentId] at member
    cases terminal : command.isTerminal with
    | true =>
      refine ⟨.command command, store.commands, rows.table, [], ?_, ?_, ?_, same, (List.append_nil _).symm⟩
      · refine (due_ack_closed ?_).symm
        intro other also alike
        have equal := List.inj_on_of_nodup_map (same.nodup agentId) also member (alike.trans named.symm)
        rw [equal]
        exact terminal
      · simp only [QueueStore.step, ControlPlane.ack, single, terminal, if_true, List.append_nil]
      · simp only [RowStore.step, name, id, Bool.and_self, if_true, found, terminal]
        rfl
    | false =>
      obtain ⟨after, acknowledged, left, places⟩ := same.ack_open ordered found terminal success message now
      have writable : (ControlCommand.normalizeError success message).all storable = true := by
        rw [Option.all_eq_true]
        exact error command member named terminal
      refine ⟨.command (command.markAcknowledged success message now), after, _,
        [(command.markAcknowledged success message now).audit (ackAction success) agentId], ?_, ?_, ?_, left,
        places.trans (List.append_nil _).symm⟩
      · exact (if_pos ⟨command, member, named, terminal⟩).symm
      · simp only [QueueStore.step, acknowledged]
      · simp only [RowStore.step, name, id, Bool.and_self, if_true, found, terminal, Bool.false_eq_true, if_false,
          writable]

/-- An operation whose texts can be stored does the same to both stores. -/
theorem step_agrees (leaseMs : Int) (draws : EventDraws) (same : SameCommands store.commands rows.table)
    (operation : StoreOperation)
    (ordered : InSequence (rows.table.rows ++ operation.created.toList))
    (sendable : Sendable store.commands operation) : Agrees leaseMs draws operation store rows := by
  cases operation with
  | enqueue agentId registered commandId kind reason now => exact enqueue_agrees same ordered sendable
  | drain agentId now =>
    rw [show (StoreOperation.drain agentId now).created.toList = [] from rfl, List.append_nil] at ordered
    exact drain_agrees same ordered sendable
  | ack agentId commandId success message now =>
    rw [show (StoreOperation.ack agentId commandId success message now).created.toList = [] from rfl,
      List.append_nil] at ordered
    exact ack_agrees same ordered sendable

/-- The process answers every operation. -/
theorem step_not_raised (leaseMs : Int) (same : SameCommands store.commands rows.table) (operation : StoreOperation) :
    (store.step leaseMs operation).1 ≠ .raised := by
  cases operation with
  | enqueue agentId registered commandId kind reason now => cases registered <;> exact StoreReply.noConfusion
  | drain agentId now => exact StoreReply.noConfusion
  | ack agentId commandId success message now =>
    cases found : rows.table.rows.find? (fun row => row.agentId = agentId ∧ row.commandId = commandId) with
    | none =>
      simp only [QueueStore.step, same.ack_none found]
      exact StoreReply.noConfusion
    | some command =>
      obtain ⟨-, -, single⟩ := same.ack_single found
      simp only [QueueStore.step, ControlPlane.ack, single]
      cases command.isTerminal <;> exact StoreReply.noConfusion

/-- A text that cannot be stored makes the operation on the tables end with an exception. -/
theorem step_raised (leaseMs : Int) (draws : EventDraws) (same : SameCommands store.commands rows.table)
    (operation : StoreOperation)
    (unsendable : ¬ Sendable store.commands operation) : (rows.step leaseMs draws operation).1 = .raised := by
  cases operation with
  | enqueue agentId registered commandId kind reason now =>
    simp only [RowStore.step]
    by_cases name : storable agentId = true
    · cases registered with
      | none => exact absurd ⟨name, fun _ none => nomatch none⟩ unsendable
      | some tenantId =>
        have texts : ¬ (storable commandId && storable tenantId && storable reason) = true := by
          intro all
          rw [Bool.and_eq_true, Bool.and_eq_true] at all
          apply unsendable
          refine ⟨name, ?_⟩
          intro other listed
          rw [← Option.some.inj listed]
          exact ⟨all.1.1, all.1.2, all.2⟩
        simp only [name, if_true, if_neg texts]
    · rw [if_neg name]
  | drain agentId now =>
    have name : ¬ storable agentId = true := unsendable
    simp only [RowStore.step, if_neg name]
  | ack agentId commandId success message now =>
    simp only [RowStore.step]
    by_cases names : (storable agentId && storable commandId) = true
    · rw [if_pos names]
      rw [Bool.and_eq_true] at names
      cases found : rows.table.rows.find? (fun row => row.agentId = agentId ∧ row.commandId = commandId) with
      | none =>
        apply absurd _ unsendable
        refine ⟨names.1, names.2, ?_⟩
        intro command member named
        rw [same agentId] at member
        obtain ⟨listed, owner⟩ := CommandRows.mem_rowsOf.mp member
        exact absurd (decide_eq_true ⟨owner, named⟩) (List.find?_eq_none.mp found command listed)
      | some command =>
        obtain ⟨member, named, -⟩ := same.ack_single found
        rw [← same agentId] at member
        have closed : ∀ other ∈ commandsOf store.commands agentId, other.commandId = commandId → other = command :=
          fun other also alike =>
            List.inj_on_of_nodup_map (same.nodup agentId) also member (alike.trans named.symm)
        cases terminal : command.isTerminal with
        | true =>
          apply absurd _ unsendable
          refine ⟨names.1, names.2, ?_⟩
          intro other also alike unfinished
          rw [closed other also alike, terminal] at unfinished
          cases unfinished
        | false =>
          have unwritable : ¬ (ControlCommand.normalizeError success message).all storable = true := by
            intro all
            rw [Option.all_eq_true] at all
            exact unsendable ⟨names.1, names.2, fun _ _ _ _ => all⟩
          simp only [terminal, Bool.false_eq_true, if_false, if_neg unwritable]
    · rw [if_neg names]

end Step

/-! ### Audit rows -/

section Audits

variable {draws : EventDraws} {rows : RowStore}

/-- Events with the ids that are drawn for them from the given one on. -/
def labelled (draws : EventDraws) (start : Nat) (audits : List CommandAudit) : List (Nat × Option CommandAudit) :=
  (audits.zipIdx start).map fun entry => (draws.id entry.2, some entry.1)

theorem labelled_ids (draws : EventDraws) (start : Nat) (audits : List CommandAudit) :
    (labelled draws start audits).map Prod.fst = (List.range' start audits.length).map draws.id := by
  unfold labelled
  rw [List.map_map, ← List.zipIdx_map_snd, List.map_map]
  rfl

theorem labelled_events (draws : EventDraws) (start : Nat) (audits : List CommandAudit) :
    (labelled draws start audits).filterMap Prod.snd = audits := by
  unfold labelled
  rw [List.filterMap_map]
  have events : (fun entry : CommandAudit × Nat => (some entry.1 : Option CommandAudit)) = some ∘ Prod.fst := rfl
  change (audits.zipIdx start).filterMap (fun entry => some entry.1) = audits
  rw [events, ← List.filterMap_map, List.zipIdx_map_fst, List.filterMap_some]

theorem insertAudits_eq (audits : List CommandAudit) :
    RowStore.insertAudits draws rows audits =
      ⟨rows.table, insertAllNew Prod.fst rows.audits (labelled draws rows.drawn audits), rows.drawn + audits.length⟩ := by
  induction audits generalizing rows with
  | nil => rfl
  | cons audit rest ih =>
    change RowStore.insertAudits draws (rows.insertAudit draws audit) rest = _
    rw [ih, List.length_cons, Nat.add_comm rest.length, ← Nat.add_assoc]
    rfl

theorem insertAudits_append (first second : List CommandAudit) :
    RowStore.insertAudits draws rows (first ++ second) =
      RowStore.insertAudits draws (RowStore.insertAudits draws rows first) second :=
  List.foldl_append

/-- The audit events are all recorded exactly when the ids drawn for them are new and different. -/
theorem recorded_iff {earlier : List Nat} (unique : earlier.Nodup) (table : CommandRows) (audits : List CommandAudit) :
    (RowStore.insertAudits draws { RowStore.initial earlier with table := table } audits).recorded = audits ↔
      (earlier ++ (List.range audits.length).map draws.id).Nodup := by
  have ids : ((RowStore.initial earlier).audits).map Prod.fst = earlier := by
    change (earlier.map _).map _ = _
    rw [List.map_map]
    exact List.map_id' earlier
  have others : ((RowStore.initial earlier).audits).filterMap Prod.snd = [] := by
    change (earlier.map _).filterMap _ = _
    rw [List.filterMap_map]
    exact List.filterMap_eq_nil_iff.mpr fun _ _ => rfl
  have all : ((RowStore.initial earlier).audits ++ labelled draws 0 audits).map Prod.fst =
      earlier ++ (List.range audits.length).map draws.id := by
    rw [List.map_append, ids, labelled_ids, List.range_eq_range']
  rw [insertAudits_eq]
  change (insertAllNew Prod.fst (RowStore.initial earlier).audits (labelled draws 0 audits)).filterMap Prod.snd =
    audits ↔ _
  rw [← all]
  constructor
  · intro same
    apply (length_insertAllNew_iff (by rw [ids]; exact unique)).mp
    obtain ⟨kept, grown, among⟩ := exists_kept Prod.fst (RowStore.initial earlier).audits (labelled draws 0 audits)
    rw [grown, List.filterMap_append, others, List.nil_append] at same
    have most := among.length_le
    have least := List.length_filterMap_le Prod.snd kept
    have size : (labelled draws 0 audits).length = audits.length := by
      rw [labelled, List.length_map, List.length_zipIdx]
    rw [same] at least
    rw [grown, List.length_append]
    omega
  · intro apart
    rw [insertAllNew_of_nodup apart, List.filterMap_append, others, labelled_events, List.nil_append]

end Audits

/-! ### Every sequence of operations -/

/-- Every operation of the sequence sends texts that can be stored, in the state it comes to. -/
def AllSendable (leaseMs : Int) : List StoreOperation → QueueStore → Prop
  | [], _ => True
  | operation :: rest, store =>
      Sendable store.commands operation ∧ AllSendable leaseMs rest (store.step leaseMs operation).2

def dueAll (leaseMs : Int) : List StoreOperation → QueueStore → Nat
  | [], _ => 0
  | operation :: rest, store =>
      due leaseMs store.commands operation + dueAll leaseMs rest (store.step leaseMs operation).2

section Runs

/-- The rows of the table and the commands still to come are in order behind an operation, too. -/
theorem inSequence_next {operation : StoreOperation} {rest : List StoreOperation} {table next : CommandRows}
    (ordered : InSequence (table.rows ++ (operation :: rest).filterMap StoreOperation.created))
    (places : next.rows.map ControlCommand.place =
      table.rows.map ControlCommand.place ++ operation.created.toList.map ControlCommand.place) :
    InSequence (next.rows ++ rest.filterMap StoreOperation.created) := by
  have split : (operation :: rest).filterMap StoreOperation.created =
      operation.created.toList ++ rest.filterMap StoreOperation.created := by
    rw [List.filterMap_cons]
    cases operation.created <;> rfl
  unfold InSequence at *
  rw [List.map_append, places, ← List.map_append, ← List.map_append, List.append_assoc, ← split]
  exact ordered

theorem inSequence_now {operation : StoreOperation} {rest : List StoreOperation} {table : CommandRows}
    (ordered : InSequence (table.rows ++ (operation :: rest).filterMap StoreOperation.created)) :
    InSequence (table.rows ++ operation.created.toList) := by
  refine List.Pairwise.sublist (List.Sublist.map _ ?_) ordered
  apply List.Sublist.append_left
  rw [List.filterMap_cons]
  cases operation.created with
  | none => exact List.nil_sublist _
  | some command => exact List.Sublist.cons_cons _ (List.nil_sublist _)

/-- The replies are the same exactly when every text can be stored, and then the same audit events
are due. -/
theorem run_agrees (leaseMs : Int) (draws : EventDraws) (operations : List StoreOperation) (store : QueueStore)
    (rows : RowStore)
    (same : SameCommands store.commands rows.table)
    (ordered : InSequence (rows.table.rows ++ operations.filterMap StoreOperation.created)) :
    ((runStore (QueueStore.step leaseMs) operations store).1 =
        (runStore (RowStore.step leaseMs draws) operations rows).1 ↔ AllSendable leaseMs operations store) ∧
      (AllSendable leaseMs operations store → ∃ table audits, audits.length = dueAll leaseMs operations store ∧
        (runStore (QueueStore.step leaseMs) operations store).2.log = store.log ++ audits ∧
        (runStore (RowStore.step leaseMs draws) operations rows).2 =
          RowStore.insertAudits draws { rows with table := table } audits) := by
  induction operations generalizing store rows with
  | nil => exact ⟨iff_of_true rfl trivial, fun _ => ⟨rows.table, [], rfl, (List.append_nil _).symm, rfl⟩⟩
  | cons operation rest ih =>
    by_cases sendable : Sendable store.commands operation
    · obtain ⟨reply, after, table, audits, size, left, right, still, places⟩ :=
        step_agrees leaseMs draws same operation (inSequence_now ordered) sendable
      have next := inSequence_next ordered places
      have keeps : (RowStore.insertAudits draws { rows with table := table } audits).table = table := by
        rw [insertAudits_eq]
      obtain ⟨replies, recorded⟩ := ih ⟨after, store.log ++ audits⟩
        (RowStore.insertAudits draws { rows with table := table } audits) (by rw [keeps]; exact still)
        (by rw [keeps]; exact next)
      simp only [runStore, left, right, AllSendable, dueAll, sendable, true_and]
      constructor
      · rw [List.cons.injEq, ← replies]
        exact and_iff_right rfl
      · intro sendables
        obtain ⟨last, later, count, log, tables⟩ := recorded sendables
        refine ⟨last, audits ++ later, ?_, ?_, ?_⟩
        · rw [List.length_append, size, count]
        · rw [log, List.append_assoc]
        · rw [tables, insertAudits_eq, insertAudits_eq, insertAudits_append, insertAudits_eq, insertAudits_eq]
    · have answered := step_not_raised leaseMs same operation
      have raised := step_raised leaseMs draws same operation sendable
      constructor
      · apply iff_of_false
        · intro replies
          simp only [runStore, List.cons.injEq] at replies
          exact answered (replies.1.trans raised)
        · exact fun all => sendable all.1
      · exact fun all => absurd all.1 sendable

/-- The two stores reply alike to every operation, and record the same audit events of commands. -/
def StoresAgree (leaseMs : Int) (draws : EventDraws) (earlier : List Nat) (operations : List StoreOperation) : Prop :=
  (runStore (QueueStore.step leaseMs) operations .initial).1 =
      (runStore (RowStore.step leaseMs draws) operations (.initial earlier)).1 ∧
    (runStore (QueueStore.step leaseMs) operations .initial).2.log =
      (runStore (RowStore.step leaseMs draws) operations (.initial earlier)).2.recorded

/-- With commands that have different ids and come one after the other: the stores agree if and only
if every text sent to the database can be stored there and the ids drawn for the audit events are
different from each other and from those of earlier events. -/
theorem stores_agree_iff (leaseMs : Int) (draws : EventDraws) {earlier : List Nat} (unique : earlier.Nodup)
    {operations : List StoreOperation}
    (distinct : ((operations.filterMap StoreOperation.created).map ControlCommand.commandId).Nodup)
    (increasing : ((operations.filterMap StoreOperation.created).map ControlCommand.insertedAt).Pairwise (· < ·)) :
    StoresAgree leaseMs draws earlier operations ↔
      AllSendable leaseMs operations .initial ∧
        (earlier ++ (List.range (dueAll leaseMs operations .initial)).map draws.id).Nodup := by
  have ordered : InSequence ((RowStore.initial earlier).table.rows ++ operations.filterMap StoreOperation.created) := by
    apply List.pairwise_map.mpr
    exact (List.pairwise_map.mp distinct).and (List.pairwise_map.mp increasing)
  obtain ⟨replies, recorded⟩ := run_agrees leaseMs draws operations .initial (.initial earlier)
    (fun _ => rfl) ordered
  unfold StoresAgree
  rw [replies]
  apply and_congr_right
  intro sendable
  obtain ⟨table, audits, count, log, rows⟩ := recorded sendable
  rw [log, rows, ← count, ← recorded_iff unique table]
  exact eq_comm

instance (commands : Commands) (operation : StoreOperation) : Decidable (Sendable commands operation) :=
  match operation with
  | .enqueue agentId registered commandId _ reason _ =>
      inferInstanceAs (Decidable (storable agentId = true ∧
        ∀ tenantId ∈ registered, storable commandId = true ∧ storable tenantId = true ∧ storable reason = true))
  | .drain agentId _ => inferInstanceAs (Decidable (storable agentId = true))
  | .ack agentId commandId success message _ =>
      inferInstanceAs (Decidable (storable agentId = true ∧ storable commandId = true ∧
        ∀ command ∈ commandsOf commands agentId, command.commandId = commandId → command.isTerminal = false →
          ∀ error ∈ ControlCommand.normalizeError success message, storable error = true))

instance decidableAllSendable (leaseMs : Int) : ∀ (operations : List StoreOperation) (store : QueueStore),
    Decidable (AllSendable leaseMs operations store)
  | [], _ => isTrue trivial
  | operation :: rest, store =>
      have := decidableAllSendable leaseMs rest (store.step leaseMs operation).2
      inferInstanceAs (Decidable (_ ∧ _))

/-- A command is enqueued, delivered, delivered again when its lease runs out, and fails twice. -/
def failingRun (message : String) : List StoreOperation :=
  [.enqueue "agent-1" (some "payments") "cmd-1" .pauseExports "upgrade" 1, .drain "agent-1" 2,
    .drain "agent-1" 30000002, .ack "agent-1" "cmd-1" false (some message) 30000003,
    .ack "agent-1" "cmd-1" true none 30000004, .ack "agent-2" "cmd-1" true none 30000005]

theorem stores_agree_failing :
    StoresAgree 30000 (fun n => (5000, n)) [4999001, 4999002] (failingRun " out of memory ") :=
  (stores_agree_iff 30000 (fun n => (5000, n)) (by decide) (by decide) (by decide)).mpr
    ⟨by decide +kernel, by decide +kernel⟩

/-- An acknowledgement with a null character in its message is answered by the one store and not by
the other. Of two audit events with one clock reading, and integers that agree in their last three
digits, the second one is not recorded. -/
theorem stores_disagree :
    ¬ StoresAgree 30000 (fun n => (5000, n)) [] (failingRun (String.ofList [Char.ofNat 0])) ∧
      ¬ StoresAgree 30000 (fun n => (5000, 1000 * n + 7)) []
        [.enqueue "agent-1" (some "payments") "cmd-1" .pauseExports "upgrade" 1,
          .enqueue "agent-2" (some "payments") "cmd-2" .pauseExports "upgrade" 2] := by
  constructor
  · intro agree
    exact absurd agree.1 (by decide +kernel)
  · intro agree
    exact absurd agree.2 (by decide +kernel)

end Runs

end TelemetryFabric.ControlPlane
