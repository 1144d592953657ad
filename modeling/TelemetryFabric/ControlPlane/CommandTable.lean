import TelemetryFabric.ControlPlane.CommandQueue

/-!
The commands as rows of a PostgreSQL table, with one transaction after another. The primary key
is the id of the command: a row that would take the id of another one is not inserted.
-/

namespace TelemetryFabric.ControlPlane
open Library

structure CommandRows where
  rows : List ControlCommand
  unique : (rows.map ControlCommand.commandId).Nodup
  deriving DecidableEq

namespace CommandRows

def empty : CommandRows := ⟨[], List.nodup_nil⟩

def rowsOf (table : CommandRows) (agentId : String) : List ControlCommand :=
  table.rows.filter fun row => row.agentId = agentId

/-- `insert_command!`. -/
def insertCommand (command : ControlCommand) (table : CommandRows) : Option CommandRows :=
  if taken : command.commandId ∈ table.rows.map ControlCommand.commandId then none
  else some ⟨table.rows ++ [command], by
    rw [List.map_append, List.nodup_append]
    refine ⟨table.unique, List.nodup_singleton _, ?_⟩
    intro id old new member same
    obtain rfl := List.mem_singleton.mp member
    exact taken (same ▸ old)⟩

/-- `update_all`, of columns other than the primary key. -/
def updateAll (table : CommandRows) (concerned : ControlCommand → Bool) (change : ControlCommand → ControlCommand)
    (keeps : ∀ row, (change row).commandId = row.commandId) : CommandRows :=
  ⟨table.rows.map fun row => if concerned row then change row else row, by
    have same : (table.rows.map fun row => if concerned row then change row else row).map
        ControlCommand.commandId = table.rows.map ControlCommand.commandId := by
      rw [List.map_map]
      apply List.map_congr_left
      intro row _
      dsimp only [Function.comp]
      split_ifs
      · exact keeps row
      · rfl
    rw [same]
    exact table.unique⟩

/-- The rows a drain selects. -/
def drainable (agentId : String) (leaseDeadline : Int) (row : ControlCommand) : Bool :=
  row.agentId == agentId && (row.status == .pending || (row.status == .delivered &&
    match row.deliveredAt with
    | none => true
    | some deliveredAt => decide (deliveredAt ≤ leaseDeadline)))

def drainCommands (agentId : String) (deliveredAt leaseMs : Int) (table : CommandRows) :
    List ControlCommand × CommandRows :=
  let leaseDeadline := deliveredAt - leaseMs * 1000
  let pending := (table.rows.filter (drainable agentId leaseDeadline)).mergeSort ControlCommand.sortsBefore
  let ids := pending.map ControlCommand.commandId
  (pending.map fun row => row.markDelivered deliveredAt,
    table.updateAll (fun row => row.commandId ∈ ids) (fun row => row.markDelivered deliveredAt) fun _ => rfl)

def ackCommand (agentId commandId : String) (success : Bool) (message : Option String) (acknowledgedAt : Int)
    (table : CommandRows) : AckReply × CommandRows :=
  match table.rows.find? fun row => row.agentId = agentId ∧ row.commandId = commandId with
  | none => (.notFound, table)
  | some command =>
      if command.isTerminal then (.ok command, table)
      else (.ok (command.markAcknowledged success message acknowledgedAt),
        table.updateAll (fun row => row.commandId = commandId)
          (fun row => row.markAcknowledged success message acknowledgedAt) fun _ => rfl)

/-! ### What the transactions read and leave -/

variable {table : CommandRows} {agentId : String} {command row : ControlCommand}

theorem mem_rowsOf : row ∈ table.rowsOf agentId ↔ row ∈ table.rows ∧ row.agentId = agentId := by
  unfold rowsOf
  rw [List.mem_filter, decide_eq_true_iff]

/-- There is one row under an id. -/
theorem same_of_id (member : command ∈ table.rows) (also : row ∈ table.rows)
    (same : command.commandId = row.commandId) : command = row :=
  List.inj_on_of_nodup_map table.unique member also same

theorem insertCommand_rows {after : CommandRows} (inserted : table.insertCommand command = some after) :
    after.rows = table.rows ++ [command] := by
  unfold insertCommand at inserted
  split_ifs at inserted
  cases inserted
  rfl

theorem drainable_open {leaseDeadline : Int} (selected : drainable agentId leaseDeadline row = true) :
    row.agentId = agentId ∧ row.isTerminal = false := by
  unfold drainable at selected
  simp only [Bool.and_eq_true, beq_iff_eq, Bool.or_eq_true] at selected
  obtain ⟨named, status⟩ := selected
  refine ⟨named, ?_⟩
  rcases status with pending | ⟨delivered, -⟩
  · simp [ControlCommand.isTerminal, pending]
  · simp [ControlCommand.isTerminal, delivered]

theorem mem_drained {deliveredAt leaseMs : Int} :
    command ∈ (table.drainCommands agentId deliveredAt leaseMs).1 ↔
      ∃ row ∈ table.rows, drainable agentId (deliveredAt - leaseMs * 1000) row = true ∧
        row.markDelivered deliveredAt = command := by
  simp only [drainCommands, List.mem_map, List.mem_mergeSort, List.mem_filter, and_assoc]

/-- A drain marks the rows it selects. -/
theorem drainCommands_rows (deliveredAt leaseMs : Int) :
    (table.drainCommands agentId deliveredAt leaseMs).2.rows = table.rows.map fun row =>
      if drainable agentId (deliveredAt - leaseMs * 1000) row then row.markDelivered deliveredAt else row := by
  apply List.map_congr_left
  intro row member
  apply if_congr _ rfl rfl
  rw [decide_eq_true_iff, List.mem_map]
  constructor
  · rintro ⟨other, listed, same⟩
    obtain ⟨also, selected⟩ := List.mem_filter.mp (List.mem_mergeSort.mp listed)
    exact same_of_id also member same ▸ selected
  · intro selected
    exact ⟨row, List.mem_mergeSort.mpr (List.mem_filter.mpr ⟨member, selected⟩), rfl⟩

/-- The row an acknowledgement finds, with what it replies and leaves. -/
theorem ackCommand_cases (agentId commandId : String) (success : Bool) (message : Option String) (now : Int)
    (table : CommandRows) :
    table.ackCommand agentId commandId success message now = (.notFound, table) ∨
    ∃ row ∈ table.rows, row.agentId = agentId ∧ row.commandId = commandId ∧
      (row.isTerminal = true ∧ table.ackCommand agentId commandId success message now = (.ok row, table) ∨
      row.isTerminal = false ∧ table.ackCommand agentId commandId success message now =
        (.ok (row.markAcknowledged success message now), table.updateAll (fun row => row.commandId = commandId)
          (fun row => row.markAcknowledged success message now) fun _ => rfl)) := by
  unfold ackCommand
  cases found : table.rows.find? fun row => row.agentId = agentId ∧ row.commandId = commandId with
  | none => exact Or.inl rfl
  | some row =>
    have named := List.find?_some found
    rw [decide_eq_true_iff] at named
    refine Or.inr ⟨row, List.mem_of_find?_eq_some found, named.1, named.2, ?_⟩
    cases terminal : row.isTerminal with
    | true => exact Or.inl ⟨rfl, by simp [terminal]⟩
    | false => exact Or.inr ⟨rfl, by simp [terminal]⟩

end CommandRows

end TelemetryFabric.ControlPlane
