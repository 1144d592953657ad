import TelemetryFabric.ControlPlane.CommandStores
import TelemetryFabric.Library.RowLocks
import Mathlib.Data.Prod.Lex
import Mathlib.Data.String.Basic

/-!
Heartbeats and acknowledgements of any number of replicas at a time, over the commands of one
database. A drain selects the commands it may deliver for update: it locks them in their order,
and delivers those that it still may when it has the lock. The replicas read their own clocks and
their own settings of the lease.
-/

namespace TelemetryFabric.ControlPlane
open Library

def defaultCommandLeaseMs : Int := 30000

/-- `command_lease_ms`, of the environment variable; `Integer.parse` may not leave anything behind. -/
def commandLeaseMs (setting : Option String) : Int :=
  match setting.bind fun value => parseInteger value.toList with
  | some lease => if 0 < lease then lease else defaultCommandLeaseMs
  | none => defaultCommandLeaseMs

theorem commandLeaseMs_pos (setting : Option String) : 0 < commandLeaseMs setting := by
  unfold commandLeaseMs
  split
  next lease _ =>
    split_ifs with positive
    · exact positive
    · decide
  next => decide

/-- Commands are ordered by the time they were inserted, then by their id. -/
def ControlCommand.rank (command : ControlCommand) : Int ×ₗ String := toLex (command.insertedAt, command.commandId)

theorem ControlCommand.same_of_rank (first second : ControlCommand) (same : first.rank = second.rank) :
    first.commandId = second.commandId :=
  congrArg Prod.snd (toLex.injective same)

theorem ControlCommand.commandId_markDelivered (deliveredAt : Int) (row : ControlCommand) :
    (row.markDelivered deliveredAt).commandId = row.commandId := rfl

theorem ControlCommand.rank_markDelivered (deliveredAt : Int) (row : ControlCommand) :
    (row.markDelivered deliveredAt).rank = row.rank := rfl

theorem ControlCommand.commandId_markAcknowledged (success : Bool) (message : Option String) (acknowledgedAt : Int)
    (row : ControlCommand) :
    (if row.isTerminal then row else row.markAcknowledged success message acknowledgedAt).commandId = row.commandId := by
  split_ifs <;> rfl

theorem ControlCommand.rank_markAcknowledged (success : Bool) (message : Option String) (acknowledgedAt : Int)
    (row : ControlCommand) :
    (if row.isTerminal then row else row.markAcknowledged success message acknowledgedAt).rank = row.rank := by
  split_ifs <;> rfl

/-! ### The transactions -/

inductive CommandCall where
  | drain (agentId : String) (deliveredAt : Int) (leaseSetting : Option String)
  | ack (agentId commandId : String) (success : Bool) (message : Option String) (acknowledgedAt : Int)
  deriving DecidableEq

/-- The rows that `drain_commands` and `ack_command` select for update, and what they set. An
acknowledgement of a command that has one leaves it as it is. -/
def CommandCall.change : CommandCall → RowChange ControlCommand.commandId ControlCommand.rank
  | .drain agentId deliveredAt leaseSetting =>
      ⟨CommandRows.drainable agentId (deliveredAt - commandLeaseMs leaseSetting * 1000),
        fun row => row.markDelivered deliveredAt, ControlCommand.commandId_markDelivered deliveredAt,
        ControlCommand.rank_markDelivered deliveredAt⟩
  | .ack agentId commandId success message acknowledgedAt =>
      ⟨fun row => row.agentId == agentId && row.commandId == commandId,
        fun row => if row.isTerminal then row else row.markAcknowledged success message acknowledgedAt,
        ControlCommand.commandId_markAcknowledged success message acknowledgedAt,
        ControlCommand.rank_markAcknowledged success message acknowledgedAt⟩

abbrev CommandTables := LockedTable CommandCall ControlCommand String

abbrev CommandCommit := RowCommit CommandCall ControlCommand

namespace CommandCommit

/-- What a call that has committed replies, from the rows it took. -/
def reply (commit : CommandCommit) : List ControlCommand := commit.taken.map commit.call.change.set

/-- A heartbeat was answered with the command. -/
def Delivers (commit : CommandCommit) (agentId commandId : String) (deliveredAt : Int)
    (leaseSetting : Option String) : Prop :=
  commit.call = .drain agentId deliveredAt leaseSetting ∧ ∃ command ∈ commit.reply, command.commandId = commandId

/-- An acknowledgement was answered with the command. -/
def Acknowledges (commit : CommandCommit) (command : ControlCommand) : Prop :=
  ∃ agentId commandId success message acknowledgedAt,
    commit.call = .ack agentId commandId success message acknowledgedAt ∧ command ∈ commit.reply

end CommandCommit

namespace CommandTables

abbrev step (tables : CommandTables) (event : RowEvent CommandCall ControlCommand) : Option CommandTables :=
  LockedTable.step ControlCommand.commandId ControlCommand.rank CommandCall.change tables event

/-- `ControlCommand.new`, of an agent that is registered. -/
def IsNew (command : ControlCommand) : Prop :=
  ∃ commandId agentId tenantId kind reason now, command = newCommand commandId agentId tenantId kind reason now

/-- Only `enqueue_command` inserts rows. -/
def Enqueues (_ : CommandTables) (event : RowEvent CommandCall ControlCommand) : Prop :=
  ∀ command, event = .inserts command → IsNew command

/-- Whatever calls of whatever replicas have come to. -/
abbrev Reached (tables : CommandTables) : Prop := Reaches step Enqueues .initial tables

end CommandTables

/-! ### One command -/

namespace CommandCommit

variable {commit : CommandCommit} {agentId commandId : String} {deliveredAt : Int} {leaseSetting : Option String}
  {command : ControlCommand}

theorem mem_reply : command ∈ commit.reply ↔ ∃ row ∈ commit.taken, commit.call.change.set row = command := List.mem_map

theorem id_of_mem_reply (replied : command ∈ commit.reply) :
    command.commandId ∈ commit.taken.map ControlCommand.commandId := by
  obtain ⟨row, taken, same⟩ := mem_reply.mp replied
  rw [← same, commit.call.change.keeps_key row]
  exact List.mem_map_of_mem taken

theorem Delivers.takes (delivers : commit.Delivers agentId commandId deliveredAt leaseSetting) :
    commandId ∈ commit.taken.map ControlCommand.commandId := by
  obtain ⟨-, command, replied, named⟩ := delivers
  exact named ▸ id_of_mem_reply replied

theorem Acknowledges.takes (acknowledges : commit.Acknowledges command) :
    command.commandId ∈ commit.taken.map ControlCommand.commandId := by
  obtain ⟨_, _, _, _, _, -, replied⟩ := acknowledges
  exact id_of_mem_reply replied

end CommandCommit

/-- What the calls that have committed say of a command, and where its row is now. -/
structure History (commandId : String) (log : List CommandCommit) (row : ControlCommand) : Prop where
  delivered : ∀ commit ∈ log, ∀ agentId deliveredAt leaseSetting,
    commit.Delivers agentId commandId deliveredAt leaseSetting →
      row.agentId = agentId ∧ row.status ≠ .pending ∧ ∃ last, row.deliveredAt = some last ∧ deliveredAt ≤ last
  acknowledged : ∀ commit ∈ log, ∀ command, commit.Acknowledges command → command.commandId = commandId →
    command = row ∧ row.isTerminal = true
  leased : log.Pairwise fun first second => ∀ agentId deliveredAt leaseSetting otherId laterAt laterSetting,
    first.Delivers agentId commandId deliveredAt leaseSetting → second.Delivers otherId commandId laterAt laterSetting →
      deliveredAt + commandLeaseMs laterSetting * 1000 ≤ laterAt
  finished : log.Pairwise fun first second => ∀ command, first.Acknowledges command → command.commandId = commandId →
    ∀ agentId deliveredAt leaseSetting, ¬ second.Delivers agentId commandId deliveredAt leaseSetting

namespace History

variable {commandId : String} {log : List CommandCommit} {row : ControlCommand} {commit : CommandCommit}

theorem empty : History commandId [] row := by
  refine ⟨?_, ?_, .nil, .nil⟩
  · intro commit member
    cases member
  · intro commit member
    cases member

/-- A call that has not taken the command says nothing of it. -/
theorem passes (history : History commandId log row)
    (others : commandId ∉ commit.taken.map ControlCommand.commandId) : History commandId (log ++ [commit]) row := by
  refine ⟨?_, ?_, ?_, ?_⟩
  · intro other member agentId deliveredAt leaseSetting delivers
    rcases List.mem_append.mp member with earlier | last
    · exact history.delivered other earlier agentId deliveredAt leaseSetting delivers
    · rw [List.mem_singleton.mp last] at delivers
      exact absurd delivers.takes others
  · intro other member command acknowledges named
    rcases List.mem_append.mp member with earlier | last
    · exact history.acknowledged other earlier command acknowledges named
    · rw [List.mem_singleton.mp last] at acknowledges
      exact absurd (named ▸ acknowledges.takes) others
  · apply List.pairwise_append.mpr
    refine ⟨history.leased, List.pairwise_singleton _ _, ?_⟩
    intro first _ second last agentId deliveredAt leaseSetting otherId laterAt laterSetting _ late
    rw [List.mem_singleton.mp last] at late
    exact absurd late.takes others
  · apply List.pairwise_append.mpr
    refine ⟨history.finished, List.pairwise_singleton _ _, ?_⟩
    intro first _ second last command _ _ agentId deliveredAt leaseSetting late
    rw [List.mem_singleton.mp last] at late
    exact absurd late.takes others

/-- A drain takes a command that is not finished and whose lease has run out. -/
theorem delivers (history : History commandId log row) {agentId : String} {deliveredAt : Int}
    {leaseSetting : Option String} (kind : commit.call = .drain agentId deliveredAt leaseSetting)
    (wanted : CommandRows.drainable agentId (deliveredAt - commandLeaseMs leaseSetting * 1000) row = true) :
    History commandId (log ++ [commit]) (row.markDelivered deliveredAt) := by
  obtain ⟨owner, unfinished⟩ := CommandRows.drainable_open wanted
  have only : ∀ {otherId laterAt laterSetting}, commit.Delivers otherId commandId laterAt laterSetting →
      otherId = agentId ∧ laterAt = deliveredAt ∧ laterSetting = leaseSetting := by
    rintro otherId laterAt laterSetting ⟨same, -⟩
    rw [kind] at same
    cases same
    exact ⟨rfl, rfl, rfl⟩
  have expired : ∀ other ∈ log, ∀ {earlierId earlierAt earlierSetting},
      other.Delivers earlierId commandId earlierAt earlierSetting →
        earlierId = agentId ∧ earlierAt + commandLeaseMs leaseSetting * 1000 ≤ deliveredAt := by
    intro other member earlierId earlierAt earlierSetting delivers
    obtain ⟨named, started, last, there, bound⟩ := history.delivered other member _ _ _ delivers
    have passed : last ≤ deliveredAt - commandLeaseMs leaseSetting * 1000 := by
      unfold CommandRows.drainable at wanted
      simp only [there, Bool.and_eq_true, beq_iff_eq, Bool.or_eq_true, decide_eq_true_iff] at wanted
      exact (wanted.2.resolve_left started).2
    exact ⟨named.symm.trans owner, by omega⟩
  have open_ : ∀ other ∈ log, ∀ command, other.Acknowledges command → command.commandId ≠ commandId := by
    intro other member command acknowledges named
    rw [(history.acknowledged other member command acknowledges named).2] at unfinished
    cases unfinished
  refine ⟨?_, ?_, ?_, ?_⟩
  · intro other member otherId otherAt otherSetting delivers
    refine ⟨?_, CommandStatus.noConfusion, deliveredAt, rfl, ?_⟩
    · rcases List.mem_append.mp member with earlier | last
      · exact owner.trans (expired other earlier delivers).1.symm
      · rw [List.mem_singleton.mp last] at delivers
        exact owner.trans (only delivers).1.symm
    · rcases List.mem_append.mp member with earlier | last
      · have later := (expired other earlier delivers).2
        have positive := commandLeaseMs_pos leaseSetting
        omega
      · rw [List.mem_singleton.mp last] at delivers
        exact le_of_eq (only delivers).2.1
  · intro other member command acknowledges named
    rcases List.mem_append.mp member with earlier | last
    · exact absurd named (open_ other earlier command acknowledges)
    · rw [List.mem_singleton.mp last] at acknowledges
      obtain ⟨_, _, _, _, _, same, -⟩ := acknowledges
      rw [kind] at same
      cases same
  · apply List.pairwise_append.mpr
    refine ⟨history.leased, List.pairwise_singleton _ _, ?_⟩
    intro first earlier second last _ _ _ otherId laterAt laterSetting early late
    rw [List.mem_singleton.mp last] at late
    obtain ⟨-, rfl, rfl⟩ := only late
    exact (expired first earlier early).2
  · apply List.pairwise_append.mpr
    refine ⟨history.finished, List.pairwise_singleton _ _, ?_⟩
    intro first earlier second _ command acknowledges named
    exact absurd named (open_ first earlier command acknowledges)

/-- An acknowledgement finishes a command, unless it is finished. -/
theorem acknowledges (history : History commandId log row) {agentId ackedId : String} {success : Bool}
    {message : Option String} {acknowledgedAt : Int}
    (kind : commit.call = .ack agentId ackedId success message acknowledgedAt)
    (only : ∀ other ∈ commit.taken, other.commandId = commandId → other = row) :
    History commandId (log ++ [commit])
      (if row.isTerminal then row else row.markAcknowledged success message acknowledgedAt) := by
  have set_eq : ∀ command : ControlCommand, commit.call.change.set command =
      if command.isTerminal then command else command.markAcknowledged success message acknowledgedAt := by
    intro command
    rw [kind]
    rfl
  have never : ∀ {otherId laterAt laterSetting}, ¬ commit.Delivers otherId commandId laterAt laterSetting := by
    rintro otherId laterAt laterSetting ⟨same, -⟩
    rw [kind] at same
    cases same
  refine ⟨?_, ?_, ?_, ?_⟩
  · intro other member otherId deliveredAt leaseSetting delivers
    rcases List.mem_append.mp member with earlier | last
    · obtain ⟨owner, started, there⟩ := history.delivered other earlier _ _ _ delivers
      split_ifs
      · exact ⟨owner, started, there⟩
      · refine ⟨owner, ?_, there⟩
        unfold ControlCommand.markAcknowledged
        cases success <;> exact CommandStatus.noConfusion
    · rw [List.mem_singleton.mp last] at delivers
      exact absurd delivers never
  · intro other member command acknowledges also
    rcases List.mem_append.mp member with earlier | last
    · obtain ⟨same, terminal⟩ := history.acknowledged other earlier command acknowledges also
      rw [if_pos terminal]
      exact ⟨same, terminal⟩
    · rw [List.mem_singleton.mp last] at acknowledges
      obtain ⟨_, _, _, _, _, -, replied⟩ := acknowledges
      obtain ⟨old, taken, same⟩ := CommandCommit.mem_reply.mp replied
      have this_row : old = row := by
        apply only old taken
        rw [← commit.call.change.keeps_key old, same, also]
      rw [this_row, set_eq] at same
      refine ⟨same.symm, ?_⟩
      split_ifs with terminal
      · exact terminal
      · unfold ControlCommand.markAcknowledged ControlCommand.isTerminal
        cases success <;> rfl
  · apply List.pairwise_append.mpr
    refine ⟨history.leased, List.pairwise_singleton _ _, ?_⟩
    intro first _ second last _ _ _ otherId laterAt laterSetting _ late
    rw [List.mem_singleton.mp last] at late
    exact absurd late never
  · apply List.pairwise_append.mpr
    refine ⟨history.finished, List.pairwise_singleton _ _, ?_⟩
    intro first _ second last command _ _ otherId laterAt laterSetting late
    rw [List.mem_singleton.mp last] at late
    exact never late

/-- Whatever has become of a command came of one transaction after another. -/
theorem of_replays {first : ControlCommand} (replays : Replays CommandCall.change commandId first log row) :
    History commandId log row := by
  induction replays with
  | inserted => exact .empty
  | passes earlier others ih => exact ih.passes others
  | @takes log row commit earlier named taken only wanted ih =>
    cases kind : commit.call with
    | drain agentId deliveredAt leaseSetting =>
      rw [kind] at wanted
      exact ih.delivers kind wanted
    | ack agentId ackedId success message acknowledgedAt => exact ih.acknowledges kind only

end History

/-! ### All commands -/

namespace CommandTables

variable {tables : CommandTables}

theorem Reached.serial (reached : tables.Reached) : tables.Serial CommandCall.change IsNew := by
  apply LockedTable.Serial.reached ControlCommand.same_of_rank _ LockedTable.Serial.empty reached
  intro _ command enqueues
  exact enqueues command rfl

/-- A command that a call has taken is there, with its history. -/
theorem Reached.history (reached : tables.Reached) {commit : CommandCommit} (logged : commit ∈ tables.log)
    {commandId : String} (taken : commandId ∈ commit.taken.map ControlCommand.commandId) :
    ∃ row ∈ tables.rows, row.commandId = commandId ∧ History commandId tables.log row := by
  obtain ⟨old, member, named⟩ := List.mem_map.mp taken
  have known := reached.serial.logged commit logged old member
  obtain ⟨row, listed, same⟩ := List.mem_map.mp known
  obtain ⟨first, -, replays⟩ := reached.serial.replayed row listed
  rw [same, named] at replays
  exact ⟨row, listed, same.trans named, .of_replays replays⟩

/-- Two replicas answer heartbeats of an agent at the same time, and one of them again after the
lease, before the command is acknowledged twice. An acknowledgement of another command waits for a drain. -/
def replicaCalls : List (RowEvent CommandCall ControlCommand) :=
  [.inserts (newCommand "cmd-1" "agent-1" "acme" .pauseExports "" 1),
    .begins (.drain "agent-1" 10 none), .begins (.drain "agent-1" 20 (some "60000")), .locks 0, .commits 0, .locks 1,
    .commits 1, .begins (.drain "agent-1" 30000010 none), .locks 2, .commits 2,
    .begins (.ack "agent-1" "cmd-1" true none 40), .begins (.ack "agent-1" "cmd-1" false (some "late") 50),
    .locks 4, .commits 4, .locks 3, .commits 3,
    .inserts (newCommand "cmd-2" "agent-1" "acme" .resumeExports "" 55), .begins (.drain "agent-1" 60 none),
    .begins (.ack "agent-1" "cmd-2" true none 70), .locks 5]

def replicaTables : CommandTables := (run step .initial replicaCalls).getD .initial

theorem replicaTables_reached : replicaTables.Reached := by
  have ran : (run step .initial replicaCalls).isSome = true := by decide +kernel
  have same : run step .initial replicaCalls = some replicaTables := by
    rw [Option.isSome_iff_exists] at ran
    obtain ⟨tables, ran⟩ := ran
    rw [replicaTables, ran]
    rfl
  apply Reaches.of_run _ same
  intro event member state command inserts
  subst inserts
  simp only [replicaCalls, List.mem_cons, reduceCtorEq, RowEvent.inserts.injEq, List.not_mem_nil, or_false,
    false_or] at member
  rcases member with first | second
  · exact ⟨_, _, _, _, _, _, first⟩
  · exact ⟨_, _, _, _, _, _, second⟩

def pauseCommand : ControlCommand := newCommand "cmd-1" "agent-1" "acme" .pauseExports "" 1

def lateFailure : ControlCommand := (pauseCommand.markDelivered 30000010).markAcknowledged false (some "late") 50

def replicaLog : List CommandCommit :=
  [⟨.drain "agent-1" 10 none, [pauseCommand]⟩, ⟨.drain "agent-1" 20 (some "60000"), []⟩,
    ⟨.drain "agent-1" 30000010 none, [pauseCommand.markDelivered 10]⟩,
    ⟨.ack "agent-1" "cmd-1" false (some "late") 50, [pauseCommand.markDelivered 30000010]⟩,
    ⟨.ack "agent-1" "cmd-1" true none 40, [lateFailure]⟩]

theorem replicaTables_log : replicaTables.log = replicaLog := by decide +kernel

/-- A command goes to one agent only, and again only behind a lease that the later heartbeat knows,
whatever the clocks of the replicas say. -/
theorem one_lease_at_a_time (reached : tables.Reached) {first second : CommandCommit}
    (ordered : [first, second].Sublist tables.log) {agentId otherId commandId : String} {deliveredAt laterAt : Int}
    {leaseSetting laterSetting : Option String} (early : first.Delivers agentId commandId deliveredAt leaseSetting)
    (late : second.Delivers otherId commandId laterAt laterSetting) :
    otherId = agentId ∧ deliveredAt + commandLeaseMs laterSetting * 1000 ≤ laterAt := by
  have firstLogged : first ∈ tables.log := ordered.subset List.mem_cons_self
  have secondLogged : second ∈ tables.log := ordered.subset (List.mem_cons_of_mem _ List.mem_cons_self)
  obtain ⟨row, -, -, history⟩ := reached.history firstLogged early.takes
  have owner := (history.delivered first firstLogged _ _ _ early).1
  have again := (history.delivered second secondLogged _ _ _ late).1
  refine ⟨again.symm.trans owner, ?_⟩
  exact List.pairwise_iff_forall_sublist.mp history.leased ordered _ _ _ _ _ _ early late

theorem one_lease_between_replicas :
    "agent-1" = "agent-1" ∧ (10 : Int) + commandLeaseMs none * 1000 ≤ 30000010 := by
  have ordered : [replicaLog[0], replicaLog[2]].Sublist replicaTables.log := by
    rw [replicaTables_log]
    decide
  have early : CommandCommit.Delivers replicaLog[0] "agent-1" "cmd-1" 10 none := ⟨rfl, _, List.mem_cons_self, rfl⟩
  have late : CommandCommit.Delivers replicaLog[2] "agent-1" "cmd-1" 30000010 none :=
    ⟨rfl, _, List.mem_cons_self, rfl⟩
  exact one_lease_at_a_time replicaTables_reached ordered early late

/-- The first acknowledgement finishes a command: what it was answered stays in the table, no later
heartbeat delivers it, and every other acknowledgement of it is answered the same. -/
theorem first_acknowledgement_stands (reached : tables.Reached) {commit : CommandCommit}
    (logged : commit ∈ tables.log) {command : ControlCommand} (acknowledges : commit.Acknowledges command) :
    command.isTerminal = true ∧ command ∈ tables.rows ∧ ∀ other : CommandCommit, other ∈ tables.log →
      ([commit, other].Sublist tables.log → ∀ agentId deliveredAt leaseSetting,
        ¬ other.Delivers agentId command.commandId deliveredAt leaseSetting) ∧
      ∀ again, other.Acknowledges again → again.commandId = command.commandId → again = command := by
  obtain ⟨row, listed, -, history⟩ := reached.history logged acknowledges.takes
  obtain ⟨same, terminal⟩ := history.acknowledged commit logged command acknowledges rfl
  refine ⟨same ▸ terminal, same ▸ listed, ?_⟩
  intro other otherLogged
  constructor
  · intro ordered
    exact List.pairwise_iff_forall_sublist.mp history.finished ordered command acknowledges rfl
  · intro again also named
    exact (history.acknowledged other otherLogged again also named).1.trans same.symm

theorem first_acknowledgement_stands_late :
    lateFailure.isTerminal = true ∧ lateFailure ∈ replicaTables.rows ∧
      ∀ other : CommandCommit, other ∈ replicaTables.log →
        ([replicaLog[3], other].Sublist replicaTables.log → ∀ agentId deliveredAt leaseSetting,
          ¬ other.Delivers agentId lateFailure.commandId deliveredAt leaseSetting) ∧
        ∀ again, other.Acknowledges again → again.commandId = lateFailure.commandId → again = lateFailure := by
  have logged : replicaLog[3] ∈ replicaTables.log := by
    rw [replicaTables_log]
    decide
  have acknowledges : CommandCommit.Acknowledges replicaLog[3] lateFailure :=
    ⟨_, _, _, _, _, rfl, List.mem_cons_self⟩
  exact first_acknowledgement_stands replicaTables_reached logged acknowledges

/-- Calls that have not ended never all wait for one another. -/
theorem some_call_goes_on (reached : tables.Reached) {id : Nat} {call : CommandCall} {rest locked : List String}
    {taken : List ControlCommand} (waiting : tables.calls[id]? = some (.locking call rest locked taken)) :
    ∃ other, (tables.step (.locks other)).isSome = true ∨ (tables.step (.commits other)).isSome = true :=
  reached.serial.progresses waiting

theorem some_call_goes_on_behind_drain : ∃ other, (replicaTables.step (.locks other)).isSome = true ∨
    (replicaTables.step (.commits other)).isSome = true := by
  have waiting : replicaTables.calls[6]? = some (.locking (.ack "agent-1" "cmd-2" true none 70) ["cmd-2"] [] []) := by
    decide +kernel
  exact some_call_goes_on replicaTables_reached waiting

end CommandTables

end TelemetryFabric.ControlPlane
