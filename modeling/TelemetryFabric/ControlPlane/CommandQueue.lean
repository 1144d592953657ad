import TelemetryFabric.Library.Machine
import TelemetryFabric.Library.Numerals
import TelemetryFabric.Library.OrderedMap
import Mathlib.Data.List.Nodup
import Mathlib.Data.String.Basic

/-!
The queue of commands for the agents. A command is pending, then delivered with a heartbeat,
possibly more than once while its lease runs out, and then acknowledged. Commands are never
removed. Their ids are drawn from a counter that starts again with the virtual machine.
-/

namespace TelemetryFabric.ControlPlane
open Library

/-! ### Commands -/

inductive CommandKind where
  | reloadConfig
  | drainAndRestart
  | pauseExports
  | resumeExports
  deriving DecidableEq

inductive CommandStatus where
  | pending
  | delivered
  | succeeded
  | failed
  deriving DecidableEq

def CommandKind.text : CommandKind → String
  | .reloadConfig => "reload_config"
  | .drainAndRestart => "drain_and_restart"
  | .pauseExports => "pause_exports"
  | .resumeExports => "resume_exports"

def CommandStatus.text : CommandStatus → String
  | .pending => "pending"
  | .delivered => "delivered"
  | .succeeded => "succeeded"
  | .failed => "failed"

/-- Times are in microseconds. -/
structure ControlCommand where
  commandId : String
  agentId : String
  tenantId : String
  kind : CommandKind
  reason : String
  insertedAt : Int
  status : CommandStatus
  deliveredAt : Option Int
  acknowledgedAt : Option Int
  lastError : Option String
  deriving DecidableEq

namespace ControlCommand

def isPending (command : ControlCommand) : Bool := command.status == .pending

def isTerminal (command : ControlCommand) : Bool := command.status == .succeeded || command.status == .failed

def markDelivered (command : ControlCommand) (deliveredAt : Int) : ControlCommand :=
  { command with status := .delivered, deliveredAt := some deliveredAt }

def normalizeError (success : Bool) (message : Option String) : Option String :=
  if success then none else message.map fun text => String.ofList (trim text.toList)

def markAcknowledged (command : ControlCommand) (success : Bool) (message : Option String)
    (acknowledgedAt : Int) : ControlCommand :=
  { command with
    status := if success then .succeeded else .failed
    acknowledgedAt := some acknowledgedAt
    lastError := normalizeError success message }

def leaseExpired (command : ControlCommand) (now leaseMs : Int) : Bool :=
  match command.status, command.deliveredAt with
  | .delivered, none => true
  | .delivered, some deliveredAt => decide (deliveredAt + leaseMs * 1000 ≤ now)
  | _, _ => false

def deliverable (command : ControlCommand) (now leaseMs : Int) : Bool :=
  command.isPending || command.leaseExpired now leaseMs

/-- Commands are sorted by their insertion, then by their id. -/
def sortsBefore (first second : ControlCommand) : Bool :=
  decide (first.insertedAt < second.insertedAt) ||
    (first.insertedAt == second.insertedAt && decide (first.commandId ≤ second.commandId))

end ControlCommand

def digit36 (value : Nat) : Char := Char.ofNat (if value < 10 then 48 + value else 55 + value)

def base36From : Nat → Nat → List Char → List Char
  | 0, _, digits => digits
  | fuel + 1, value, digits =>
      let digits := digit36 (value % 36) :: digits
      if value / 36 = 0 then digits else base36From fuel (value / 36) digits

/-- `Integer.to_string(value, 36)`. -/
def base36 (value : Nat) : String := String.ofList (base36From (value + 1) value [])

def newId (unique : Nat) : String := "cmd-" ++ base36 unique

/-- The value of a digit that `digit36` writes. -/
def digitValue36 (digit : Char) : Nat := if digit.toNat < 58 then digit.toNat - 48 else digit.toNat - 55

theorem digitValue36_digit36 {value : Nat} (bound : value < 36) : digitValue36 (digit36 value) = value := by
  have all : ∀ value : Fin 36, digitValue36 (digit36 value) = value := by decide
  exact all ⟨value, bound⟩

/-- The digits written for a value are read back as it. -/
theorem foldl_base36From {fuel value : Nat} (enough : value < fuel) (digits : List Char) :
    (base36From fuel value digits).foldl (fun total digit => total * 36 + digitValue36 digit) 0 =
      digits.foldl (fun total digit => total * 36 + digitValue36 digit) value := by
  induction fuel generalizing value digits with
  | zero => omega
  | succ fuel ih =>
    have last : digitValue36 (digit36 (value % 36)) = value % 36 := digitValue36_digit36 (Nat.mod_lt value (by decide))
    simp only [base36From]
    split_ifs with small
    · rw [List.foldl_cons, last]
      congr 1
      omega
    · rw [ih (by omega), List.foldl_cons, last]
      congr 1
      omega

theorem newId_injective : Function.Injective newId := by
  intro first second same
  have texts : base36 first = base36 second := by
    have lists := congrArg String.toList same
    simp only [newId, String.toList_append, List.append_cancel_left_eq] at lists
    exact String.toList_injective lists
  have digits := String.ofList_injective texts
  have read := congrArg (List.foldl (fun total digit => total * 36 + digitValue36 digit) 0) digits
  rwa [foldl_base36From (by omega), foldl_base36From (by omega), List.foldl_nil, List.foldl_nil] at read

/-! ### The queue -/

abbrev Commands := OrderedMap String (List ControlCommand)

def commandsOf (commands : Commands) (agentId : String) : List ControlCommand :=
  (commands.find? agentId).getD []

/-- All commands, of whatever agent. -/
def stored (commands : Commands) : List ControlCommand := commands.entries.flatMap Prod.snd

def enqueue (command : ControlCommand) (commands : Commands) : Commands :=
  commands.insert command.agentId (commandsOf commands command.agentId ++ [command])

def deliverableIds (now leaseMs : Int) (existing : List ControlCommand) : List String :=
  (existing.filter fun command => command.deliverable now leaseMs).map ControlCommand.commandId

/-- The commands that are delivered, and what is then stored. -/
def drain (agentId : String) (now leaseMs : Int) (commands : Commands) : List ControlCommand × Commands :=
  let existing := commandsOf commands agentId
  let ids := deliverableIds now leaseMs existing
  let updated := existing.map fun command =>
    if command.commandId ∈ ids then command.markDelivered now else command
  let delivered := updated.filter fun command => command.commandId ∈ ids
  (delivered, if updated = [] then commands.erase agentId else commands.insert agentId updated)

/-- The reply to an acknowledgement; none where no clause matches and the process ends. -/
inductive AckReply where
  | ok (command : ControlCommand)
  | notFound
  | noReply
  deriving DecidableEq

/-- The reply, and the commands to persist if there is something new. -/
def ack (agentId commandId : String) (success : Bool) (message : Option String) (now : Int)
    (commands : Commands) : AckReply × Option Commands :=
  let existing := commandsOf commands agentId
  match existing.filter (fun command => command.commandId = commandId) with
  | [command] =>
      if command.isTerminal then (.ok command, none)
      else
        let acknowledged := command.markAcknowledged success message now
        let rest := existing.filter fun command => command.commandId ≠ commandId
        (.ok acknowledged,
          some (commands.insert agentId ((acknowledged :: rest).mergeSort ControlCommand.sortsBefore)))
  | [] => (.notFound, none)
  | _ => (.noReply, none)

/-! ### Runs -/

/-- The queue process, its state file, and the integers drawn since the system was started. -/
structure QueueState where
  commands : Commands
  saved : Commands
  drawn : Nat
  deriving DecidableEq

def QueueState.initial : QueueState := ⟨.empty, .empty, 0⟩

/-- New commands are kept once they are in the state file; its temporary name takes an integer. -/
def QueueState.persist (state : QueueState) (commands : Commands) : QueueState :=
  ⟨commands, commands, state.drawn + 1⟩

inductive QueueEvent where
  | enqueueCommand (tenantOf : String → Option String) (agentId : String) (kind : CommandKind)
      (reason : String) (now : Int)
  | drain (agentId : String) (now : Int)
  | ack (agentId commandId : String) (success : Bool) (message : Option String) (now : Int)
  | uniqueInteger
  | restart

/-- A command for a registered agent; nothing happens for another one. -/
def enqueueCommand (tenantOf : String → Option String) (agentId : String) (kind : CommandKind)
    (reason : String) (now : Int) (state : QueueState) : QueueState :=
  match tenantOf agentId with
  | some tenantId =>
      let command : ControlCommand :=
        ⟨newId (state.drawn + 1), agentId, tenantId, kind, reason, now, .pending, none, none, none⟩
      QueueState.persist { state with drawn := state.drawn + 1 } (enqueue command state.commands)
  | none => state

def QueueState.step (leaseMs : Int) (state : QueueState) : QueueEvent → Option QueueState
  | .enqueueCommand tenantOf agentId kind reason now =>
      some (ControlPlane.enqueueCommand tenantOf agentId kind reason now state)
  | .drain agentId now => some (state.persist (ControlPlane.drain agentId now leaseMs state.commands).2)
  | .ack agentId commandId success message now =>
      match ControlPlane.ack agentId commandId success message now state.commands with
      | (.noReply, _) => some { state with commands := state.saved }
      | (_, some commands) => some (state.persist commands)
      | (_, none) => some state
  | .uniqueInteger => some { state with drawn := state.drawn + 1 }
  | .restart => some ⟨state.saved, state.saved, 0⟩

/-- A command that is enqueued does not get the id of a stored one. -/
def QueueState.Fresh (state : QueueState) : QueueEvent → Prop
  | .enqueueCommand tenantOf agentId _ _ _ =>
      (tenantOf agentId).isSome → newId (state.drawn + 1) ∉ (stored state.commands).map ControlCommand.commandId
  | _ => True

/-! ### Ids -/

/-- No two commands have the same id. -/
def Unique (commands : Commands) : Prop := ((stored commands).map ControlCommand.commandId).Nodup

theorem stored_perm (commands : Commands) (agentId : String) :
    (stored commands).Perm (commandsOf commands agentId ++ stored (commands.erase agentId)) := by
  unfold stored commandsOf
  cases found : commands.find? agentId with
  | none => rw [commands.erase_of_find?_none found, Option.getD_none, List.nil_append]
  | some list => exact (commands.perm_of_find? found).flatMap_right Prod.snd

theorem stored_insert_perm (commands : Commands) (agentId : String) (list : List ControlCommand) :
    (stored (commands.insert agentId list)).Perm (list ++ stored (commands.erase agentId)) :=
  (commands.insert_perm agentId list).flatMap_right Prod.snd

theorem commandsOf_insert (commands : Commands) (agentId other : String) (list : List ControlCommand) :
    commandsOf (commands.insert agentId list) other = if other = agentId then list else commandsOf commands other := by
  unfold commandsOf
  rw [OrderedMap.find?_insert]
  split_ifs <;> rfl

theorem commandsOf_erase (commands : Commands) (agentId other : String) :
    commandsOf (commands.erase agentId) other = if other = agentId then [] else commandsOf commands other := by
  unfold commandsOf
  rw [OrderedMap.find?_erase]
  split_ifs <;> rfl

theorem mem_stored {commands : Commands} {agentId : String} {command : ControlCommand}
    (member : command ∈ commandsOf commands agentId) : command ∈ stored commands :=
  (stored_perm commands agentId).mem_iff.mpr (List.mem_append_left _ member)

theorem Unique.parts {commands : Commands} (unique : Unique commands) (agentId : String) :
    ((commandsOf commands agentId).map ControlCommand.commandId).Nodup ∧
      ∀ command ∈ commandsOf commands agentId, ∀ other ∈ stored (commands.erase agentId),
        command.commandId ≠ other.commandId := by
  have parts := ((stored_perm commands agentId).map ControlCommand.commandId).nodup_iff.mp unique
  rw [List.map_append, List.nodup_append] at parts
  refine ⟨parts.1, ?_⟩
  intro command member other later
  exact parts.2.2 _ (List.mem_map_of_mem member) _ (List.mem_map_of_mem later)

/-- Under one id there is one command, of one agent. -/
theorem Unique.same {commands : Commands} (unique : Unique commands) {agentId otherId : String}
    {command other : ControlCommand} (member : command ∈ commandsOf commands agentId)
    (also : other ∈ commandsOf commands otherId) (same : command.commandId = other.commandId) :
    agentId = otherId ∧ command = other := by
  obtain ⟨nodup, apart⟩ := unique.parts agentId
  by_cases agents : otherId = agentId
  · subst agents
    exact ⟨rfl, List.inj_on_of_nodup_map nodup member also same⟩
  · have elsewhere : other ∈ commandsOf (commands.erase agentId) otherId := by
      rwa [commandsOf_erase, if_neg agents]
    exact absurd same (apart command member other (mem_stored elsewhere))

theorem stored_enqueue_perm (command : ControlCommand) (commands : Commands) :
    (stored (enqueue command commands)).Perm (command :: stored commands) := by
  refine (stored_insert_perm commands command.agentId _).trans ?_
  rw [List.append_assoc, List.singleton_append]
  exact List.perm_middle.trans ((stored_perm commands command.agentId).symm.cons command)

/-- The commands of one agent are replaced by others that agree with them in `part`. -/
theorem map_stored_insert_perm {β : Type} (part : ControlCommand → β) {commands : Commands} {agentId : String}
    {list : List ControlCommand} (same : (list.map part).Perm ((commandsOf commands agentId).map part)) :
    ((stored (commands.insert agentId list)).map part).Perm ((stored commands).map part) := by
  have after := (stored_insert_perm commands agentId list).map part
  have before := (stored_perm commands agentId).map part
  rw [List.map_append] at after before
  exact after.trans ((same.append_right _).trans before.symm)

theorem Unique.enqueue {commands : Commands} (unique : Unique commands) {command : ControlCommand}
    (fresh : command.commandId ∉ (stored commands).map ControlCommand.commandId) :
    Unique (enqueue command commands) := by
  apply ((stored_enqueue_perm command commands).map ControlCommand.commandId).nodup_iff.mpr
  rw [List.map_cons, List.nodup_cons]
  exact ⟨fresh, unique⟩

/-! ### Draining -/

section Drain

variable {commands : Commands} (agentId : String) (now leaseMs : Int)

theorem not_deliverable_of_isTerminal {command : ControlCommand} (terminal : command.isTerminal = true) :
    command.deliverable now leaseMs = false := by
  obtain ⟨_, _, _, _, _, _, status, _, _, _⟩ := command
  cases status <;> simp_all [ControlCommand.isTerminal, ControlCommand.deliverable, ControlCommand.isPending,
    ControlCommand.leaseExpired]

/-- The id of a finished command is not delivered, as no other command has it. -/
theorem Unique.not_deliverable (unique : Unique commands) {finishedId : String} {command : ControlCommand}
    (member : command ∈ commandsOf commands finishedId) (terminal : command.isTerminal = true) :
    command.commandId ∉ deliverableIds now leaseMs (commandsOf commands agentId) := by
  intro delivered
  obtain ⟨other, among, same⟩ := List.mem_map.mp delivered
  obtain ⟨also, deliverable⟩ := List.mem_filter.mp among
  obtain ⟨-, rfl⟩ := unique.same member also same.symm
  rw [not_deliverable_of_isTerminal now leaseMs terminal] at deliverable
  cases deliverable

/-- What is stored for the agents behind a drain. -/
theorem commandsOf_drain (other : String) :
    commandsOf (drain agentId now leaseMs commands).2 other =
      if other = agentId then (commandsOf commands agentId).map fun command =>
        if command.commandId ∈ deliverableIds now leaseMs (commandsOf commands agentId) then command.markDelivered now
        else command
      else commandsOf commands other := by
  unfold drain
  dsimp only
  by_cases same : other = agentId
  · rw [if_pos same]
    split_ifs with empty
    · rw [commandsOf_erase, if_pos same, empty]
    · rw [commandsOf_insert, if_pos same]
  · rw [if_neg same]
    split_ifs with empty
    · rw [commandsOf_erase, if_neg same]
    · rw [commandsOf_insert, if_neg same]

/-- A drain changes nothing that marking a command leaves. -/
theorem map_stored_drain_perm {β : Type} {part : ControlCommand → β}
    (kept : ∀ command, part (command.markDelivered now) = part command) :
    ((stored (drain agentId now leaseMs commands).2).map part).Perm ((stored commands).map part) := by
  unfold drain
  dsimp only
  split_ifs with empty
  · have nothing : commandsOf commands agentId = [] := List.map_eq_nil_iff.mp empty
    have before := (stored_perm commands agentId).map part
    rw [nothing, List.nil_append] at before
    exact before.symm
  · apply map_stored_insert_perm
    rw [List.map_map]
    apply List.Perm.of_eq
    apply List.map_congr_left
    intro command _
    dsimp only [Function.comp]
    split_ifs
    · exact kept command
    · rfl

theorem Unique.drain (unique : Unique commands) : Unique (drain agentId now leaseMs commands).2 :=
  (map_stored_drain_perm agentId now leaseMs fun _ => rfl).nodup_iff.mpr unique

/-- A drain leaves finished commands as they are and delivers none of them. -/
theorem drain_finished (unique : Unique commands) {finishedId : String} {command : ControlCommand}
    (member : command ∈ commandsOf commands finishedId) (terminal : command.isTerminal = true) :
    command ∈ commandsOf (drain agentId now leaseMs commands).2 finishedId ∧
      ∀ delivered ∈ (drain agentId now leaseMs commands).1, delivered.commandId ≠ command.commandId := by
  have other := unique.not_deliverable agentId now leaseMs member terminal
  constructor
  · rw [commandsOf_drain]
    split_ifs with same
    · subst same
      exact List.mem_map.mpr ⟨command, member, if_neg other⟩
    · exact member
  · intro delivered among same
    obtain ⟨-, listed⟩ := List.mem_filter.mp among
    rw [same] at listed
    exact other (of_decide_eq_true listed)

end Drain

/-! ### Acknowledging -/

section Ack

variable {commands : Commands} {agentId : String} {command : ControlCommand}

theorem filter_eq_singleton {α β : Type} [DecidableEq β] {key : α → β} {items : List α} {item : α}
    (nodup : (items.map key).Nodup) (member : item ∈ items) :
    items.filter (fun other => key other = key item) = [item] := by
  induction items with
  | nil => cases member
  | cons head rest ih =>
    obtain ⟨apart, nodup⟩ := List.nodup_cons.mp nodup
    rcases List.mem_cons.mp member with rfl | later
    · rw [List.filter_cons_of_pos (by simp), List.filter_eq_nil_iff.mpr]
      intro other inside same
      exact apart (List.mem_map.mpr ⟨other, inside, of_decide_eq_true same⟩)
    · rw [List.filter_cons_of_neg, ih nodup later]
      intro same
      exact apart (List.mem_map.mpr ⟨item, later, (of_decide_eq_true same).symm⟩)

/-- The acknowledgement of a stored command is answered with that command. -/
theorem ack_reply (unique : Unique commands) (member : command ∈ commandsOf commands agentId) (success : Bool)
    (message : Option String) (now : Int) :
    ∃ reply, (ack agentId command.commandId success message now commands).1 = .ok reply ∧
      reply.commandId = command.commandId := by
  unfold ack
  dsimp only
  rw [filter_eq_singleton (unique.parts agentId).1 member]
  dsimp only
  split_ifs with terminal
  · exact ⟨command, rfl, rfl⟩
  · exact ⟨command.markAcknowledged success message now, rfl, rfl⟩

/-- What an acknowledgement persists: the command that was found, under its id, and the others. -/
theorem ack_persisted {commandId : String} {success : Bool} {message : Option String} {now : Int} {after : Commands}
    (persisted : (ack agentId commandId success message now commands).2 = some after) :
    ∃ found, (commandsOf commands agentId).filter (fun command => command.commandId = commandId) = [found] ∧
      found.isTerminal = false ∧
      after = commands.insert agentId ((found.markAcknowledged success message now ::
        (commandsOf commands agentId).filter fun command => command.commandId ≠ commandId).mergeSort
          ControlCommand.sortsBefore) := by
  unfold ack at persisted
  dsimp only at persisted
  split at persisted
  next found single =>
    split_ifs at persisted with terminal
    exact ⟨found, single, by simpa using terminal, (Option.some.inj persisted).symm⟩
  next => cases persisted
  next => cases persisted

/-- An acknowledgement changes nothing that marking a command leaves. -/
theorem map_stored_ack_perm {β : Type} {part : ControlCommand → β} {commandId : String} {success : Bool}
    {message : Option String} {now : Int} {after : Commands}
    (kept : ∀ command : ControlCommand, part (command.markAcknowledged success message now) = part command)
    (persisted : (ack agentId commandId success message now commands).2 = some after) :
    ((stored after).map part).Perm ((stored commands).map part) := by
  obtain ⟨found, single, -, rfl⟩ := ack_persisted persisted
  apply map_stored_insert_perm
  have sorted := (List.mergeSort_perm (found.markAcknowledged success message now ::
    (commandsOf commands agentId).filter fun command => command.commandId ≠ commandId)
      ControlCommand.sortsBefore).map part
  have parts := (List.filter_append_perm (fun command : ControlCommand => decide (command.commandId = commandId))
    (commandsOf commands agentId)).map part
  rw [single] at parts
  refine sorted.trans (List.Perm.trans ?_ parts)
  simp [kept found]

theorem Unique.ack (unique : Unique commands) {commandId : String} {success : Bool} {message : Option String}
    {now : Int} {after : Commands}
    (persisted : (ack agentId commandId success message now commands).2 = some after) : Unique after :=
  (map_stored_ack_perm (fun _ => rfl) persisted).nodup_iff.mpr unique

/-- An acknowledgement leaves finished commands as they are. -/
theorem ack_finished {commandId : String} {success : Bool} {message : Option String} {now : Int} {after : Commands}
    (persisted : (ack agentId commandId success message now commands).2 = some after) {finishedId : String}
    (member : command ∈ commandsOf commands finishedId) (terminal : command.isTerminal = true) :
    command ∈ commandsOf after finishedId := by
  obtain ⟨found, single, unfinished, rfl⟩ := ack_persisted persisted
  rw [commandsOf_insert]
  split_ifs with same
  · subst same
    have other : command.commandId ≠ commandId := by
      intro named
      have listed : command ∈ [found] := by
        rw [← single]
        exact List.mem_filter.mpr ⟨member, decide_eq_true named⟩
      rw [List.mem_singleton.mp listed, unfinished] at terminal
      cases terminal
    rw [List.mem_mergeSort]
    exact List.mem_cons_of_mem _ (List.mem_filter.mpr ⟨member, decide_eq_true other⟩)
  · exact member

end Ack

/-! ### Every run -/

/-- The state file holds what the process does, and the ids are unique. -/
structure QueueState.Sound (state : QueueState) : Prop where
  saved : state.saved = state.commands
  unique : Unique state.commands

theorem QueueState.sound_initial : QueueState.initial.Sound := ⟨rfl, List.nodup_nil⟩

/-- Finished commands of one state are those of another. -/
def KeepsFinished (before after : Commands) : Prop :=
  ∀ agentId, ∀ command ∈ commandsOf before agentId, command.isTerminal = true → command ∈ commandsOf after agentId

theorem KeepsFinished.enqueue (commands : Commands) (command : ControlCommand) :
    KeepsFinished commands (enqueue command commands) := by
  intro agentId finished member _
  unfold ControlPlane.enqueue
  rw [commandsOf_insert]
  split_ifs with same
  · rw [← same]
    exact List.mem_append_left _ member
  · exact member

/-- One event. -/
theorem QueueState.step_sound {leaseMs : Int} {state next : QueueState} {event : QueueEvent} (sound : state.Sound)
    (fresh : state.Fresh event) (taken : state.step leaseMs event = some next) :
    next.Sound ∧ KeepsFinished state.commands next.commands := by
  have same : KeepsFinished state.commands state.commands := fun _ _ member _ => member
  cases event with
  | enqueueCommand tenantOf agentId kind reason now =>
    obtain rfl := Option.some.inj taken
    cases registered : tenantOf agentId with
    | none =>
      simp only [ControlPlane.enqueueCommand, registered]
      exact ⟨sound, same⟩
    | some tenantId =>
      simp only [ControlPlane.enqueueCommand, registered]
      refine ⟨⟨rfl, sound.unique.enqueue ?_⟩, KeepsFinished.enqueue _ _⟩
      exact fresh (by simp [registered])
  | drain agentId now =>
    obtain rfl := Option.some.inj taken
    refine ⟨⟨rfl, sound.unique.drain agentId now leaseMs⟩, ?_⟩
    intro finishedId command member terminal
    exact (drain_finished agentId now leaseMs sound.unique member terminal).1
  | ack agentId commandId success message now =>
    simp only [QueueState.step] at taken
    split at taken
    next =>
      obtain rfl := Option.some.inj taken
      refine ⟨⟨rfl, ?_⟩, ?_⟩
      · rw [sound.saved]
        exact sound.unique
      · rw [sound.saved]
        exact same
    next reply commands other result =>
      obtain rfl := Option.some.inj taken
      have persisted : (ControlPlane.ack agentId commandId success message now state.commands).2 = some commands := by
        rw [result]
      refine ⟨⟨rfl, sound.unique.ack persisted⟩, ?_⟩
      intro finishedId command member terminal
      exact ack_finished persisted member terminal
    next =>
      obtain rfl := Option.some.inj taken
      exact ⟨sound, same⟩
  | uniqueInteger =>
    obtain rfl := Option.some.inj taken
    exact ⟨⟨sound.saved, sound.unique⟩, same⟩
  | restart =>
    obtain rfl := Option.some.inj taken
    rw [sound.saved]
    exact ⟨⟨rfl, sound.unique⟩, same⟩

theorem QueueState.reaches_sound {leaseMs : Int} {state later : QueueState} (sound : state.Sound)
    (reached : Reaches (QueueState.step leaseMs) QueueState.Fresh state later) :
    later.Sound ∧ KeepsFinished state.commands later.commands := by
  refine reached.invariant (P := fun later => later.Sound ∧ KeepsFinished state.commands later.commands)
    ⟨sound, fun _ _ member _ => member⟩ ?_
  rintro current event next ⟨currentSound, kept⟩ fresh taken
  obtain ⟨nextSound, keptNext⟩ := step_sound currentSound fresh taken
  refine ⟨nextSound, ?_⟩
  intro agentId command member terminal
  exact keptNext agentId command (kept agentId command member terminal) terminal

/-- From a state on to a later one: the ids are unique, stored commands can be acknowledged, and a
finished command is still what it was and is not delivered again. -/
def FinishedStay (leaseMs : Int) (state later : QueueState) : Prop :=
  Unique later.commands ∧
  (∀ agentId, ∀ command ∈ commandsOf later.commands agentId, ∀ success message now, ∃ reply,
    (ack agentId command.commandId success message now later.commands).1 = .ok reply ∧
      reply.commandId = command.commandId) ∧
  ∀ agentId, ∀ command ∈ commandsOf state.commands agentId, command.isTerminal = true →
    command ∈ commandsOf later.commands agentId ∧
    ∀ drainedId now, ∀ delivered ∈ (drain drainedId now leaseMs later.commands).1,
      delivered.commandId ≠ command.commandId

/-- With whatever restarts, as long as no command gets the id of a stored one. -/
theorem finished_commands_stay (leaseMs : Int) (state later : QueueState)
    (earlier : Reaches (QueueState.step leaseMs) QueueState.Fresh QueueState.initial state)
    (afterwards : Reaches (QueueState.step leaseMs) QueueState.Fresh state later) :
    FinishedStay leaseMs state later := by
  obtain ⟨sound, -⟩ := QueueState.reaches_sound QueueState.sound_initial earlier
  obtain ⟨laterSound, kept⟩ := QueueState.reaches_sound sound afterwards
  refine ⟨laterSound.unique, ?_, ?_⟩
  · intro agentId command member success message now
    exact ack_reply laterSound.unique member success message now
  · intro agentId command member terminal
    have still := kept agentId command member terminal
    refine ⟨still, ?_⟩
    intro drainedId now
    exact (drain_finished drainedId now leaseMs laterSound.unique still terminal).2

instance (state : QueueState) (event : QueueEvent) : Decidable (state.Fresh event) :=
  match event with
  | .enqueueCommand tenantOf agentId _ _ _ =>
      inferInstanceAs (Decidable ((tenantOf agentId).isSome = true →
        newId (state.drawn + 1) ∉ (stored state.commands).map ControlCommand.commandId))
  | .drain _ _ => isTrue trivial
  | .ack _ _ _ _ _ => isTrue trivial
  | .uniqueInteger => isTrue trivial
  | .restart => isTrue trivial

/-- One command, delivered and done. -/
def finishedRun : List QueueEvent :=
  [.enqueueCommand (fun _ => some "payments") "agent-1" .pauseExports "upgrade" 1, .drain "agent-1" 2,
    .ack "agent-1" "cmd-1" true none 3]

/-- The next one, after a restart and the given number of other draws. -/
def restartedRun (draws : Nat) : List QueueEvent :=
  .restart :: List.replicate draws .uniqueInteger ++
    [.enqueueCommand (fun _ => some "payments") "agent-1" .resumeExports "" 4]

def QueueState.after (state : QueueState) (events : List QueueEvent) : QueueState :=
  (run (QueueState.step 30000) state events).getD state

theorem finished_commands_stay_restarted :
    Reaches (QueueState.step 30000) QueueState.Fresh QueueState.initial (QueueState.initial.after finishedRun) ∧
    FinishedStay 30000 (QueueState.initial.after finishedRun)
      ((QueueState.initial.after finishedRun).after (restartedRun 5)) :=
  have earlier : Reaches (QueueState.step 30000) QueueState.Fresh QueueState.initial
      (QueueState.initial.after finishedRun) := Reaches.of_checked_run (show run _ _ finishedRun = _ by decide +kernel)
  ⟨earlier, finished_commands_stay 30000 _ _ earlier
    (Reaches.of_checked_run (show run _ _ (restartedRun 5) = _ by decide +kernel))⟩

/-- Without them, the next command gets the id of the first one: both are delivered, and neither
can be acknowledged. -/
theorem finished_command_delivered_again :
    (drain "agent-1" 5 30000 ((QueueState.initial.after finishedRun).after (restartedRun 0)).commands).1.map
      ControlCommand.commandId = ["cmd-1", "cmd-1"] ∧
    (ack "agent-1" "cmd-1" true none 6
      ((QueueState.initial.after finishedRun).after (restartedRun 0)).commands).1 = .noReply ∧
    ¬∀ state later, Reaches (QueueState.step 30000) (fun _ _ => True) QueueState.initial state →
      Reaches (QueueState.step 30000) (fun _ _ => True) state later → FinishedStay 30000 state later := by
  refine ⟨by decide +kernel, by decide +kernel, ?_⟩
  intro stays
  have earlier : Reaches (QueueState.step 30000) (fun _ _ => True) QueueState.initial
      (QueueState.initial.after finishedRun) := 
    Reaches.of_run (fun _ _ _ => trivial) (show run _ _ finishedRun = _ by decide +kernel)
  have afterwards : Reaches (QueueState.step 30000) (fun _ _ => True) (QueueState.initial.after finishedRun)
      ((QueueState.initial.after finishedRun).after (restartedRun 0)) :=
    Reaches.of_run (fun _ _ _ => trivial) (show run _ _ (restartedRun 0) = _ by decide +kernel)
  exact absurd (stays _ _ earlier afterwards).1 (by unfold Unique; decide +kernel)

end TelemetryFabric.ControlPlane
