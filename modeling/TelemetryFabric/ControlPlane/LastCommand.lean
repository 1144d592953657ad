import TelemetryFabric.Agent.Shared
import TelemetryFabric.ControlPlane.CommandLife

/-!
The operator, the queue and the control worker of one agent. The worker sends a heartbeat,
executes what the response lists, one command after the other with an acknowledgement for each,
and sends the next heartbeat. Responses may be lost, and acknowledgements may arrive late or
never; then a lease runs out and the command is in a later response again.
-/

namespace TelemetryFabric.ControlPlane
open Library Agent

variable {E : Type}

/-- The arms of the worker's loop for the commands in question. -/
def carryOut : CommandKind → AgentM E Unit
  | .pauseExports => pauseExports
  | .resumeExports => resumeExports
  | .reloadConfig => pure ()
  | .drainAndRestart => pure ()

/-- The runtime a command leaves behind. -/
def carriedOut (kind : CommandKind) (runtime : AgentRuntime E) : AgentRuntime E :=
  match carryOut kind ⟨runtime, []⟩ with
  | .ok _ session => session.runtime
  | .error _ session => session.runtime

/-- `response` is on its way to the agent, `received` is what the agent has not executed yet,
`acks` lists the acknowledgements on their way, and `latest` is the command executed last. -/
structure OperatorState (E : Type) where
  queue : LifeState
  runtime : AgentRuntime E
  response : Option (List ControlCommand)
  received : List ControlCommand
  acks : List String
  latest : Option ControlCommand

inductive OperatorEvent where
  | enqueue (command : ControlCommand) (now : Int)
  | heartbeat (now : Int)
  | loseResponse
  | receive
  | execute
  | ackArrives (index : Nat) (now : Int)
  | ackLost (index : Nat)

namespace OperatorState

variable {agentId : String} {leaseMs : Int} {state next : OperatorState E}

def start (runtime : AgentRuntime E) (clock : Int) : OperatorState E :=
  ⟨.initial clock, runtime, none, [], [], none⟩

/-- `ack_if_delivered`. -/
def acknowledge (command : ControlCommand) (acks : List String) : List String :=
  if command.status = .delivered then acks ++ [command.commandId] else acks

/-- What the agent has been sent and has not executed. -/
def outstanding (state : OperatorState E) : List ControlCommand := state.response.getD [] ++ state.received

def step (agentId : String) (leaseMs : Int) (state : OperatorState E) : OperatorEvent → Option (OperatorState E)
  | .enqueue command now =>
      (state.queue.step leaseMs (.enqueue command now)).map fun queue => { state with queue := queue }
  | .heartbeat now =>
      if state.response = none ∧ state.received = [] then
        (state.queue.step leaseMs (.drain agentId now)).map fun queue => { state with
          queue := queue
          response := some (drain agentId now leaseMs state.queue.commands).1 }
      else none
  | .loseResponse => some { state with response := none }
  | .receive =>
      match state.response with
      | some commands => some { state with response := none, received := commands }
      | none => none
  | .execute =>
      match state.received with
      | command :: rest => some { state with
          runtime := carriedOut command.kind state.runtime
          received := rest
          acks := acknowledge command state.acks
          latest := some command }
      | [] => none
  | .ackArrives index now =>
      match state.acks[index]? with
      | some commandId =>
          (state.queue.step leaseMs (.ack agentId commandId true none now)).map fun queue => { state with
            queue := queue
            acks := state.acks.eraseIdx index }
      | none => none
  | .ackLost index => some { state with acks := state.acks.eraseIdx index }

/-- The operator enqueues fresh commands that pause or resume the exports of the agent, and the
clock does not go back. -/
def Allowed (agentId : String) (state : OperatorState E) : OperatorEvent → Prop
  | .enqueue command now => state.queue.Allowed (.enqueue command now) ∧ command.agentId = agentId ∧
      (command.kind = .pauseExports ∨ command.kind = .resumeExports)
  | .heartbeat now => state.queue.clock ≤ now
  | .ackArrives _ now => state.queue.clock ≤ now
  | _ => True

/-- The place of a command in the order in which they were enqueued. -/
def position (state : OperatorState E) (commandId : String) : Nat :=
  state.queue.enqueued.findIdx fun command => command.commandId = commandId

/-- A heartbeat does not redeliver a command once a later one has been acknowledged, and an
acknowledgement is not received while the agent has executed, or has yet to execute, an older
command after the one it is for. -/
def InOrder (agentId : String) (leaseMs : Int) (state : OperatorState E) : OperatorEvent → Prop
  | .heartbeat now => ∀ command ∈ commandsOf state.queue.commands agentId, command.due now leaseMs = true →
      ∀ finished ∈ commandsOf state.queue.commands agentId, finished.isTerminal = true →
        state.position finished.commandId ≤ state.position command.commandId
  | .ackArrives index _ => ∀ commandId ∈ state.acks[index]?,
      (∀ latest ∈ state.latest, state.position commandId ≤ state.position latest.commandId) ∧
      ∀ command ∈ state.outstanding, state.position commandId ≤ state.position command.commandId
  | _ => True

/-- Everything that was enqueued has been acknowledged. -/
def AllAcknowledged (agentId : String) (state : OperatorState E) : Prop :=
  ∀ command ∈ commandsOf state.queue.commands agentId, command.isTerminal = true

/-- The flag is the one the last command sets. -/
def LastWins (state : OperatorState E) : Prop :=
  ∀ command, state.queue.enqueued.getLast? = some command →
    state.runtime.exportsPaused = decide (command.kind = .pauseExports)

/-! ### The invariant -/

/-- A command that is, or was, in the queue. -/
def Known (state : OperatorState E) (command : ControlCommand) : Prop :=
  command.asEnqueued ∈ state.queue.enqueued

structure Orderly (agentId : String) (leaseMs : Int) (state : OperatorState E) : Prop where
  alive : state.queue.Alive leaseMs
  own : ∀ command ∈ state.queue.enqueued, command.agentId = agentId ∧
    (command.kind = .pauseExports ∨ command.kind = .resumeExports)
  distinct : (state.queue.enqueued.map ControlCommand.commandId).Nodup
  outstanding : ∀ command ∈ state.outstanding, state.Known command
  latest : ∀ command, state.latest = some command → state.Known command ∧
    state.runtime.exportsPaused = decide (command.kind = .pauseExports)
  acks : ∀ commandId ∈ state.acks, commandId ∈ state.queue.enqueued.map ControlCommand.commandId ∧
    state.latest.isSome = true
  /-- Nothing older than an acknowledged command was executed last or is left to be executed. -/
  behind : ∀ command ∈ commandsOf state.queue.commands agentId, command.isTerminal = true →
    (∃ latest, state.latest = some latest ∧ state.position command.commandId ≤ state.position latest.commandId) ∧
    ∀ left ∈ state.outstanding, state.position command.commandId ≤ state.position left.commandId

/-- Where a command stands does not change when others are enqueued behind it. -/
theorem findIdx_known {enqueued : List ControlCommand} {commandId : String}
    (known : commandId ∈ enqueued.map ControlCommand.commandId) (more : List ControlCommand) :
    (enqueued ++ more).findIdx (fun command => command.commandId = commandId) =
      enqueued.findIdx fun command => command.commandId = commandId := by
  obtain ⟨command, member, named⟩ := List.mem_map.mp known
  rw [List.findIdx_append, if_pos]
  exact List.findIdx_lt_length_of_exists ⟨command, member, decide_eq_true named⟩

theorem Known.id_mem {command : ControlCommand} (known : state.Known command) :
    command.commandId ∈ state.queue.enqueued.map ControlCommand.commandId :=
  List.mem_map.mpr ⟨_, known, rfl⟩

/-- The order does not change while nothing is enqueued. -/
theorem position_eq (same : next.queue.enqueued = state.queue.enqueued) (commandId : String) :
    next.position commandId = state.position commandId := by
  rw [position, position, same]

namespace Orderly

theorem start (runtime : AgentRuntime E) (clock : Int) :
    (OperatorState.start runtime clock).Orderly agentId leaseMs := by
  refine ⟨LifeState.Alive.start clock, ?_, List.nodup_nil, ?_, ?_, ?_, ?_⟩
  · intro command member
    cases member
  · intro command member
    cases member
  · intro command same
    cases same
  · intro commandId member
    cases member
  · intro command member
    cases member

/-- A step that leaves the queue and the worker's last command alone. -/
theorem of_same_queue (orderly : state.Orderly agentId leaseMs) (queue : next.queue = state.queue)
    (latest : next.latest = state.latest) (runtime : next.runtime = state.runtime)
    (outstanding : ∀ command ∈ next.outstanding, command ∈ state.outstanding)
    (acks : ∀ commandId ∈ next.acks, commandId ∈ state.acks) : next.Orderly agentId leaseMs := by
  have place : ∀ commandId, next.position commandId = state.position commandId :=
    position_eq (congrArg LifeState.enqueued queue)
  refine ⟨queue ▸ orderly.alive, queue ▸ orderly.own, queue ▸ orderly.distinct, ?_, ?_, ?_, ?_⟩
  · intro command member
    rw [Known, queue]
    exact orderly.outstanding command (outstanding command member)
  · rw [latest, runtime]
    unfold Known
    rw [queue]
    exact orderly.latest
  · intro commandId member
    rw [latest, queue]
    exact orderly.acks commandId (acks commandId member)
  · rw [queue, latest]
    intro command member terminal
    simp only [place]
    obtain ⟨executed, left⟩ := orderly.behind command member terminal
    exact ⟨executed, fun other inside => left other (outstanding other inside)⟩

theorem enqueue (orderly : state.Orderly agentId leaseMs) {command : ControlCommand} {now : Int}
    (allowed : state.Allowed agentId (.enqueue command now))
    (taken : state.step agentId leaseMs (.enqueue command now) = some next) : next.Orderly agentId leaseMs := by
  obtain ⟨fresh, own, kind⟩ := allowed
  simp only [step] at taken
  obtain ⟨queue, enqueued, rfl⟩ := Option.map_eq_some_iff.mp taken
  have alive := orderly.alive.onward fresh enqueued
  have grown : queue.enqueued = state.queue.enqueued ++ [command] := by
    cases enqueued
    rfl
  have content : ∀ other ∈ commandsOf queue.commands agentId, other.isTerminal = true →
      other ∈ commandsOf state.queue.commands agentId := by
    cases enqueued
    intro other member terminal
    change other ∈ commandsOf (ControlPlane.enqueue command state.queue.commands) agentId at member
    rw [ControlPlane.enqueue, commandsOf_insert, if_pos own.symm, own] at member
    rcases List.mem_append.mp member with old | new
    · exact old
    · rw [List.mem_singleton.mp new, ← (fresh.2 command now rfl).1] at terminal
      cases terminal
  have known : ∀ other, state.Known other → Known { state with queue := queue } other := by
    intro other listed
    change other.asEnqueued ∈ queue.enqueued
    rw [grown]
    exact List.mem_append_left _ listed
  have place : ∀ {commandId}, commandId ∈ state.queue.enqueued.map ControlCommand.commandId →
      position { state with queue := queue } commandId = state.position commandId := by
    intro commandId listed
    change queue.enqueued.findIdx _ = _
    rw [grown]
    exact findIdx_known listed [command]
  refine ⟨alive, ?_, ?_, ?_, ?_, ?_, ?_⟩
  · intro other member
    change other ∈ queue.enqueued at member
    rw [grown] at member
    rcases List.mem_append.mp member with old | new
    · exact orderly.own other old
    · rw [List.mem_singleton.mp new]
      exact ⟨own, kind⟩
  · change (queue.enqueued.map _).Nodup
    rw [grown, List.map_append]
    refine List.nodup_append.mpr ⟨orderly.distinct, List.nodup_singleton _, ?_⟩
    intro first listed second same equal
    rw [equal, List.mem_singleton.mp same] at listed
    exact (fresh.2 command now rfl).2 listed
  · exact fun other member => known other (orderly.outstanding other member)
  · exact fun other executed => ⟨known other (orderly.latest other executed).1, (orderly.latest other executed).2⟩
  · intro commandId member
    obtain ⟨listed, some⟩ := orderly.acks commandId member
    refine ⟨?_, some⟩
    change commandId ∈ queue.enqueued.map _
    rw [grown, List.map_append]
    exact List.mem_append_left _ listed
  · intro other member terminal
    have old := content other member terminal
    have id := orderly.alive.id_mem old
    obtain ⟨⟨latest, executed, before⟩, left⟩ := orderly.behind other old terminal
    refine ⟨⟨latest, executed, ?_⟩, ?_⟩
    · rw [place id, place (orderly.latest latest executed).1.id_mem]
      exact before
    · intro command inside
      rw [place id, place (orderly.outstanding command inside).id_mem]
      exact left command inside

theorem heartbeat (orderly : state.Orderly agentId leaseMs) {now : Int}
    (allowed : state.Allowed agentId (.heartbeat now)) (inOrder : state.InOrder agentId leaseMs (.heartbeat now))
    (taken : state.step agentId leaseMs (.heartbeat now) = some next) : next.Orderly agentId leaseMs := by
  simp only [step] at taken
  split_ifs at taken with idle
  obtain ⟨queue, drained, rfl⟩ := Option.map_eq_some_iff.mp taken
  have later : state.queue.Allowed (.drain agentId now) := ⟨allowed, fun _ _ same => by cases same⟩
  have alive := orderly.alive.onward later drained
  simp only [LifeState.step, Option.some.injEq] at drained
  subst drained
  -- the new response holds commands of the queue that are due
  have delivered : ∀ command ∈ (drain agentId now leaseMs state.queue.commands).1,
      ∃ old ∈ commandsOf state.queue.commands agentId, old.due now leaseMs = true ∧
        command = old.markDelivered now := by
    intro command member
    rw [drain_delivered orderly.alive.unique] at member
    obtain ⟨old, inside, rfl⟩ := List.mem_map.mp member
    obtain ⟨before, deliverable⟩ := List.mem_filter.mp inside
    rw [orderly.alive.deliverable_eq before] at deliverable
    exact ⟨old, before, deliverable, rfl⟩
  have content : ∀ command ∈ commandsOf (drain agentId now leaseMs state.queue.commands).2 agentId,
      command.isTerminal = true → command ∈ commandsOf state.queue.commands agentId := by
    intro command member terminal
    rw [commandsOf_drain_self orderly.alive.unique] at member
    obtain ⟨old, before, rfl⟩ := List.mem_map.mp member
    split_ifs at terminal ⊢ with deliverable
    · cases terminal
    · exact before
  refine ⟨alive, orderly.own, orderly.distinct, ?_, orderly.latest, orderly.acks, ?_⟩
  · intro command member
    rcases List.mem_append.mp member with new | old
    · obtain ⟨stored, before, -, rfl⟩ := delivered command new
      exact (orderly.alive.mem_enqueued before).1
    · exact orderly.outstanding command (List.mem_append_right _ old)
  · intro command member terminal
    have old := content command member terminal
    obtain ⟨executed, left⟩ := orderly.behind command old terminal
    refine ⟨executed, ?_⟩
    intro other inside
    rcases List.mem_append.mp inside with new | before
    · obtain ⟨stored, listed, due, rfl⟩ := delivered other new
      exact inOrder stored listed due command old terminal
    · exact left other (List.mem_append_right _ before)

theorem paused_carriedOut {command : ControlCommand}
    (kind : command.kind = .pauseExports ∨ command.kind = .resumeExports) (runtime : AgentRuntime E) :
    (carriedOut command.kind runtime).exportsPaused = decide (command.kind = .pauseExports) := by
  rcases kind with pause | resume
  · rw [pause]
    rfl
  · rw [resume]
    rfl

theorem execute (orderly : state.Orderly agentId leaseMs)
    (taken : state.step agentId leaseMs .execute = some next) : next.Orderly agentId leaseMs := by
  simp only [step] at taken
  cases listing : state.received with
  | nil => simp [listing] at taken
  | cons command rest =>
    simp only [listing, Option.some.injEq] at taken
    subst taken
    have here : command ∈ state.outstanding := by simp [OperatorState.outstanding, listing]
    have left : ∀ other ∈ state.response.getD [] ++ rest, other ∈ state.outstanding := by
      intro other member
      rw [OperatorState.outstanding, listing]
      rcases List.mem_append.mp member with sent | old
      · exact List.mem_append_left _ sent
      · exact List.mem_append_right _ (List.mem_cons_of_mem _ old)
    have known := orderly.outstanding command here
    refine ⟨orderly.alive, orderly.own, orderly.distinct, ?_, ?_, ?_, ?_⟩
    · exact fun other member => orderly.outstanding other (left other member)
    · intro other same
      cases same
      exact ⟨known, paused_carriedOut (orderly.own _ known).2 state.runtime⟩
    · intro commandId member
      refine ⟨?_, rfl⟩
      change commandId ∈ acknowledge command state.acks at member
      unfold acknowledge at member
      split_ifs at member
      · rcases List.mem_append.mp member with old | new
        · exact (orderly.acks commandId old).1
        · rw [List.mem_singleton.mp new]
          exact known.id_mem
      · exact (orderly.acks commandId member).1
    · intro finished member terminal
      obtain ⟨-, ahead⟩ := orderly.behind finished member terminal
      exact ⟨⟨command, rfl, ahead command here⟩, fun other inside => ahead other (left other inside)⟩

theorem ackArrives (orderly : state.Orderly agentId leaseMs) {index : Nat} {now : Int}
    (allowed : state.Allowed agentId (.ackArrives index now))
    (inOrder : state.InOrder agentId leaseMs (.ackArrives index now))
    (taken : state.step agentId leaseMs (.ackArrives index now) = some next) : next.Orderly agentId leaseMs := by
  simp only [step] at taken
  cases found : state.acks[index]? with
  | none => simp [found] at taken
  | some commandId =>
    simp only [found] at taken
    obtain ⟨queue, acked, rfl⟩ := Option.map_eq_some_iff.mp taken
    have later : state.queue.Allowed (.ack agentId commandId true none now) :=
      ⟨allowed, fun _ _ same => by cases same⟩
    have alive := orderly.alive.onward later acked
    obtain ⟨executed, ahead⟩ := inOrder commandId found
    have sent := List.mem_of_getElem? found
    -- what is finished now was finished before, or is the command this acknowledgement is for
    have history : queue.enqueued = state.queue.enqueued ∧
        ∀ command ∈ commandsOf queue.commands agentId, command.isTerminal = true →
          command ∈ commandsOf state.queue.commands agentId ∨ command.commandId = commandId := by
      simp only [LifeState.step] at acked
      split at acked
      next => cases acked
      next reply commands other result =>
        cases acked
        refine ⟨rfl, ?_⟩
        obtain ⟨listing, -, -⟩ := commandsOf_ack (by rw [result])
        intro command member _
        obtain ⟨old, before, rfl⟩ := List.mem_map.mp (listing.mem_iff.mp member)
        split_ifs with named
        · exact Or.inr named
        · exact Or.inl before
      next =>
        cases acked
        exact ⟨rfl, fun command member _ => Or.inl member⟩
    have place : ∀ commandId, position { state with queue := queue, acks := state.acks.eraseIdx index } commandId =
        state.position commandId := position_eq history.1
    have known : ∀ command, state.Known command →
        Known { state with queue := queue, acks := state.acks.eraseIdx index } command := by
      intro command listed
      change command.asEnqueued ∈ queue.enqueued
      rw [history.1]
      exact listed
    refine ⟨alive, ?_, ?_, ?_, ?_, ?_, ?_⟩
    · change ∀ command ∈ queue.enqueued, _
      rw [history.1]
      exact orderly.own
    · change (queue.enqueued.map _).Nodup
      rw [history.1]
      exact orderly.distinct
    · exact fun command member => known command (orderly.outstanding command member)
    · exact fun command last => ⟨known command (orderly.latest command last).1, (orderly.latest command last).2⟩
    · intro other member
      change other ∈ queue.enqueued.map _ ∧ _
      rw [history.1]
      exact orderly.acks other (List.mem_of_mem_eraseIdx member)
    · intro command member terminal
      simp only [place]
      by_cases named : command.commandId = commandId
      · obtain ⟨latest, last⟩ := Option.isSome_iff_exists.mp (orderly.acks commandId sent).2
        rw [named]
        exact ⟨⟨latest, last, executed latest last⟩, ahead⟩
      · exact orderly.behind command ((history.2 command member terminal).resolve_right named) terminal

theorem onward (orderly : state.Orderly agentId leaseMs) {event : OperatorEvent}
    (allowed : state.Allowed agentId event) (inOrder : state.InOrder agentId leaseMs event)
    (taken : state.step agentId leaseMs event = some next) : next.Orderly agentId leaseMs := by
  cases event with
  | enqueue command now => exact orderly.enqueue allowed taken
  | heartbeat now => exact orderly.heartbeat allowed inOrder taken
  | loseResponse =>
    cases taken
    refine orderly.of_same_queue rfl rfl rfl ?_ (fun _ member => member)
    exact fun command member => List.mem_append_right _ member
  | receive =>
    simp only [step] at taken
    cases sent : state.response with
    | none => simp [sent] at taken
    | some commands =>
      simp only [sent, Option.some.injEq] at taken
      subst taken
      refine orderly.of_same_queue rfl rfl rfl ?_ (fun _ member => member)
      intro command member
      rw [OperatorState.outstanding, sent]
      exact List.mem_append_left _ member
  | execute => exact orderly.execute taken
  | ackArrives index now => exact orderly.ackArrives allowed inOrder taken
  | ackLost index =>
    cases taken
    exact orderly.of_same_queue rfl rfl rfl (fun _ member => member) fun _ member => List.mem_of_mem_eraseIdx member

/-- The last of distinct commands is the only one at its place. -/
theorem eq_last {enqueued : List ControlCommand} (distinct : (enqueued.map ControlCommand.commandId).Nodup)
    {last command : ControlCommand} (ends : enqueued.getLast? = some last) (member : command ∈ enqueued)
    (behind : enqueued.findIdx (fun other => other.commandId = last.commandId) ≤
      enqueued.findIdx fun other => other.commandId = command.commandId) : command = last := by
  obtain ⟨before, rfl⟩ := List.getLast?_eq_some_iff.mp ends
  rw [List.map_append, List.nodup_append] at distinct
  rcases List.mem_append.mp member with early | same
  · exfalso
    have inside : command.commandId ∈ before.map ControlCommand.commandId := List.mem_map_of_mem early
    have first : before.findIdx (fun other => other.commandId = command.commandId) < before.length :=
      List.findIdx_lt_length_of_exists ⟨command, early, decide_eq_true rfl⟩
    have none : before.findIdx (fun other => other.commandId = last.commandId) = before.length := by
      apply List.findIdx_eq_length.mpr
      intro other listed
      apply decide_eq_false
      exact distinct.2.2 _ (List.mem_map_of_mem listed) _ (by simp)
    rw [findIdx_known inside, List.findIdx_append, none, if_neg (lt_irrefl _)] at behind
    omega
  · exact List.mem_singleton.mp same

theorem lastWins (orderly : state.Orderly agentId leaseMs) (acknowledged : state.AllAcknowledged agentId) :
    state.LastWins := by
  intro last ends
  have listed : last ∈ state.queue.enqueued := List.mem_of_getLast? ends
  have own := (orderly.own last listed).1
  have stored : last ∈ (commandsOf state.queue.commands agentId).map ControlCommand.asEnqueued :=
    (orderly.alive.kept agentId).mem_iff.mpr (List.mem_filter.mpr ⟨listed, decide_eq_true own⟩)
  obtain ⟨command, member, rfl⟩ := List.mem_map.mp stored
  obtain ⟨⟨latest, executed, behind⟩, -⟩ := orderly.behind command member (acknowledged command member)
  obtain ⟨known, flag⟩ := orderly.latest latest executed
  have same := eq_last orderly.distinct ends known behind
  rw [flag, show latest.kind = latest.asEnqueued.kind from rfl, same]

end Orderly

/-- In every run in which the steps are in order, whenever every command has been acknowledged the
exports are as the last command wants them. -/
theorem last_command_wins (runtime : AgentRuntime E) {clock : Int} {state : OperatorState E}
    (reached : Reaches (step agentId leaseMs)
      (fun state event => state.Allowed agentId event ∧ state.InOrder agentId leaseMs event)
      (start runtime clock) state)
    (acknowledged : state.AllAcknowledged agentId) : state.LastWins := by
  have orderly : state.Orderly agentId leaseMs := reached.invariant (Orderly.start runtime clock)
    fun kept allowed taken => kept.onward allowed.1 allowed.2 taken
  exact orderly.lastWins acknowledged

instance (state : OperatorState E) (event : OperatorEvent) : Decidable (state.Allowed agentId event) :=
  match event with
  | .enqueue _ _ => inferInstanceAs (Decidable (_ ∧ _ ∧ (_ ∨ _)))
  | .heartbeat _ => inferInstanceAs (Decidable (_ ≤ _))
  | .ackArrives _ _ => inferInstanceAs (Decidable (_ ≤ _))
  | .loseResponse => isTrue trivial
  | .receive => isTrue trivial
  | .execute => isTrue trivial
  | .ackLost _ => isTrue trivial

instance (state : OperatorState E) (event : OperatorEvent) : Decidable (state.InOrder agentId leaseMs event) :=
  match event with
  | .heartbeat now => inferInstanceAs (Decidable (∀ command ∈ commandsOf state.queue.commands agentId,
      command.due now leaseMs = true → ∀ finished ∈ commandsOf state.queue.commands agentId,
        finished.isTerminal = true → state.position finished.commandId ≤ state.position command.commandId))
  | .ackArrives index _ => inferInstanceAs (Decidable (∀ commandId ∈ state.acks[index]?,
      (∀ latest ∈ state.latest, state.position commandId ≤ state.position latest.commandId) ∧
      ∀ command ∈ state.outstanding, state.position commandId ≤ state.position command.commandId))
  | .enqueue _ _ => isTrue trivial
  | .loseResponse => isTrue trivial
  | .receive => isTrue trivial
  | .execute => isTrue trivial
  | .ackLost _ => isTrue trivial

def pauseCommand : ControlCommand :=
  ⟨"cmd-1", "agent-1", "payments", .pauseExports, "", 1, .pending, none, none, none⟩

def resumeCommand : ControlCommand :=
  ⟨"cmd-2", "agent-1", "payments", .resumeExports, "", 3, .pending, none, none, none⟩

theorem mergeSort_pair {α : Type} (le : α → α → Bool) (first second : α) :
    [first, second].mergeSort le = if le first second then [first, second] else [second, first] := by
  simp [List.mergeSort, List.merge]

/-- Two commands of the agent. -/
def bothCommands (pause resume : ControlCommand) : Commands := OrderedMap.empty.insert "agent-1" [pause, resume]

/-- The pause is executed, but its acknowledgement is lost. The first response that lists the resume
is lost as well, so both are delivered once more, and executed in order. -/
def lostResponse : List OperatorEvent :=
  [.enqueue pauseCommand 1, .heartbeat 2, .receive, .execute, .ackLost 0, .enqueue resumeCommand 3,
    .heartbeat 30000002, .loseResponse, .heartbeat 60000002, .receive, .execute, .execute]

theorem insert_bothCommands (first second pause resume : ControlCommand) :
    (bothCommands first second).insert "agent-1" [pause, resume] = bothCommands pause resume :=
  OrderedMap.insert_insert _ _ _ _

/-- The earlier command of the two is acknowledged. -/
theorem ack_first (first second : ControlCommand) (commandId : String) (now : Int)
    (named : first.commandId = commandId) (other : second.commandId ≠ commandId) (unfinished : first.isTerminal = false)
    (earlier : first.insertedAt < second.insertedAt) :
    ack "agent-1" commandId true none now (bothCommands first second) =
      (.ok (first.markAcknowledged true none now),
        some (bothCommands (first.markAcknowledged true none now) second)) := by
  have both : commandsOf (bothCommands first second) "agent-1" = [first, second] := rfl
  have sorted : [first.markAcknowledged true none now, second].mergeSort ControlCommand.sortsBefore =
      [first.markAcknowledged true none now, second] := by
    rw [mergeSort_pair, if_pos (by simp [ControlCommand.sortsBefore, ControlCommand.markAcknowledged, earlier])]
  simp [ack, both, named, other, unfinished, sorted, insert_bothCommands]

/-- The later command of the two is acknowledged. -/
theorem ack_second (first second : ControlCommand) (commandId : String) (now : Int)
    (named : second.commandId = commandId) (other : first.commandId ≠ commandId) (unfinished : second.isTerminal = false)
    (earlier : first.insertedAt < second.insertedAt) :
    ack "agent-1" commandId true none now (bothCommands first second) =
      (.ok (second.markAcknowledged true none now),
        some (bothCommands first (second.markAcknowledged true none now))) := by
  have both : commandsOf (bothCommands first second) "agent-1" = [first, second] := rfl
  have sorted : [second.markAcknowledged true none now, first].mergeSort ControlCommand.sortsBefore =
      [first, second.markAcknowledged true none now] := by
    rw [mergeSort_pair, if_neg]
    simp only [ControlCommand.sortsBefore, ControlCommand.markAcknowledged, Bool.or_eq_true, decide_eq_true_eq,
      Bool.and_eq_true, beq_iff_eq]
    omega
  simp [ack, both, named, other, unfinished, sorted, insert_bothCommands]

/-- Both acknowledgements are on their way. -/
def executedTwice : OperatorState Unit where
  queue := ⟨bothCommands (pauseCommand.markDelivered 60000002) (resumeCommand.markDelivered 60000002), 60000002,
    [pauseCommand, resumeCommand],
    [("cmd-1", 2), ("cmd-1", 30000002), ("cmd-2", 30000002), ("cmd-1", 60000002), ("cmd-2", 60000002)]⟩
  runtime := { defaultRuntime with exportsPaused := false }
  response := none
  received := []
  acks := ["cmd-1", "cmd-2"]
  latest := some (resumeCommand.markDelivered 60000002)

def firstAcknowledged : OperatorState Unit := { executedTwice with
  queue := { executedTwice.queue with
    commands := bothCommands ((pauseCommand.markDelivered 60000002).markAcknowledged true none 60000003)
      (resumeCommand.markDelivered 60000002)
    clock := 60000003 }
  acks := ["cmd-2"] }

def bothAcknowledged : OperatorState Unit := { executedTwice with
  queue := { executedTwice.queue with
    commands := bothCommands ((pauseCommand.markDelivered 60000002).markAcknowledged true none 60000003)
      ((resumeCommand.markDelivered 60000002).markAcknowledged true none 60000004)
    clock := 60000004 }
  acks := [] }

/-- The exports are resumed in the end, though the pause was delivered after the resume was enqueued. -/
theorem last_command_wins_lostResponse :
    bothAcknowledged.queue.enqueued = [pauseCommand, resumeCommand] ∧ bothAcknowledged.LastWins := by
  have executed : Reaches (step "agent-1" 30000) (fun state event => state.Allowed "agent-1" event ∧
      state.InOrder "agent-1" 30000 event) (start defaultRuntime 0) executedTwice :=
    Reaches.of_checked_run (show run _ _ lostResponse = _ from rfl)
  have first : executedTwice.step "agent-1" 30000 (.ackArrives 0 60000003) = some firstAcknowledged := by
    have reply := ack_first (pauseCommand.markDelivered 60000002) (resumeCommand.markDelivered 60000002) "cmd-1"
      60000003 rfl (by decide) rfl (by decide)
    simp only [step, executedTwice, LifeState.step] at reply ⊢
    rw [show ["cmd-1", "cmd-2"][0]? = some "cmd-1" from rfl]
    simp only [reply]
    rfl
  have second : firstAcknowledged.step "agent-1" 30000 (.ackArrives 0 60000004) = some bothAcknowledged := by
    have reply := ack_second ((pauseCommand.markDelivered 60000002).markAcknowledged true none 60000003)
      (resumeCommand.markDelivered 60000002) "cmd-2" 60000004 rfl (by decide) rfl (by decide)
    simp only [step, firstAcknowledged, executedTwice, LifeState.step] at reply ⊢
    rw [show ["cmd-2"][0]? = some "cmd-2" from rfl]
    simp only [reply]
    rfl
  have acknowledged : bothAcknowledged.AllAcknowledged "agent-1" := by
    unfold AllAcknowledged
    decide +kernel
  have reached := (executed.after (by decide) first).after (by decide) second
  exact ⟨rfl, last_command_wins defaultRuntime reached acknowledged⟩

/-! ### Out of order -/

/-- The pause is executed, but its acknowledgement is lost; then the resume is executed. -/
def pausedThenResumed : List OperatorEvent :=
  [.enqueue pauseCommand 1, .heartbeat 2, .receive, .execute, .ackLost 0, .enqueue resumeCommand 3, .heartbeat 4,
    .receive, .execute]

/-- The resume is acknowledged; the lease of the pause runs out and it is executed again. -/
def pausedAgain : List OperatorEvent := [.heartbeat 30000002, .receive, .execute]

/-- Both commands have been executed, and the acknowledgement of the resume is on its way. -/
def beforeAck : OperatorState Unit where
  queue := ⟨bothCommands (pauseCommand.markDelivered 2) (resumeCommand.markDelivered 4), 4,
    [pauseCommand, resumeCommand], [("cmd-1", 2), ("cmd-2", 4)]⟩
  runtime := { defaultRuntime with exportsPaused := false }
  response := none
  received := []
  acks := ["cmd-2"]
  latest := some (resumeCommand.markDelivered 4)

def afterAck : OperatorState Unit := { beforeAck with
  queue := { beforeAck.queue with
    commands := bothCommands (pauseCommand.markDelivered 2)
      ((resumeCommand.markDelivered 4).markAcknowledged true none 5)
    clock := 5 }
  acks := [] }

def beforeLastAck : OperatorState Unit where
  queue := ⟨bothCommands (pauseCommand.markDelivered 30000002)
    ((resumeCommand.markDelivered 4).markAcknowledged true none 5), 30000002,
    [pauseCommand, resumeCommand], [("cmd-1", 2), ("cmd-2", 4), ("cmd-1", 30000002)]⟩
  runtime := { defaultRuntime with exportsPaused := true }
  response := none
  received := []
  acks := ["cmd-1"]
  latest := some (pauseCommand.markDelivered 30000002)

def afterLastAck : OperatorState Unit := { beforeLastAck with
  queue := { beforeLastAck.queue with
    commands := bothCommands ((pauseCommand.markDelivered 30000002).markAcknowledged true none 30000003)
      ((resumeCommand.markDelivered 4).markAcknowledged true none 5)
    clock := 30000003 }
  acks := [] }

/-- Every command has been acknowledged and the last one was to resume, but the exports are
paused. -/
theorem redelivered_pause_undoes_resume :
    Reaches (step "agent-1" 30000) (fun state event => state.Allowed "agent-1" event) (start defaultRuntime 0)
      afterLastAck ∧
    afterLastAck.AllAcknowledged "agent-1" ∧ afterLastAck.queue.enqueued = [pauseCommand, resumeCommand] ∧
    afterLastAck.runtime.exportsPaused = true ∧ ¬ afterLastAck.LastWins := by
  have first : Reaches (step "agent-1" 30000) (fun state event => state.Allowed "agent-1" event)
      (start defaultRuntime 0) beforeAck :=
    Reaches.of_checked_run (show run _ _ pausedThenResumed = _ from rfl)
  have acked : beforeAck.step "agent-1" 30000 (.ackArrives 0 5) = some afterAck := by
    have reply := ack_second (pauseCommand.markDelivered 2) (resumeCommand.markDelivered 4) "cmd-2" 5 rfl
      (by decide) rfl (by decide)
    simp only [step, beforeAck, LifeState.step] at reply ⊢
    rw [show ["cmd-2"][0]? = some "cmd-2" from rfl]
    simp only [reply]
    rfl
  have second : Reaches (step "agent-1" 30000) (fun state event => state.Allowed "agent-1" event) afterAck
      beforeLastAck :=
    Reaches.of_checked_run (show run _ _ pausedAgain = _ from rfl)
  have last : beforeLastAck.step "agent-1" 30000 (.ackArrives 0 30000003) = some afterLastAck := by
    have reply := ack_first (pauseCommand.markDelivered 30000002)
      ((resumeCommand.markDelivered 4).markAcknowledged true none 5) "cmd-1" 30000003 rfl (by decide)
      rfl (by decide)
    simp only [step, beforeLastAck, LifeState.step] at reply ⊢
    rw [show ["cmd-1"][0]? = some "cmd-1" from rfl]
    simp only [reply]
    rfl
  refine ⟨((first.after (by decide) acked).trans second).after (by decide) last, ?_, rfl, rfl, ?_⟩
  · unfold AllAcknowledged
    decide +kernel
  · intro wins
    have flag := wins resumeCommand rfl
    cases flag

end OperatorState

end TelemetryFabric.ControlPlane
