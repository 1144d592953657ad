import TelemetryFabric.ControlPlane.CommandQueue

/-!
The life of a command while the queue process runs. Commands are enqueued with ids of their
own, drained by heartbeats and acknowledged, for any agents and in any order; what the drains
have returned is kept beside the queue.
-/

namespace TelemetryFabric.ControlPlane
open Library

namespace ControlCommand

/-- The command as it was enqueued. -/
def asEnqueued (command : ControlCommand) : ControlCommand :=
  { command with status := .pending, deliveredAt := none, acknowledgedAt := none, lastError := none }

/-- What a drain is to return: a pending command, or one whose lease has run out. -/
def due (command : ControlCommand) (now leaseMs : Int) : Bool :=
  match command.status, command.deliveredAt with
  | .pending, _ => true
  | .delivered, some deliveredAt => decide (deliveredAt + leaseMs * 1000 ≤ now)
  | _, _ => false

end ControlCommand

/-- The ways a status may go, or stay. -/
inductive CommandStatus.Moves : CommandStatus → CommandStatus → Prop where
  | stays (status : CommandStatus) : Moves status status
  | delivered : Moves .pending .delivered
  | finished {before after : CommandStatus} (open_ : before = .pending ∨ before = .delivered)
      (done : after = .succeeded ∨ after = .failed) : Moves before after

/-- The queue, the time of the last call, the commands that were enqueued, and the ids that
drains have returned with their times. -/
structure LifeState where
  commands : Commands
  clock : Int
  enqueued : List ControlCommand
  deliveries : List (String × Int)
  deriving DecidableEq

inductive LifeEvent where
  | enqueue (command : ControlCommand) (now : Int)
  | drain (agentId : String) (now : Int)
  | ack (agentId commandId : String) (success : Bool) (message : Option String) (now : Int)

def LifeEvent.time : LifeEvent → Int
  | .enqueue _ now => now
  | .drain _ now => now
  | .ack _ _ _ _ now => now

namespace LifeState

def initial (clock : Int) : LifeState := ⟨.empty, clock, [], []⟩

/-- There is no next state where the process ends. -/
def step (leaseMs : Int) (state : LifeState) : LifeEvent → Option LifeState
  | .enqueue command now => some { state with
      commands := ControlPlane.enqueue command state.commands
      clock := now
      enqueued := state.enqueued ++ [command] }
  | .drain agentId now =>
      let result := ControlPlane.drain agentId now leaseMs state.commands
      some { state with
        commands := result.2
        clock := now
        deliveries := state.deliveries ++ result.1.map fun command => (command.commandId, now) }
  | .ack agentId commandId success message now =>
      match ControlPlane.ack agentId commandId success message now state.commands with
      | (.noReply, _) => none
      | (_, some commands) => some { state with commands := commands, clock := now }
      | (_, none) => some { state with clock := now }

/-- The clock does not go back, and a command that is enqueued is a fresh one. -/
def Allowed (state : LifeState) (event : LifeEvent) : Prop :=
  state.clock ≤ event.time ∧ ∀ command now, event = .enqueue command now →
    command.asEnqueued = command ∧ command.commandId ∉ state.enqueued.map ControlCommand.commandId

end LifeState

/-! ### One call -/

section Calls

variable {commands : Commands} {agentId : String} {now leaseMs : Int}

theorem mem_deliverableIds_of_nodup {existing : List ControlCommand}
    (nodup : (existing.map ControlCommand.commandId).Nodup) {command : ControlCommand} (member : command ∈ existing) :
    command.commandId ∈ deliverableIds now leaseMs existing ↔ command.deliverable now leaseMs = true := by
  unfold deliverableIds
  rw [List.mem_map]
  constructor
  · intro ⟨other, listed, same⟩
    obtain ⟨also, deliverable⟩ := List.mem_filter.mp listed
    rw [← List.inj_on_of_nodup_map nodup also member same]
    exact deliverable
  · intro deliverable
    exact ⟨command, List.mem_filter.mpr ⟨member, deliverable⟩, rfl⟩

theorem mem_deliverableIds (unique : Unique commands) {command : ControlCommand}
    (member : command ∈ commandsOf commands agentId) :
    command.commandId ∈ deliverableIds now leaseMs (commandsOf commands agentId) ↔
      command.deliverable now leaseMs = true :=
  mem_deliverableIds_of_nodup (unique.parts agentId).1 member

theorem not_isTerminal_of_deliverable {command : ControlCommand} (deliverable : command.deliverable now leaseMs = true) :
    command.isTerminal = false := by
  cases terminal : command.isTerminal with
  | false => rfl
  | true =>
    rw [not_deliverable_of_isTerminal now leaseMs terminal] at deliverable
    cases deliverable

theorem exists_agent_of_mem_stored {command : ControlCommand} (member : command ∈ stored commands) :
    ∃ agentId, command ∈ commandsOf commands agentId := by
  obtain ⟨entry, inside, held⟩ := List.mem_flatMap.mp member
  refine ⟨entry.1, ?_⟩
  unfold commandsOf
  rw [(commands.find?_eq_some_iff entry.1 entry.2).mpr inside]
  exact held

theorem mem_commandsOf_enqueue {command other : ControlCommand}
    (member : other ∈ commandsOf (enqueue command commands) agentId) :
    other ∈ commandsOf commands agentId ∨ agentId = command.agentId ∧ other = command := by
  unfold enqueue at member
  rw [commandsOf_insert] at member
  split_ifs at member with here
  · subst here
    rcases List.mem_append.mp member with old | new
    · exact Or.inl old
    · exact Or.inr ⟨rfl, List.mem_singleton.mp new⟩
  · exact Or.inl member

/-- The commands of one agent behind its own drain. -/
theorem commandsOf_drain_self (unique : Unique commands) :
    commandsOf (drain agentId now leaseMs commands).2 agentId =
      (commandsOf commands agentId).map fun command =>
        if command.deliverable now leaseMs then command.markDelivered now else command := by
  rw [commandsOf_drain, if_pos rfl]
  apply List.map_congr_left
  intro command member
  exact if_congr (mem_deliverableIds unique member) rfl rfl

theorem filter_map_of_ids {ids : List String} {items : List ControlCommand}
    (due : ControlCommand → Bool) (listed : ∀ command ∈ items, command.commandId ∈ ids ↔ due command = true) :
    ((items.map fun command => if command.commandId ∈ ids then command.markDelivered now else command).filter
      fun command => command.commandId ∈ ids) = (items.filter due).map fun command => command.markDelivered now := by
  induction items with
  | nil => rfl
  | cons head rest ih =>
    obtain ⟨first, others⟩ := List.forall_mem_cons.mp listed
    by_cases inside : head.commandId ∈ ids
    · have kept : decide ((head.markDelivered now).commandId ∈ ids) = true := decide_eq_true inside
      rw [List.filter_cons_of_pos (first.mp inside), List.map_cons, List.map_cons, if_pos inside,
        List.filter_cons, if_pos kept, ih others]
    · have idle : ¬ due head = true := fun yes => inside (first.mpr yes)
      rw [List.filter_cons_of_neg idle, List.map_cons, if_neg inside,
        List.filter_cons_of_neg (by simpa using inside), ih others]

/-- What a drain returns. -/
theorem drain_delivered (unique : Unique commands) :
    (drain agentId now leaseMs commands).1 = ((commandsOf commands agentId).filter fun command =>
      command.deliverable now leaseMs).map fun command => command.markDelivered now :=
  filter_map_of_ids _ fun _ member => mem_deliverableIds unique member

/-- The other commands of the agent are as they were, behind the acknowledgement of one. -/
theorem commandsOf_ack {commandId : String} {success : Bool} {message : Option String}
    {after : Commands} (persisted : (ack agentId commandId success message now commands).2 = some after) :
    (commandsOf after agentId).Perm ((commandsOf commands agentId).map fun command =>
      if command.commandId = commandId then command.markAcknowledged success message now else command) ∧
    (∀ other, other ≠ agentId → commandsOf after other = commandsOf commands other) ∧
    ∀ command ∈ commandsOf commands agentId, command.commandId = commandId → command.isTerminal = false := by
  obtain ⟨found, single, unfinished, rfl⟩ := ack_persisted persisted
  have only : ∀ command ∈ commandsOf commands agentId, command.commandId = commandId → command = found := by
    intro command member named
    have listed : command ∈ [found] := by
      rw [← single]
      exact List.mem_filter.mpr ⟨member, decide_eq_true named⟩
    exact List.mem_singleton.mp listed
  refine ⟨?_, ?_, ?_⟩
  · rw [commandsOf_insert, if_pos rfl]
    refine (List.mergeSort_perm _ _).trans ?_
    have parts := (List.filter_append_perm (fun command : ControlCommand => decide (command.commandId = commandId))
      (commandsOf commands agentId)).map fun command =>
        if command.commandId = commandId then command.markAcknowledged success message now else command
    rw [List.map_append, single] at parts
    refine List.Perm.trans (List.Perm.of_eq ?_) parts
    have named : found.commandId = commandId := by
      have listed : found ∈ (commandsOf commands agentId).filter fun command => command.commandId = commandId := by
        rw [single]
        exact List.mem_singleton_self found
      exact of_decide_eq_true (List.mem_filter.mp listed).2
    rw [List.map_singleton, if_pos named, List.singleton_append]
    congr 1
    rw [List.map_congr_left (g := id)]
    · rw [List.map_id]
      apply List.filter_congr
      intro command _
      exact decide_not
    · intro command member
      exact if_neg (by simpa using (List.mem_filter.mp member).2)
  · intro other different
    rw [commandsOf_insert, if_neg different]
  · intro command member named
    rw [only command member named]
    exact unfinished

/-- The command an acknowledgement finds, with what it replies and leaves. -/
theorem ack_cases (unique : Unique commands) (agentId commandId : String) (success : Bool) (message : Option String)
    (now : Int) :
    ack agentId commandId success message now commands = (.notFound, none) ∨
    ∃ found ∈ commandsOf commands agentId, found.commandId = commandId ∧
      (found.isTerminal = true ∧ ack agentId commandId success message now commands = (.ok found, none) ∨
      found.isTerminal = false ∧ ∃ after, ack agentId commandId success message now commands =
        (.ok (found.markAcknowledged success message now), some after)) := by
  unfold ack
  dsimp only
  cases listing : (commandsOf commands agentId).filter (fun command => command.commandId = commandId) with
  | nil => exact Or.inl rfl
  | cons found rest =>
    have inside : found ∈ (commandsOf commands agentId).filter (fun command => command.commandId = commandId) := by
      simp [listing]
    obtain ⟨member, named⟩ := List.mem_filter.mp inside
    have single := filter_eq_singleton (unique.parts agentId).1 member
    rw [of_decide_eq_true named, listing] at single
    obtain ⟨-, rfl⟩ := List.cons.inj single
    refine Or.inr ⟨found, member, of_decide_eq_true named, ?_⟩
    cases terminal : found.isTerminal with
    | true => exact Or.inl ⟨rfl, if_pos terminal⟩
    | false => exact Or.inr ⟨rfl, _, if_neg (by simp [terminal])⟩

end Calls

/-! ### The invariant -/

namespace LifeState

variable {leaseMs : Int} {state next : LifeState}

/-- What the queue holds of the commands that were enqueued, and what it knows of the drains. -/
structure Alive (leaseMs : Int) (state : LifeState) : Prop where
  unique : Unique state.commands
  kept : ∀ agentId, ((commandsOf state.commands agentId).map ControlCommand.asEnqueued).Perm
    (state.enqueued.filter fun command => command.agentId = agentId)
  pending : ∀ agentId, ∀ command ∈ commandsOf state.commands agentId, command.status = .pending →
    ∀ delivery ∈ state.deliveries, delivery.1 ≠ command.commandId
  delivered : ∀ agentId, ∀ command ∈ commandsOf state.commands agentId, command.status = .delivered →
    ∃ deliveredAt, command.deliveredAt = some deliveredAt ∧
      ∀ delivery ∈ state.deliveries, delivery.1 = command.commandId → delivery.2 ≤ deliveredAt
  known : ∀ delivery ∈ state.deliveries, delivery.1 ∈ state.enqueued.map ControlCommand.commandId
  past : ∀ delivery ∈ state.deliveries, delivery.2 ≤ state.clock
  apart : state.deliveries.Pairwise fun earlier later =>
    earlier.1 = later.1 → earlier.2 + leaseMs * 1000 ≤ later.2

namespace Alive

variable {agentId : String} {command : ControlCommand}

theorem mem_enqueued (alive : state.Alive leaseMs) (member : command ∈ commandsOf state.commands agentId) :
    command.asEnqueued ∈ state.enqueued ∧ command.agentId = agentId := by
  have listed := (alive.kept agentId).mem_iff.mp (List.mem_map_of_mem member)
  obtain ⟨inside, same⟩ := List.mem_filter.mp listed
  exact ⟨inside, of_decide_eq_true same⟩

theorem id_mem (alive : state.Alive leaseMs) (member : command ∈ commandsOf state.commands agentId) :
    command.commandId ∈ state.enqueued.map ControlCommand.commandId :=
  List.mem_map.mpr ⟨_, (alive.mem_enqueued member).1, rfl⟩

/-- In the queue, a command that was delivered has the time of its delivery. -/
theorem deliverable_eq (alive : state.Alive leaseMs) (member : command ∈ commandsOf state.commands agentId)
    (now : Int) : command.deliverable now leaseMs = command.due now leaseMs := by
  have delivered := alive.delivered agentId command member
  unfold ControlCommand.deliverable ControlCommand.isPending ControlCommand.leaseExpired ControlCommand.due
  cases status : command.status with
  | pending => rfl
  | delivered =>
    obtain ⟨deliveredAt, at_, -⟩ := delivered status
    rw [at_]
    rfl
  | succeeded => rfl
  | failed => rfl

theorem start (clock : Int) : (initial clock).Alive leaseMs := by
  refine ⟨List.nodup_nil, fun agentId => .refl _, ?_, ?_, ?_, ?_, .nil⟩
  · intro agentId command member
    cases member
  · intro agentId command member
    cases member
  · intro delivery member
    cases member
  · intro delivery member
    cases member

theorem enqueue (alive : state.Alive leaseMs) {now : Int} (allowed : state.Allowed (.enqueue command now))
    (taken : state.step leaseMs (.enqueue command now) = some next) : next.Alive leaseMs := by
  obtain ⟨later, fresh⟩ := allowed
  obtain ⟨same, new⟩ := fresh command now rfl
  have content : ∀ agentId, commandsOf (ControlPlane.enqueue command state.commands) agentId =
      if agentId = command.agentId then commandsOf state.commands agentId ++ [command]
      else commandsOf state.commands agentId := by
    intro agentId
    rw [ControlPlane.enqueue, commandsOf_insert]
    split_ifs with here
    · rw [here]
    · rfl
  have cases : ∀ {agentId other}, other ∈ commandsOf (ControlPlane.enqueue command state.commands) agentId →
      other ∈ commandsOf state.commands agentId ∨ other = command :=
    fun member => (mem_commandsOf_enqueue member).imp_right And.right
  cases taken
  refine ⟨alive.unique.enqueue ?_, ?_, ?_, ?_, ?_, ?_, alive.apart⟩
  · intro listed
    obtain ⟨other, member, named⟩ := List.mem_map.mp listed
    obtain ⟨agentId, found⟩ := exists_agent_of_mem_stored member
    rw [← named] at new
    exact new (alive.id_mem found)
  · intro agentId
    have before := alive.kept agentId
    simp only [content]
    rw [List.filter_append]
    split_ifs with here
    · rw [List.map_append, List.map_singleton, same, List.filter_cons_of_pos (by simp [here]), List.filter_nil]
      exact before.append_right _
    · rw [List.filter_cons_of_neg (by simpa using Ne.symm here), List.filter_nil, List.append_nil]
      exact before
  · intro agentId other member status delivery past named
    rcases cases member with old | rfl
    · exact alive.pending agentId other old status delivery past named
    · exact new (named ▸ alive.known delivery past)
  · intro agentId other member status
    rcases cases member with old | rfl
    · exact alive.delivered agentId other old status
    · rw [← same] at status
      cases status
  · intro delivery past
    rw [List.map_append]
    exact List.mem_append_left _ (alive.known delivery past)
  · intro delivery past
    exact (alive.past delivery past).trans later

/-- A command that a drain returns has been returned before no later than its lease allows. -/
theorem deliverable_past (alive : state.Alive leaseMs) (member : command ∈ commandsOf state.commands agentId)
    {now : Int} (deliverable : command.deliverable now leaseMs = true) {delivery : String × Int}
    (past : delivery ∈ state.deliveries) (named : delivery.1 = command.commandId) :
    delivery.2 + leaseMs * 1000 ≤ now := by
  rw [alive.deliverable_eq member] at deliverable
  unfold ControlCommand.due at deliverable
  cases status : command.status with
  | pending => exact absurd named (alive.pending agentId command member status delivery past)
  | delivered =>
    obtain ⟨deliveredAt, at_, before⟩ := alive.delivered agentId command member status
    rw [status, at_] at deliverable
    have expired : deliveredAt + leaseMs * 1000 ≤ now := of_decide_eq_true deliverable
    have earlier := before delivery past named
    omega
  | succeeded => simp [status] at deliverable
  | failed => simp [status] at deliverable

theorem drain (alive : state.Alive leaseMs) {now : Int} (allowed : state.Allowed (.drain agentId now))
    (taken : state.step leaseMs (.drain agentId now) = some next) : next.Alive leaseMs := by
  have later : state.clock ≤ now := allowed.1
  simp only [LifeState.step, Option.some.injEq] at taken
  subst taken
  -- what a command of the new queue was before
  have cases : ∀ {otherId other}, other ∈ commandsOf (ControlPlane.drain agentId now leaseMs state.commands).2 otherId →
      ∃ old ∈ commandsOf state.commands otherId,
        otherId = agentId ∧ old.deliverable now leaseMs = true ∧ other = old.markDelivered now ∨
        other ∈ commandsOf state.commands otherId ∧ (otherId = agentId → other.deliverable now leaseMs = false) ∧
          other = old := by
    intro otherId other member
    by_cases here : otherId = agentId
    · subst here
      rw [commandsOf_drain_self alive.unique] at member
      obtain ⟨old, before, rfl⟩ := List.mem_map.mp member
      by_cases deliverable : old.deliverable now leaseMs = true
      · rw [if_pos deliverable]
        exact ⟨old, before, Or.inl ⟨rfl, deliverable, rfl⟩⟩
      · rw [if_neg deliverable]
        exact ⟨old, before, Or.inr ⟨before, fun _ => by simpa using deliverable, rfl⟩⟩
    · rw [commandsOf_drain, if_neg here] at member
      exact ⟨other, member, Or.inr ⟨member, fun same => absurd same here, rfl⟩⟩
  have returned : ∀ {delivery : String × Int}, delivery ∈ (ControlPlane.drain agentId now leaseMs state.commands).1.map
      (fun command => (command.commandId, now)) →
      ∃ old ∈ commandsOf state.commands agentId, old.deliverable now leaseMs = true ∧
        delivery = (old.commandId, now) := by
    intro delivery member
    rw [drain_delivered alive.unique, List.map_map] at member
    obtain ⟨old, inside, rfl⟩ := List.mem_map.mp member
    obtain ⟨before, deliverable⟩ := List.mem_filter.mp inside
    exact ⟨old, before, deliverable, rfl⟩
  refine ⟨alive.unique.drain agentId now leaseMs, ?_, ?_, ?_, ?_, ?_, ?_⟩
  · intro otherId
    refine List.Perm.trans (List.Perm.of_eq ?_) (alive.kept otherId)
    by_cases here : otherId = agentId
    · subst here
      dsimp only
      rw [commandsOf_drain_self alive.unique, List.map_map]
      apply List.map_congr_left
      intro other _
      dsimp only [Function.comp]
      split_ifs <;> rfl
    · dsimp only
      rw [commandsOf_drain, if_neg here]
  · intro otherId other member status delivery past named
    obtain ⟨old, before, ⟨-, -, rfl⟩ | ⟨still, idle, rfl⟩⟩ := cases member
    · cases status
    · rcases List.mem_append.mp past with earlier | new
      · exact alive.pending otherId other still status delivery earlier named
      · obtain ⟨known, listed, deliverable, rfl⟩ := returned new
        obtain ⟨rfl, rfl⟩ := alive.unique.same listed still named
        rw [idle rfl] at deliverable
        cases deliverable
  · intro otherId other member status
    obtain ⟨old, before, ⟨-, -, rfl⟩ | ⟨still, idle, rfl⟩⟩ := cases member
    · refine ⟨now, rfl, ?_⟩
      intro delivery past _
      rcases List.mem_append.mp past with earlier | new
      · exact (alive.past delivery earlier).trans later
      · obtain ⟨known, -, -, rfl⟩ := returned new
        exact le_rfl
    · obtain ⟨deliveredAt, at_, times⟩ := alive.delivered otherId other still status
      refine ⟨deliveredAt, at_, ?_⟩
      intro delivery past named
      rcases List.mem_append.mp past with earlier | new
      · exact times delivery earlier named
      · obtain ⟨known, listed, deliverable, rfl⟩ := returned new
        obtain ⟨rfl, rfl⟩ := alive.unique.same listed still named
        rw [idle rfl] at deliverable
        cases deliverable
  · intro delivery past
    rcases List.mem_append.mp past with earlier | new
    · exact alive.known delivery earlier
    · obtain ⟨known, listed, -, rfl⟩ := returned new
      exact alive.id_mem listed
  · intro delivery past
    rcases List.mem_append.mp past with earlier | new
    · exact (alive.past delivery earlier).trans later
    · obtain ⟨known, -, -, rfl⟩ := returned new
      exact le_rfl
  · refine List.pairwise_append.mpr ⟨alive.apart, ?_, ?_⟩
    · -- one drain returns no command twice
      rw [drain_delivered alive.unique, List.map_map]
      apply List.pairwise_map.mpr
      have nodup := (alive.unique.parts agentId).1
      have distinct := (List.pairwise_map.mp nodup).sublist
        (List.filter_sublist (p := fun command => ControlCommand.deliverable command now leaseMs))
      exact distinct.imp fun different same => absurd same different
    · intro delivery earlier new member named
      obtain ⟨old, listed, deliverable, rfl⟩ := returned member
      exact alive.deliverable_past listed deliverable earlier named

theorem ack (alive : state.Alive leaseMs) {commandId : String} {success : Bool} {message : Option String} {now : Int}
    (allowed : state.Allowed (.ack agentId commandId success message now))
    (taken : state.step leaseMs (.ack agentId commandId success message now) = some next) : next.Alive leaseMs := by
  have later : state.clock ≤ now := allowed.1
  have waited : ∀ delivery ∈ state.deliveries, delivery.2 ≤ now :=
    fun delivery member => (alive.past delivery member).trans later
  simp only [step] at taken
  split at taken
  next => cases taken
  next reply commands other result =>
    cases taken
    have persisted : (ControlPlane.ack agentId commandId success message now state.commands).2 = some commands := by
      rw [result]
    obtain ⟨listing, others, -⟩ := commandsOf_ack persisted
    -- only finished commands are new
    have cases : ∀ {otherId other}, other ∈ commandsOf commands otherId →
        other ∈ commandsOf state.commands otherId ∨ other.isTerminal = true := by
      intro otherId other member
      by_cases here : otherId = agentId
      · subst here
        obtain ⟨old, before, rfl⟩ := List.mem_map.mp (listing.mem_iff.mp member)
        split_ifs
        · refine Or.inr ?_
          cases success <;> rfl
        · exact Or.inl before
      · rw [others otherId here] at member
        exact Or.inl member
    refine ⟨alive.unique.ack persisted, ?_, ?_, ?_, alive.known, waited, alive.apart⟩
    · intro otherId
      by_cases here : otherId = agentId
      · subst here
        refine (listing.map _).trans (List.Perm.trans (List.Perm.of_eq ?_) (alive.kept otherId))
        rw [List.map_map]
        apply List.map_congr_left
        intro other _
        dsimp only [Function.comp]
        split_ifs <;> rfl
      · change ((commandsOf commands otherId).map _).Perm _
        rw [others otherId here]
        exact alive.kept otherId
    · intro otherId other member status
      rcases cases member with old | terminal
      · exact alive.pending otherId other old status
      · simp [ControlCommand.isTerminal, status] at terminal
    · intro otherId other member status
      rcases cases member with old | terminal
      · exact alive.delivered otherId other old status
      · simp [ControlCommand.isTerminal, status] at terminal
  next =>
    cases taken
    exact ⟨alive.unique, alive.kept, alive.pending, alive.delivered, alive.known, waited, alive.apart⟩

theorem onward (alive : state.Alive leaseMs) {event : LifeEvent} (allowed : state.Allowed event)
    (taken : state.step leaseMs event = some next) : next.Alive leaseMs := by
  cases event with
  | enqueue command now => exact alive.enqueue allowed taken
  | drain agentId now => exact alive.drain allowed taken
  | ack agentId commandId success message now => exact alive.ack allowed taken

end Alive

/-! ### What follows from a state on -/

/-- Nothing ends the process. -/
theorem Alive.goes_on (alive : state.Alive leaseMs) (event : LifeEvent) : ∃ next, state.step leaseMs event = some next := by
  cases event with
  | enqueue command now => exact ⟨_, rfl⟩
  | drain agentId now => exact ⟨_, rfl⟩
  | ack agentId commandId success message now =>
    simp only [step]
    rcases ack_cases alive.unique agentId commandId success message now with missing | ⟨found, -, -, outcome⟩
    · exact ⟨_, by rw [missing]⟩
    · rcases outcome with ⟨-, again⟩ | ⟨-, after, acked⟩
      · exact ⟨_, by rw [again]⟩
      · exact ⟨_, by rw [acked]⟩

/-- One step takes each command to one with the same id and a status it may go to. -/
theorem Alive.moves (alive : state.Alive leaseMs) {event : LifeEvent} (taken : state.step leaseMs event = some next)
    {agentId : String} {command : ControlCommand} (member : command ∈ commandsOf state.commands agentId) :
    ∃ after ∈ commandsOf next.commands agentId, after.commandId = command.commandId ∧
      command.status.Moves after.status := by
  cases event with
  | enqueue new now =>
    cases taken
    refine ⟨command, ?_, rfl, .stays _⟩
    change command ∈ commandsOf (ControlPlane.enqueue new state.commands) agentId
    rw [ControlPlane.enqueue, commandsOf_insert]
    split_ifs with here
    · rw [← here]
      exact List.mem_append_left _ member
    · exact member
  | drain drainedId now =>
    simp only [step, Option.some.injEq] at taken
    subst taken
    dsimp only
    by_cases here : agentId = drainedId
    · subst here
      rw [commandsOf_drain_self alive.unique]
      refine ⟨_, List.mem_map_of_mem member, ?_⟩
      split_ifs with deliverable
      · refine ⟨rfl, ?_⟩
        cases status : command.status with
        | pending => exact .delivered
        | delivered => exact .stays _
        | succeeded => simp [ControlCommand.deliverable, ControlCommand.isPending, ControlCommand.leaseExpired, status] at deliverable
        | failed => simp [ControlCommand.deliverable, ControlCommand.isPending, ControlCommand.leaseExpired, status] at deliverable
      · exact ⟨rfl, .stays _⟩
    · rw [commandsOf_drain, if_neg here]
      exact ⟨command, member, rfl, .stays _⟩
  | ack ackedId commandId success message now =>
    simp only [step] at taken
    split at taken
    next => cases taken
    next reply commands other result =>
      cases taken
      have persisted : (ControlPlane.ack ackedId commandId success message now state.commands).2 = some commands := by
        rw [result]
      obtain ⟨listing, others, unfinished⟩ := commandsOf_ack persisted
      by_cases here : agentId = ackedId
      · subst here
        refine ⟨_, listing.mem_iff.mpr (List.mem_map_of_mem member), ?_⟩
        split_ifs with named
        · refine ⟨rfl, .finished ?_ ?_⟩
          · have open_ := unfinished command member named
            cases status : command.status <;> simp_all [ControlCommand.isTerminal]
          · cases success <;> simp [ControlCommand.markAcknowledged]
        · exact ⟨rfl, .stays _⟩
      · refine ⟨command, ?_, rfl, .stays _⟩
        change command ∈ commandsOf commands agentId
        rw [others agentId here]
        exact member
    next =>
      cases taken
      exact ⟨command, member, rfl, .stays _⟩

theorem Alive.keepsFinished (alive : state.Alive leaseMs) {event : LifeEvent}
    (taken : state.step leaseMs event = some next) : KeepsFinished state.commands next.commands := by
  cases event with
  | enqueue new now =>
    cases taken
    exact KeepsFinished.enqueue _ _
  | drain drainedId now =>
    simp only [step, Option.some.injEq] at taken
    subst taken
    intro agentId command member terminal
    exact (drain_finished drainedId now leaseMs alive.unique member terminal).1
  | ack ackedId commandId success message now =>
    simp only [step] at taken
    split at taken
    next => cases taken
    next reply commands other result =>
      cases taken
      intro agentId command member terminal
      exact ack_finished (by rw [result]) member terminal
    next =>
      cases taken
      exact fun _ _ member _ => member

theorem Alive.reaches {later : LifeState} (alive : state.Alive leaseMs)
    (reached : Reaches (step leaseMs) Allowed state later) :
    later.Alive leaseMs ∧ KeepsFinished state.commands later.commands := by
  refine reached.invariant (P := fun later => later.Alive leaseMs ∧ KeepsFinished state.commands later.commands)
    ⟨alive, fun _ _ member _ => member⟩ ?_
  rintro current event next ⟨current_alive, kept⟩ allowed taken
  refine ⟨current_alive.onward allowed taken, ?_⟩
  intro agentId command member terminal
  exact current_alive.keepsFinished taken agentId command (kept agentId command member terminal) terminal

/-- A finished command is acknowledged again with the outcome it has. -/
theorem Alive.ack_again (alive : state.Alive leaseMs) {agentId : String} {command : ControlCommand}
    (member : command ∈ commandsOf state.commands agentId) (terminal : command.isTerminal = true) (success : Bool)
    (message : Option String) (now : Int) :
    ControlPlane.ack agentId command.commandId success message now state.commands = (.ok command, none) := by
  unfold ControlPlane.ack
  dsimp only
  rw [filter_eq_singleton (alive.unique.parts agentId).1 member]
  simp only [terminal, if_true]

/-- A command that was acknowledged is stored as the reply has it, and is finished. -/
theorem ack_stored {agentId commandId : String} {success : Bool}
    {message : Option String} {now : Int} {reply : ControlCommand} {persisted : Option Commands}
    (acked : ControlPlane.ack agentId commandId success message now state.commands = (.ok reply, persisted)) :
    reply.commandId = commandId ∧ reply.isTerminal = true ∧
      reply ∈ commandsOf (persisted.getD state.commands) agentId := by
  unfold ControlPlane.ack at acked
  dsimp only at acked
  split at acked
  next found single =>
    have inside : found ∈ (commandsOf state.commands agentId).filter (fun command => command.commandId = commandId) := by
      simp [single]
    obtain ⟨member, named⟩ := List.mem_filter.mp inside
    split_ifs at acked with terminal
    · cases acked
      exact ⟨of_decide_eq_true named, terminal, member⟩
    · cases acked
      refine ⟨of_decide_eq_true named, ?_, ?_⟩
      · cases success <;> rfl
      · rw [Option.getD_some, commandsOf_insert, if_pos rfl, List.mem_mergeSort]
        exact List.mem_cons_self
  next => cases acked
  next => cases acked

/-- All of the life cycle, seen from one state. -/
structure Orderly (leaseMs : Int) (state : LifeState) : Prop where
  /-- The commands of an agent are those that were enqueued for it, each once. -/
  kept : ∀ agentId, ((commandsOf state.commands agentId).map ControlCommand.asEnqueued).Perm
    (state.enqueued.filter fun command => command.agentId = agentId)
  distinct : ∀ agentId, ((commandsOf state.commands agentId).map ControlCommand.commandId).Nodup
  moves : ∀ event next, state.step leaseMs event = some next →
    ∀ agentId, ∀ command ∈ commandsOf state.commands agentId, ∃ after ∈ commandsOf next.commands agentId,
      after.commandId = command.commandId ∧ command.status.Moves after.status
  drains : ∀ agentId now,
    (ControlPlane.drain agentId now leaseMs state.commands).1 = ((commandsOf state.commands agentId).filter
      fun command => command.due now leaseMs).map (fun command => command.markDelivered now) ∧
    ∀ otherId, commandsOf (ControlPlane.drain agentId now leaseMs state.commands).2 otherId =
      if otherId = agentId then (commandsOf state.commands agentId).map fun command =>
        if command.due now leaseMs then command.markDelivered now else command
      else commandsOf state.commands otherId
  apart : state.deliveries.Pairwise fun earlier later =>
    earlier.1 = later.1 → earlier.2 + leaseMs * 1000 ≤ later.2
  /-- From here on a finished command is what it is and is not delivered. -/
  finished : ∀ later, Reaches (step leaseMs) Allowed state later →
    ∀ agentId, ∀ command ∈ commandsOf state.commands agentId, command.isTerminal = true →
      command ∈ commandsOf later.commands agentId ∧
      ∀ drainedId now, ∀ delivered ∈ (ControlPlane.drain drainedId now leaseMs later.commands).1,
        delivered.commandId ≠ command.commandId
  /-- The first outcome of an acknowledgement is that of all later ones, which change nothing. -/
  acks : ∀ agentId commandId success message now reply persisted next,
    state.Allowed (.ack agentId commandId success message now) →
    ControlPlane.ack agentId commandId success message now state.commands = (.ok reply, persisted) →
    state.step leaseMs (.ack agentId commandId success message now) = some next →
    ∀ later, Reaches (step leaseMs) Allowed next later → ∀ success' message' now',
      ControlPlane.ack agentId commandId success' message' now' later.commands = (.ok reply, none)
  replied : ∀ event, ∃ next, state.step leaseMs event = some next

/-- For every run of `enqueue`, `drain` and `ack` calls for any agents, in any order. -/
theorem command_life {leaseMs clock : Int} {state : LifeState}
    (reached : Reaches (step leaseMs) Allowed (initial clock) state) : state.Orderly leaseMs := by
  have alive : state.Alive leaseMs := ((Alive.start clock).reaches reached).1
  refine ⟨alive.kept, fun agentId => (alive.unique.parts agentId).1, ?_, ?_, alive.apart, ?_, ?_, alive.goes_on⟩
  · intro event next taken agentId command member
    exact alive.moves taken member
  · intro agentId now
    constructor
    · rw [drain_delivered alive.unique]
      congr 1
      apply List.filter_congr
      intro command member
      exact alive.deliverable_eq member now
    · intro otherId
      by_cases here : otherId = agentId
      · subst here
        rw [commandsOf_drain_self alive.unique, if_pos rfl]
        apply List.map_congr_left
        intro command member
        rw [alive.deliverable_eq member now]
      · rw [commandsOf_drain, if_neg here, if_neg here]
  · intro later reachedLater agentId command member terminal
    obtain ⟨laterAlive, kept⟩ := alive.reaches reachedLater
    have still := kept agentId command member terminal
    exact ⟨still, fun drainedId now => (drain_finished drainedId now leaseMs laterAlive.unique still terminal).2⟩
  · intro agentId commandId success message now reply persisted next allowed acked taken later reachedLater
      success' message' now'
    obtain ⟨named, terminal, storedReply⟩ := ack_stored acked
    have content : next.commands = persisted.getD state.commands := by
      simp only [step, acked] at taken
      cases persisted <;> cases taken <;> rfl
    rw [← content] at storedReply
    have nextAlive := alive.onward allowed taken
    obtain ⟨laterAlive, kept⟩ := nextAlive.reaches reachedLater
    rw [← named]
    exact laterAlive.ack_again (kept agentId reply storedReply terminal) terminal success' message' now'

instance (state : LifeState) (event : LifeEvent) : Decidable (state.Allowed event) :=
  match event with
  | .enqueue command now =>
      decidable_of_iff (state.clock ≤ now ∧ command.asEnqueued = command ∧
        command.commandId ∉ state.enqueued.map ControlCommand.commandId)
        ⟨fun ⟨later, fresh⟩ => ⟨later, fun _ _ same => by cases same; exact fresh⟩,
          fun allowed => ⟨allowed.1, allowed.2 command now rfl⟩⟩
  | .drain _ now => decidable_of_iff (state.clock ≤ now)
      ⟨fun later => ⟨later, fun _ _ same => by cases same⟩, fun allowed => allowed.1⟩
  | .ack _ _ _ _ now => decidable_of_iff (state.clock ≤ now)
      ⟨fun later => ⟨later, fun _ _ same => by cases same⟩, fun allowed => allowed.1⟩

/-- Two commands for two agents; the first one is delivered, not again while its lease runs, and
again behind it, with two acknowledgements that do not agree. -/
def redelivered : List LifeEvent :=
  [.enqueue ⟨"cmd-1", "agent-1", "payments", .pauseExports, "", 1, .pending, none, none, none⟩ 1,
    .drain "agent-1" 2, .enqueue ⟨"cmd-2", "agent-2", "payments", .resumeExports, "", 3, .pending, none, none, none⟩ 3,
    .drain "agent-2" 4, .drain "agent-1" 5, .drain "agent-1" 30000002, .ack "agent-1" "cmd-1" true none 30000003,
    .ack "agent-1" "cmd-1" false (some "late") 30000004]

theorem command_life_redelivered :
    ∃ state, run (fun state event => if state.Allowed event then state.step 30000 event else none)
        (initial 0) redelivered = some state ∧
      state.deliveries = [("cmd-1", 2), ("cmd-2", 4), ("cmd-1", 30000002)] ∧ state.Orderly 30000 := by
  have ran : (run (fun state event => if state.Allowed event then state.step 30000 event else none)
      (initial 0) redelivered).map LifeState.deliveries =
      some [("cmd-1", 2), ("cmd-2", 4), ("cmd-1", 30000002)] := by decide +kernel
  obtain ⟨state, reached, deliveries⟩ := Option.map_eq_some_iff.mp ran
  exact ⟨state, reached, deliveries, command_life (.of_checked_run reached)⟩

end LifeState

end TelemetryFabric.ControlPlane
