import TelemetryFabric.ControlPlane.ClientErrors
import TelemetryFabric.ControlPlane.HttpConnection
import TelemetryFabric.Library.Keeps

/-!
The service over a run of connections, whatever bytes come on them. What is in the stores has been
logged, every pipeline has its versions from one upwards, and nothing that was logged, published or
enqueued is ever taken back.
-/

namespace TelemetryFabric.ControlPlane
open Library Library.JsonText

variable {F : Type} [DecidableEq F]

/-! ### Stores -/

/-- The action that is logged where a command gets its status. -/
def CommandStatus.action : CommandStatus → String
  | .pending => "command.enqueued"
  | .delivered => "command.delivered"
  | .succeeded => "command.succeeded"
  | .failed => "command.failed"

/-- What is fixed when a command is enqueued. -/
def JsonCommand.SameOrder (first second : JsonCommand F) : Prop :=
  first.commandId = second.commandId ∧ first.agentId = second.agentId ∧ first.tenantId = second.tenantId ∧
    first.kind = second.kind ∧ first.reason = second.reason ∧ first.insertedAt = second.insertedAt

omit [DecidableEq F] in
theorem JsonCommand.SameOrder.refl (command : JsonCommand F) : command.SameOrder command := ⟨rfl, rfl, rfl, rfl, rfl, rfl⟩

omit [DecidableEq F] in
theorem JsonCommand.SameOrder.trans {first second third : JsonCommand F} (left : first.SameOrder second)
    (right : second.SameOrder third) : first.SameOrder third := by
  obtain ⟨one, two, three, four, five, six⟩ := left
  obtain ⟨id, agent, tenant, kind, reason, inserted⟩ := right
  exact ⟨one.trans id, two.trans agent, three.trans tenant, four.trans kind, five.trans reason, six.trans inserted⟩

namespace Stores

variable {enumerate : JsonObject F → JsonObject F}

def Logged (stores : Stores enumerate) (action resource : String) : Prop :=
  ∃ event ∈ stores.events, event.action = action ∧ event.resource = resource

/-- The publication of a version is in the log. -/
def Published (stores : Stores enumerate) (key : String × String) (version : Nat) : Prop :=
  ∃ event ∈ stores.events, (event.action = "pipeline.updated" ∨ event.action = "pipeline.rolled_back") ∧
    event.resource = key.1 ++ "/" ++ key.2 ∧ event.metadata.head? = some ("version", .json (.integer version))

/-- The versions of a key, the newest first: the oldest is the first, and none is left out. -/
def Numbered (key : String × String) : List (StoredPipeline enumerate) → Prop
  | [] => True
  | latest :: older => latest.config.version = older.length + 1 ∧ latest.config.tenantId = key.1 ∧
      latest.config.name = key.2 ∧ Numbered key older

/-- What holds of the stores, where every reason of a command is of some kind. -/
structure Sound (reasons : Json F → Prop) (stores : Stores enumerate) : Prop where
  agent : ∀ {id agent}, stores.agents.find? id = some agent →
    agent.agentId = id ∧ stores.Logged "agent.registered" id
  command : ∀ {id command}, command ∈ stores.commandsOf id →
    command.agentId = id ∧ reasons command.reason ∧ stores.Logged "command.enqueued" command.commandId ∧
      stores.Logged command.status.action command.commandId
  numbered : ∀ key, Numbered key (stores.pipelines key)
  published : ∀ {key pipeline}, pipeline ∈ stores.pipelines key → stores.Published key pipeline.config.version

/-- Nothing that was there is gone. -/
structure Grown (start later : Stores enumerate) : Prop where
  events : start.events <:+ later.events
  pipelines : ∀ key, start.pipelines key <:+ later.pipelines key
  agents : ∀ {id agent}, start.agents.find? id = some agent → ∃ kept, later.agents.find? id = some kept
  commands : ∀ {id command}, command ∈ start.commandsOf id → ∃ kept ∈ later.commandsOf id, kept.SameOrder command

/-- What a run keeps. -/
def Good (reasons : Json F → Prop) (start later : Stores enumerate) : Prop := Sound reasons later ∧ Grown start later

variable {reasons : Json F → Prop} {start stores : Stores enumerate}

theorem Grown.refl : Grown stores stores where
  events := List.suffix_refl _
  pipelines _ := List.suffix_refl _
  agents found := ⟨_, found⟩
  commands member := ⟨_, member, rfl, rfl, rfl, rfl, rfl, rfl⟩

theorem Grown.trans {first second third : Stores enumerate} (left : Grown first second) (right : Grown second third) :
    Grown first third where
  events := left.events.trans right.events
  pipelines key := (left.pipelines key).trans (right.pipelines key)
  agents found := by
    obtain ⟨between, known⟩ := left.agents found
    exact right.agents known
  commands member := by
    obtain ⟨between, inside, order⟩ := left.commands member
    obtain ⟨kept, later, again⟩ := right.commands inside
    exact ⟨kept, later, again.trans order⟩

theorem Good.trans {first second third : Stores enumerate} (left : Good reasons first second) (right : Good reasons second third) :
    Good reasons first third := ⟨right.1, left.2.trans right.2⟩

theorem Logged.more {action resource : String} (logged : stores.Logged action resource) {later : Stores enumerate}
    (events : stores.events <:+ later.events) : later.Logged action resource := by
  obtain ⟨event, member, same⟩ := logged
  exact ⟨event, events.subset member, same⟩

theorem Published.more {key : String × String} {version : Nat} (published : stores.Published key version)
    {later : Stores enumerate} (events : stores.events <:+ later.events) : later.Published key version := by
  obtain ⟨event, member, same⟩ := published
  exact ⟨event, events.subset member, same⟩

/-- More is logged. -/
theorem Good.log (good : Good reasons start stores) (more : List (JsonEvent F)) :
    Good reasons start { stores with events := more ++ stores.events } := by
  have events : stores.events <:+ more ++ stores.events := List.suffix_append _ _
  refine ⟨⟨?_, ?_, good.1.numbered, ?_⟩, ⟨good.2.events.trans events, good.2.pipelines, good.2.agents, good.2.commands⟩⟩
  · intro id agent found
    obtain ⟨same, logged⟩ := good.1.agent found
    exact ⟨same, logged.more events⟩
  · intro id command member
    obtain ⟨same, why, enqueued, status⟩ := good.1.command member
    exact ⟨same, why, enqueued.more events, status.more events⟩
  · intro key pipeline member
    exact (good.1.published member).more events

/-- The commands of an agent are replaced by others that keep what was enqueued. -/
theorem Good.setCommands (good : Good reasons start stores) {id : String} {commands : List (JsonCommand F)}
    {replaced : OrderedMap String (List (JsonCommand F))}
    (found : ∀ other, (replaced.find? other).getD [] = if other = id then commands else stores.commandsOf other)
    (kept : ∀ command ∈ stores.commandsOf id, ∃ kept ∈ commands, kept.SameOrder command)
    (sound : ∀ command ∈ commands, command.agentId = id ∧ reasons command.reason ∧ stores.Logged "command.enqueued" command.commandId ∧
      stores.Logged command.status.action command.commandId) :
    Good reasons start { stores with commands := replaced } := by
  refine ⟨⟨good.1.agent, ?_, good.1.numbered, good.1.published⟩, ⟨good.2.events, good.2.pipelines, good.2.agents, ?_⟩⟩
  · intro other command member
    unfold commandsOf at member
    rw [found] at member
    split_ifs at member with same
    · obtain ⟨owner, rest⟩ := sound command member
      exact ⟨owner.trans same.symm, rest⟩
    · exact good.1.command member
  · intro other command member
    obtain ⟨between, inside, order⟩ := good.2.commands member
    unfold commandsOf
    rw [found]
    split_ifs with same
    · rw [same] at inside
      obtain ⟨last, member, again⟩ := kept between inside
      exact ⟨last, member, again.trans order⟩
    · exact ⟨between, inside, order⟩

theorem find?_insert_getD (stores : Stores enumerate) (id : String) (commands : List (JsonCommand F)) (other : String) :
    ((stores.commands.insert id commands).find? other).getD [] = if other = id then commands else stores.commandsOf other := by
  rw [OrderedMap.find?_insert]
  split_ifs <;> rfl

end Stores

namespace JsonRequest

/-! ### The operations of the stores -/

section Operations

variable {runtime : Runtime F} {reasons : Json F → Prop} {start stores : Stores runtime.enumerate}

open Stores

theorem register_keeps (agentId tenantId : String) (attrs : JsonObject F) :
    Keeps (Good reasons start) (register runtime agentId tenantId attrs) := by
  intro stores good
  have logged := good.log [event runtime 0 (.string "system") "agent.registered" agentId
    [("tenant_id", .json (.string tenantId))]]
  refine ⟨⟨?_, logged.1.command, logged.1.numbered, logged.1.published⟩,
    ⟨logged.2.events, logged.2.pipelines, ?_, logged.2.commands⟩⟩
  · intro id agent found
    rw [OrderedMap.find?_insert] at found
    split_ifs at found with same
    · cases found
      rw [same]
      exact ⟨rfl, _, List.mem_cons_self, rfl, rfl⟩
    · exact logged.1.agent found
  · intro id agent found
    obtain ⟨kept, later⟩ := good.2.agents found
    rw [OrderedMap.find?_insert]
    split_ifs
    · exact ⟨_, rfl⟩
    · exact ⟨kept, later⟩

theorem getAgent_eq_ok {agentId : String} {agent : JsonAgent F} (found : stores.getAgent (.string agentId) = .ok agent) :
    stores.agents.find? agentId = some agent := by
  rw [Stores.getAgent] at found
  cases known : stores.agents.find? agentId with
  | none =>
    simp only [known] at found
    cases found
  | some other =>
    simp only [known, Except.ok.injEq] at found
    rw [found]

/-- From what is read on, the stores only grow. -/
theorem keeps_of_get {α : Type} {next : Stores runtime.enumerate → Service runtime α}
    (rest : ∀ read, Sound reasons read → Keeps (Good reasons read) (next read)) : Keeps (Good reasons start) (get >>= next) :=
  Keeps.get_bind_of (fun _ good => ⟨good.1, Grown.refl⟩) (fun read good => rest read good.1)
    (fun _ _ good later => good.trans later)

theorem heartbeatAgent_keeps (agentId tenantId : String) (attrs : JsonObject F) :
    Keeps (Good reasons start) (heartbeatAgent runtime agentId tenantId attrs) := by
  unfold heartbeatAgent
  apply keeps_of_get
  intro read sound
  apply Keeps.given_bind
  intro agent found
  obtain ⟨owner, registered⟩ := sound.agent (getAgent_eq_ok found)
  apply Keeps.given_bind
  intro same _
  apply Keeps.bind _ fun _ => Keeps.pure _
  apply Keeps.modify
  intro stores good
  refine ⟨⟨?_, good.1.command, good.1.numbered, good.1.published⟩,
    ⟨good.2.events, good.2.pipelines, ?_, good.2.commands⟩⟩
  · intro id other found
    rw [OrderedMap.find?_insert] at found
    split_ifs at found with same
    · cases found
      rw [same]
      exact ⟨owner, registered.more good.2.events⟩
    · exact good.1.agent found
  · intro id other found
    obtain ⟨kept, later⟩ := good.2.agents found
    rw [OrderedMap.find?_insert]
    split_ifs
    · exact ⟨_, rfl⟩
    · exact ⟨kept, later⟩

theorem enqueue_keeps {command : JsonCommand F} (status : command.status = .pending) (why : reasons command.reason) :
    Keeps (Good reasons start) (enqueue runtime command) := by
  intro stores good
  have logged := good.log [commandEvent runtime 1 command "command.enqueued" "operator"]
  have enqueued : Logged { stores with events := [commandEvent runtime 1 command "command.enqueued" "operator"] ++ stores.events }
      "command.enqueued" command.commandId := ⟨_, List.mem_cons_self, rfl, rfl⟩
  show Good reasons start { stores with
    commands := stores.commands.insert command.agentId (stores.commandsOf command.agentId ++ [command])
    events := commandEvent runtime 1 command "command.enqueued" "operator" :: stores.events }
  apply logged.setCommands (find?_insert_getD stores _ _)
  · intro other member
    exact ⟨other, List.mem_append_left _ member, .refl other⟩
  · intro other member
    rcases List.mem_append.mp member with old | new
    · exact logged.1.command old
    · rw [List.mem_singleton.mp new, status]
      exact ⟨rfl, why, enqueued, enqueued⟩

omit [DecidableEq F] in
/-- Every command that is delivered is logged as such. -/
theorem logged_delivered (runtime : Runtime F) {commands : List (JsonCommand F)} {command : JsonCommand F} (member : command ∈ commands)
    (agentId : String) (older : List (JsonEvent F)) :
    ∃ event ∈ (commands.mapIdx fun draw command => commandEvent runtime (draw + 1) command "command.delivered"
      agentId).reverse ++ older, event.action = "command.delivered" ∧ event.resource = command.commandId := by
  obtain ⟨draw, inside, same⟩ := List.getElem_of_mem member
  refine ⟨commandEvent runtime (draw + 1) command "command.delivered" agentId, ?_, rfl, rfl⟩
  rw [List.mem_append, List.mem_reverse, List.mem_mapIdx]
  refine Or.inl ⟨draw, inside, ?_⟩
  rw [same]

/-- The ids of the commands that are due. -/
def dueIds (runtime : Runtime F) (commands : List (JsonCommand F)) : List String :=
  (commands.filter fun command => command.deliverable runtime.now runtime.leaseMs).map JsonCommand.commandId

def markDue (runtime : Runtime F) (ids : List String) (command : JsonCommand F) : JsonCommand F :=
  if command.commandId ∈ ids then command.markDelivered runtime.now else command

omit [DecidableEq F] in
theorem sameOrder_markDue (runtime : Runtime F) (ids : List String) (command : JsonCommand F) :
    (markDue runtime ids command).SameOrder command := by
  unfold markDue
  split_ifs
  · exact ⟨rfl, rfl, rfl, rfl, rfl, rfl⟩
  · exact .refl command

/-- What a drain hands out. -/
def handedOut (runtime : Runtime F) (commands : List (JsonCommand F)) : List (JsonCommand F) :=
  (commands.map (markDue runtime (dueIds runtime commands))).filter fun command => command.commandId ∈ dueIds runtime commands

theorem drain_eq (agentId : String) (stores : Stores runtime.enumerate) :
    drain runtime agentId stores = .ok (handedOut runtime (stores.commandsOf agentId)) { stores with
      commands := if ((stores.commandsOf agentId).map (markDue runtime (dueIds runtime (stores.commandsOf agentId)))).isEmpty
        then stores.commands.erase agentId
        else stores.commands.insert agentId ((stores.commandsOf agentId).map (markDue runtime (dueIds runtime (stores.commandsOf agentId))))
      events := ((handedOut runtime (stores.commandsOf agentId)).mapIdx fun draw command =>
        commandEvent runtime (draw + 1) command "command.delivered" agentId).reverse ++ stores.events } := rfl

theorem find?_drained (stores : Stores runtime.enumerate) (agentId : String) (updated : List (JsonCommand F)) (other : String) :
    ((if updated.isEmpty then stores.commands.erase agentId else stores.commands.insert agentId updated).find? other).getD [] =
      if other = agentId then updated else stores.commandsOf other := by
  by_cases empty : updated.isEmpty = true
  · rw [if_pos empty, OrderedMap.find?_erase, List.isEmpty_iff.mp empty]
    split_ifs <;> rfl
  · rw [if_neg empty]
    exact find?_insert_getD stores agentId updated other

theorem drain_keeps (agentId : String) : Keeps (Good reasons start) (drain runtime agentId) := by
  intro stores good
  rw [drain_eq]
  have logged := good.log ((handedOut runtime (stores.commandsOf agentId)).mapIdx fun draw command =>
    commandEvent runtime (draw + 1) command "command.delivered" agentId).reverse
  apply logged.setCommands (find?_drained stores agentId _)
  · intro command member
    exact ⟨_, List.mem_map_of_mem member, sameOrder_markDue runtime _ command⟩
  · intro command member
    obtain ⟨before, inside, same⟩ := List.mem_map.mp member
    obtain ⟨owner, why, enqueued, status⟩ := logged.1.command inside
    by_cases due : before.commandId ∈ dueIds runtime (stores.commandsOf agentId)
    · rw [markDue, if_pos due] at same
      have delivered : command ∈ handedOut runtime (stores.commandsOf agentId) := by
        rw [handedOut, List.mem_filter]
        refine ⟨member, ?_⟩
        rw [← same]
        exact decide_eq_true due
      have event := logged_delivered runtime delivered agentId stores.events
      rw [← same] at event ⊢
      exact ⟨owner, why, enqueued, event⟩
    · rw [markDue, if_neg due] at same
      rw [← same]
      exact ⟨owner, why, enqueued, status⟩

omit [DecidableEq F] in
theorem eq_of_matching {commands : List (JsonCommand F)} {commandId : String} {command : JsonCommand F}
    (found : (commands.filter fun command => command.commandId = commandId) = [command]) :
    command ∈ commands ∧ ∀ other ∈ commands, other.commandId = commandId → other = command := by
  constructor
  · have listed : command ∈ commands.filter fun command => command.commandId = commandId := by
      rw [found]
      exact List.mem_singleton_self _
    exact (List.mem_filter.mp listed).1
  · intro other member same
    have listed : other ∈ commands.filter fun command => command.commandId = commandId :=
      List.mem_filter.mpr ⟨member, decide_eq_true same⟩
    rw [found] at listed
    exact List.mem_singleton.mp listed

theorem acknowledge_keeps (agentId commandId : String) (success : Bool) (message : Json F) :
    Keeps (Good reasons start) (acknowledge runtime agentId commandId success message) := by
  unfold acknowledge
  rw [Keeps.get_bind_iff]
  intro stores good
  generalize found : ((stores.commandsOf agentId).filter fun command => command.commandId = commandId) = matching
  cases matching with
  | nil => exact good
  | cons command more =>
    cases more with
    | cons second more => exact good
    | nil =>
      by_cases terminal : command.isTerminal = true
      · simp only [terminal, if_true]
        exact good
      · -- the one command of its id is replaced, and the others stay
        obtain ⟨member, only⟩ := eq_of_matching found
        have logged := good.log [commandEvent runtime 0 (command.markAcknowledged success message runtime.now)
          (if success then "command.succeeded" else "command.failed") agentId]
        simp only [terminal]
        show Good reasons start { stores with
          commands := stores.commands.insert agentId ((command.markAcknowledged success message runtime.now ::
            (stores.commandsOf agentId).filter fun command => command.commandId ≠ commandId).mergeSort JsonCommand.sortsBefore)
          events := commandEvent runtime 0 (command.markAcknowledged success message runtime.now)
            (if success then "command.succeeded" else "command.failed") agentId :: stores.events }
        apply logged.setCommands (find?_insert_getD stores _ _)
        · intro other inside
          by_cases its : other.commandId = commandId
          · rw [only other inside its]
            refine ⟨command.markAcknowledged success message runtime.now, List.mem_mergeSort.mpr List.mem_cons_self, ?_⟩
            exact ⟨rfl, rfl, rfl, rfl, rfl, rfl⟩
          · refine ⟨other, List.mem_mergeSort.mpr (List.mem_cons_of_mem _ ?_), .refl other⟩
            exact List.mem_filter.mpr ⟨inside, decide_eq_true its⟩
        · intro other inside
          rw [List.mem_mergeSort, List.mem_cons] at inside
          rcases inside with acknowledged | rest
          · obtain ⟨owner, why, enqueued, -⟩ := logged.1.command member
            rw [acknowledged]
            refine ⟨owner, why, enqueued, _, List.mem_cons_self, ?_, rfl⟩
            cases success <;> rfl
          · exact logged.1.command (List.mem_filter.mp rest).1

theorem nextVersion_of_numbered {key : String × String} {versions : List (StoredPipeline runtime.enumerate)}
    (numbered : Numbered key versions) : nextVersion runtime versions = versions.length + 1 := by
  cases versions with
  | nil => rfl
  | cons latest older => rw [nextVersion, numbered.1, List.length_cons]

theorem storeVersion_keeps {tenantId name : String} {config : RequestedPipeline F} (tenant : config.tenantId = tenantId)
    (named : config.name = name) (actor : Json F) {action : String}
    (publishes : action = "pipeline.updated" ∨ action = "pipeline.rolled_back") (metadata : List (String × JsonDatum F)) :
    Keeps (Good reasons start) (storeVersion runtime tenantId name config actor action metadata) := by
  unfold storeVersion
  apply keeps_of_get
  intro read sound
  have next := nextVersion_of_numbered (sound.numbered (tenantId, name))
  dsimp only
  split
  next valid =>
    intro stores good
    have logged := good.log [event runtime 0 actor action (tenantId ++ "/" ++ name)
      (("version", .json (.integer (nextVersion runtime (read.pipelines (tenantId, name))))) :: metadata)]
    show Good reasons read { stores with
      pipelines := Function.update stores.pipelines (tenantId, name)
        (⟨{ config with version := nextVersion runtime (read.pipelines (tenantId, name)) }, valid⟩ ::
          read.pipelines (tenantId, name))
      events := event runtime 0 actor action (tenantId ++ "/" ++ name)
        (("version", .json (.integer (nextVersion runtime (read.pipelines (tenantId, name))))) :: metadata) :: stores.events }
    refine ⟨⟨logged.1.agent, logged.1.command, ?_, ?_⟩, ⟨logged.2.events, ?_, logged.2.agents, logged.2.commands⟩⟩
    · intro key
      dsimp only
      by_cases same : key = (tenantId, name)
      · rw [same, Function.update_self]
        exact ⟨next, tenant, named, sound.numbered (tenantId, name)⟩
      · rw [Function.update_of_ne same]
        exact good.1.numbered key
    · intro key pipeline member
      dsimp only at member
      by_cases same : key = (tenantId, name)
      · rw [same, Function.update_self, List.mem_cons] at member
        rcases member with latest | older
        · rw [latest, same]
          exact ⟨_, List.mem_cons_self, publishes, rfl, rfl⟩
        · rw [same]
          exact (sound.published older).more logged.2.events
      · rw [Function.update_of_ne same] at member
        exact logged.1.published member
    · intro key
      dsimp only
      by_cases same : key = (tenantId, name)
      · rw [same, Function.update_self]
        exact List.suffix_cons _ _
      · rw [Function.update_of_ne same]
        exact good.2.pipelines key
  next => exact Keeps.throw _
  next => exact Keeps.throw _

/-! ### Handlers -/

theorem registerAgent_keeps (attrs : JsonObject F) : Keeps (Good reasons start) (registerAgent runtime attrs) := by
  unfold registerAgent
  apply Keeps.given_bind
  intro agentId _
  apply Keeps.given_bind
  intro tenantId _
  apply Keeps.get_bind
  intro read _
  apply (register_keeps _ _ _).bind
  intro done
  apply Keeps.pure

theorem heartbeat_keeps (attrs : JsonObject F) : Keeps (Good reasons start) (heartbeat runtime attrs) := by
  unfold heartbeat
  apply Keeps.given_bind
  intro agentId _
  apply Keeps.given_bind
  intro tenantId _
  apply (heartbeatAgent_keeps _ _ _).bind
  intro agent
  apply (drain_keeps _).bind
  intro queued
  apply Keeps.get_bind
  intro read _
  apply Keeps.pure

theorem configUpdate_keeps (attrs : JsonObject F) : Keeps (Good reasons start) (configUpdate runtime attrs) := by
  unfold configUpdate
  apply Keeps.given_bind
  intro agentId _
  apply Keeps.given_bind
  intro tenantId _
  apply Keeps.get_bind
  intro read _
  apply Keeps.given_bind
  intro agent _
  apply Keeps.given_bind
  intro same _
  apply Keeps.given_bind
  intro pipeline _
  split_ifs
  · apply Keeps.given_bind
    intro payload _
    apply Keeps.pure
  · apply Keeps.pure

theorem reportStatus_keeps (attrs : JsonObject F) : Keeps (Good reasons start) (reportStatus runtime attrs) := by
  unfold reportStatus
  apply Keeps.given_bind
  intro agentId _
  apply Keeps.given_bind
  intro tenantId _
  apply Keeps.get_bind
  intro read _
  apply Keeps.given_bind
  intro agent _
  apply Keeps.given_bind
  intro same _
  apply Keeps.pure

theorem enqueueCommand_keeps {attrs : JsonObject F} (why : reasons (attrOr attrs "reason" (.string ""))) :
    Keeps (Good reasons start) (enqueueCommand runtime attrs) := by
  unfold enqueueCommand
  apply Keeps.given_bind
  intro agentId _
  apply Keeps.given_bind
  intro kind _
  apply Keeps.get_bind
  intro read _
  apply Keeps.given_bind
  intro agent _
  dsimp only
  apply Keeps.bind (enqueue_keeps rfl why)
  intro done
  apply Keeps.pure

theorem ackCommand_keeps (attrs : JsonObject F) : Keeps (Good reasons start) (ackCommand runtime attrs) := by
  unfold ackCommand
  apply Keeps.given_bind
  intro agentId _
  apply Keeps.given_bind
  intro tenantId _
  apply Keeps.given_bind
  intro commandId _
  apply Keeps.given_bind
  intro success _
  apply Keeps.get_bind
  intro read _
  apply Keeps.given_bind
  intro agent _
  apply Keeps.given_bind
  intro same _
  apply (acknowledge_keeps _ _ _ _).bind
  intro command
  apply Keeps.pure

theorem putPipeline_keeps (attrs : JsonObject F) : Keeps (Good reasons start) (putPipeline runtime attrs) := by
  unfold putPipeline
  apply Keeps.given_bind
  intro tenantId _
  apply Keeps.given_bind
  intro name _
  dsimp only
  apply Keeps.given_bind
  intro valid _
  apply Keeps.bind (storeVersion_keeps rfl rfl _ (Or.inl rfl) _)
  intro pipeline
  apply Keeps.pure

theorem mem_of_findVersion {versions : List (StoredPipeline runtime.enumerate)} {target : Int} {config : RequestedPipeline F}
    (found : findVersion runtime versions target = .ok config) : ∃ pipeline ∈ versions, pipeline.config = config := by
  unfold findVersion at found
  split at found
  next pipeline listed =>
    cases found
    exact ⟨pipeline, List.mem_of_find?_eq_some listed, rfl⟩
  next => cases found

theorem key_of_numbered {key : String × String} {versions : List (StoredPipeline runtime.enumerate)}
    (numbered : Numbered key versions) :
    ∀ pipeline ∈ versions, pipeline.config.tenantId = key.1 ∧ pipeline.config.name = key.2 := by
  induction versions with
  | nil => exact fun pipeline member => absurd member List.not_mem_nil
  | cons latest older ih =>
    obtain ⟨-, tenant, named, rest⟩ := numbered
    intro pipeline member
    rcases List.mem_cons.mp member with same | before
    · rw [same]
      exact ⟨tenant, named⟩
    · exact ih rest pipeline before

theorem rollbackPipeline_keeps (attrs : JsonObject F) : Keeps (Good reasons start) (rollbackPipeline runtime attrs) := by
  unfold rollbackPipeline
  apply Keeps.given_bind
  intro tenantId _
  apply Keeps.given_bind
  intro name _
  apply Keeps.given_bind
  intro targetVersion _
  apply Keeps.get_bind
  intro read good
  apply Keeps.given_bind
  intro target found
  obtain ⟨pipeline, member, same⟩ := mem_of_findVersion found
  obtain ⟨tenant, named⟩ := key_of_numbered (good.1.numbered (tenantId, name)) pipeline member
  rw [same] at tenant named
  apply (storeVersion_keeps tenant named _ (Or.inr rfl) _).bind
  intro pipeline
  apply Keeps.pure

theorem service_keeps {handler : Handler} {service : JsonObject F → Service runtime (Encodable F)}
    (served : JsonRequest.service runtime handler = some service) {attrs : JsonObject F}
    (why : handler = .enqueueCommand → reasons (attrOr attrs "reason" (.string ""))) :
    Keeps (Good reasons start) (service attrs) := by
  cases handler with
  | registerAgent =>
    cases served
    exact registerAgent_keeps attrs
  | heartbeat =>
    cases served
    exact heartbeat_keeps attrs
  | configUpdate =>
    cases served
    exact configUpdate_keeps attrs
  | reportStatus =>
    cases served
    exact reportStatus_keeps attrs
  | enqueueCommand =>
    cases served
    exact enqueueCommand_keeps (why rfl)
  | ackCommand =>
    cases served
    exact ackCommand_keeps attrs
  | putPipeline =>
    cases served
    exact putPipeline_keeps attrs
  | rollbackPipeline =>
    cases served
    exact rollbackPipeline_keeps attrs
  | healthz => cases served
  | readyz => cases served
  | metrics => cases served

theorem handle_keeps {handler : Handler} {service : JsonObject F → Service runtime (Encodable F)}
    (served : JsonRequest.service runtime handler = some service) {body : Bytes}
    (why : handler = .enqueueCommand → ∀ attrs, decodeRequest runtime body = .ok (.object attrs) →
      reasons (attrOr attrs "reason" (.string ""))) :
    Keeps (Good reasons start) (handle runtime handler service body) := by
  unfold handle
  apply Keeps.given_bind
  intro value decoded
  cases value with
  | object attrs =>
    apply service_keeps served
    intro enqueues
    apply why enqueues
    cases read : decodeRequest runtime body with
    | error exception =>
      rw [read] at decoded
      cases decoded
    | ok value =>
      rw [read] at decoded
      cases decoded
      rfl
  | _ => exact Keeps.throw _

end Operations

/-! ### Connections -/

/-- What comes on a connection, and what is read of the clock and drawn while it is served. -/
structure Connection where
  reads : List Binary
  requestNumber : Nat
  now : Int
  unique : Nat → Nat
  count : Nat

section Connections

variable (server : Server F) (maxBodyBytes : Nat) (faultMessage : RequestFault → String)

def serverDuring (connection : Connection) : Server F :=
  { server with now := connection.now, unique := connection.unique, count := connection.count }

/-- The stores behind a connection. The tasks of an acceptor may overlap; here a connection is served
as a whole before the next one. -/
def serve (stores : Stores server.enumerate) (connection : Connection) : Stores server.enumerate :=
  (handleClient (serverDuring server connection) maxBodyBytes faultMessage connection.requestNumber connection.reads stores).2

def serveAll (stores : Stores server.enumerate) (connections : List Connection) : Stores server.enumerate :=
  connections.foldl (serve server maxBodyBytes faultMessage) stores

/-- What is asked for on the connection, if it is a command, has a reason of that kind. -/
def AsksFor (reasons : Json F → Prop) (connection : Connection) : Prop :=
  ∀ request attrs, readRequest server.text maxBodyBytes connection.requestNumber connection.reads = .ok request →
    decodeRequest server.toRuntime request.body = .ok (.object attrs) → reasons (attrOr attrs "reason" (.string ""))

variable {maxBodyBytes} {reasons : Json F → Prop} {start stores : Stores server.enumerate}

open Stores

theorem routeRequestSafely_good {request : HttpRequest} {body : Bytes}
    (why : ∀ attrs, decodeRequest server.toRuntime body = .ok (.object attrs) → reasons (attrOr attrs "reason" (.string "")))
    (good : Good reasons start stores) : Good reasons start (routeRequestSafely server request body stores).2 := by
  unfold routeRequestSafely
  cases routeRequest server.text request server.security server.rateLimit server.count with
  | refused refusal => exact good
  | handled handler =>
    simp only []
    cases served : service server.toRuntime handler with
    | none => exact good
    | some service =>
      have keeps := (handle_keeps served fun _ => why).behind good
      simp only []
      cases ran : handle server.toRuntime handler service body stores with
      | ok value later =>
        rw [ran] at keeps
        exact keeps
      | error failure later =>
        rw [ran] at keeps
        exact keeps

theorem serve_good {connection : Connection} (asks : AsksFor server maxBodyBytes reasons connection)
    (good : Good reasons start stores) : Good reasons start (serve server maxBodyBytes faultMessage stores connection) := by
  unfold serve handleClient
  cases read : readRequest (serverDuring server connection).text maxBodyBytes connection.requestNumber connection.reads with
  | error fault => exact good
  | ok request => exact routeRequestSafely_good (serverDuring server connection) (fun attrs => asks request attrs read) good

theorem serveAll_good {connections : List Connection}
    (asks : ∀ connection ∈ connections, AsksFor server maxBodyBytes reasons connection)
    (good : Good reasons start stores) : Good reasons start (serveAll server maxBodyBytes faultMessage stores connections) := by
  induction connections generalizing stores with
  | nil => exact good
  | cons connection rest ih =>
    apply ih (fun other member => asks other (List.mem_cons_of_mem _ member))
    exact serve_good server faultMessage (asks connection List.mem_cons_self) good

/-- Whatever bytes come on whatever connections, what is in the stores has been logged under its own
name, the versions of every pipeline are numbered without a gap, and between any two moments nothing
that was logged, published, registered or enqueued is lost. -/
theorem served_stores_sound (maxBodyBytes : Nat) (sound : Sound (fun _ => True) start) (earlier later : List Connection) :
    Sound (fun _ => True) (serveAll server maxBodyBytes faultMessage start (earlier ++ later)) ∧
      Grown (serveAll server maxBodyBytes faultMessage start earlier)
        (serveAll server maxBodyBytes faultMessage start (earlier ++ later)) := by
  have anything : ∀ connection : Connection, AsksFor server maxBodyBytes (fun _ => True) connection := fun _ _ _ _ _ => trivial
  have before : Good (fun _ => True) start (serveAll server maxBodyBytes faultMessage start earlier) :=
    serveAll_good server faultMessage (fun connection _ => anything connection) ⟨sound, Grown.refl⟩
  have joined : serveAll server maxBodyBytes faultMessage start (earlier ++ later) =
      serveAll server maxBodyBytes faultMessage (serveAll server maxBodyBytes faultMessage start earlier) later :=
    List.foldl_append
  rw [joined]
  exact serveAll_good server faultMessage (fun connection _ => anything connection) ⟨before.1, Grown.refl⟩

theorem sound_empty {reasons : Json Empty → Prop} : Sound reasons emptyStores where
  agent found := nomatch found
  command member := absurd member List.not_mem_nil
  numbered _ := trivial
  published member := absurd member List.not_mem_nil

def registration : Connection where
  reads := [utf8 "POST /v1/agents/register HTTP/1.1\r\nContent-Length: 32\r\n\r\n",
    utf8 "\x7b\"agent_id\":\"a\",\"tenant_id\":\"t\"\x7d"]
  requestNumber := 7
  now := 0
  unique draw := draw
  count := 1

/-- A connection that registers an agent, and one that breaks off. -/
theorem served_stores_sound_registration :
    (∃ agent, (serveAll plainServer defaultMaxBodyBytes (fun _ => "") emptyStores
        [registration, { registration with reads := [utf8 "POST"] }]).agents.find? "a" = some agent ∧ agent.agentId = "a") ∧
      Grown emptyStores (serveAll plainServer defaultMaxBodyBytes (fun _ => "") emptyStores
        [registration, { registration with reads := [utf8 "POST"] }]) := by
  have both := served_stores_sound plainServer (fun _ => "") defaultMaxBodyBytes sound_empty []
    [registration, { registration with reads := [utf8 "POST"] }]
  refine ⟨?_, both.2⟩
  have registered : ((serveAll plainServer defaultMaxBodyBytes (fun _ => "") emptyStores
      [registration, { registration with reads := [utf8 "POST"] }]).agents.find? "a").isSome = true := by
    decide +kernel
  obtain ⟨agent, found⟩ := Option.isSome_iff_exists.mp registered
  exact ⟨agent, found, (both.1.agent found).1⟩

end Connections

end JsonRequest

end TelemetryFabric.ControlPlane
