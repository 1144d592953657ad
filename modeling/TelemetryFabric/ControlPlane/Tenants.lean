import TelemetryFabric.ControlPlane.AgentRegistry
import TelemetryFabric.ControlPlane.CommandLife
import TelemetryFabric.ControlPlane.CommandTable

/-!
Commands and the tenants they belong to. A command carries the tenant its agent had when it was
enqueued; heartbeats and acknowledgements are checked against the tenant the agent has now. The
requests are the same for both stores, of which it only matters what they hold for an agent.
-/

namespace TelemetryFabric.ControlPlane
open Library

/-- What the requests use of a store. A command is enqueued under an id made of a unique integer;
`draw` is the integer of a command that is not stored. -/
structure CommandStore (σ : Type) where
  held : σ → String → List ControlCommand
  draw : Nat → σ → Option σ
  enqueue : Nat → ControlCommand → σ → Option σ
  drain : String → Int → σ → List ControlCommand × σ
  ack : String → String → Bool → Option String → Int → σ → AckReply × σ

/-! ### Requests -/

/-- The agents and commands, what heartbeats have returned and what acknowledgements have been
answered with, each with the tenant of the request. -/
structure TenantState (σ : Type) where
  agents : Agents
  commands : σ
  returned : List (String × ControlCommand)
  acknowledged : List (String × ControlCommand)

/-- A heartbeat comes with the latest version of the tenants' default pipelines. -/
inductive TenantRequest where
  | registerAgent (attrs : RegisterAttrs) (now : Int)
  | enqueueCommand (agentId : String) (kind : CommandKind) (reason : String) (now : Int) (unique : Nat)
  | heartbeat (attrs : HeartbeatAttrs) (latestVersion : String → Int) (now : Int) (unique : Nat)
  | ackCommand (agentId tenantId commandId : String) (success : Bool) (message : Option String) (now : Int)

def reloadReason (version : Int) : String :=
  "pipeline config version " ++ String.ofList (decimalInt version) ++ " is available"

namespace TenantState

variable {σ : Type} (store : CommandStore σ)

def initial (commands : σ) : TenantState σ := ⟨.empty, commands, [], []⟩

/-- The commands a heartbeat answers with, and what is then stored. There is none where the
integer is not one that can be drawn. -/
def answer (agent : AgentRecord) (latestVersion : String → Int) (now : Int) (unique : Nat) (commands : σ) :
    Option (List ControlCommand × σ) :=
  let drained := store.drain agent.agentId now commands
  if latestVersion agent.tenantId > agent.configVersion then
    (store.draw unique drained.2).map fun commands =>
      (drained.1 ++ [⟨newId unique, agent.agentId, agent.tenantId, .reloadConfig,
        reloadReason (latestVersion agent.tenantId), now, .pending, none, none, none⟩], commands)
  else some drained

/-- A request that is refused changes nothing. -/
def step (state : TenantState σ) : TenantRequest → Option (TenantState σ)
  | .registerAgent attrs now =>
      if isBlank attrs.agentId || isBlank attrs.tenantId then some state
      else some { state with agents := (register attrs now state.agents).2 }
  | .enqueueCommand agentId kind reason now unique =>
      match getAgent agentId state.agents with
      | .error _ => some state
      | .ok agent =>
          (store.enqueue unique ⟨newId unique, agent.agentId, agent.tenantId, kind, reason, now, .pending, none, none,
            none⟩ state.commands).map fun commands => { state with commands := commands }
  | .heartbeat attrs latestVersion now unique =>
      match attrs.tenantId with
      | none => some state
      | some tenantId =>
          if isBlank attrs.agentId || isBlank tenantId then some state
          else
            match ControlPlane.heartbeat attrs now state.agents with
            | (.error _, _) => some state
            | (.ok agent, agents) =>
                (answer store agent latestVersion now unique state.commands).map fun answered =>
                  { state with
                    agents := agents
                    commands := answered.2
                    returned := state.returned ++ answered.1.map fun command => (tenantId, command) }
  | .ackCommand agentId tenantId commandId success message now =>
      if isBlank agentId || isBlank tenantId || isBlank commandId then some state
      else
        match getAgent agentId state.agents with
        | .error _ => some state
        | .ok agent =>
            match requireSameTenant agent (some tenantId) with
            | .error _ => some state
            | .ok () =>
                match store.ack agent.agentId commandId success message now state.commands with
                | (.ok command, commands) => some { state with
                    commands := commands
                    acknowledged := state.acknowledged ++ [(tenantId, command)] }
                | (_, commands) => some { state with commands := commands }

/-- An agent id goes to another tenant only when the commands of the former one are finished, and
none of these is then acknowledged once more by the new one. -/
def HandedOver (state : TenantState σ) : TenantRequest → Prop
  | .registerAgent attrs _ => ∀ command ∈ store.held state.commands attrs.agentId,
      command.isTerminal = false → command.tenantId = attrs.tenantId
  | .ackCommand agentId tenantId commandId _ _ _ => ∀ command ∈ store.held state.commands agentId,
      command.commandId = commandId → command.isTerminal = true → command.tenantId = tenantId
  | _ => True

/-- Commands were returned to, and acknowledged by, requests of their own tenant only. -/
def Isolated (state : TenantState σ) : Prop :=
  (∀ entry ∈ state.returned, entry.2.tenantId = entry.1) ∧ ∀ entry ∈ state.acknowledged, entry.2.tenantId = entry.1

end TenantState

/-! ### What a store does with commands -/

namespace CommandStore

variable {σ : Type} (store : CommandStore σ)

/-- The commands of one state are those of another, and none that was finished is open again. -/
def Follows (before after : σ) : Prop :=
  ∀ agentId, ∀ command ∈ store.held after agentId, ∃ old ∈ store.held before agentId,
    command.tenantId = old.tenantId ∧ (command.isTerminal = false → old.isTerminal = false)

structure Lawful (Sound : σ → Prop) : Prop where
  draw : ∀ {unique before after}, Sound before → store.draw unique before = some after →
    Sound after ∧ store.held after = store.held before
  enqueue : ∀ {unique command before after}, Sound before → command.commandId = newId unique →
    store.enqueue unique command before = some after → Sound after ∧
      ∀ agentId, ∀ other ∈ store.held after agentId,
        other ∈ store.held before agentId ∨ agentId = command.agentId ∧ other = command
  drain : ∀ {before}, Sound before → ∀ agentId now, Sound (store.drain agentId now before).2 ∧
    store.Follows before (store.drain agentId now before).2 ∧
    ∀ command ∈ (store.drain agentId now before).1, ∃ old ∈ store.held before agentId,
      command.tenantId = old.tenantId ∧ old.isTerminal = false
  ack : ∀ {before}, Sound before → ∀ agentId commandId success message now,
    Sound (store.ack agentId commandId success message now before).2 ∧
    store.Follows before (store.ack agentId commandId success message now before).2 ∧
    ∀ command, (store.ack agentId commandId success message now before).1 = .ok command →
      ∃ old ∈ store.held before agentId, command.tenantId = old.tenantId ∧ old.commandId = commandId

end CommandStore

/-! ### Every run -/

namespace TenantState

variable {σ : Type} {store : CommandStore σ} {Sound : σ → Prop} {state next : TenantState σ}

/-- Open commands are of the tenant that their agent has now. -/
structure Separate (store : CommandStore σ) (Sound : σ → Prop) (state : TenantState σ) : Prop where
  keyed : ∀ agentId agent, state.agents.find? agentId = some agent → agent.agentId = agentId
  sound : Sound state.commands
  owned : ∀ agentId, ∀ command ∈ store.held state.commands agentId, command.isTerminal = false →
    ∃ agent, state.agents.find? agentId = some agent ∧ command.tenantId = agent.tenantId
  isolated : state.Isolated

namespace Separate

theorem register (separate : state.Separate store Sound) {attrs : RegisterAttrs} {now : Int}
    (handed : state.HandedOver store (.registerAgent attrs now)) :
    Separate store Sound { state with agents := (ControlPlane.register attrs now state.agents).2 } := by
  refine ⟨?_, separate.sound, ?_, separate.isolated⟩
  · intro agentId agent found
    change (state.agents.insert attrs.agentId _).find? agentId = some agent at found
    rw [OrderedMap.find?_insert] at found
    split_ifs at found with same
    · cases found
      exact same.symm
    · exact separate.keyed agentId agent found
  · intro agentId command held unfinished
    change ∃ agent, (state.agents.insert attrs.agentId _).find? agentId = some agent ∧ _
    rw [OrderedMap.find?_insert]
    split_ifs with same
    · subst same
      exact ⟨_, rfl, handed command held unfinished⟩
    · exact separate.owned agentId command held unfinished

/-- Commands may become finished, and agents report of themselves. -/
theorem follow (separate : state.Separate store Sound) {commands : σ} (sound : Sound commands)
    (follows : store.Follows state.commands commands) {agents : Agents}
    (keyed : ∀ agentId agent, agents.find? agentId = some agent → agent.agentId = agentId)
    (kept : ∀ agentId agent, state.agents.find? agentId = some agent →
      ∃ now, agents.find? agentId = some now ∧ now.tenantId = agent.tenantId)
    {returned acknowledged : List (String × ControlCommand)}
    (isolated : Isolated (σ := σ) ⟨agents, commands, returned, acknowledged⟩) :
    Separate store Sound ⟨agents, commands, returned, acknowledged⟩ := by
  refine ⟨keyed, sound, ?_, isolated⟩
  intro agentId command held unfinished
  obtain ⟨old, before, tenant, still⟩ := follows agentId command held
  obtain ⟨agent, found, owned⟩ := separate.owned agentId old before (still unfinished)
  obtain ⟨now, foundNow, same⟩ := kept agentId agent found
  exact ⟨now, foundNow, by rw [tenant, owned, same]⟩

theorem enqueueCommand (lawful : store.Lawful Sound) (separate : state.Separate store Sound) {agentId reason : String}
    {kind : CommandKind} {now : Int} {unique : Nat}
    (taken : state.step store (.enqueueCommand agentId kind reason now unique) = some next) :
    next.Separate store Sound := by
  simp only [step] at taken
  cases found : getAgent agentId state.agents with
  | error error =>
    rw [found] at taken
    cases taken
    exact separate
  | ok agent =>
    rw [found] at taken
    obtain ⟨commands, stored, rfl⟩ := Option.map_eq_some_iff.mp taken
    have registered := getAgent_eq_ok.mp found
    obtain ⟨sound, held⟩ := lawful.enqueue separate.sound rfl stored
    refine ⟨separate.keyed, sound, ?_, separate.isolated⟩
    intro otherId other member unfinished
    rcases held otherId other member with old | ⟨same, rfl⟩
    · exact separate.owned otherId other old unfinished
    · rw [separate.keyed agentId agent registered] at same
      subst same
      exact ⟨agent, registered, rfl⟩

/-- What a heartbeat answers with is of the agent's tenant. -/
theorem answered (lawful : store.Lawful Sound) (separate : state.Separate store Sound) {agent updated : AgentRecord}
    (found : state.agents.find? updated.agentId = some agent) (tenant : updated.tenantId = agent.tenantId)
    {latestVersion : String → Int} {now : Int} {unique : Nat} {answered : List ControlCommand × σ}
    (answers : answer store updated latestVersion now unique state.commands = some answered) :
    Sound answered.2 ∧ store.Follows state.commands answered.2 ∧
      ∀ command ∈ answered.1, command.tenantId = agent.tenantId := by
  obtain ⟨sound, follows, returned⟩ := lawful.drain separate.sound updated.agentId now
  have drained : ∀ command ∈ (store.drain updated.agentId now state.commands).1, command.tenantId = agent.tenantId := by
    intro command member
    obtain ⟨old, held, same, unfinished⟩ := returned command member
    obtain ⟨owner, registered, owned⟩ := separate.owned updated.agentId old held unfinished
    rw [found] at registered
    cases registered
    rw [same, owned]
  simp only [answer] at answers
  split_ifs at answers with outdated
  · obtain ⟨commands, drawn, rfl⟩ := Option.map_eq_some_iff.mp answers
    obtain ⟨soundNow, same⟩ := lawful.draw sound drawn
    refine ⟨soundNow, ?_, ?_⟩
    · unfold CommandStore.Follows at follows ⊢
      rw [same]
      exact follows
    · intro command member
      rcases List.mem_append.mp member with queued | derived
      · exact drained command queued
      · rw [List.mem_singleton.mp derived]
        exact tenant
  · cases answers
    exact ⟨sound, follows, drained⟩

theorem heartbeat (lawful : store.Lawful Sound) (separate : state.Separate store Sound) {attrs : HeartbeatAttrs}
    {latestVersion : String → Int} {now : Int} {unique : Nat}
    (taken : state.step store (.heartbeat attrs latestVersion now unique) = some next) :
    next.Separate store Sound := by
  simp only [step] at taken
  split at taken
  next =>
    cases taken
    exact separate
  next tenantId named =>
    split_ifs at taken
    · cases taken
      exact separate
    · split at taken
      next =>
        cases taken
        exact separate
      next updated agents done =>
        obtain ⟨agent, found, same, rfl, rfl⟩ := heartbeat_eq_ok done
        rw [named, requireSameTenant_eq_ok] at same
        obtain ⟨answered, answers, rfl⟩ := Option.map_eq_some_iff.mp taken
        have key : agent.agentId = attrs.agentId := separate.keyed attrs.agentId agent found
        have listed : state.agents.find? (attrs.refresh now agent).agentId = some agent := by
          change state.agents.find? agent.agentId = some agent
          rw [key]
          exact found
        obtain ⟨sound, follows, mine⟩ := separate.answered lawful listed rfl answers
        apply separate.follow sound follows
        · intro agentId other listed
          rw [OrderedMap.find?_insert] at listed
          split_ifs at listed with here
          · cases listed
            rw [here]
            exact key
          · exact separate.keyed agentId other listed
        · intro agentId other listed
          rw [OrderedMap.find?_insert]
          split_ifs with here
          · rw [here, found] at listed
            cases listed
            exact ⟨_, rfl, rfl⟩
          · exact ⟨other, listed, rfl⟩
        · refine ⟨?_, separate.isolated.2⟩
          intro entry member
          rcases List.mem_append.mp member with old | new
          · exact separate.isolated.1 entry old
          · obtain ⟨command, returned, rfl⟩ := List.mem_map.mp new
            exact (mine command returned).trans same

theorem ackCommand (lawful : store.Lawful Sound) (separate : state.Separate store Sound)
    {agentId tenantId commandId : String} {success : Bool} {message : Option String} {now : Int}
    (handed : state.HandedOver store (.ackCommand agentId tenantId commandId success message now))
    (taken : state.step store (.ackCommand agentId tenantId commandId success message now) = some next) :
    next.Separate store Sound := by
  simp only [step] at taken
  split_ifs at taken
  · cases taken
    exact separate
  · split at taken
    next =>
      cases taken
      exact separate
    next agent registered =>
      split at taken
      next =>
        cases taken
        exact separate
      next same =>
        rw [requireSameTenant_eq_ok] at same
        have found := getAgent_eq_ok.mp registered
        have key := separate.keyed agentId agent found
        rw [key] at taken
        obtain ⟨sound, follows, replied⟩ := lawful.ack separate.sound agentId commandId success message now
        have here : ∀ otherId other, state.agents.find? otherId = some other →
            ∃ now, state.agents.find? otherId = some now ∧ now.tenantId = other.tenantId :=
          fun _ other listed => ⟨other, listed, rfl⟩
        split at taken
        next command commands result =>
          cases taken
          rw [result] at sound follows replied
          refine separate.follow sound follows separate.keyed here ⟨separate.isolated.1, ?_⟩
          intro entry member
          rcases List.mem_append.mp member with old | new
          · exact separate.isolated.2 entry old
          · rw [List.mem_singleton.mp new]
            obtain ⟨old, held, tenant, named⟩ := replied command rfl
            cases terminal : old.isTerminal with
            | true => exact tenant.trans (handed old held named terminal)
            | false =>
              obtain ⟨owner, listed, owned⟩ := separate.owned agentId old held terminal
              rw [found] at listed
              cases listed
              exact (tenant.trans owned).trans same
        next result =>
          cases taken
          rw [result] at sound follows
          exact separate.follow sound follows separate.keyed here separate.isolated

end Separate

theorem separate_of_reaches (lawful : store.Lawful Sound) {start : σ} (sound : Sound start)
    (none_held : ∀ agentId, store.held start agentId = [])
    (reached : Reaches (step store) (HandedOver store) (initial start) state) : state.Separate store Sound := by
  refine reached.invariant ?_ ?_
  · refine ⟨?_, sound, ?_, ?_, ?_⟩
    · intro agentId agent found
      cases found
    · intro agentId command member
      exact absurd member (none_held agentId ▸ List.not_mem_nil)
    · intro entry member
      cases member
    · intro entry member
      cases member
  · intro current request next separate handed taken
    cases request with
    | registerAgent attrs now =>
      simp only [step] at taken
      split_ifs at taken
      · cases taken
        exact separate
      · cases taken
        exact separate.register handed
    | enqueueCommand agentId kind reason now unique => exact separate.enqueueCommand lawful taken
    | heartbeat attrs latestVersion now unique => exact separate.heartbeat lawful taken
    | ackCommand agentId tenantId commandId success message now => exact separate.ackCommand lawful handed taken

end TenantState

/-! ### The two stores -/

/-- The queue process, and the last integer drawn. -/
structure OtpCommands where
  commands : Commands
  drawn : Nat
  deriving DecidableEq

namespace OtpCommands

def initial : OtpCommands := ⟨.empty, 0⟩

def store (leaseMs : Int) : CommandStore OtpCommands where
  held state agentId := commandsOf state.commands agentId
  draw unique state := if state.drawn < unique then some { state with drawn := unique } else none
  enqueue unique command state :=
    if state.drawn < unique then some ⟨ControlPlane.enqueue command state.commands, unique⟩ else none
  drain agentId now state :=
    let result := ControlPlane.drain agentId now leaseMs state.commands
    (result.1, { state with commands := result.2 })
  ack agentId commandId success message now state :=
    let result := ControlPlane.ack agentId commandId success message now state.commands
    (result.1, { state with commands := result.2.getD state.commands })

/-- The ids are of integers drawn so far. -/
structure Sound (state : OtpCommands) : Prop where
  unique : Unique state.commands
  drawn : ∀ agentId, ∀ command ∈ commandsOf state.commands agentId, ∃ number ≤ state.drawn, command.commandId = newId number

theorem lawful (leaseMs : Int) : (store leaseMs).Lawful Sound where
  draw := by
    intro unique before after sound drawn
    simp only [store] at drawn
    split_ifs at drawn with later
    cases drawn
    refine ⟨⟨sound.unique, ?_⟩, rfl⟩
    intro agentId command member
    obtain ⟨number, bound, named⟩ := sound.drawn agentId command member
    exact ⟨number, bound.trans later.le, named⟩
  enqueue := by
    intro unique command before after sound named enqueued
    simp only [store] at enqueued
    split_ifs at enqueued with later
    cases enqueued
    have cases : ∀ agentId, ∀ other ∈ commandsOf (ControlPlane.enqueue command before.commands) agentId,
        other ∈ commandsOf before.commands agentId ∨ agentId = command.agentId ∧ other = command :=
      fun agentId other member => mem_commandsOf_enqueue member
    refine ⟨⟨sound.unique.enqueue ?_, ?_⟩, cases⟩
    · intro listed
      obtain ⟨other, member, same⟩ := List.mem_map.mp listed
      obtain ⟨agentId, held⟩ := exists_agent_of_mem_stored member
      obtain ⟨number, bound, drawn⟩ := sound.drawn agentId other held
      have again : number = unique := newId_injective (by rw [← drawn, same, named])
      omega
    · intro agentId other member
      rcases cases agentId other member with old | ⟨-, rfl⟩
      · obtain ⟨number, bound, drawn⟩ := sound.drawn agentId other old
        exact ⟨number, bound.trans later.le, drawn⟩
      · exact ⟨unique, le_rfl, named⟩
  drain := by
    intro before sound agentId now
    have follows : ∀ otherId, ∀ command ∈ commandsOf (ControlPlane.drain agentId now leaseMs before.commands).2 otherId,
        ∃ old ∈ commandsOf before.commands otherId, command.commandId = old.commandId ∧
          command.tenantId = old.tenantId ∧ (command.isTerminal = false → old.isTerminal = false) := by
      intro otherId command member
      by_cases here : otherId = agentId
      · subst here
        rw [commandsOf_drain_self sound.unique] at member
        obtain ⟨old, held, rfl⟩ := List.mem_map.mp member
        refine ⟨old, held, ?_⟩
        split_ifs with deliverable
        · exact ⟨rfl, rfl, fun _ => not_isTerminal_of_deliverable deliverable⟩
        · exact ⟨rfl, rfl, id⟩
      · rw [commandsOf_drain, if_neg here] at member
        exact ⟨command, member, rfl, rfl, id⟩
    refine ⟨⟨sound.unique.drain agentId now leaseMs, ?_⟩, ?_, ?_⟩
    · intro otherId command member
      obtain ⟨old, held, same, -⟩ := follows otherId command member
      rw [same]
      exact sound.drawn otherId old held
    · intro otherId command member
      obtain ⟨old, held, -, tenant, still⟩ := follows otherId command member
      exact ⟨old, held, tenant, still⟩
    · intro command member
      simp only [store, drain_delivered sound.unique] at member
      obtain ⟨old, selected, rfl⟩ := List.mem_map.mp member
      obtain ⟨held, deliverable⟩ := List.mem_filter.mp selected
      exact ⟨old, held, rfl, not_isTerminal_of_deliverable deliverable⟩
  ack := by
    intro before sound agentId commandId success message now
    have same : (store leaseMs).Follows before before := fun _ command held => ⟨command, held, rfl, id⟩
    rcases ack_cases sound.unique agentId commandId success message now with missing | ⟨found, held, named, outcome⟩
    · simp only [store, missing, Option.getD_none]
      exact ⟨sound, same, fun _ absurd => nomatch absurd⟩
    rcases outcome with ⟨-, again⟩ | ⟨unfinished, after, acked⟩
    · simp only [store, again, Option.getD_none]
      refine ⟨sound, same, ?_⟩
      intro command replied
      cases replied
      exact ⟨found, held, rfl, named⟩
    · have persisted : (ControlPlane.ack agentId commandId success message now before.commands).2 = some after := by
        rw [acked]
      obtain ⟨listing, others, -⟩ := commandsOf_ack persisted
      simp only [store, acked, Option.getD_some]
      have follows : ∀ otherId, ∀ command ∈ commandsOf after otherId,
          ∃ old ∈ commandsOf before.commands otherId, command.commandId = old.commandId ∧
            command.tenantId = old.tenantId ∧ (command.isTerminal = false → old.isTerminal = false) := by
        intro otherId command member
        by_cases here : otherId = agentId
        · subst here
          obtain ⟨old, kept, rfl⟩ := List.mem_map.mp (listing.mem_iff.mp member)
          refine ⟨old, kept, ?_⟩
          split_ifs
          · refine ⟨rfl, rfl, ?_⟩
            intro unfinished
            cases success <;> cases unfinished
          · exact ⟨rfl, rfl, id⟩
        · rw [others otherId here] at member
          exact ⟨command, member, rfl, rfl, id⟩
      refine ⟨⟨sound.unique.ack persisted, ?_⟩, ?_, ?_⟩
      · intro otherId command member
        obtain ⟨old, kept, same, -⟩ := follows otherId command member
        rw [same]
        exact sound.drawn otherId old kept
      · intro otherId command member
        obtain ⟨old, kept, -, tenant, still⟩ := follows otherId command member
        exact ⟨old, kept, tenant, still⟩
      · intro command replied
        cases replied
        exact ⟨found, held, rfl, named⟩

end OtpCommands

namespace CommandRows

def store (leaseMs : Int) : CommandStore CommandRows where
  held := rowsOf
  draw _ table := some table
  enqueue _ command table := table.insertCommand command
  drain agentId now table := table.drainCommands agentId now leaseMs
  ack agentId commandId success message now table := table.ackCommand agentId commandId success message now

theorem lawful (leaseMs : Int) : (store leaseMs).Lawful fun _ => True where
  draw := by
    intro unique before after _ drawn
    cases drawn
    exact ⟨trivial, rfl⟩
  enqueue := by
    intro unique command before after _ _ inserted
    refine ⟨trivial, ?_⟩
    intro agentId other member
    obtain ⟨listed, mine⟩ := mem_rowsOf.mp member
    rw [insertCommand_rows inserted] at listed
    rcases List.mem_append.mp listed with old | new
    · exact Or.inl (mem_rowsOf.mpr ⟨old, mine⟩)
    · rw [List.mem_singleton.mp new] at mine ⊢
      exact Or.inr ⟨mine.symm, rfl⟩
  drain := by
    intro before _ agentId now
    refine ⟨trivial, ?_, ?_⟩
    · intro otherId command member
      obtain ⟨listed, mine⟩ := mem_rowsOf.mp member
      simp only [store, drainCommands_rows] at listed
      obtain ⟨old, held, rfl⟩ := List.mem_map.mp listed
      refine ⟨old, mem_rowsOf.mpr ⟨held, ?_⟩, ?_⟩
      · rw [← mine]
        split_ifs <;> rfl
      · split_ifs with selected
        · exact ⟨rfl, fun _ => (drainable_open selected).2⟩
        · exact ⟨rfl, id⟩
    · intro command member
      obtain ⟨row, held, selected, rfl⟩ := mem_drained.mp member
      obtain ⟨mine, unfinished⟩ := drainable_open selected
      exact ⟨row, mem_rowsOf.mpr ⟨held, mine⟩, rfl, unfinished⟩
  ack := by
    intro before _ agentId commandId success message now
    have same : (store leaseMs).Follows before before := fun _ command held => ⟨command, held, rfl, id⟩
    rcases ackCommand_cases agentId commandId success message now before with missing | ⟨row, held, mine, named, outcome⟩
    · simp only [store, missing]
      exact ⟨trivial, same, fun _ absurd => nomatch absurd⟩
    rcases outcome with ⟨-, again⟩ | ⟨unfinished, acked⟩
    · simp only [store, again]
      refine ⟨trivial, same, ?_⟩
      intro command replied
      cases replied
      exact ⟨row, mem_rowsOf.mpr ⟨held, mine⟩, rfl, named⟩
    · simp only [store, acked]
      refine ⟨trivial, ?_, ?_⟩
      · intro otherId command member
        obtain ⟨listed, belongs⟩ := mem_rowsOf.mp member
        obtain ⟨old, kept, rfl⟩ := List.mem_map.mp listed
        refine ⟨old, mem_rowsOf.mpr ⟨kept, ?_⟩, ?_⟩
        · rw [← belongs]
          split_ifs <;> rfl
        · split_ifs
          · refine ⟨rfl, ?_⟩
            intro unfinished
            cases success <;> cases unfinished
          · exact ⟨rfl, id⟩
      · intro command replied
        cases replied
        exact ⟨row, mem_rowsOf.mpr ⟨held, mine⟩, rfl, named⟩

end CommandRows

/-- In both stores, as long as agent ids are handed over without open commands. -/
theorem commands_stay_with_tenant (leaseMs : Int) :
    (∀ state, Reaches (TenantState.step (OtpCommands.store leaseMs)) (TenantState.HandedOver (OtpCommands.store leaseMs))
      (.initial .initial) state → state.Isolated) ∧
    ∀ state, Reaches (TenantState.step (CommandRows.store leaseMs))
      (TenantState.HandedOver (CommandRows.store leaseMs)) (.initial .empty) state → state.Isolated := by
  constructor
  · intro state reached
    have sound : OtpCommands.initial.Sound := ⟨List.nodup_nil, fun _ _ member => nomatch member⟩
    exact (TenantState.separate_of_reaches (OtpCommands.lawful leaseMs) sound (fun _ => rfl) reached).isolated
  · intro state reached
    exact (TenantState.separate_of_reaches (CommandRows.lawful leaseMs) trivial (fun _ => rfl) reached).isolated

instance {σ : Type} (state : TenantState σ) : Decidable state.Isolated := inferInstanceAs (Decidable (_ ∧ _))

instance {σ : Type} (store : CommandStore σ) (state : TenantState σ) (request : TenantRequest) :
    Decidable (state.HandedOver store request) :=
  match request with
  | .registerAgent attrs _ => inferInstanceAs (Decidable (∀ command ∈ store.held state.commands attrs.agentId,
      command.isTerminal = false → command.tenantId = attrs.tenantId))
  | .ackCommand agentId tenantId commandId _ _ _ => inferInstanceAs (Decidable
      (∀ command ∈ store.held state.commands agentId, command.commandId = commandId → command.isTerminal = true →
        command.tenantId = tenantId))
  | .enqueueCommand _ _ _ _ _ => isTrue trivial
  | .heartbeat _ _ _ _ => isTrue trivial

/-- The state behind requests that are all within the condition. -/
def TenantState.checkedRun {σ : Type} (store : CommandStore σ) (commands : σ) (requests : List TenantRequest) :
    Option (TenantState σ) :=
  run (fun state request => if HandedOver store state request then step store state request else none)
    (initial commands) requests

/-- The tenants of the requests that commands were returned to, with the commands' own. -/
def TenantState.crossings {σ : Type} (state : TenantState σ) : List (String × String) :=
  (state.returned ++ state.acknowledged).map fun entry => (entry.1, entry.2.tenantId)

def registersAs (tenantId : String) (now : Int) : TenantRequest :=
  .registerAgent ⟨"agent-1", tenantId, none, none, none, none, none, none⟩ now

/-- An agent id that goes to another tenant when its command is done. -/
def handedOver : List TenantRequest :=
  [registersAs "payments" 1, .enqueueCommand "agent-1" .pauseExports "" 2 1,
    .heartbeat ⟨"agent-1", some "payments", none, none, none⟩ (fun _ => 0) 3 2,
    .ackCommand "agent-1" "payments" "cmd-1" true none 4, registersAs "search" 5,
    .enqueueCommand "agent-1" .resumeExports "" 6 7,
    .heartbeat ⟨"agent-1", some "search", none, none, none⟩ (fun _ => 1) 8 9]

theorem commands_stay_with_tenant_handedOver :
    (∃ state, TenantState.checkedRun (OtpCommands.store 30000) .initial handedOver = some state ∧
      state.crossings = [("payments", "payments"), ("search", "search"), ("search", "search"),
        ("payments", "payments")] ∧ state.Isolated) ∧
    ∃ state, TenantState.checkedRun (CommandRows.store 30000) .empty handedOver = some state ∧
      state.crossings = [("payments", "payments"), ("search", "search"), ("search", "search"),
        ("payments", "payments")] ∧ state.Isolated := by
  constructor
  · have ran : (TenantState.checkedRun (OtpCommands.store 30000) .initial handedOver).map TenantState.crossings =
        some [("payments", "payments"), ("search", "search"), ("search", "search"), ("payments", "payments")] := by
      decide +kernel
    obtain ⟨state, reached, crossings⟩ := Option.map_eq_some_iff.mp ran
    exact ⟨state, reached, crossings, (commands_stay_with_tenant 30000).1 state (.of_checked_run reached)⟩
  · have ran : (TenantState.checkedRun (CommandRows.store 30000) .empty handedOver).map TenantState.crossings =
        some [("payments", "payments"), ("search", "search"), ("search", "search"), ("payments", "payments")] := by
      decide +kernel
    obtain ⟨state, reached, crossings⟩ := Option.map_eq_some_iff.mp ran
    exact ⟨state, reached, crossings, (commands_stay_with_tenant 30000).2 state (.of_checked_run reached)⟩

/-- An agent of one tenant, a command for it, and the same agent id registered for another tenant. -/
def takenOver : List TenantRequest :=
  [registersAs "payments" 1, .enqueueCommand "agent-1" .pauseExports "" 2 1, registersAs "search" 3,
    .heartbeat ⟨"agent-1", some "search", none, none, none⟩ (fun _ => 0) 4 2,
    .ackCommand "agent-1" "search" "cmd-1" true none 5]

/-- The command of the one tenant is returned to the other one, and acknowledged by it. -/
theorem command_crosses_tenants :
    ((run (TenantState.step (OtpCommands.store 30000)) (TenantState.initial .initial) takenOver).map fun state =>
      (state.crossings, decide state.Isolated)) = some ([("search", "payments"), ("search", "payments")], false) ∧
    (run (TenantState.step (CommandRows.store 30000)) (TenantState.initial .empty) takenOver).map (fun state =>
      (state.crossings, decide state.Isolated)) = some ([("search", "payments"), ("search", "payments")], false) ∧
    (¬∀ state, Reaches (TenantState.step (OtpCommands.store 30000)) (fun _ _ => True) (.initial .initial) state →
      state.Isolated) ∧
    ¬∀ state, Reaches (TenantState.step (CommandRows.store 30000)) (fun _ _ => True) (.initial .empty) state →
      state.Isolated := by
  have inQueue : ((run (TenantState.step (OtpCommands.store 30000)) (TenantState.initial .initial) takenOver).map fun state =>
      (state.crossings, decide state.Isolated)) =
        some ([("search", "payments"), ("search", "payments")], false) := by decide +kernel
  have inTable : ((run (TenantState.step (CommandRows.store 30000)) (TenantState.initial .empty) takenOver).map fun state =>
      (state.crossings, decide state.Isolated)) =
        some ([("search", "payments"), ("search", "payments")], false) := by decide +kernel
  refine ⟨inQueue, inTable, ?_, ?_⟩
  · intro all
    obtain ⟨state, ran, crossed⟩ := Option.map_eq_some_iff.mp inQueue
    have isolated := all state (.of_run (fun _ _ _ => trivial) ran)
    exact absurd isolated (of_decide_eq_false (Prod.mk.inj crossed).2)
  · intro all
    obtain ⟨state, ran, crossed⟩ := Option.map_eq_some_iff.mp inTable
    have isolated := all state (.of_run (fun _ _ _ => trivial) ran)
    exact absurd isolated (of_decide_eq_false (Prod.mk.inj crossed).2)

end TelemetryFabric.ControlPlane
