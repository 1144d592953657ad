import TelemetryFabric.Library.Machine
import TelemetryFabric.ControlPlane.AgentRegistry
import TelemetryFabric.ControlPlane.PostgresCodec
import Mathlib.Data.List.Range
import Mathlib.Logic.Function.Basic

/-!
The versions of the tenants' pipelines. A version is never changed: a rollback stores the
configuration of an earlier version as the newest one, and agents are offered the newest.
-/

namespace TelemetryFabric.ControlPlane
open Library

/-! ### The store -/

/-- The versions under a tenant and a name, the newest first. -/
abbrev Pipelines := String × String → List PipelineConfig

inductive StoreError where
  | invalid (error : PipelineError)
  | invalidVersion (target : Term)
  | notFound

def nextVersion : List PipelineConfig → Nat
  | [] => 1
  | latest :: _ => latest.version + 1

/-- The version to go back to may be any value. -/
def findVersion (versions : List PipelineConfig) : Term → Except StoreError PipelineConfig
  | .scalar (.integer target) =>
      match versions.find? fun pipeline => (pipeline.version : Int) = target with
      | some pipeline => .ok pipeline
      | none => .error .notFound
  | target => .error (.invalidVersion target)

def putPipeline (config : PipelineConfig) (pipelines : Pipelines) :
    Except StoreError (PipelineConfig × Pipelines) :=
  match validate config with
  | .error error => .error (.invalid error)
  | .ok () =>
      let key := (config.tenantId, config.name)
      let versions := pipelines key
      let updated := { config with version := nextVersion versions }
      .ok (updated, Function.update pipelines key (updated :: versions))

def rollbackPipeline (tenantId name : String) (target : Term) (pipelines : Pipelines) :
    Except StoreError (PipelineConfig × Pipelines) :=
  let key := (tenantId, name)
  let versions := pipelines key
  match findVersion versions target with
  | .error error => .error error
  | .ok found =>
      match validate found with
      | .error error => .error (.invalid error)
      | .ok () =>
          let rolledBack := { found with version := nextVersion versions }
          .ok (rolledBack, Function.update pipelines key (rolledBack :: versions))

def getPipeline (tenantId name : String) (pipelines : Pipelines) : Except StoreError PipelineConfig :=
  match pipelines (tenantId, name) with
  | latest :: _ => .ok latest
  | [] => .error .notFound

/-! ### The update an agent is offered -/

structure SignedUpdate extends ConfigUpdate where
  signature : Option String

inductive ServiceError where
  | registry (error : RegistryError)
  | store (error : StoreError)

section Updates

-- the order of maps, the hash and the keyed hash, and the key the control plane is started with
variable (enumerate : Entries → Entries) (sha256 : String → String) (hmacSha256 : String → String → String)
  (signingKey : Option String)

def configSignature (payload : String) : Option String :=
  match signingKey with
  | some key => if isBlank key then none else some ("hmac-sha256=" ++ hmacSha256 key payload)
  | none => none

/-- There is none where the pipeline cannot be written. -/
def signedConfigUpdate (pipeline : PipelineConfig) : Option SignedUpdate :=
  (buildConfigUpdate enumerate sha256 pipeline).map fun update =>
    ⟨update, configSignature hmacSha256 signingKey update.pipelineConfig⟩

/-- The reply to an agent; none where the request raises. An update is offered if the newest
version is above the one the agent has. -/
def configUpdate (agentId tenantId pipelineName : String) (currentVersion : Int) (agents : Agents)
    (pipelines : Pipelines) : Option (Except ServiceError (Option SignedUpdate)) :=
  if isBlank agentId then some (.error (.registry (.empty "agent_id")))
  else if isBlank tenantId then some (.error (.registry (.empty "tenant_id")))
  else
    match getAgent agentId agents with
    | .error error => some (.error (.registry error))
    | .ok agent =>
        match requireSameTenant agent (some tenantId) with
        | .error error => some (.error (.registry error))
        | .ok () =>
            match getPipeline agent.tenantId pipelineName pipelines with
            | .error error => some (.error (.store error))
            | .ok pipeline =>
                if currentVersion < pipeline.version then
                  (signedConfigUpdate enumerate sha256 hmacSha256 signingKey pipeline).map fun update =>
                    .ok (some update)
                else some (.ok none)

end Updates

/-! ### Runs -/

/-- The store process and its state file. -/
structure StoreState where
  pipelines : Pipelines
  saved : Pipelines

inductive StoreEvent where
  | put (config : PipelineConfig)
  | rollback (tenantId name : String) (target : Term)
  | restart

namespace StoreState

def initial : StoreState := ⟨fun _ => [], fun _ => []⟩

/-- Behind a call. What is new is in the state file before the process goes on with it; where the
validation raises, the process ends and is started from the state file. -/
def afterCall (state : StoreState) : Except StoreError (PipelineConfig × Pipelines) → StoreState
  | .ok (_, pipelines) => ⟨pipelines, pipelines⟩
  | .error (.invalid .raised) => ⟨state.saved, state.saved⟩
  | .error _ => state

def result (state : StoreState) : StoreEvent → Except StoreError (PipelineConfig × Pipelines)
  | .put config => putPipeline config state.pipelines
  | .rollback tenantId name target => rollbackPipeline tenantId name target state.pipelines
  | .restart => .error .notFound

def step (state : StoreState) : StoreEvent → Option StoreState
  | .restart => some ⟨state.saved, state.saved⟩
  | event => some (state.afterCall (state.result event))

end StoreState

def StoreEvent.key : StoreEvent → Option (String × String)
  | .put config => some (config.tenantId, config.name)
  | .rollback tenantId name _ => some (tenantId, name)
  | .restart => none

/-! ### What a call stores -/

theorem putPipeline_eq_ok {config updated : PipelineConfig} {pipelines after : Pipelines}
    (stored : putPipeline config pipelines = .ok (updated, after)) :
    validate config = .ok () ∧
      updated = { config with version := nextVersion (pipelines (config.tenantId, config.name)) } ∧
      after = Function.update pipelines (config.tenantId, config.name)
        (updated :: pipelines (config.tenantId, config.name)) := by
  unfold putPipeline at stored
  split at stored
  next => cases stored
  next valid =>
    simp only [Except.ok.injEq, Prod.mk.injEq] at stored
    obtain ⟨rfl, rfl⟩ := stored
    exact ⟨valid, rfl, rfl⟩

theorem findVersion_eq_ok {versions : List PipelineConfig} {target : Term} {found : PipelineConfig}
    (ok : findVersion versions target = .ok found) :
    target = .scalar (.integer found.version) ∧ found ∈ versions := by
  unfold findVersion at ok
  split at ok
  next version =>
    split at ok
    next pipeline listed =>
      cases ok
      have named : (found.version : Int) = version := by simpa using List.find?_some listed
      exact ⟨by rw [named], List.mem_of_find?_eq_some listed⟩
    next => cases ok
  next => cases ok

theorem rollbackPipeline_eq_ok {tenantId name : String} {target : Term} {updated : PipelineConfig}
    {pipelines after : Pipelines} (stored : rollbackPipeline tenantId name target pipelines = .ok (updated, after)) :
    ∃ found ∈ pipelines (tenantId, name), target = .scalar (.integer found.version) ∧ validate found = .ok () ∧
      updated = { found with version := nextVersion (pipelines (tenantId, name)) } ∧
      after = Function.update pipelines (tenantId, name) (updated :: pipelines (tenantId, name)) := by
  unfold rollbackPipeline at stored
  dsimp only at stored
  split at stored
  next => cases stored
  next found ok =>
    split at stored
    next => cases stored
    next valid =>
      simp only [Except.ok.injEq, Prod.mk.injEq] at stored
      obtain ⟨rfl, rfl⟩ := stored
      obtain ⟨same, listed⟩ := findVersion_eq_ok ok
      exact ⟨found, listed, same, valid, rfl, rfl⟩

/-! ### The invariant -/

/-- The versions count down to one, and each is stored under its own tenant and name. -/
structure Counted (pipelines : Pipelines) : Prop where
  versions : ∀ key, (pipelines key).map PipelineConfig.version = (List.range' 1 (pipelines key).length).reverse
  keyed : ∀ key, ∀ pipeline ∈ pipelines key, (pipeline.tenantId, pipeline.name) = key

namespace Counted

variable {pipelines : Pipelines}

theorem nextVersion_eq (counted : Counted pipelines) (key : String × String) :
    nextVersion (pipelines key) = (pipelines key).length + 1 := by
  have versions := counted.versions key
  cases stored : pipelines key with
  | nil => rfl
  | cons latest rest =>
    rw [stored, List.map_cons, List.length_cons, List.range'_1_concat, List.reverse_append, List.reverse_singleton,
      List.singleton_append] at versions
    have newest := (List.cons.inj versions).1
    simp only [nextVersion, List.length_cons]
    omega

theorem store (counted : Counted pipelines) {key : String × String} {updated : PipelineConfig}
    (own : (updated.tenantId, updated.name) = key) (next : updated.version = nextVersion (pipelines key)) :
    Counted (Function.update pipelines key (updated :: pipelines key)) := by
  rw [counted.nextVersion_eq] at next
  constructor
  · intro other
    by_cases same : other = key
    · subst same
      rw [Function.update_self, List.map_cons, counted.versions, List.length_cons, List.range'_1_concat,
        List.reverse_append, List.reverse_singleton, List.singleton_append, next, Nat.add_comm]
    · rw [Function.update_of_ne same]
      exact counted.versions other
  · intro other pipeline member
    by_cases same : other = key
    · subst same
      rw [Function.update_self] at member
      rcases List.mem_cons.mp member with rfl | old
      · exact own
      · exact counted.keyed other pipeline old
    · rw [Function.update_of_ne same] at member
      exact counted.keyed other pipeline member

end Counted

namespace StoreState

variable {state next : StoreState}

structure Sound (state : StoreState) : Prop where
  counted : Counted state.pipelines
  saved : state.saved = state.pipelines

theorem sound_initial : initial.Sound := by
  refine ⟨⟨fun _ => rfl, ?_⟩, rfl⟩
  intro key pipeline member
  cases member

/-- A call that stores something puts a new version in front of those of its key. -/
theorem Sound.result_ok (sound : state.Sound) {event : StoreEvent} {updated : PipelineConfig} {after : Pipelines}
    (ok : state.result event = .ok (updated, after)) :
    ∃ key, event.key = some key ∧ (updated.tenantId, updated.name) = key ∧
      updated.version = nextVersion (state.pipelines key) ∧
      after = Function.update state.pipelines key (updated :: state.pipelines key) := by
  cases event with
  | put config =>
    obtain ⟨-, rfl, made⟩ := putPipeline_eq_ok ok
    exact ⟨_, rfl, rfl, rfl, made⟩
  | rollback tenantId name target =>
    obtain ⟨found, listed, -, -, rfl, made⟩ := rollbackPipeline_eq_ok ok
    exact ⟨_, rfl, sound.counted.keyed _ found listed, rfl, made⟩
  | restart => cases ok

/-- All that an event can do. -/
theorem Sound.step_cases (sound : state.Sound) {event : StoreEvent} (taken : state.step event = some next) :
    (next = state ∧ ∀ stored, state.result event ≠ .ok stored) ∨
    ∃ updated key, event.key = some key ∧ (updated.tenantId, updated.name) = key ∧
      updated.version = nextVersion (state.pipelines key) ∧
      state.result event = .ok (updated, next.pipelines) ∧ next.saved = next.pipelines ∧
      next.pipelines = Function.update state.pipelines key (updated :: state.pipelines key) := by
  have same : (⟨state.saved, state.saved⟩ : StoreState) = state := by
    obtain ⟨pipelines, saved⟩ := state
    obtain rfl : saved = pipelines := sound.saved
    rfl
  by_cases restarts : event = .restart
  · subst restarts
    cases taken
    exact Or.inl ⟨same, fun stored ok => by cases ok⟩
  have called : some (state.afterCall (state.result event)) = some next := by
    cases event with
    | restart => exact absurd rfl restarts
    | put config => exact taken
    | rollback tenantId name target => exact taken
  cases outcome : state.result event with
  | error error =>
    refine Or.inl ⟨?_, fun stored ok => by cases ok⟩
    rw [outcome, Option.some.injEq] at called
    rw [← called]
    unfold afterCall
    split
    next ok => cases ok
    next => exact same
    next => rfl
  | ok stored =>
    obtain ⟨updated, after⟩ := stored
    rw [outcome] at called
    cases called
    obtain ⟨key, named, own, version, made⟩ := sound.result_ok outcome
    exact Or.inr ⟨updated, key, named, own, version, rfl, rfl, made⟩

theorem Sound.onward (sound : state.Sound) {event : StoreEvent} (taken : state.step event = some next) :
    next.Sound ∧ ∀ key, state.pipelines key <:+ next.pipelines key := by
  rcases sound.step_cases taken with ⟨rfl, -⟩ | ⟨updated, key, -, own, version, -, saved, made⟩
  · exact ⟨sound, fun key => List.suffix_refl _⟩
  · refine ⟨⟨made ▸ sound.counted.store own version, saved⟩, ?_⟩
    intro other
    rw [made]
    by_cases same : other = key
    · subst same
      rw [Function.update_self]
      exact List.suffix_cons _ _
    · simpa only [Function.update_of_ne same] using List.suffix_refl _

theorem Sound.reaches {later : StoreState} (sound : state.Sound)
    (reached : Reaches step (fun _ _ => True) state later) :
    later.Sound ∧ ∀ key, state.pipelines key <:+ later.pipelines key := by
  refine reached.invariant (P := fun later => later.Sound ∧ ∀ key, state.pipelines key <:+ later.pipelines key)
    ⟨sound, fun key => List.suffix_refl _⟩ ?_
  intro current event next reachedSound _ taken
  obtain ⟨nextSound, longer⟩ := reachedSound.1.onward taken
  exact ⟨nextSound, fun key => (reachedSound.2 key).trans (longer key)⟩

end StoreState

/-! ### The newest version -/

section Offers

variable {enumerate : Entries → Entries} {sha256 : String → String} {hmacSha256 : String → String → String}
  {signingKey : Option String}

/-- The version is not written, so the text is that of the earlier version. -/
theorem toAgentYaml_version (pipeline : PipelineConfig) (version : Nat) :
    toAgentYaml enumerate { pipeline with version := version } = toAgentYaml enumerate pipeline := rfl

theorem not_isBlank_of_validate {config : PipelineConfig} (valid : validate config = .ok ()) :
    isBlank config.tenantId = false := by
  cases blank : isBlank config.tenantId with
  | false => rfl
  | true => simp [validate, requireText, blank, bind, Except.bind] at valid

/-- Every agent of the tenant whose version is below the newest one gets an update to it, with the
given text. -/
def OfferedToAll (enumerate : Entries → Entries) (sha256 : String → String) (hmacSha256 : String → String → String)
    (signingKey : Option String) (newest : PipelineConfig) (payload : String) (pipelines : Pipelines) : Prop :=
  ∀ (agents : Agents) (agentId : String) (agent : AgentRecord) (currentVersion : Int),
    agents.find? agentId = some agent → isBlank agentId = false → agent.tenantId = newest.tenantId →
    currentVersion < newest.version →
      configUpdate enumerate sha256 hmacSha256 signingKey agentId newest.tenantId newest.name currentVersion agents
        pipelines = some (.ok (some ⟨⟨newest.version, payload, sha256 payload⟩,
          configSignature hmacSha256 signingKey payload⟩))

/-- The update for an agent that is behind, whatever comes of writing it. -/
theorem configUpdate_behind {pipelines : Pipelines} {newest : PipelineConfig} {older : List PipelineConfig}
    (stored : pipelines (newest.tenantId, newest.name) = newest :: older) (valid : validate newest = .ok ())
    {agents : Agents} {agentId : String} {agent : AgentRecord} {currentVersion : Int}
    (registered : agents.find? agentId = some agent) (named : isBlank agentId = false)
    (own : agent.tenantId = newest.tenantId) (behind : currentVersion < newest.version) :
    configUpdate enumerate sha256 hmacSha256 signingKey agentId newest.tenantId newest.name currentVersion agents
      pipelines = (toAgentYaml enumerate newest).map fun payload =>
        .ok (some ⟨⟨newest.version, payload, sha256 payload⟩, configSignature hmacSha256 signingKey payload⟩) := by
  have found : getPipeline agent.tenantId newest.name pipelines = .ok newest := by
    unfold getPipeline
    rw [own, stored]
  unfold configUpdate
  rw [if_neg (by simp [named]), if_neg (by simp [not_isBlank_of_validate valid]), getAgent_eq_ok.mpr registered]
  dsimp only
  rw [requireSameTenant_eq_ok.mpr own]
  dsimp only
  rw [found]
  dsimp only
  rw [if_pos behind]
  unfold signedConfigUpdate buildConfigUpdate
  cases toAgentYaml enumerate newest <;> rfl

theorem offeredToAll_iff {pipelines : Pipelines} {newest : PipelineConfig} {older : List PipelineConfig}
    (stored : pipelines (newest.tenantId, newest.name) = newest :: older) (valid : validate newest = .ok ())
    {payload : String} :
    OfferedToAll enumerate sha256 hmacSha256 signingKey newest payload pipelines ↔
      toAgentYaml enumerate newest = some payload := by
  constructor
  · intro offered
    -- one agent that is behind is enough
    let agent : AgentRecord := ⟨"agent-1", newest.tenantId, "", "", 0, 0, 0, [], 0⟩
    let agents : Agents := OrderedMap.empty.insert "agent-1" agent
    have registered : agents.find? "agent-1" = some agent := OrderedMap.find?_insert_self _ _ _
    have behind : (newest.version : Int) - 1 < newest.version := by omega
    have update := offered agents "agent-1" agent _ registered (by decide) rfl behind
    rw [configUpdate_behind stored valid registered (by decide) rfl behind] at update
    obtain ⟨written, found, same⟩ := Option.map_eq_some_iff.mp update
    have texts := congrArg (fun update : ConfigUpdate => update.pipelineConfig)
      (congrArg SignedUpdate.toConfigUpdate (Option.some.inj (Except.ok.inj same)))
    rw [found, show written = payload from texts]
  · intro written agents agentId agent currentVersion registered named own behind
    rw [configUpdate_behind stored valid registered named own behind, written]
    rfl

end Offers

/-! ### Every run -/

/-- What holds of the store in every state, from there on. -/
structure StoreState.Versioned (state : StoreState) : Prop where
  /-- Versions count down to one. -/
  versions : ∀ key, (state.pipelines key).map PipelineConfig.version =
    (List.range' 1 (state.pipelines key).length).reverse
  latest : ∀ tenantId name, match getPipeline tenantId name state.pipelines with
    | .ok pipeline => pipeline.version = (state.pipelines (tenantId, name)).length
    | .error _ => state.pipelines (tenantId, name) = []
  /-- Stored versions stay what and where they are. -/
  kept : ∀ later, Reaches step (fun _ _ => True) state later →
    ∀ key, state.pipelines key <:+ later.pipelines key
  failed : ∀ event error next, state.result event = .error error → state.step event = some next → next = state
  others : ∀ event next key, state.step event = some next → event.key ≠ some key →
    next.pipelines key = state.pipelines key

theorem StoreState.Sound.versioned {state : StoreState} (sound : state.Sound) : state.Versioned := by
  refine ⟨sound.counted.versions, ?_, fun later reached => (sound.reaches reached).2, ?_, ?_⟩
  · intro tenantId name
    have next := sound.counted.nextVersion_eq (tenantId, name)
    unfold getPipeline
    cases stored : state.pipelines (tenantId, name) with
    | nil => rfl
    | cons latest older =>
      rw [stored] at next
      exact Nat.succ.inj next
  · intro event error next failed taken
    rcases sound.step_cases taken with ⟨same, -⟩ | ⟨updated, key, -, -, -, ok, -⟩
    · exact same
    · rw [failed] at ok
      cases ok
  · intro event next key taken other
    rcases sound.step_cases taken with ⟨same, -⟩ | ⟨updated, own, named, -, -, -, -, made⟩
    · rw [same]
    · rw [made]
      have elsewhere : key ≠ own := by
        intro same
        rw [same] at other
        exact other named
      exact Function.update_of_ne elsewhere _ _

/-- A rollback that succeeds stores the earlier version once more, as the newest, which is offered
with the text of the earlier one exactly when that can be written. -/
structure RolledBack (pipelines : Pipelines) (tenantId name : String) (target : Term) (updated : PipelineConfig)
    (after : Pipelines) (found : PipelineConfig) : Prop where
  listed : found ∈ pipelines (tenantId, name)
  version : target = .scalar (.integer found.version)
  same : updated = { found with version := (pipelines (tenantId, name)).length + 1 }
  stored : after (tenantId, name) = updated :: pipelines (tenantId, name)
  offered : ∀ enumerate sha256 hmacSha256 signingKey payload,
    OfferedToAll enumerate sha256 hmacSha256 signingKey updated payload after ↔
      toAgentYaml enumerate found = some payload

theorem StoreState.Sound.rolledBack {state : StoreState} (sound : state.Sound) {tenantId name : String} {target : Term}
    {updated : PipelineConfig} {after : Pipelines}
    (ok : rollbackPipeline tenantId name target state.pipelines = .ok (updated, after)) :
    ∃ found, RolledBack state.pipelines tenantId name target updated after found := by
  obtain ⟨found, listed, version, valid, made, stored⟩ := rollbackPipeline_eq_ok ok
  have own : (found.tenantId, found.name) = (tenantId, name) := sound.counted.keyed _ found listed
  have front : after (tenantId, name) = updated :: state.pipelines (tenantId, name) := by
    rw [stored, Function.update_self]
  refine ⟨found, listed, version, ?_, front, ?_⟩
  · rw [made, sound.counted.nextVersion_eq]
  · intro enumerate sha256 hmacSha256 signingKey payload
    have place : (updated.tenantId, updated.name) = (tenantId, name) := by
      rw [made]
      exact own
    have accepted : validate updated = .ok () := by
      rw [made]
      exact valid
    rw [offeredToAll_iff (place.symm ▸ front) accepted, made, toAgentYaml_version]

/-- For every run, with whatever failed calls and restarts. -/
theorem pipeline_versions {state : StoreState}
    (reached : Reaches StoreState.step (fun _ _ => True) StoreState.initial state) :
    state.Versioned ∧ ∀ tenantId name target updated after,
      rollbackPipeline tenantId name target state.pipelines = .ok (updated, after) →
        ∃ found, RolledBack state.pipelines tenantId name target updated after found := by
  have sound : state.Sound := (StoreState.sound_initial.reaches reached).1
  exact ⟨sound.versioned, fun tenantId name target updated after ok => sound.rolledBack ok⟩

/-- A pipeline with one entry in each section, whose receiver has the given endpoint. -/
def endpointPipeline (endpoint : Term) : PipelineConfig where
  tenantId := "acme"
  name := "default"
  receivers := [[(.atom "name", .scalar (.string "otlp")), (.atom "endpoint", endpoint)]]
  processors := []
  exporters := [[(.atom "name", .scalar (.string "stdout"))]]
  routes := [[(.atom "signal", .scalar (.string "trace")), (.atom "exporters", .list [.scalar (.string "stdout")])]]
  version := 0

/-- Two versions, a rollback to one that there is not, a restart. -/
def republished (endpoint : Term) : List StoreEvent :=
  [.put (endpointPipeline endpoint), .put (endpointPipeline (.scalar (.string "0.0.0.0:4317"))),
    .rollback "acme" "default" (.scalar (.integer 7)), .restart]

theorem pipeline_versions_republished :
    ∃ state, run StoreState.step StoreState.initial (republished (.scalar (.string "0.0.0.0:4318"))) = some state ∧
      (state.pipelines ("acme", "default")).map PipelineConfig.version = [2, 1] ∧
      ∃ updated after, rollbackPipeline "acme" "default" (.scalar (.integer 1)) state.pipelines = .ok (updated, after) ∧
        state.Versioned ∧ ∃ found, RolledBack state.pipelines "acme" "default" (.scalar (.integer 1)) updated after found := by
  refine ⟨_, rfl, by decide +kernel, _, _, rfl, ?_⟩
  have reached : Reaches StoreState.step (fun _ _ => True) StoreState.initial _ := .of_run (fun _ _ _ => trivial)
    (show run StoreState.step StoreState.initial (republished (.scalar (.string "0.0.0.0:4318"))) = _ from rfl)
  exact ⟨(pipeline_versions reached).1, (pipeline_versions reached).2 _ _ _ _ _ rfl⟩

/-- An endpoint that is no scalar is accepted, and its rollback too, but it is never offered. -/
theorem rolled_back_not_offered :
    ∃ state, run StoreState.step StoreState.initial (republished (.list [])) = some state ∧
      ∃ updated after, rollbackPipeline "acme" "default" (.scalar (.integer 1)) state.pipelines = .ok (updated, after) ∧
        ∀ sha256 hmacSha256 signingKey payload, ¬OfferedToAll id sha256 hmacSha256 signingKey updated payload after := by
  refine ⟨_, rfl, _, _, rfl, ?_⟩
  intro sha256 hmacSha256 signingKey payload offered
  rw [offeredToAll_iff rfl rfl] at offered
  have raised : toAgentYaml id (endpointPipeline (.list [])) = none := by decide +kernel
  have written : toAgentYaml id (endpointPipeline (.list [])) = some payload := offered
  rw [raised] at written
  cases written

end TelemetryFabric.ControlPlane
