import TelemetryFabric.Agent.ConfigUpdates
import TelemetryFabric.ControlPlane.AgentDocument
import TelemetryFabric.ControlPlane.HttpControl
import TelemetryFabric.ControlPlane.PipelineStore
import TelemetryFabric.ControlPlane.ReadBack

/-!
Responses on their way from the control plane to an agent. Whoever stands between them may keep,
repeat, reorder and relabel what was sent to any tenant, and make up the rest, but has no tag that
the control plane has not emitted. The tag is over the payload alone, so the agent applies only payloads
that were issued, under whatever version they come.
-/

namespace TelemetryFabric.ControlPlane
open Library

/-! ### The system -/

/-- An update that was sent, and the tenant it was for. -/
structure Issue where
  tenantId : String
  update : SignedUpdate

/-- The update as it arrives when nobody changes it. -/
def SignedUpdate.received (update : SignedUpdate) : Agent.ConfigUpdate :=
  ⟨UInt64.ofNat update.version, update.pipelineConfig, update.checksum, update.signature⟩

structure Exchange (E : Type) where
  store : StoreState
  issued : List Issue
  loop : Agent.ControlLoop E
  applied : List Agent.ConfigUpdate

inductive ExchangeEvent (E : Type) where
  | store (event : StoreEvent)
  | ask (agentId tenantId pipelineName : String) (currentVersion : Int) (agents : Agents)
  | respond (response : Agent.ControlClient.Response)
  | work (session : Agent.AgentSession E)

section System

-- both sides have the same hash functions
variable {E : Type} (enumerate : Entries → Entries) (signingKey : Option String) (client : Agent.ControlClient E)

def Exchange.initial (loop : Agent.ControlLoop E) : Exchange E := ⟨.initial, [], loop, []⟩

def Exchange.issue (tenantId : String) (exchange : Exchange E) :
    Option (Except ServiceError (Option SignedUpdate)) → Exchange E
  | some (.ok (some update)) => { exchange with issued := ⟨tenantId, update⟩ :: exchange.issued }
  | _ => exchange

def Exchange.noteApplied (exchange : Exchange E) : Except Agent.UpdateError (Option Agent.ConfigUpdate) → List Agent.ConfigUpdate
  | .ok (some update) => update :: exchange.applied
  | _ => exchange.applied

def Exchange.step (exchange : Exchange E) : ExchangeEvent E → Option (Exchange E)
  | .store event => (exchange.store.step event).map fun store => { exchange with store := store }
  | .ask agentId tenantId pipelineName currentVersion agents =>
      some (exchange.issue tenantId (configUpdate enumerate client.sha256Hex client.hmacSha256Hex signingKey agentId tenantId
        pipelineName currentVersion agents exchange.store.pipelines))
  | .respond response => some { exchange with
      loop := exchange.loop.reload client response
      applied := exchange.noteApplied (client.fetchAndApplyConfig response exchange.loop.session).1 }
  | .work session => some { exchange with loop := { exchange.loop with session := session } }

/-- The control plane has sent the payload with the tag as its signature. -/
def Emitted (exchange : Exchange E) (payload tag : String) : Prop :=
  ∃ issue ∈ exchange.issued, issue.update.pipelineConfig = payload ∧ issue.update.signature = some ("hmac-sha256=" ++ tag)

/-- Tags cannot be forged: where a piece of the presented signature is the tag of the payload under
the key, the control plane has emitted it with this payload. -/
def Unforged (key : String) (exchange : Exchange E) (update : Agent.ConfigUpdate) : Prop :=
  ∀ signature tag, update.signature = some signature → tag.toList <:+: signature.toList →
    tag = client.hmacSha256Hex key update.pipelineConfig → Emitted exchange update.pipelineConfig tag

def UnforgedEvent (key : String) (exchange : Exchange E) : ExchangeEvent E → Prop
  | .respond (some (some update)) => Unforged client key exchange update
  | _ => True

/-- The control plane has issued the payload as this version for the agent's own tenant. -/
def Genuine (exchange : Exchange E) (update : Agent.ConfigUpdate) : Prop :=
  ∃ issue ∈ exchange.issued, issue.tenantId = client.tenantId ∧ issue.update.version = update.version.toNat ∧
    issue.update.pipelineConfig = update.pipelineConfig

def Exchange.issuesOf (exchange : Exchange E) (payload : String) : List Issue :=
  exchange.issued.filter fun issue => issue.update.pipelineConfig = payload

/-- The tenants that a payload was issued for, and the versions that it was issued as. -/
def Exchange.tenantsOf (exchange : Exchange E) (payload : String) : List String :=
  (exchange.issuesOf payload).map Issue.tenantId

def Exchange.versionsOf (exchange : Exchange E) (payload : String) : List Nat :=
  (exchange.issuesOf payload).map fun issue => issue.update.version

/-- The payload comes to no other tenant than those it was issued for, and under one of its versions
if it has any. -/
structure AsIssued (exchange : Exchange E) (update : Agent.ConfigUpdate) : Prop where
  tenant : ∀ tenantId ∈ exchange.tenantsOf update.pipelineConfig, tenantId = client.tenantId
  version : exchange.versionsOf update.pipelineConfig = [] ∨
    update.version.toNat ∈ exchange.versionsOf update.pipelineConfig

def AsIssuedEvent (exchange : Exchange E) : ExchangeEvent E → Prop
  | .respond (some (some update)) => AsIssued client exchange update
  | _ => True

end System

/-! ### Payloads and tags -/

/-- The first line of a payload names the tenant. -/
theorem tenantId_of_toAgentYaml {enumerate : Entries → Entries} {first second : PipelineConfig} {payload : String}
    (one : toAgentYaml enumerate first = some payload) (other : toAgentYaml enumerate second = some payload) :
    first.tenantId = second.tenantId := by
  obtain ⟨-, _, _, _, _, -, -, -, -, rfl⟩ := toAgentYaml_eq_some_iff.mp one
  obtain ⟨-, _, _, _, _, -, -, -, -, same⟩ := toAgentYaml_eq_some_iff.mp other
  have texts := String.ofList_injective same
  simp only [headLines, textOf, List.flatMap_cons, String.toList_append, toList_escape, List.append_assoc] at texts
  exact String.toList_injective (Yaml.escaped_inj (List.append_cancel_left texts))

/-- The agent compares lengths first, and then as the control plane compares tokens. -/
theorem agent_constantTimeEqual_iff {left right : List UInt8} :
    Agent.constantTimeEqual left right = true ↔ left = right := by
  by_cases size : left.length = right.length
  · rw [← constantTimeEqual_iff size, Agent.constantTimeEqual, if_neg (not_not.mpr size)]
    rfl
  · rw [Agent.constantTimeEqual, if_pos size]
    exact iff_of_false Bool.false_ne_true fun same => size (congrArg List.length same)

theorem stripStart_append (start text : String) : Agent.stripStart start (start ++ text) = some text := by
  have leading : start.toList.isPrefixOf (start ++ text).toList = true := by
    rw [List.isPrefixOf_iff_prefix, String.toList_append]
    exact List.prefix_append ..
  unfold Agent.stripStart
  rw [if_pos leading, String.toList_append, List.drop_left, String.ofList_toList]

/-- What is left of a signature without the name of the algorithm. -/
theorem stripStart_within (start text : String) : ((Agent.stripStart start text).getD text).toList <:+: text.toList := by
  unfold Agent.stripStart
  split_ifs
  · rw [Option.getD_some, String.toList_ofList]
    exact (List.drop_suffix _ _).isInfix
  · exact List.infix_rfl

section Tags

variable {E : Type} {client : Agent.ControlClient E} {key : String}

theorem usedKey (shared : client.configSigningKey = some key) (notBlank : isBlank key = false) :
    (client.configSigningKey.filter fun key => !isBlank key) = some key := by
  simp [shared, notBlank]

/-- A signature that is accepted holds the tag of the payload. -/
theorem tag_of_validateConfigSignature (shared : client.configSigningKey = some key) (notBlank : isBlank key = false)
    {update : Agent.ConfigUpdate} (accepted : client.validateConfigSignature update = .ok ()) :
    ∃ signature, update.signature = some signature ∧
      (client.hmacSha256Hex key update.pipelineConfig).toList <:+: signature.toList := by
  unfold Agent.ControlClient.validateConfigSignature at accepted
  rw [usedKey shared notBlank] at accepted
  dsimp only at accepted
  split at accepted
  next => cases accepted
  next signature signed =>
    split at accepted
    next equal =>
      have read := utf8_injective (agent_constantTimeEqual_iff.mp equal)
      refine ⟨signature, signed, ?_⟩
      rw [← read, String.toList_ofList]
      exact (trim_within _).trans (stripStart_within _ _)
    next => cases accepted

end Tags

/-! ### Every run -/

theorem Counted.version_pos {pipelines : Pipelines} (counted : Counted pipelines) {key : String × String}
    {pipeline : PipelineConfig} (member : pipeline ∈ pipelines key) : 1 ≤ pipeline.version := by
  have listed : pipeline.version ∈ (List.range' 1 (pipelines key).length).reverse := by
    rw [← counted.versions key]
    exact List.mem_map_of_mem member
  rw [List.mem_reverse, List.mem_range'_1] at listed
  exact listed.1

section Runs

variable {E : Type} {enumerate : Entries → Entries} {signingKey : Option String} {key : String}
  {client : Agent.ControlClient E}

/-- An update that is offered is that of a stored version of the agent's tenant, with the signature of
its payload. -/
theorem configUpdate_offered {sha256 : String → String} {hmacSha256 : String → String → String}
    {agentId tenantId pipelineName : String} {currentVersion : Int} {agents : Agents} {pipelines : Pipelines}
    {update : SignedUpdate} (offered : configUpdate enumerate sha256 hmacSha256 signingKey agentId tenantId pipelineName
      currentVersion agents pipelines = some (.ok (some update))) :
    ∃ pipeline ∈ pipelines (tenantId, pipelineName), update.version = pipeline.version ∧
      toAgentYaml enumerate pipeline = some update.pipelineConfig ∧
      update.signature = configSignature hmacSha256 signingKey update.pipelineConfig := by
  unfold configUpdate at offered
  split at offered
  next => cases offered
  split at offered
  next => cases offered
  split at offered
  next => cases offered
  next agent _ =>
    split at offered
    next => cases offered
    next own =>
      split at offered
      next => cases offered
      next pipeline found =>
        split at offered
        next =>
          obtain ⟨signed, made, same⟩ := Option.map_eq_some_iff.mp offered
          cases same
          obtain ⟨built, written, rfl⟩ := Option.map_eq_some_iff.mp made
          obtain ⟨payload, rendered, same⟩ := Option.bind_eq_some_iff.mp written
          cases same
          refine ⟨pipeline, ?_, rfl, rendered, rfl⟩
          rw [requireSameTenant_eq_ok.mp own] at found
          unfold getPipeline at found
          split at found
          next newest older stored =>
            cases found
            rw [stored]
            exact List.mem_cons_self
          next => cases found
        next => cases offered

/-- What is known of an update that was sent. -/
structure Issue.Sound (enumerate : Entries → Entries) (client : Agent.ControlClient E) (key : String) (issue : Issue) : Prop where
  version : 1 ≤ issue.update.version
  tenant : ∃ pipeline : PipelineConfig, pipeline.tenantId = issue.tenantId ∧
    toAgentYaml enumerate pipeline = some issue.update.pipelineConfig
  signature : issue.update.signature = some ("hmac-sha256=" ++ client.hmacSha256Hex key issue.update.pipelineConfig)

/-- What holds in every state. -/
structure Exchange.Sound (enumerate : Entries → Entries) (client : Agent.ControlClient E) (key : String)
    (exchange : Exchange E) : Prop where
  store : exchange.store.Sound
  issues : ∀ issue ∈ exchange.issued, issue.Sound enumerate client key
  payloads : ∀ update ∈ exchange.applied, ∃ issue ∈ exchange.issued, issue.update.pipelineConfig = update.pipelineConfig

theorem Exchange.mem_issuesOf {exchange : Exchange E} {payload : String} {issue : Issue} :
    issue ∈ exchange.issuesOf payload ↔ issue ∈ exchange.issued ∧ issue.update.pipelineConfig = payload := by
  simp [Exchange.issuesOf]

/-- With a key, the agent takes only what is signed. -/
theorem validateConfigSignature_of_takes {update : Agent.ConfigUpdate} (takes : client.Takes update) :
    client.validateConfigSignature update = .ok () := by
  obtain ⟨config, exporters, checked, -⟩ := takes
  exact (Agent.ControlClient.validateConfigUpdate_eq_ok.mp checked).2.1

/-- The payload of an update that is taken was issued: the agent has found its tag in the signature. -/
theorem Unforged.issued (shared : client.configSigningKey = some key) (notBlank : isBlank key = false)
    {exchange : Exchange E} {update : Agent.ConfigUpdate} (unforged : Unforged client key exchange update)
    (takes : client.Takes update) : ∃ issue ∈ exchange.issued, issue.update.pipelineConfig = update.pipelineConfig := by
  obtain ⟨signature, signed, presented⟩ :=
    tag_of_validateConfigSignature shared notBlank (validateConfigSignature_of_takes takes)
  obtain ⟨issue, listed, same, -⟩ := unforged signature _ signed presented rfl
  exact ⟨issue, listed, same⟩

theorem Exchange.issued_respond {exchange next : Exchange E} {response : Agent.ControlClient.Response}
    (taken : exchange.step enumerate signingKey client (.respond response) = some next) :
    next.issued = exchange.issued := by
  cases taken
  rfl

theorem Exchange.issued_step {exchange next : Exchange E} {event : ExchangeEvent E}
    (taken : exchange.step enumerate signingKey client event = some next) {issue : Issue} (member : issue ∈ exchange.issued) :
    issue ∈ next.issued := by
  cases event with
  | store event =>
    obtain ⟨store, -, rfl⟩ := Option.map_eq_some_iff.mp taken
    exact member
  | ask agentId tenantId pipelineName currentVersion agents =>
    cases taken
    unfold Exchange.issue
    split
    next => exact List.mem_cons_of_mem _ member
    next => exact member
  | respond response =>
    rw [Exchange.issued_respond taken]
    exact member
  | work session =>
    cases taken
    exact member

/-- What a response adds to the applied updates is what it carries, if the agent takes it. -/
theorem Exchange.applied_step {exchange next : Exchange E} {event : ExchangeEvent E}
    (taken : exchange.step enumerate signingKey client event = some next) {update : Agent.ConfigUpdate}
    (member : update ∈ next.applied) : update ∈ exchange.applied ∨
      (event = .respond (some (some update)) ∧ client.Takes update) := by
  cases event with
  | store event =>
    obtain ⟨store, -, rfl⟩ := Option.map_eq_some_iff.mp taken
    exact .inl member
  | ask agentId tenantId pipelineName currentVersion agents =>
    cases taken
    unfold Exchange.issue at member
    split at member
    next => exact .inl member
    next => exact .inl member
  | work session =>
    cases taken
    exact .inl member
  | respond response =>
    cases taken
    rcases client.fetchAndApplyConfig_cases response exchange.loop.session with
      ⟨other, config, exporters, rfl, checked, valid, built, done⟩ | ⟨-, refused, -⟩
    · simp only [done, Exchange.noteApplied] at member
      rcases List.mem_cons.mp member with rfl | earlier
      · exact .inr ⟨rfl, config, exporters, checked, valid, built⟩
      · exact .inl earlier
    · have unchanged : exchange.noteApplied (client.fetchAndApplyConfig response exchange.loop.session).1 =
          exchange.applied := by
        unfold Exchange.noteApplied
        split
        next other same => exact absurd same (refused other)
        next => rfl
      rw [show (exchange.noteApplied _) = _ from unchanged] at member
      exact .inl member

theorem Exchange.Sound.onward (shared : client.configSigningKey = some key) (notBlank : isBlank key = false)
    {exchange next : Exchange E} {event : ExchangeEvent E} (sound : exchange.Sound enumerate client key)
    (unforged : UnforgedEvent client key exchange event)
    (taken : exchange.step enumerate (some key) client event = some next) : next.Sound enumerate client key := by
  cases event with
  | store event =>
    obtain ⟨store, stored, rfl⟩ := Option.map_eq_some_iff.mp taken
    exact ⟨(sound.store.onward stored).1, sound.issues, sound.payloads⟩
  | work session =>
    cases taken
    exact ⟨sound.store, sound.issues, sound.payloads⟩
  | ask agentId tenantId pipelineName currentVersion agents =>
    cases taken
    unfold Exchange.issue
    split
    next update offered =>
      obtain ⟨pipeline, stored, version, rendered, signature⟩ := configUpdate_offered offered
      have signed : update.signature = some ("hmac-sha256=" ++ client.hmacSha256Hex key update.pipelineConfig) := by
        rw [signature]
        simp [configSignature, notBlank]
      have positive : 1 ≤ update.version := by
        rw [version]
        exact sound.store.counted.version_pos stored
      have own : pipeline.tenantId = tenantId := congrArg Prod.fst (sound.store.counted.keyed _ pipeline stored)
      refine ⟨sound.store, List.forall_mem_cons.mpr ⟨⟨positive, ⟨pipeline, own, rendered⟩, signed⟩, sound.issues⟩, ?_⟩
      intro applied member
      obtain ⟨issue, listed, same⟩ := sound.payloads applied member
      exact ⟨issue, List.mem_cons_of_mem _ listed, same⟩
    next => exact sound
  | respond response =>
    have issued := Exchange.issued_respond taken
    refine ⟨?_, ?_, ?_⟩
    · cases taken
      exact sound.store
    · rw [issued]
      exact sound.issues
    · intro applied member
      rw [issued]
      rcases Exchange.applied_step taken member with earlier | ⟨same, takes⟩
      · exact sound.payloads applied earlier
      · cases same
        exact Unforged.issued shared notBlank unforged takes

theorem Exchange.sound_initial (loop : Agent.ControlLoop E) : (Exchange.initial loop).Sound enumerate client key :=
  ⟨StoreState.sound_initial, (fun _ member => nomatch member), fun _ member => nomatch member⟩

theorem Exchange.sound_of_reached (shared : client.configSigningKey = some key) (notBlank : isBlank key = false)
    {loop : Agent.ControlLoop E} {exchange : Exchange E}
    (reached : Reaches (Exchange.step enumerate (some key) client) (UnforgedEvent client key) (.initial loop) exchange) :
    exchange.Sound enumerate client key :=
  reached.invariant (P := Exchange.Sound enumerate client key) (Exchange.sound_initial loop)
    fun sound unforged taken => sound.onward shared notBlank unforged taken

/-! ### Versions and tenants -/

theorem Genuine.onward {exchange next : Exchange E} {event : ExchangeEvent E} {update : Agent.ConfigUpdate}
    (genuine : Genuine client exchange update) (taken : exchange.step enumerate signingKey client event = some next) :
    Genuine client next update := by
  obtain ⟨issue, member, fields⟩ := genuine
  exact ⟨issue, Exchange.issued_step taken member, fields⟩

/-- A payload that was issued is genuine where it comes to its tenant under one of its versions. -/
theorem AsIssued.genuine {exchange : Exchange E} {update : Agent.ConfigUpdate} (asIssued : AsIssued client exchange update)
    (issued : ∃ issue ∈ exchange.issued, issue.update.pipelineConfig = update.pipelineConfig) :
    Genuine client exchange update := by
  obtain ⟨issue, listed, same⟩ := issued
  rcases asIssued.version with none | member
  · have listed := Exchange.mem_issuesOf.mpr ⟨listed, same⟩
    rw [List.map_eq_nil_iff.mp none] at listed
    cases listed
  · obtain ⟨labelled, member, version⟩ := List.mem_map.mp member
    obtain ⟨listed, payload⟩ := Exchange.mem_issuesOf.mp member
    have own := asIssued.tenant labelled.tenantId (List.mem_map_of_mem member)
    exact ⟨labelled, listed, own, version, payload⟩

/-- Only one tenant has the payload, for it says which one. -/
theorem Genuine.asIssued {exchange : Exchange E} (sound : exchange.Sound enumerate client key)
    {update : Agent.ConfigUpdate} (genuine : Genuine client exchange update) : AsIssued client exchange update := by
  obtain ⟨issue, listed, own, version, payload⟩ := genuine
  refine ⟨?_, .inr ?_⟩
  · intro tenantId member
    obtain ⟨other, found, rfl⟩ := List.mem_map.mp member
    obtain ⟨present, same⟩ := Exchange.mem_issuesOf.mp found
    obtain ⟨pipeline, named, rendered⟩ := (sound.issues issue listed).tenant
    obtain ⟨pipeline', named', rendered'⟩ := (sound.issues other present).tenant
    rw [payload] at rendered
    rw [same] at rendered'
    rw [← own, ← named, ← named', tenantId_of_toAgentYaml rendered' rendered]
  · rw [← version]
    exact List.mem_map_of_mem (f := fun issue : Issue => issue.update.version)
      (Exchange.mem_issuesOf.mpr ⟨listed, payload⟩)

/-- In runs without relabelling every applied update is genuine. -/
theorem genuine_of_as_issued (shared : client.configSigningKey = some key) (notBlank : isBlank key = false)
    {loop : Agent.ControlLoop E} {exchange : Exchange E}
    (reached : Reaches (Exchange.step enumerate (some key) client)
      (fun state event => UnforgedEvent client key state event ∧ AsIssuedEvent client state event) (.initial loop) exchange) :
    ∀ update ∈ exchange.applied, Genuine client exchange update := by
  refine reached.invariant (P := fun state => ∀ update ∈ state.applied, Genuine client state update)
    (fun _ member => nomatch member) ?_
  intro state event next before permitted taken update member
  rcases Exchange.applied_step taken member with earlier | ⟨rfl, takes⟩
  · exact (before update earlier).onward taken
  · have asIssued : AsIssued client state update := permitted.2
    exact (asIssued.genuine (Unforged.issued shared notBlank permitted.1 takes)).onward taken

/-- What was issued can be presented under a version that there never was. -/
def relabelled (issue : Issue) : Agent.ConfigUpdate := { issue.update.received with version := 0 }

/-- An issued update that the agent would take can be presented to it under a version that there
never was. -/
theorem exists_relabelled {exchange : Exchange E} (sound : exchange.Sound enumerate client key) {issue : Issue}
    (member : issue ∈ exchange.issued) (takes : client.Takes issue.update.received) :
    Unforged client key exchange (relabelled issue) ∧ ¬Genuine client exchange (relabelled issue) ∧ ∀ session,
      (client.fetchAndApplyConfig (some (some (relabelled issue))) session).1 = .ok (some (relabelled issue)) := by
  have taken : client.Takes (relabelled issue) := takes
  refine ⟨?_, ?_, ?_⟩
  · intro signature tag _ _ genuine
    exact ⟨issue, member, rfl, genuine ▸ (sound.issues issue member).signature⟩
  · rintro ⟨other, listed, -, version, -⟩
    have positive : 1 ≤ (0 : UInt64).toNat := version ▸ (sound.issues other listed).version
    exact absurd positive (by decide)
  · intro session
    rcases client.fetchAndApplyConfig_cases (some (some (relabelled issue))) session with
      ⟨other, config, exporters, same, -, -, -, done⟩ | ⟨refused, -, -⟩
    · cases same
      rw [done]
    · exact absurd taken (refused _ rfl)

/-- With a key that both sides have and tags that nobody else can make, every applied payload is an
issued one. An update that is taken is genuine exactly if it comes as it was issued, and from the first
update on that the agent would take there is one that does not. -/
theorem applied_configs_genuine (shared : client.configSigningKey = some key) (notBlank : isBlank key = false)
    (loop : Agent.ControlLoop E) (exchange : Exchange E) :
    (Reaches (Exchange.step enumerate (some key) client)
        (fun state event => UnforgedEvent client key state event ∧ AsIssuedEvent client state event) (.initial loop) exchange →
      ∀ update ∈ exchange.applied, Genuine client exchange update) ∧
    (Reaches (Exchange.step enumerate (some key) client) (UnforgedEvent client key) (.initial loop) exchange →
      (∀ update ∈ exchange.applied, ∃ issue ∈ exchange.issued, issue.update.pipelineConfig = update.pipelineConfig) ∧
      (∀ update, Unforged client key exchange update → client.Takes update →
        (Genuine client exchange update ↔ AsIssued client exchange update)) ∧
      ∀ issue ∈ exchange.issued, client.Takes issue.update.received →
        ∃ update, Unforged client key exchange update ∧ ¬Genuine client exchange update ∧ ∀ session,
          (client.fetchAndApplyConfig (some (some update)) session).1 = .ok (some update)) := by
  refine ⟨genuine_of_as_issued shared notBlank, fun reached => ?_⟩
  have sound := Exchange.sound_of_reached shared notBlank reached
  refine ⟨sound.payloads, ?_, fun issue member takes => ⟨relabelled issue, exists_relabelled sound member takes⟩⟩
  intro update unforged takes
  exact ⟨Genuine.asIssued sound, fun asIssued => asIssued.genuine (unforged.issued shared notBlank takes)⟩

end Runs

/-! ### A payload for another tenant -/

def acmePipeline : PipelineConfig where
  tenantId := "acme"
  name := "default"
  receivers := [[(.string "name", .scalar (.string "otlp")), (.string "protocol", .scalar (.string "otlp_grpc")),
    (.string "endpoint", .scalar (.string "0.0.0.0:4317"))]]
  processors := []
  exporters := [[(.string "name", .scalar (.string "stdout")), (.string "protocol", .scalar (.string "stdout")),
    (.string "endpoint", .scalar (.string "stdout://local"))]]
  routes := [[(.string "signal", .scalar (.string "logs")), (.string "exporters", .list [.scalar (.string "stdout")])]]
  version := 0

def acmePayload : String :=
  "tenant: \"acme\"\npipeline: \"default\"\n\nreceivers:\n  otlp:\n    protocol: \"otlp_grpc\"\n" ++
  "    endpoint: \"0.0.0.0:4317\"\n\nprocessors:\n\nexporters:\n  stdout:\n    protocol: \"stdout\"\n" ++
  "    endpoint: \"stdout://local\"\n\nroutes:\n  logs:\n    exporters: [\"stdout\"]\n\n"

def acmeChecksum : String := "1794e7a94bc82f95599f4de1f7340b85641fd59b7b17422c72326f14b65516aa"

def acmeSignature : String := "75c5d397815d69a72e08f1229fc1615c6af58929aacef734fc3982f825b2d011"

/-- An agent of a tenant, with the hashes of this one payload. -/
def agentOf (tenantId : String) : Agent.ControlClient Unit where
  tenantId := tenantId
  configSigningKey := some "signing-key"
  sha256Hex payload := if payload = acmePayload then acmeChecksum else ""
  hmacSha256Hex key payload := if key = "signing-key" ∧ payload = acmePayload then acmeSignature else ""
  serde := .core
  build _ := .ok ()

def startLoop : Agent.ControlLoop Unit where
  session := ⟨⟨.default, .openDir (.fresh "queue") ⟨1000, false⟩, .fromConfig .default, .empty, .default, false, 0, false⟩, []⟩
  appliedConfigVersion := 0

/-- The payload under a version of choice. -/
def presented (version : UInt64) : Agent.ConfigUpdate :=
  ⟨version, acmePayload, acmeChecksum, some ("hmac-sha256=" ++ acmeSignature)⟩

def acmeAgents : Agents := OrderedMap.empty.insert "agent-1" ⟨"agent-1", "acme", "", "", 0, 0, 0, [], 0⟩

def presenting (version : UInt64) : List (ExchangeEvent Unit) :=
  [.store (.put acmePipeline), .ask "agent-1" "acme" "default" 0 acmeAgents, .respond (some (some (presented version)))]

/-- What the control plane has issued, field by field. -/
def issuedFields (exchange : Exchange Unit) : List (String × Nat × String × Option String) :=
  exchange.issued.map fun issue =>
    (issue.tenantId, issue.update.version, issue.update.pipelineConfig, issue.update.signature)

def acmeFields : List (String × Nat × String × Option String) :=
  [("acme", 1, acmePayload, some ("hmac-sha256=" ++ acmeSignature))]

theorem acmeTag (tenantId : String) : (agentOf tenantId).hmacSha256Hex "signing-key" acmePayload = acmeSignature := by
  simp [agentOf]

theorem presented_unforged {tenantId : String} {version : UInt64} {exchange : Exchange Unit}
    (issued : issuedFields exchange = acmeFields) :
    Unforged (agentOf tenantId) "signing-key" exchange (presented version) := by
  intro signature tag _ _ genuine
  obtain ⟨issue, only, fields⟩ := List.map_eq_singleton_iff.mp issued
  simp only [Prod.mk.injEq] at fields
  have made : tag = acmeSignature := genuine.trans (acmeTag tenantId)
  refine ⟨issue, by rw [only]; exact List.mem_singleton_self issue, fields.2.2.1, ?_⟩
  rw [made]
  exact fields.2.2.2

/-- The configuration of the payload can be used. -/
theorem acmePayload_used : ∃ config exporters, Agent.parsePipelineConfig .core acmePayload = .ok config ∧
    config.validate = .ok () ∧ Agent.buildExporters (fun _ => .ok ()) config.exporters .empty = .ok exporters := by
  have read : ((Agent.parsePipelineConfig .core acmePayload).toOption.any fun config => decide (config.validate = .ok ()) &&
      (Agent.buildExporters (fun _ => .ok ()) config.exporters (.empty : Agent.ExporterMap Unit)).toBool) = true := by
    -- the characters of the text first, which are slow to compute from its bytes
    rewrite [Agent.parsePipelineConfig_core, readYaml]
    unfold acmePayload
    rewrite [String.toList_append, String.toList_append, String.toList_ofList, String.toList_ofList, String.toList_ofList]
    decide +kernel
  cases parsed : Agent.parsePipelineConfig .core acmePayload with
  | error error =>
    rw [parsed] at read
    cases read
  | ok config =>
    rw [parsed] at read
    obtain ⟨valid, builds⟩ := Bool.and_eq_true_iff.mp read
    cases built : Agent.buildExporters (fun _ => .ok ()) config.exporters (.empty : Agent.ExporterMap Unit) with
    | error error =>
      rw [built] at builds
      cases builds
    | ok exporters => exact ⟨config, exporters, rfl, of_decide_eq_true valid, built⟩

theorem takes_presented (tenantId : String) (version : UInt64) : (agentOf tenantId).Takes (presented version) := by
  obtain ⟨config, exporters, parsed, valid, built⟩ := acmePayload_used
  have sum : (agentOf tenantId).sha256Hex acmePayload = acmeChecksum := by simp [agentOf]
  have trimmed : trim acmeSignature.toList = acmeSignature.toList := by decide +kernel
  have signed : (agentOf tenantId).validateConfigSignature (presented version) = .ok () := by
    have used : ((agentOf tenantId).configSigningKey.filter fun key => !isBlank key) = some "signing-key" :=
      usedKey rfl (by decide)
    unfold Agent.ControlClient.validateConfigSignature
    rw [used]
    simp only [presented, stripStart_append, Option.getD_some, trimmed, String.ofList_toList, acmeTag]
    exact if_pos (agent_constantTimeEqual_iff.mpr rfl)
  have checked : (agentOf tenantId).validateConfigUpdate (presented version) = .ok config :=
    Agent.ControlClient.validateConfigUpdate_eq_ok.mpr
      ⟨(congrArg (Agent.eqIgnoreAsciiCase · acmeChecksum) sum).trans (beq_self_eq_true _), signed, parsed⟩
  exact ⟨config, exporters, checked, valid, built⟩

/-- The run up to the response, which may depend on what was issued. -/
theorem presenting_reaches (client : Agent.ControlClient Unit) (version : UInt64)
    (permitted : Exchange Unit → ExchangeEvent Unit → Prop)
    (takes : client.Takes (presented version))
    (issues : (run (Exchange.step id (some "signing-key") client) (.initial startLoop) (presenting version)).map issuedFields =
      some acmeFields)
    (quiet : ∀ exchange event, (∀ response, event ≠ .respond response) → permitted exchange event)
    (last : ∀ exchange, issuedFields exchange = acmeFields → permitted exchange (.respond (some (some (presented version))))) :
    ∃ exchange : Exchange Unit, Reaches (Exchange.step id (some "signing-key") client) permitted (.initial startLoop) exchange ∧
      exchange.applied = [presented version] ∧ exchange.loop.appliedConfigVersion = version ∧
      issuedFields exchange = acmeFields := by
  obtain ⟨exchange, ran, issues⟩ := Option.map_eq_some_iff.mp issues
  obtain ⟨stored, put, ran⟩ := Option.bind_eq_some_iff.mp ran
  obtain ⟨offered, asked, ran⟩ := Option.bind_eq_some_iff.mp ran
  obtain ⟨ended, responded, same⟩ := Option.bind_eq_some_iff.mp ran
  cases same
  have nothing : offered.applied = [] := by
    refine List.eq_nil_iff_forall_not_mem.mpr fun update member => ?_
    rcases Exchange.applied_step asked member with earlier | ⟨other, -⟩
    · rcases Exchange.applied_step put earlier with first | ⟨other, -⟩
      · cases first
      · cases other
    · cases other
  have done : exchange.applied = [presented version] ∧ exchange.loop.appliedConfigVersion = version := by
    cases responded
    rcases client.fetchAndApplyConfig_cases (some (some (presented version))) offered.loop.session with
      ⟨update, config, exporters, same, -, -, -, applied⟩ | ⟨refused, -, -⟩
    · cases same
      refine ⟨?_, ?_⟩
      · simp only [Exchange.noteApplied, applied, nothing]
      · simp only [Agent.ControlLoop.reload, applied]
        rfl
    · exact absurd takes (refused _ rfl)
  have before : issuedFields offered = issuedFields exchange := by
    unfold issuedFields
    rw [Exchange.issued_respond responded]
  have asking : permitted stored (.ask "agent-1" "acme" "default" 0 acmeAgents) := quiet _ _ fun _ other => nomatch other
  have putting : permitted (.initial startLoop) (.store (.put acmePipeline)) := quiet _ _ fun _ other => nomatch other
  exact ⟨exchange, ((Reaches.here.after putting put).after asking asked).after (last offered (before.trans issues)) responded,
    done.1, done.2, issues⟩

theorem quiet_permitted {client : Agent.ControlClient Unit} (exchange : Exchange Unit) {event : ExchangeEvent Unit}
    (quiet : ∀ response, event ≠ .respond response) :
    UnforgedEvent client "signing-key" exchange event ∧ AsIssuedEvent client exchange event := by
  cases event with
  | respond response => exact absurd rfl (quiet response)
  | store event => exact ⟨trivial, trivial⟩
  | ask agentId tenantId pipelineName currentVersion agents => exact ⟨trivial, trivial⟩
  | work session => exact ⟨trivial, trivial⟩

/-- The agent of the tenant applies the version that was issued. -/
theorem applied_configs_genuine_presented : ∃ exchange : Exchange Unit, exchange.applied = [presented 1] ∧
    (∀ update ∈ exchange.applied, Genuine (agentOf "acme") exchange update) ∧
    ∀ update ∈ exchange.applied, ∃ issue ∈ exchange.issued, issue.update.pipelineConfig = update.pipelineConfig := by
  have honest : ∀ exchange, issuedFields exchange = acmeFields →
      AsIssuedEvent (agentOf "acme") exchange (.respond (some (some (presented 1)))) := by
    intro exchange issued
    obtain ⟨issue, only, fields⟩ := List.map_eq_singleton_iff.mp issued
    simp only [Prod.mk.injEq] at fields
    have listed : exchange.issuesOf acmePayload = [issue] := by
      rw [Exchange.issuesOf, only]
      simp [fields.2.2.1]
    refine ⟨?_, .inr ?_⟩
    · intro tenantId member
      simp only [presented, Exchange.tenantsOf, listed, List.map_cons, List.map_nil, List.mem_singleton] at member
      rw [member, fields.1]
      rfl
    · simp only [presented, Exchange.versionsOf, listed, List.map_cons, List.map_nil, List.mem_singleton]
      exact fields.2.1.symm
  obtain ⟨exchange, reached, applied, -⟩ := presenting_reaches (agentOf "acme") 1
    (fun state event => UnforgedEvent (agentOf "acme") "signing-key" state event ∧ AsIssuedEvent (agentOf "acme") state event)
    (takes_presented "acme" 1) (by decide +kernel) (fun exchange _ quiet => quiet_permitted exchange quiet)
    (fun exchange issued => ⟨presented_unforged issued, honest exchange issued⟩)
  have unforged := reached.mono (fun _ _ permitted => permitted.1)
  have shared : (agentOf "acme").configSigningKey = some "signing-key" := rfl
  have notBlank : isBlank "signing-key" = false := by decide
  exact ⟨exchange, applied, (applied_configs_genuine shared notBlank startLoop exchange).1 reached,
    ((applied_configs_genuine shared notBlank startLoop exchange).2 unforged).1⟩

/-- The payload of one tenant is applied by an agent of another one that has the same key, under a
version it never had. -/
theorem crossed_applied : (agentOf "globex").configSigningKey = some "signing-key" ∧ ∃ exchange : Exchange Unit,
    Reaches (Exchange.step id (some "signing-key") (agentOf "globex")) (UnforgedEvent (agentOf "globex") "signing-key")
      (.initial startLoop) exchange ∧
    exchange.loop.appliedConfigVersion = 7 ∧ ∃ update ∈ exchange.applied, ¬Genuine (agentOf "globex") exchange update := by
  obtain ⟨exchange, reached, applied, version, issued⟩ := presenting_reaches (agentOf "globex") 7
    (UnforgedEvent (agentOf "globex") "signing-key") (takes_presented "globex" 7) (by decide +kernel)
    (fun exchange _ quiet => (quiet_permitted exchange quiet).1) (fun exchange issued => presented_unforged issued)
  refine ⟨rfl, exchange, reached, version, presented 7, by rw [applied]; exact List.mem_singleton_self _, ?_⟩
  rintro ⟨issue, member, tenant, -⟩
  obtain ⟨only, same, fields⟩ := List.map_eq_singleton_iff.mp issued
  simp only [Prod.mk.injEq] at fields
  rw [same] at member
  rw [List.mem_singleton.mp member, fields.1] at tenant
  exact absurd tenant (by decide)

end TelemetryFabric.ControlPlane
