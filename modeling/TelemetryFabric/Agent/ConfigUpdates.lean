import TelemetryFabric.Agent.ConfigFile
import TelemetryFabric.Agent.Methods

/-!
How an agent takes a configuration from a response of the control plane: the checksum and the
signature of the payload are checked, the payload is parsed, and the runtime is reloaded. The
hash functions are parameters. The version of a response goes into no check; it is only kept.
-/

namespace TelemetryFabric.Agent
open Library TelemetryFabric.Core Processors

structure ConfigUpdate where
  version : UInt64
  pipelineConfig : String
  checksum : String
  signature : Option String
  deriving DecidableEq

inductive UpdateError where
  | request
  | control (message : String)
  | file (error : ConfigFileError)
  | reload (halt : AgentHalt)
  deriving DecidableEq

/-! ### The checks -/

/-- `eq_ignore_ascii_case`. -/
def eqIgnoreAsciiCase (first second : String) : Bool := toAsciiLowercase first == toAsciiLowercase second

/-- `str::strip_prefix`. -/
def stripStart (start text : String) : Option String :=
  if start.toList.isPrefixOf text.toList then some (String.ofList (text.toList.drop start.toList.length)) else none

def constantTimeEqual (left right : List UInt8) : Bool :=
  if left.length ≠ right.length then false
  else (left.zip right).foldl (fun total pair => total ||| (pair.1 ^^^ pair.2)) 0 == 0

/-- What a client is started with, and the code that is taken as it is. -/
structure ControlClient (E : Type) where
  tenantId : String
  configSigningKey : Option String
  sha256Hex : String → String
  hmacSha256Hex : String → String → String
  serde : Serde
  build : ExporterConfig → Except ExporterError E

namespace ControlClient

variable {E : Type} (client : ControlClient E)

/-- A blank key is none. -/
def validateConfigSignature (update : ConfigUpdate) : Except UpdateError Unit :=
  match client.configSigningKey.filter fun key => !isBlank key with
  | none => .ok ()
  | some key =>
      match update.signature with
      | none => .error (.control "control config signature is required when a signing key is configured")
      | some signature =>
          let expected := String.ofList (trim ((stripStart "hmac-sha256=" signature).getD signature).toList)
          let actual := client.hmacSha256Hex key update.pipelineConfig
          if constantTimeEqual (utf8 expected) (utf8 actual) then .ok ()
          else .error (.control "control config signature mismatch")

def validateConfigUpdate (update : ConfigUpdate) : Except UpdateError PipelineConfig :=
  let actual := client.sha256Hex update.pipelineConfig
  if eqIgnoreAsciiCase actual update.checksum then
    match client.validateConfigSignature update with
    | .error error => .error error
    | .ok () =>
        match parsePipelineConfig client.serde update.pipelineConfig with
        | .error error => .error (.file error)
        | .ok config => .ok config
  else .error (.control ("control config checksum mismatch: expected=" ++ update.checksum ++ " actual=" ++ actual))

/-! ### Reloads -/

/-- A response: the request failed, there is nothing newer, or an update. -/
abbrev Response := Option (Option ConfigUpdate)

def fetchAndApplyConfig (response : Response) (session : AgentSession E) :
    Except UpdateError (Option ConfigUpdate) × AgentSession E :=
  match response with
  | none => (.error .request, session)
  | some none => (.ok none, session)
  | some (some update) =>
      match client.validateConfigUpdate update with
      | .error error => (.error error, session)
      | .ok config =>
          match reloadConfig config client.build session with
          | .ok () later => (.ok (some update), later)
          | .error halt later => (.error (.reload halt), later)

end ControlClient

/-- The state of the control loop. -/
structure ControlLoop (E : Type) where
  session : AgentSession E
  appliedConfigVersion : UInt64

/-- The loop at a reload command. -/
def ControlLoop.reload {E : Type} (client : ControlClient E) (response : ControlClient.Response) (loop : ControlLoop E) :
    ControlLoop E :=
  match client.fetchAndApplyConfig response loop.session with
  | (.ok (some update), session) => ⟨session, update.version⟩
  | (.ok none, session) => ⟨session, loop.appliedConfigVersion⟩
  | (.error _, session) => ⟨session, loop.appliedConfigVersion⟩

/-! ### What a reload does -/

namespace ControlClient

variable {E : Type} {client : ControlClient E}

/-- The client takes the update: it passes the checks, and the exporters can be built. -/
def Takes (client : ControlClient E) (update : ConfigUpdate) : Prop :=
  ∃ config exporters, client.validateConfigUpdate update = .ok config ∧ config.validate = .ok () ∧
    buildExporters client.build config.exporters .empty = .ok exporters

theorem validateConfigUpdate_eq_ok {update : ConfigUpdate} {config : PipelineConfig} :
    client.validateConfigUpdate update = .ok config ↔
      eqIgnoreAsciiCase (client.sha256Hex update.pipelineConfig) update.checksum = true ∧
        client.validateConfigSignature update = .ok () ∧
        parsePipelineConfig client.serde update.pipelineConfig = .ok config := by
  unfold validateConfigUpdate
  by_cases same : eqIgnoreAsciiCase (client.sha256Hex update.pipelineConfig) update.checksum = true
  · simp only [same, if_true, true_and]
    cases client.validateConfigSignature update with
    | error error => simp
    | ok done =>
      cases parsePipelineConfig client.serde update.pipelineConfig with
      | error error => simp
      | ok parsed => simp
  · simp only [same]
    simp

/-- The signature is over the payload alone. -/
theorem validateConfigSignature_congr {first second : ConfigUpdate} (payload : first.pipelineConfig = second.pipelineConfig)
    (signature : first.signature = second.signature) :
    client.validateConfigSignature first = client.validateConfigSignature second := by
  unfold validateConfigSignature
  rw [payload, signature]

/-- An update takes effect as a whole, or leaves the configuration in use. -/
theorem fetchAndApplyConfig_cases (response : Response) (session : AgentSession E) :
    (∃ update config exporters, response = some (some update) ∧ client.validateConfigUpdate update = .ok config ∧
      config.validate = .ok () ∧ buildExporters client.build config.exporters .empty = .ok exporters ∧
      client.fetchAndApplyConfig response session = (.ok (some update), { session with
        runtime := AgentRuntime.countReload true { session.runtime with
          config := config
          processors := .fromConfig config
          exporters := exporters
          configGeneration := session.runtime.configGeneration + 1 } })) ∨
    ((∀ update, response = some (some update) → ¬client.Takes update) ∧
      (∀ update, (client.fetchAndApplyConfig response session).1 ≠ .ok (some update)) ∧
      (client.fetchAndApplyConfig response session).2.runtime = { session.runtime with
        metrics := (client.fetchAndApplyConfig response session).2.runtime.metrics }) := by
  match response with
  | none => exact .inr ⟨(fun _ other => nomatch other), (fun _ other => nomatch other), rfl⟩
  | some none => exact .inr ⟨(fun _ other => nomatch other), (fun _ other => nomatch other), rfl⟩
  | some (some update) =>
    simp only [fetchAndApplyConfig]
    cases checked : client.validateConfigUpdate update with
    | error error =>
      refine .inr ⟨?_, (fun _ other => nomatch other), rfl⟩
      rintro other ⟨⟩ ⟨config, exporters, passed, -⟩
      rw [checked] at passed
      cases passed
    | ok config =>
      rcases reloadConfig_cases config client.build session with ⟨exporters, valid, built, done⟩ | ⟨error, failed⟩
      · left
        refine ⟨update, config, exporters, rfl, checked, valid, built, ?_⟩
        simp only [done]
      · right
        simp only [failed]
        refine ⟨?_, (fun _ other => nomatch other), rfl⟩
        rintro other ⟨⟩ ⟨same, exporters, passed, valid, built⟩
        rw [checked] at passed
        cases passed
        simp [reloadConfig, counting, reloadConfigInner, valid, built] at failed

end ControlClient

end TelemetryFabric.Agent
