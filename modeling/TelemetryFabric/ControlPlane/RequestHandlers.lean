import TelemetryFabric.ControlPlane.CommandQueue
import TelemetryFabric.ControlPlane.HttpControl
import TelemetryFabric.ControlPlane.JsonEncode
import TelemetryFabric.ControlPlane.PipelineRequests
import TelemetryFabric.ControlPlane.PipelineStore
import TelemetryFabric.ControlPlane.Tenants
import TelemetryFabric.Library.Refusals

/-!
The handlers of the HTTP server over stores that keep what requests bring, JSON of any shape. Where
a handler fails, what it has stored by then stays; the answer depends on how it has failed.
-/

namespace TelemetryFabric.ControlPlane
open Library Library.JsonText

/-! ### Stores -/

structure JsonAgent (F : Type) where
  agentId : String
  tenantId : String
  hostname : Json F
  version : Json F
  configVersion : Json F
  queueDepthBytes : Json F
  ingestBytesPerSecond : Json F
  labels : Json F
  lastSeenAt : Int

structure JsonCommand (F : Type) where
  commandId : String
  agentId : String
  tenantId : String
  kind : CommandKind
  reason : Json F
  insertedAt : Int
  status : CommandStatus
  deliveredAt : Option Int
  acknowledgedAt : Option Int
  lastError : Option String

inductive JsonDatum (F : Type) where
  | atom (name : String)
  | json (value : Json F)

structure JsonEvent (F : Type) where
  id : Nat
  actor : Json F
  action : String
  resource : String
  metadata : List (String × JsonDatum F)
  insertedAt : Int

/-- A stored version has been found valid. -/
structure StoredPipeline {F : Type} [DecidableEq F] (enumerate : JsonObject F → JsonObject F) where
  config : RequestedPipeline F
  valid : JsonRequest.validate enumerate config = .ok ()

/-- The newest version of a pipeline comes first, and the newest event. -/
structure Stores {F : Type} [DecidableEq F] (enumerate : JsonObject F → JsonObject F) where
  agents : OrderedMap String (JsonAgent F)
  commands : OrderedMap String (List (JsonCommand F))
  pipelines : String × String → List (StoredPipeline enumerate)
  events : List (JsonEvent F)

/-! ### What the code stands on -/

/-- The language, its libraries and the environment while a request is served: maps are enumerated
in some order, floats are compared with integers, and integers are drawn for new ids. -/
structure Runtime (F : Type) where
  nearest : Decimal → Option F
  enumerate : JsonObject F → JsonObject F
  enumerateMap : List (MapKey × Encodable F) → List (MapKey × Encodable F)
  precedes : Json F → Json F → Bool
  compareFloat : F → Int → Ordering
  showFloat : F → String
  charlistError : List (Json F) → Exception
  message : Exception → String
  inspect : RequestError F → String
  iso8601 : Int → String
  sha256 : String → String
  hmacSha256 : String → String → String
  signingKey : Option String
  leaseMs : Int
  now : Int
  unique : Nat → Nat

/-- The exceptions that are rescued first. -/
def Exception.isArgument : Exception → Bool
  | .argumentError _ => true
  | .badArgument => true
  | .keyError _ => true
  | _ => false

structure Response where
  status : Nat
  body : Bytes

/-- The handlers of the probes do not look at a body and are left open. -/
structure Server (F : Type) extends Runtime F where
  text : TextFunctions
  security : SecurityOptions
  rateLimit : RateLimit
  count : Nat
  probe : Handler → Response

namespace JsonCommand

variable {F : Type}

def isPending (command : JsonCommand F) : Bool := command.status == .pending

def isTerminal (command : JsonCommand F) : Bool := command.status == .succeeded || command.status == .failed

def markDelivered (command : JsonCommand F) (deliveredAt : Int) : JsonCommand F :=
  { command with status := .delivered, deliveredAt := some deliveredAt }

def normalizeError (success : Bool) : Json F → Option String
  | .string message => if success then none else some (String.ofList (trim message.toList))
  | _ => none

def markAcknowledged (command : JsonCommand F) (success : Bool) (message : Json F) (acknowledgedAt : Int) : JsonCommand F :=
  { command with
    status := if success then .succeeded else .failed
    acknowledgedAt := some acknowledgedAt
    lastError := normalizeError success message }

def leaseExpired (command : JsonCommand F) (now leaseMs : Int) : Bool :=
  match command.status, command.deliveredAt with
  | .delivered, none => true
  | .delivered, some deliveredAt => decide (deliveredAt + leaseMs * 1000 ≤ now)
  | _, _ => false

def deliverable (command : JsonCommand F) (now leaseMs : Int) : Bool :=
  command.isPending || command.leaseExpired now leaseMs

/-- The order of the sort keys. -/
def sortsBefore (first second : JsonCommand F) : Bool :=
  decide (first.insertedAt < second.insertedAt) ||
    (first.insertedAt == second.insertedAt && decide (first.commandId ≤ second.commandId))

end JsonCommand

namespace JsonRequest

section Lookups

variable {F : Type}

/-- `Map.get(attrs, field)`. -/
def attr (attrs : JsonObject F) (field : String) : Json F := JsonPipeline.getOrNull attrs field

def attrOr (attrs : JsonObject F) (field : String) (default : Json F) : Json F :=
  (JsonPipeline.get attrs field).getD default

def pipelineName (attrs : JsonObject F) : Json F := attrOr attrs "pipeline" (.string "default")

def requireSameTenant (agent : JsonAgent F) (tenantId : String) : Except (Failure F) Unit :=
  if agent.tenantId = tenantId then .ok () else .error (.refused .tenantMismatch)

def requirePositiveInteger (field : String) : Json F → Except (Failure F) Int
  | .integer value => if 0 < value then .ok value else .error (.refused (.invalidInteger field (.integer value)))
  | value => .error (.refused (.invalidInteger field value))

def requireBoolean (field : String) : Json F → Except (Failure F) Bool
  | .boolean value => .ok value
  | value => .error (.refused (.invalidBoolean field value))

/-- `parse_command_kind`, and the check that the kind is one of `kinds`. -/
def commandKind (kind : Json F) : Except (Failure F) CommandKind :=
  match kind with
  | .string "reload_config" => .ok .reloadConfig
  | .string "drain_and_restart" => .ok .drainAndRestart
  | .string "pause_exports" => .ok .pauseExports
  | .string "resume_exports" => .ok .resumeExports
  | _ => .error (.refused (.unknownCommandKind kind))

/-- `Map.fetch!`. -/
def fetch (attrs : JsonObject F) (field : String) : Except (Failure F) (Json F) :=
  match JsonPipeline.get attrs field with
  | some value => .ok value
  | none => .error (.raised (.keyError field))

end Lookups

end JsonRequest

namespace Stores

variable {F : Type} [DecidableEq F] {enumerate : JsonObject F → JsonObject F} (stores : Stores enumerate)

/-- An agent is asked for by any value. -/
def getAgent : Json F → Except (Failure F) (JsonAgent F)
  | .string agentId => match stores.agents.find? agentId with
      | some agent => .ok agent
      | none => .error (.refused .notFound)
  | _ => .error (.refused .notFound)

def commandsOf (agentId : String) : List (JsonCommand F) := (stores.commands.find? agentId).getD []

def versions (tenantId : String) : Json F → List (StoredPipeline enumerate)
  | .string name => stores.pipelines (tenantId, name)
  | _ => []

def getPipeline (tenantId : String) (name : Json F) : Except (Failure F) (RequestedPipeline F) :=
  match stores.versions tenantId name with
  | latest :: _ => .ok latest.config
  | [] => .error (.refused .notFound)

def latestConfigVersion (tenantId : String) : Nat :=
  match stores.versions tenantId (.string "default") with
  | latest :: _ => latest.config.version
  | [] => 0

end Stores

/-- A version is newer than another, which may be any value. -/
def Runtime.newer {F : Type} (runtime : Runtime F) (version : Nat) : Json F → Bool
  | .integer other => decide (other < version)
  | .float other => runtime.compareFloat other version == .lt
  | _ => false

/-- `value > 0`, where everything but a number is above all numbers. -/
def Runtime.isPositive {F : Type} (runtime : Runtime F) : Json F → Bool
  | .integer value => decide (0 < value)
  | .float value => runtime.compareFloat value 0 == .gt
  | _ => true

namespace JsonRequest

section Handlers

variable {F : Type} [DecidableEq F] (runtime : Runtime F)

abbrev Service (α : Type) := EStateM (Failure F) (Stores runtime.enumerate) α

/-! ### What the stores do -/

def event (draw : Nat) (actor : Json F) (action resource : String) (metadata : List (String × JsonDatum F)) : JsonEvent F :=
  ⟨runtime.unique draw, actor, action, resource, metadata, runtime.now⟩

def append (event : JsonEvent F) : Service runtime Unit :=
  modify fun stores => { stores with events := event :: stores.events }

def register (agentId tenantId : String) (attrs : JsonObject F) : Service runtime Unit := do
  append runtime (event runtime 0 (.string "system") "agent.registered" agentId [("tenant_id", .json (.string tenantId))])
  modify fun stores => { stores with agents := stores.agents.insert agentId {
    agentId := agentId
    tenantId := tenantId
    hostname := attrOr attrs "hostname" (.string "unknown")
    version := attrOr attrs "version" (.string "unknown")
    configVersion := attrOr attrs "config_version" (.integer 0)
    queueDepthBytes := attrOr attrs "queue_depth_bytes" (.integer 0)
    ingestBytesPerSecond := attrOr attrs "ingest_bytes_per_second" (.integer 0)
    labels := attrOr attrs "labels" (.object [])
    lastSeenAt := runtime.now } }

def heartbeatAgent (agentId tenantId : String) (attrs : JsonObject F) : Service runtime (JsonAgent F) := do
  let stores ← get
  let agent ← given (stores.getAgent (.string agentId))
  given (requireSameTenant agent tenantId)
  let updated := { agent with
    configVersion := attrOr attrs "config_version" (.integer 0)
    queueDepthBytes := attrOr attrs "queue_depth_bytes" agent.queueDepthBytes
    ingestBytesPerSecond := attrOr attrs "ingest_bytes_per_second" agent.ingestBytesPerSecond
    lastSeenAt := runtime.now }
  modify fun stores => { stores with agents := stores.agents.insert agentId updated }
  return updated

def commandEvent (draw : Nat) (command : JsonCommand F) (action actor : String) : JsonEvent F :=
  event runtime draw (.string actor) action command.commandId [("agent_id", .json (.string command.agentId)),
    ("tenant_id", .json (.string command.tenantId)), ("kind", .atom command.kind.text), ("reason", .json command.reason)]

def enqueue (command : JsonCommand F) : Service runtime Unit := do
  modify fun stores => { stores with
    commands := stores.commands.insert command.agentId (stores.commandsOf command.agentId ++ [command]) }
  append runtime (commandEvent runtime 1 command "command.enqueued" "operator")

/-- The events of the commands that are delivered, the last of them newest. -/
def drain (agentId : String) : Service runtime (List (JsonCommand F)) :=
  modifyGet fun stores =>
    let existing := stores.commandsOf agentId
    let ids := (existing.filter fun command => command.deliverable runtime.now runtime.leaseMs).map JsonCommand.commandId
    let updated := existing.map fun command =>
      if command.commandId ∈ ids then command.markDelivered runtime.now else command
    let delivered := updated.filter fun command => command.commandId ∈ ids
    let events := delivered.mapIdx fun draw command => commandEvent runtime (draw + 1) command "command.delivered" agentId
    (delivered, { stores with
      commands := if updated.isEmpty then stores.commands.erase agentId else stores.commands.insert agentId updated
      events := events.reverse ++ stores.events })

/-- No clause matches two commands of one id. -/
def acknowledge (agentId commandId : String) (success : Bool) (message : Json F) : Service runtime (JsonCommand F) := do
  let stores ← get
  let existing := stores.commandsOf agentId
  match existing.filter fun command => command.commandId = commandId with
  | [command] =>
      if command.isTerminal then return command
      else
        let acknowledged := command.markAcknowledged success message runtime.now
        let rest := existing.filter fun command => command.commandId ≠ commandId
        modify fun stores => { stores with
          commands := stores.commands.insert agentId ((acknowledged :: rest).mergeSort JsonCommand.sortsBefore) }
        append runtime (commandEvent runtime 0 acknowledged (if success then "command.succeeded" else "command.failed") agentId)
        return acknowledged
  | [] => throw (.refused .notFound)
  | _ => throw .exited

def nextVersion : List (StoredPipeline runtime.enumerate) → Nat
  | [] => 1
  | latest :: _ => latest.config.version + 1

/-- A configuration as the newest version of its key. What the validation raises ends the process of
the store. -/
def storeVersion (tenantId name : String) (config : RequestedPipeline F) (actor : Json F) (action : String)
    (metadata : List (String × JsonDatum F)) : Service runtime (RequestedPipeline F) := do
  let stores ← get
  let versions := stores.pipelines (tenantId, name)
  let updated := { config with version := nextVersion runtime versions }
  match valid : validate runtime.enumerate updated with
  | .ok () =>
      append runtime (event runtime 0 actor action (tenantId ++ "/" ++ name)
        (("version", .json (.integer updated.version)) :: metadata))
      modify fun stores => { stores with
        pipelines := Function.update stores.pipelines (tenantId, name) (⟨updated, valid⟩ :: versions) }
      return updated
  | .error (.refused error) => throw (.refused error)
  | .error _ => throw .exited

def findVersion (versions : List (StoredPipeline runtime.enumerate)) (target : Int) : Except (Failure F) (RequestedPipeline F) :=
  match versions.find? fun pipeline => (pipeline.config.version : Int) = target with
  | some pipeline => .ok pipeline.config
  | none => .error (.refused .notFound)

/-! ### Responses -/

def orNil (value : Option String) : Encodable F := (value.map Encodable.string).getD .nil

def encodeJson (value : Json F) : Encodable F := value.encodable runtime.enumerateMap

def encodeCommand (command : JsonCommand F) : Encodable F := .map [
  (.atom "command_id", .string command.commandId),
  (.atom "agent_id", .string command.agentId),
  (.atom "tenant_id", .string command.tenantId),
  (.atom "kind", .atom command.kind.text),
  (.atom "reason", encodeJson runtime command.reason),
  (.atom "status", .atom command.status.text),
  (.atom "delivered_at", orNil (command.deliveredAt.map runtime.iso8601)),
  (.atom "acknowledged_at", orNil (command.acknowledgedAt.map runtime.iso8601)),
  (.atom "last_error", orNil command.lastError)]

def encodePipeline (pipeline : RequestedPipeline F) : Encodable F := .map [
  (.atom "tenant_id", .string pipeline.tenantId),
  (.atom "name", .string pipeline.name),
  (.atom "version", .integer pipeline.version)]

def encodeUpdate (version : Nat) (payload : String) : Encodable F := .map ([
  (.atom "version", .integer version),
  (.atom "pipeline_config", .string payload),
  (.atom "checksum", .string (runtime.sha256 payload))] ++
  ((configSignature runtime.hmacSha256 runtime.signingKey payload).map fun signature =>
    (MapKey.atom "signature", Encodable.string signature)).toList)

def registerMessage (version : Nat) : String :=
  if version = 0 then "agent registered; no pipeline config is available" else "agent registered"

/-! ### Handlers -/

def registerAgent (attrs : JsonObject F) : Service runtime (Encodable F) := do
  let agentId ← given (requireText "agent_id" (attr attrs "agent_id"))
  let tenantId ← given (requireText "tenant_id" (attr attrs "tenant_id"))
  let configVersion := (← get).latestConfigVersion tenantId
  register runtime agentId tenantId attrs
  return .map [(.atom "agent", .map [
    (.atom "accepted", .boolean true),
    (.atom "config_version", .integer configVersion),
    (.atom "message", .string (registerMessage configVersion))])]

def heartbeat (attrs : JsonObject F) : Service runtime (Encodable F) := do
  let agentId ← given (requireText "agent_id" (attr attrs "agent_id"))
  let tenantId ← given (requireText "tenant_id" (attr attrs "tenant_id"))
  let agent ← heartbeatAgent runtime agentId tenantId attrs
  let queuedCommands ← drain runtime agent.agentId
  let latestVersion := (← get).latestConfigVersion agent.tenantId
  let derivedCommands : List (JsonCommand F) :=
    if runtime.newer latestVersion agent.configVersion then
      [⟨newId (runtime.unique 0), agent.agentId, agent.tenantId, .reloadConfig, .string (reloadReason latestVersion),
        runtime.now, .pending, none, none, none⟩]
    else []
  return .map [(.atom "commands", .list ((queuedCommands ++ derivedCommands).map (encodeCommand runtime)))]

def configUpdate (attrs : JsonObject F) : Service runtime (Encodable F) := do
  let agentId ← given (requireText "agent_id" (attr attrs "agent_id"))
  let tenantId ← given (requireText "tenant_id" (attr attrs "tenant_id"))
  let stores ← get
  let agent ← given (stores.getAgent (.string agentId))
  given (requireSameTenant agent tenantId)
  let pipeline ← given (stores.getPipeline agent.tenantId (pipelineName attrs))
  if runtime.newer pipeline.version (attrOr attrs "current_version" (.integer 0)) then
    let payload ← given (raises (toAgentYaml runtime.enumerate runtime.precedes runtime.showFloat runtime.charlistError pipeline))
    return .map [(.atom "update", encodeUpdate runtime pipeline.version payload)]
  else return .map [(.atom "update", .nil)]

def reportStatus (attrs : JsonObject F) : Service runtime (Encodable F) := do
  let agentId ← given (requireText "agent_id" (attr attrs "agent_id"))
  let tenantId ← given (requireText "tenant_id" (attr attrs "tenant_id"))
  let stores ← get
  let agent ← given (stores.getAgent (.string agentId))
  given (requireSameTenant agent tenantId)
  let latestVersion := stores.latestConfigVersion agent.tenantId
  let warnings := (if runtime.newer latestVersion agent.configVersion then ["config_outdated"] else []) ++
    (if runtime.isPositive agent.queueDepthBytes then ["queue_not_empty"] else [])
  return .map [(.atom "status", .map [
    (.atom "agent_id", .string agent.agentId),
    (.atom "healthy", .boolean warnings.isEmpty),
    (.atom "config_version", encodeJson runtime agent.configVersion),
    (.atom "warnings", .list (warnings.map Encodable.string))])]

def enqueueCommand (attrs : JsonObject F) : Service runtime (Encodable F) := do
  let agentId ← given (fetch attrs "agent_id")
  let kind ← given (commandKind (attr attrs "kind"))
  let stores ← get
  let agent ← given (stores.getAgent agentId)
  let command : JsonCommand F := ⟨newId (runtime.unique 0), agent.agentId, agent.tenantId, kind,
    attrOr attrs "reason" (.string ""), runtime.now, .pending, none, none, none⟩
  enqueue runtime command
  return .map [(.atom "command", encodeCommand runtime command)]

def ackCommand (attrs : JsonObject F) : Service runtime (Encodable F) := do
  let agentId ← given (requireText "agent_id" (attr attrs "agent_id"))
  let tenantId ← given (requireText "tenant_id" (attr attrs "tenant_id"))
  let commandId ← given (requireText "command_id" (attr attrs "command_id"))
  let success ← given (requireBoolean "success" (attr attrs "success"))
  let stores ← get
  let agent ← given (stores.getAgent (.string agentId))
  given (requireSameTenant agent tenantId)
  let command ← acknowledge runtime agent.agentId commandId success (attr attrs "error")
  return .map [(.atom "command", encodeCommand runtime command)]

def pipelineFromAttrs (tenantId name : String) (attrs : JsonObject F) : RequestedPipeline F where
  tenantId := tenantId
  name := name
  receivers := attrOr attrs "receivers" (.array [])
  processors := attrOr attrs "processors" (.array [])
  exporters := attrOr attrs "exporters" (.array [])
  routes := attrOr attrs "routes" (.array [])
  version := 0

def putPipeline (attrs : JsonObject F) : Service runtime (Encodable F) := do
  let tenantId ← given (requireText "tenant_id" (attr attrs "tenant_id"))
  let name ← given (requireText "pipeline" (pipelineName attrs))
  let config := pipelineFromAttrs tenantId name attrs
  given (validate runtime.enumerate config)
  let pipeline ← storeVersion runtime tenantId name config (attrOr attrs "actor" (.string "operator")) "pipeline.updated" []
  return .map [(.atom "pipeline", encodePipeline pipeline)]

def rollbackPipeline (attrs : JsonObject F) : Service runtime (Encodable F) := do
  let tenantId ← given (requireText "tenant_id" (attr attrs "tenant_id"))
  let name ← given (requireText "pipeline" (pipelineName attrs))
  let targetVersion ← given (requirePositiveInteger "target_version" (attr attrs "target_version"))
  let stores ← get
  let target ← given (findVersion runtime (stores.pipelines (tenantId, name)) targetVersion)
  let pipeline ← storeVersion runtime tenantId name target (attrOr attrs "actor" (.string "operator"))
    "pipeline.rolled_back" [("target_version", .json (.integer targetVersion))]
  return .map [(.atom "pipeline", encodePipeline pipeline)]

end Handlers

/-! ### Requests and responses -/

section Answers

variable {F : Type} [DecidableEq F] (runtime : Runtime F)

/-- A parser that has run out of steps is one of the model only. -/
def decodeException : DecodeError → Exception
  | .argument message => .argumentError ("invalid JSON request body: " ++ message)
  | .badArgument => .argumentError ("invalid JSON request body: " ++ runtime.message .badArgument)
  | .noMatch => .matchError
  | .noClause => .functionClauseError
  | .unfinished => .matchError

def decodeRequest (body : Bytes) : Except Exception (Json F) :=
  if body = [] then .ok (.object []) else (Json.decode runtime.nearest body).mapError (decodeException runtime)

/-- What is raised for a value that is no map: the services take maps only, and `Map.get` too. -/
def noMap : Handler → Exception
  | .enqueueCommand => .badMapError
  | _ => .functionClauseError

def service : Handler → Option (JsonObject F → Service runtime (Encodable F))
  | .registerAgent => some (registerAgent runtime)
  | .heartbeat => some (heartbeat runtime)
  | .configUpdate => some (configUpdate runtime)
  | .reportStatus => some (reportStatus runtime)
  | .enqueueCommand => some (enqueueCommand runtime)
  | .ackCommand => some (ackCommand runtime)
  | .putPipeline => some (putPipeline runtime)
  | .rollbackPipeline => some (rollbackPipeline runtime)
  | .healthz => none
  | .readyz => none
  | .metrics => none

def handle (handler : Handler) (service : JsonObject F → Service runtime (Encodable F)) (body : Bytes) :
    Service runtime (Encodable F) := do
  match ← given (raises (decodeRequest runtime body)) with
  | .object attrs => service attrs
  | _ => throw (.raised (noMap handler))

def response (status : Nat) (body : Encodable F) : Response := ⟨status, Json.encode runtime.showFloat body⟩

/-- A body with an error and what goes with it. -/
def errorBody (error : String) (details : List (MapKey × Encodable F)) : Encodable F :=
  .map ((.atom "error", .string error) :: details)

def errorResponse : RequestError F → Response
  | .notFound => response runtime 404 (errorBody "not_found" [])
  | .tenantMismatch => response runtime 403 (errorBody "tenant_mismatch" [])
  | .empty field => response runtime 400 (errorBody ("empty_" ++ field) [])
  | .invalidInteger field value => response runtime 400 (errorBody "invalid_integer"
      [(.atom "field", .atom field), (.atom "value", encodeJson runtime value)])
  | .validationFailed errors => response runtime 400 (errorBody "validation_failed" [(.atom "errors", encodeJson runtime errors)])
  | .unknownCommandKind kind => response runtime 400 (errorBody "unknown_command_kind" [(.atom "kind", encodeJson runtime kind)])
  | error => response runtime 500 (errorBody (runtime.inspect error) [])

/-- `Exception.message`. -/
def exceptionMessage : Exception → String
  | .argumentError message => message
  | exception => runtime.message exception

/-- Where the process that a handler calls ends, the one that serves the request ends with it. -/
def failureResponse : Failure F → Option Response
  | .refused error => some (errorResponse runtime error)
  | .raised exception =>
      some (response runtime (if exception.isArgument then 400 else 500) (errorBody (exceptionMessage runtime exception) []))
  | .exited => none

def answer {stores : Type} : EStateM.Result (Failure F) stores (Encodable F) → Option Response × stores
  | .ok body stores => (some (response runtime 200 body), stores)
  | .error failure stores => (failureResponse runtime failure, stores)

end Answers

variable {F : Type} [DecidableEq F] (server : Server F)

/-- The response to a request, if there is one, and the stores behind it. -/
def routeRequestSafely (request : HttpRequest) (body : Bytes) (stores : Stores server.enumerate) :
    Option Response × Stores server.enumerate :=
  match routeRequest server.text request server.security server.rateLimit server.count with
  | .refused refusal => (some (response server.toRuntime refusal.status (errorBody refusal.error [])), stores)
  | .handled handler => match service server.toRuntime handler with
      | none => (some (server.probe handler), stores)
      | some service => answer server.toRuntime (handle server.toRuntime handler service body stores)

end JsonRequest

end TelemetryFabric.ControlPlane
