import TelemetryFabric.Library.Collect
import TelemetryFabric.Library.Yaml
import TelemetryFabric.Processors.Chain

/-!
The configuration file of an agent, which is also what the control plane sends. A YAML document is
read into the types of the file, and these are turned into a pipeline configuration that is
validated. Structures given as sequences are not read here; the control plane writes none.
-/

namespace TelemetryFabric.Agent
open Library TelemetryFabric.Core Processors

/-! ### Values -/

/-- What the YAML library decides: the document of a text, the text of a value that is asked for as
a string, and whether an empty value stands for an empty mapping. -/
structure Serde where
  read : String → Option Yaml
  text : Yaml → Option String
  emptyMapping : Bool

structure Serde.Lawful (serde : Serde) : Prop where
  string : ∀ text, serde.text (.string text) = some text

/-- A library that shows plain scalars as they are usually written. -/
def Serde.core : Serde where
  read := readYaml
  text
    | .string text => some text
    | .int value => some (String.ofList (decimalInt value))
    | .bool value => some (showBool value)
    | _ => none
  emptyMapping := true

theorem Serde.lawful_core : Serde.core.Lawful := ⟨fun _ => rfl⟩

def boolValue : Yaml → Option Bool
  | .bool value => some value
  | _ => none

/-- An unsigned integer below the limit of its type. -/
def unsignedValue (limit : Nat) : Yaml → Option Nat
  | .int value => if 0 ≤ value ∧ value < limit then some value.toNat else none
  | _ => none

def u64Value (node : Yaml) : Option UInt64 := (unsignedValue (2 ^ 64) node).map UInt64.ofNat

def u32Value (node : Yaml) : Option UInt32 := (unsignedValue (2 ^ 32) node).map UInt32.ofNat

/-- A string that is one; the variants of an untagged enumeration are told apart by type. -/
def stringValue : Yaml → Option String
  | .string text => some text
  | _ => none

/-- The value of a field. A field that is given twice is an error, one that is unknown is not. -/
def fieldValue (name : String) (fields : List (String × Yaml)) : Option (Option Yaml) :=
  match fields.filter fun entry => entry.1 = name with
  | [] => some none
  | [entry] => some (some entry.2)
  | _ => none

def requiredField {α : Type} (name : String) (read : Yaml → Option α) (fields : List (String × Yaml)) : Option α :=
  match fieldValue name fields with
  | some (some node) => read node
  | _ => none

def optionalField {α : Type} (name : String) (read : Yaml → Option α) (fields : List (String × Yaml)) : Option (Option α) :=
  match fieldValue name fields with
  | none => none
  | some none => some none
  | some (some .null) => some none
  | some (some node) => (read node).map some

section Values

variable (serde : Serde)

/-- The entries of a mapping with the texts of their keys. -/
def mappingFields (entries : List (Yaml × Yaml)) : Option (List (String × Yaml)) :=
  entries.mapM fun entry => (serde.text entry.1).map fun key => (key, entry.2)

def asFields : Yaml → Option (List (String × Yaml))
  | .mapping entries => mappingFields serde entries
  | .null => if serde.emptyMapping then some [] else none
  | _ => none

/-- A map with string keys; of entries with the same key the last one stays. -/
def asMap {α : Type} (read : Yaml → Option α) (node : Yaml) : Option (OrderedMap String α) := do
  let fields ← asFields serde node
  let entries ← fields.mapM fun entry => (read entry.2).map fun value => (entry.1, value)
  return .ofList entries

def asList {α : Type} (read : Yaml → Option α) : Yaml → Option (List α)
  | .sequence items => items.mapM read
  | .null => if serde.emptyMapping then some [] else none
  | _ => none

end Values

/-! ### The types of the file -/

inductive FileTlsConfig where
  | enabled (value : Bool)
  | detailed (enabled : Option Bool) (caFile certFile keyFile serverName : Option String)
      (requireClientAuth : Option Bool)

structure FileReceiverConfig where
  protocol : String
  endpoint : String
  tls : Option FileTlsConfig

structure FileProcessorConfig where
  enabled : Option Bool

structure FileExporterRetryConfig where
  maxAttempts : Option UInt64
  timeoutMs : Option UInt64
  initialBackoffMs : Option UInt64

structure FileExporterConfig where
  protocol : String
  endpoint : String
  tls : Option FileTlsConfig
  retry : Option FileExporterRetryConfig

structure FileRouteConfig where
  exporters : List String

structure FileTenantLimits where
  maxIngestBytesPerSecond : Option UInt64
  maxQueueBytes : Option UInt64
  maxRecordBytes : Option UInt32

structure FilePipelineConfig where
  tenant : String
  pipeline : Option String
  receivers : OrderedMap String FileReceiverConfig
  processors : Option (OrderedMap String FileProcessorConfig)
  exporters : OrderedMap String FileExporterConfig
  routes : OrderedMap String FileRouteConfig
  limits : Option FileTenantLimits

section Reading

variable (serde : Serde)

def FileTlsConfig.read : Yaml → Option FileTlsConfig
  | .bool value => some (.enabled value)
  | .mapping entries => do
      let fields ← mappingFields serde entries
      return .detailed (← optionalField "enabled" boolValue fields) (← optionalField "ca_file" stringValue fields)
        (← optionalField "cert_file" stringValue fields) (← optionalField "key_file" stringValue fields)
        (← optionalField "server_name" stringValue fields) (← optionalField "require_client_auth" boolValue fields)
  | _ => none

def FileReceiverConfig.read (node : Yaml) : Option FileReceiverConfig := do
  let fields ← asFields serde node
  return ⟨← requiredField "protocol" serde.text fields, ← requiredField "endpoint" serde.text fields,
    ← optionalField "tls" (FileTlsConfig.read serde) fields⟩

def FileProcessorConfig.read (node : Yaml) : Option FileProcessorConfig := do
  let fields ← asFields serde node
  return ⟨← optionalField "enabled" boolValue fields⟩

def FileExporterRetryConfig.read (node : Yaml) : Option FileExporterRetryConfig := do
  let fields ← asFields serde node
  return ⟨← optionalField "max_attempts" u64Value fields, ← optionalField "timeout_ms" u64Value fields,
    ← optionalField "initial_backoff_ms" u64Value fields⟩

def FileExporterConfig.read (node : Yaml) : Option FileExporterConfig := do
  let fields ← asFields serde node
  return ⟨← requiredField "protocol" serde.text fields, ← requiredField "endpoint" serde.text fields,
    ← optionalField "tls" (FileTlsConfig.read serde) fields, ← optionalField "retry" (FileExporterRetryConfig.read serde) fields⟩

def FileRouteConfig.read (node : Yaml) : Option FileRouteConfig := do
  let fields ← asFields serde node
  return ⟨← requiredField "exporters" (asList serde serde.text) fields⟩

def FileTenantLimits.read (node : Yaml) : Option FileTenantLimits := do
  let fields ← asFields serde node
  return ⟨← optionalField "max_ingest_bytes_per_second" u64Value fields, ← optionalField "max_queue_bytes" u64Value fields,
    ← optionalField "max_record_bytes" u32Value fields⟩

def FilePipelineConfig.read (node : Yaml) : Option FilePipelineConfig := do
  let fields ← asFields serde node
  return {
    tenant := ← requiredField "tenant" serde.text fields
    pipeline := ← optionalField "pipeline" serde.text fields
    receivers := ← requiredField "receivers" (asMap serde (FileReceiverConfig.read serde)) fields
    processors := ← optionalField "processors" (asMap serde (FileProcessorConfig.read serde)) fields
    exporters := ← requiredField "exporters" (asMap serde (FileExporterConfig.read serde)) fields
    routes := ← requiredField "routes" (asMap serde (FileRouteConfig.read serde)) fields
    limits := ← optionalField "limits" (FileTenantLimits.read serde) fields }

end Reading

/-! ### Tokens -/

inductive ConfigFileError where
  | yaml
  | message (text : String)
  | pipeline (error : PipelineError)
  deriving DecidableEq

def normalizeToken (value : String) : String :=
  String.ofList ((toAsciiLowercase (String.ofList (trim value.toList))).toList.map fun c => if c = '_' then '-' else c)

def receiverProtocolOf : String → Option ReceiverProtocol
  | "otlp-grpc" => some .otlpGrpc
  | "otlp-http" => some .otlpHttp
  | _ => none

def processorKindOf : String → Option ProcessorKind
  | "memory-limiter" => some .memoryLimiter
  | "batch" => some .batch
  | "redact" => some .redact
  | "tenant-rate-limit" => some .tenantRateLimit
  | _ => none

def exporterProtocolOf : String → Option ExporterProtocol
  | "otlp-grpc" => some .otlpGrpc
  | "otlp-http" => some .otlpHttp
  | "otlp-http-json" => some .otlpHttpJson
  | "prometheus-remote-write" => some .prometheusRemoteWrite
  | "stdout" => some .stdout
  | "file" => some .file
  | _ => none

/-- A token of a table, or the message that it is unknown. -/
def parseToken {α : Type} (table : String → Option α) (message value : String) : Except ConfigFileError α :=
  match table (normalizeToken value) with
  | some found => .ok found
  | none => .error (.message (message ++ ": " ++ value))

def parseReceiverProtocol : String → Except ConfigFileError ReceiverProtocol :=
  parseToken receiverProtocolOf "unknown receiver protocol"

def parseProcessorKind : String → Except ConfigFileError ProcessorKind :=
  parseToken processorKindOf "unknown processor kind"

def parseExporterProtocol : String → Except ConfigFileError ExporterProtocol :=
  parseToken exporterProtocolOf "unknown exporter protocol"

def parseSignal : String → Except ConfigFileError SignalKind :=
  parseToken SignalKind.fromToken "unknown route signal"

/-! ### The configuration -/

def FileTlsConfig.into : FileTlsConfig → TlsConfig
  | .enabled value => { TlsConfig.disabled with enabled := value }
  | .detailed switch caFile certFile keyFile serverName requireClientAuth =>
      ⟨switch.getD true, caFile, certFile, keyFile, serverName, requireClientAuth.getD false⟩

def FileExporterRetryConfig.into (retry : FileExporterRetryConfig) : ExporterRetryConfig :=
  ⟨retry.maxAttempts.getD ExporterRetryConfig.default.maxAttempts,
    retry.timeoutMs.getD ExporterRetryConfig.default.timeoutMs,
    retry.initialBackoffMs.getD ExporterRetryConfig.default.initialBackoffMs⟩

def FileReceiverConfig.intoReceiverConfig (receiver : FileReceiverConfig) (name : String) :
    Except ConfigFileError ReceiverConfig := do
  return ⟨name, ← parseReceiverProtocol receiver.protocol, receiver.endpoint,
    (receiver.tls.map FileTlsConfig.into).getD .disabled⟩

def FileProcessorConfig.intoProcessorConfig (processor : FileProcessorConfig) (name : String) :
    Except ConfigFileError ProcessorConfig := do
  return ⟨name, ← parseProcessorKind name, processor.enabled.getD true⟩

def FileExporterConfig.intoExporterConfig (exporter : FileExporterConfig) (name : String) :
    Except ConfigFileError ExporterConfig := do
  return ⟨name, ← parseExporterProtocol exporter.protocol, exporter.endpoint,
    (exporter.tls.map FileTlsConfig.into).getD .disabled,
    (exporter.retry.map FileExporterRetryConfig.into).getD .default⟩

def FileRouteConfig.intoRouteConfig (route : FileRouteConfig) (signal : String) :
    Except ConfigFileError RouteConfig := do
  return ⟨← parseSignal signal, route.exporters⟩

def FileTenantLimits.intoTenantLimits (limits : FileTenantLimits) : TenantLimits :=
  ⟨limits.maxIngestBytesPerSecond.getD TenantLimits.default.maxIngestBytesPerSecond,
    limits.maxQueueBytes.getD TenantLimits.default.maxQueueBytes,
    limits.maxRecordBytes.getD TenantLimits.default.maxRecordBytes⟩

/-- The entries of a map in the order of their keys, turned into configurations. -/
def collect {α β : Type} (into : α → String → Except ConfigFileError β) (map : OrderedMap String α) :
    Except ConfigFileError (List β) :=
  map.entries.mapM fun entry => into entry.2 entry.1

def withDefaultProcessors (config : PipelineConfig) : PipelineConfig :=
  if config.processors.isEmpty then { config with processors := PipelineConfig.default.processors } else config

def FilePipelineConfig.intoPipelineConfig (file : FilePipelineConfig) : Except ConfigFileError PipelineConfig := do
  let config := withDefaultProcessors {
    tenantId := file.tenant
    name := file.pipeline.getD "default"
    receivers := ← collect FileReceiverConfig.intoReceiverConfig file.receivers
    processors := ← collect FileProcessorConfig.intoProcessorConfig (file.processors.getD .empty)
    exporters := ← collect FileExporterConfig.intoExporterConfig file.exporters
    routes := ← collect FileRouteConfig.intoRouteConfig file.routes
    limits := (file.limits.map FileTenantLimits.intoTenantLimits).getD .default }
  match config.validate with
  | .error error => .error (.pipeline error)
  | .ok () => return config

def parsePipelineConfig (serde : Serde) (content : String) : Except ConfigFileError PipelineConfig :=
  match (serde.read content).bind (FilePipelineConfig.read serde) with
  | none => .error .yaml
  | some file => file.intoPipelineConfig

theorem parsePipelineConfig_core (content : String) :
    parsePipelineConfig Serde.core content =
      ((readYaml content).bind (FilePipelineConfig.read Serde.core)).elim (.error .yaml)
        FilePipelineConfig.intoPipelineConfig := by
  unfold parsePipelineConfig
  rw [show Serde.core.read = readYaml from rfl]
  cases (readYaml content).bind (FilePipelineConfig.read Serde.core) with
  | none => rfl
  | some file => rfl

end TelemetryFabric.Agent
