import TelemetryFabric.Core.Telemetry

/-!
Pipeline configurations and the router. A configuration that passes `validate` has unique
exporter names, and every exporter a route names is one of them; that a signal has a route
at all is not among the checks.
-/

namespace TelemetryFabric.Core
open Library

inductive PipelineError where
  | invalidConfig (message : String)
  | missingRoute (signal : String)
  | unknownExporter (name : String)
  deriving DecidableEq, Repr

def PipelineError.display : PipelineError → String
  | .invalidConfig message => "invalid pipeline config: " ++ message
  | .missingRoute signal => "missing route for signal: " ++ signal
  | .unknownExporter name => "unknown exporter referenced by route: " ++ name

structure TlsConfig where
  enabled : Bool
  caFile : Option String
  certFile : Option String
  keyFile : Option String
  serverName : Option String
  requireClientAuth : Bool
  deriving DecidableEq, Repr

def TlsConfig.disabled : TlsConfig := ⟨false, none, none, none, none, false⟩

inductive ReceiverProtocol where
  | otlpGrpc
  | otlpHttp
  deriving DecidableEq, Repr

structure ReceiverConfig where
  name : String
  protocol : ReceiverProtocol
  endpoint : String
  tls : TlsConfig
  deriving DecidableEq, Repr

inductive ProcessorKind where
  | memoryLimiter
  | batch
  | redact
  | tenantRateLimit
  deriving DecidableEq, Repr

structure ProcessorConfig where
  name : String
  kind : ProcessorKind
  enabled : Bool
  deriving DecidableEq, Repr

structure ExporterRetryConfig where
  maxAttempts : UInt64
  timeoutMs : UInt64
  initialBackoffMs : UInt64
  deriving DecidableEq, Repr

def ExporterRetryConfig.default : ExporterRetryConfig := ⟨3, 30000, 100⟩

inductive ExporterProtocol where
  | otlpGrpc
  | otlpHttp
  | otlpHttpJson
  | prometheusRemoteWrite
  | stdout
  | file
  deriving DecidableEq, Repr

structure ExporterConfig where
  name : String
  protocol : ExporterProtocol
  endpoint : String
  tls : TlsConfig
  retry : ExporterRetryConfig
  deriving DecidableEq, Repr

structure RouteConfig where
  signal : SignalKind
  exporters : List String
  deriving DecidableEq, Repr

structure TenantLimits where
  maxIngestBytesPerSecond : UInt64
  maxQueueBytes : UInt64
  maxRecordBytes : UInt32
  deriving DecidableEq, Repr

def TenantLimits.default : TenantLimits :=
  ⟨64 * 1024 * 1024, 10 * 1024 * 1024 * 1024, 4 * 1024 * 1024⟩

structure PipelineConfig where
  tenantId : String
  name : String
  receivers : List ReceiverConfig
  processors : List ProcessorConfig
  exporters : List ExporterConfig
  routes : List RouteConfig
  limits : TenantLimits
  deriving DecidableEq, Repr

def PipelineConfig.default : PipelineConfig where
  tenantId := "default"
  name := "default"
  receivers := [⟨"otlp-grpc", .otlpGrpc, "0.0.0.0:4317", .disabled⟩,
    ⟨"otlp-http", .otlpHttp, "0.0.0.0:4318", .disabled⟩]
  processors := [⟨"memory-limiter", .memoryLimiter, true⟩, ⟨"batch", .batch, true⟩]
  exporters := [⟨"stdout", .stdout, "stdout://local", .disabled, .default⟩]
  routes := [⟨.trace, ["stdout"]⟩, ⟨.metric, ["stdout"]⟩, ⟨.log, ["stdout"]⟩]
  limits := .default

/-! ### Validation -/

def requireNonEmpty (field value : String) : Except PipelineError Unit :=
  if isBlank value then .error (.invalidConfig (field ++ " must not be empty")) else .ok ()

/-- One check of `validate`: its message is returned when the condition holds. -/
def refuseWhen (condition : Bool) (message : String) : Except PipelineError Unit :=
  if condition then .error (.invalidConfig message) else .ok ()

/-- The loop of `validate_unique_names`; `seen` is the set of names before these. -/
def uniqueNamesFrom (kind : String) : List String → List String → Except PipelineError Unit
  | _, [] => .ok ()
  | seen, name :: rest => do
      requireNonEmpty kind name
      refuseWhen (seen.contains name) ("duplicate " ++ kind ++ " name: " ++ name)
      uniqueNamesFrom kind (name :: seen) rest

def validateUniqueNames (kind : String) (names : List String) : Except PipelineError Unit :=
  uniqueNamesFrom kind [] names

def ExporterConfig.validateRetry (exporter : ExporterConfig) : Except PipelineError Unit := do
  refuseWhen (exporter.retry.maxAttempts == 0)
    ("exporter " ++ exporter.name ++ " retry.max_attempts must be greater than zero")
  refuseWhen (exporter.retry.timeoutMs == 0)
    ("exporter " ++ exporter.name ++ " retry.timeout_ms must be greater than zero")
  refuseWhen (exporter.retry.initialBackoffMs == 0)
    ("exporter " ++ exporter.name ++ " retry.initial_backoff_ms must be greater than zero")

def RouteConfig.validateExporters (exporterNames : List String) : List String → Except PipelineError Unit
  | [] => .ok ()
  | name :: rest =>
      if exporterNames.contains name then validateExporters exporterNames rest
      else .error (.unknownExporter name)

def RouteConfig.validate (exporterNames : List String) (route : RouteConfig) : Except PipelineError Unit := do
  refuseWhen route.exporters.isEmpty ("route for " ++ route.signal.asStr ++ " has no exporters")
  validateExporters exporterNames route.exporters

def validateEach {α : Type} (check : α → Except PipelineError Unit) : List α → Except PipelineError Unit
  | [] => .ok ()
  | item :: rest => do
      check item
      validateEach check rest

namespace PipelineConfig

def exporterNames (config : PipelineConfig) : List String := config.exporters.map ExporterConfig.name

def validate (config : PipelineConfig) : Except PipelineError Unit := do
  requireNonEmpty "tenant_id" config.tenantId
  requireNonEmpty "name" config.name
  refuseWhen config.receivers.isEmpty "at least one receiver is required"
  refuseWhen config.exporters.isEmpty "at least one exporter is required"
  refuseWhen config.routes.isEmpty "at least one route is required"
  refuseWhen (config.limits.maxRecordBytes == 0) "max_record_bytes must be greater than zero"
  refuseWhen (config.limits.maxQueueBytes == 0) "max_queue_bytes must be greater than zero"
  refuseWhen (config.limits.maxIngestBytesPerSecond == 0)
    "max_ingest_bytes_per_second must be greater than zero"
  validateEach ExporterConfig.validateRetry config.exporters
  validateUniqueNames "receiver" (config.receivers.map ReceiverConfig.name)
  validateUniqueNames "exporter" config.exporterNames
  validateUniqueNames "processor" (config.processors.map ProcessorConfig.name)
  validateEach (RouteConfig.validate config.exporterNames) config.routes

/-! ### Routing -/

/-- The exporters a route names, in its order. -/
def namedExporters (config : PipelineConfig) : List String → Except PipelineError (List ExporterConfig)
  | [] => .ok []
  | name :: rest =>
      match config.exporters.find? (fun exporter => exporter.name == name) with
      | none => .error (.unknownExporter name)
      | some exporter => do return exporter :: (← namedExporters config rest)

/-- `Router::exporters_for`. -/
def exportersFor (config : PipelineConfig) (signal : SignalKind) :
    Except PipelineError (List ExporterConfig) :=
  match config.routes.find? (fun route => route.signal == signal) with
  | none => .error (.missingRoute signal.asStr)
  | some route => config.namedExporters route.exporters

end PipelineConfig

/-- The default configuration passes its own checks. -/
theorem default_validate : PipelineConfig.default.validate = .ok () := by decide +kernel

/-! ### What validation establishes -/

/-- Checks in sequence pass if each of them does. -/
theorem seq_eq_ok {ε : Type} {first second : Except ε Unit} :
    (do first; second) = .ok () ↔ first = .ok () ∧ second = .ok () := by
  cases first <;> simp [Bind.bind, Except.bind]

theorem refuseWhen_eq_ok {condition : Bool} {message : String} :
    refuseWhen condition message = .ok () ↔ condition = false := by
  unfold refuseWhen
  cases condition <;> simp

theorem validateEach_eq_ok {α : Type} {check : α → Except PipelineError Unit} {items : List α} :
    validateEach check items = .ok () ↔ ∀ item ∈ items, check item = .ok () := by
  induction items with
  | nil => simp [validateEach]
  | cons item rest ih => rw [validateEach, seq_eq_ok, ih, List.forall_mem_cons]

theorem uniqueNamesFrom_nodup {kind : String} {seen names : List String}
    (unique : uniqueNamesFrom kind seen names = .ok ()) :
    names.Nodup ∧ ∀ name ∈ names, name ∉ seen := by
  induction names generalizing seen with
  | nil => simp
  | cons name rest ih =>
    rw [uniqueNamesFrom, seq_eq_ok, seq_eq_ok, refuseWhen_eq_ok] at unique
    obtain ⟨-, fresh, later⟩ := unique
    obtain ⟨nodup, others⟩ := ih later
    have new : name ∉ seen := by simpa using fresh
    refine ⟨List.nodup_cons.mpr ⟨fun again => others name again (by simp), nodup⟩, ?_⟩
    intro other member
    rcases List.mem_cons.mp member with rfl | inside
    · exact new
    · exact fun old => others other inside (List.mem_cons_of_mem _ old)

theorem validateExporters_eq_ok {exporterNames names : List String} :
    RouteConfig.validateExporters exporterNames names = .ok () ↔ ∀ name ∈ names, name ∈ exporterNames := by
  induction names with
  | nil => simp [RouteConfig.validateExporters]
  | cons name rest ih =>
    rw [RouteConfig.validateExporters]
    by_cases known : exporterNames.contains name = true
    · rw [if_pos known, ih]
      simp only [List.contains_iff_mem] at known
      simp [known]
    · rw [if_neg known]
      simp only [List.contains_iff_mem] at known
      simp [known]

/-- What the runtime relies on in a configuration that passed `validate`. -/
structure PipelineConfig.Valid (config : PipelineConfig) : Prop where
  attempts : ∀ exporter ∈ config.exporters, exporter.retry.maxAttempts ≠ 0
  names : config.exporterNames.Nodup
  routed : ∀ route ∈ config.routes, ∀ name ∈ route.exporters, name ∈ config.exporterNames

theorem valid_of_validate {config : PipelineConfig} (checked : config.validate = .ok ()) : config.Valid := by
  simp only [PipelineConfig.validate, seq_eq_ok, validateEach_eq_ok] at checked
  obtain ⟨-, -, -, -, -, -, -, -, retries, -, exporters, -, routes⟩ := checked
  refine ⟨?_, (uniqueNamesFrom_nodup exporters).1, ?_⟩
  · intro exporter member
    have checks := retries exporter member
    simp only [ExporterConfig.validateRetry, seq_eq_ok, refuseWhen_eq_ok] at checks
    simpa using checks.1
  · intro route member
    have checks := routes route member
    rw [RouteConfig.validate, seq_eq_ok, validateExporters_eq_ok] at checks
    exact checks.2

/-- In a valid configuration a route leads to exactly the exporters it names. -/
theorem namedExporters_of_known {config : PipelineConfig} {names : List String}
    (known : ∀ name ∈ names, name ∈ config.exporterNames) :
    ∃ exporters, config.namedExporters names = .ok exporters ∧
      exporters.map ExporterConfig.name = names ∧ ∀ exporter ∈ exporters, exporter ∈ config.exporters := by
  induction names with
  | nil => exact ⟨[], rfl, rfl, by simp⟩
  | cons name rest ih =>
    obtain ⟨exporters, found, listed, members⟩ := ih (fun other inside => known other (List.mem_cons_of_mem _ inside))
    obtain ⟨exporter, member, same⟩ := List.mem_map.mp (known name (by simp))
    cases first : config.exporters.find? (fun exporter => exporter.name == name) with
    | none =>
      have absent := List.find?_eq_none.mp first exporter member
      simp [same] at absent
    | some chosen =>
      have named : chosen.name = name := by simpa using List.find?_some first
      refine ⟨chosen :: exporters, ?_, by simp [named, listed], ?_⟩
      · simp only [PipelineConfig.namedExporters, first, found]
        rfl
      · intro other inside
        rcases List.mem_cons.mp inside with rfl | later
        · exact List.mem_of_find?_eq_some first
        · exact members other later

/-- A signal is routed: some route is for it. -/
def PipelineConfig.Routes (config : PipelineConfig) (signal : SignalKind) : Prop :=
  ∃ route ∈ config.routes, route.signal = signal

instance (config : PipelineConfig) (signal : SignalKind) : Decidable (config.Routes signal) :=
  inferInstanceAs (Decidable (∃ route ∈ config.routes, route.signal = signal))

/-- The router fails on a valid configuration only for a signal without a route. -/
theorem exportersFor_cases {config : PipelineConfig} (valid : config.Valid) (signal : SignalKind) :
    (config.Routes signal ∧ ∃ exporters, config.exportersFor signal = .ok exporters ∧
      ∀ exporter ∈ exporters, exporter ∈ config.exporters) ∨
    (¬ config.Routes signal ∧ config.exportersFor signal = .error (.missingRoute signal.asStr)) := by
  unfold PipelineConfig.exportersFor
  cases found : config.routes.find? (fun route => route.signal == signal) with
  | none =>
    refine Or.inr ⟨?_, rfl⟩
    rintro ⟨route, member, same⟩
    have absent := List.find?_eq_none.mp found route member
    simp [same] at absent
  | some route =>
    have member := List.mem_of_find?_eq_some found
    obtain ⟨exporters, named, -, members⟩ := namedExporters_of_known (valid.routed route member)
    exact Or.inl ⟨⟨route, member, by simpa using List.find?_some found⟩, exporters, named, members⟩

end TelemetryFabric.Core
