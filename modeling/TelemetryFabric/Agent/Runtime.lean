import TelemetryFabric.Buffer.DiskQueue
import TelemetryFabric.Processors.Chain

/-!
The agent runtime: records are validated, encoded and queued by `ingest`; a flush reads a
batch, runs it through the processors, hands the rest to the exporters and commits. A
shared flush does this in two steps under the lock, with the export between them. What an
exporter is and what its `export` returns are left open: `E` stands for a boxed exporter,
`build` for its construction and `respond` for the outcome of each attempt.
-/

namespace TelemetryFabric.Agent
open Library TelemetryFabric.Core Buffer Processors

/-! ### Exporters -/

inductive ExporterError where
  | io (message : String)
  | grpc (message : String)
  | unsupportedExporter (name : String)
  | invalidEndpoint (endpoint : String)
  | tls (message : String)
  deriving DecidableEq, Repr

def ExporterError.display : ExporterError → String
  | .io message => "exporter I/O error: " ++ message
  | .grpc message => "exporter gRPC error: " ++ message
  | .unsupportedExporter name => "unsupported exporter: " ++ name
  | .invalidEndpoint endpoint => "invalid exporter endpoint: " ++ endpoint
  | .tls message => "exporter TLS error: " ++ message

structure ExportReport where
  records : Nat
  bytes : Nat
  deriving DecidableEq, Repr

abbrev ExporterMap (E : Type) := OrderedMap String E

variable {E : Type}

/-- The loop of `build_exporters`. -/
def buildExporters (build : ExporterConfig → Except ExporterError E) :
    List ExporterConfig → ExporterMap E → Except ExporterError (ExporterMap E)
  | [], exporters => .ok exporters
  | config :: rest, exporters =>
      match build config with
      | .error error => .error error
      | .ok exporter => buildExporters build rest (exporters.insert config.name exporter)

/-- How one attempt to export a batch ends within its timeout. -/
inductive Attempt where
  | delivered (report : ExportReport)
  | failed (error : ExporterError)
  | timedOut
  deriving DecidableEq, Repr

/-- The outcome of each attempt, by exporter, batch and attempt number. -/
abbrev Responses := String → RecordBatch → Nat → Attempt

/-- `export_with_retry`, with the number of attempts left behind this one. -/
def exportWithRetry (exporterName : String) (respond : Nat → Attempt) :
    Nat → Nat → Except DiskQueueError ExportReport
  | 0, attempt =>
      match respond attempt with
      | .delivered report => .ok report
      | .failed error => .error (.sink ("exporter " ++ exporterName ++ " failed after " ++
          toString attempt ++ " attempts: " ++ error.display))
      | .timedOut => .error (.sink ("exporter " ++ exporterName ++ " timed out after " ++
          toString attempt ++ " attempts"))
  | left + 1, attempt =>
      match respond attempt with
      | .delivered report => .ok report
      | _ => exportWithRetry exporterName respond left (attempt + 1)

structure FlushReport where
  drainedRecords : Nat
  exportedRecords : Nat
  droppedRecords : Nat
  exportedBytes : Nat
  deriving DecidableEq, Repr

def FlushReport.default : FlushReport := ⟨0, 0, 0, 0⟩

abbrev Groups := OrderedMap String (List TelemetryRecord)

def pushRecord (grouped : Groups) (record : TelemetryRecord) (destination : ExporterConfig) : Groups :=
  grouped.insert destination.name ((grouped.find? destination.name).getD [] ++ [record])

/-- The first loop of `export_records`: the records by the exporters they are routed to. -/
def groupRecords (config : PipelineConfig) : List TelemetryRecord → Groups → Except DiskQueueError Groups
  | [], grouped => .ok grouped
  | record :: rest, grouped =>
      match config.exportersFor record.signal with
      | .error error => .error (.sink error.display)
      | .ok destinations => groupRecords config rest (destinations.foldl (pushRecord · record) grouped)

def retryOf (config : PipelineConfig) (name : String) : ExporterRetryConfig :=
  ((config.exporters.find? (fun exporter => exporter.name == name)).map ExporterConfig.retry).getD .default

/-- The second loop of `export_records`, in the order of the exporter names. -/
def exportGroups (config : PipelineConfig) (exporters : ExporterMap E) (respond : Responses) :
    List (String × List TelemetryRecord) → FlushReport → Except DiskQueueError FlushReport
  | [], report => .ok report
  | (name, records) :: rest, report =>
      match exporters.find? name with
      | none => .error (.sink ("exporter not initialized: " ++ name))
      | some _ =>
          match exportWithRetry name (respond name ⟨records⟩)
              ((retryOf config name).maxAttempts.toNat - 1) 1 with
          | .error error => .error error
          | .ok exported => exportGroups config exporters respond rest { report with
              exportedRecords := report.exportedRecords + exported.records
              exportedBytes := report.exportedBytes + exported.bytes }

def exportRecords (config : PipelineConfig) (exporters : ExporterMap E) (respond : Responses)
    (records : List TelemetryRecord) : Except DiskQueueError FlushReport :=
  match groupRecords config records .empty with
  | .error error => .error error
  | .ok grouped => exportGroups config exporters respond grouped.entries .default

/-! ### State -/

/-- The counters the functions below keep. -/
structure RuntimeMetrics where
  ingestedRecordsTotal : Nat
  ingestRejectedRecordsTotal : Nat
  flushAttemptsTotal : Nat
  flushSuccessesTotal : Nat
  flushFailuresTotal : Nat
  drainedRecordsTotal : Nat
  exportedRecordsTotal : Nat
  droppedRecordsTotal : Nat
  exportedBytesTotal : Nat
  configReloadsTotal : Nat
  configReloadFailuresTotal : Nat
  deriving DecidableEq, Repr

def RuntimeMetrics.default : RuntimeMetrics := ⟨0, 0, 0, 0, 0, 0, 0, 0, 0, 0, 0⟩

structure AgentRuntime (E : Type) where
  config : PipelineConfig
  queue : DiskQueue
  processors : ProcessorChain
  exporters : ExporterMap E
  metrics : RuntimeMetrics
  exportsPaused : Bool
  configGeneration : UInt64
  flushInProgress : Bool

inductive RuntimeError where
  | queueFull (queuedBytes recordBytes maxQueueBytes : Nat)
  deriving DecidableEq, Repr

def RuntimeError.display : RuntimeError → String
  | .queueFull queuedBytes recordBytes maxQueueBytes =>
      "queue is full: queued_bytes=" ++ toString queuedBytes ++ " record_bytes=" ++
        toString recordBytes ++ " max_queue_bytes=" ++ toString maxQueueBytes

/-- The errors behind the boxed ones of `open`, `ingest` and `reload_config`. -/
inductive AgentError where
  | config (error : PipelineError)
  | exporter (error : ExporterError)
  | telemetry (error : TelemetryError)
  | runtime (error : RuntimeError)
  | queue (error : DiskQueueError)
  deriving DecidableEq, Repr

structure AgentSession (E : Type) where
  runtime : AgentRuntime E
  plan : List (Option Fault)

/-- Why a method stopped: it returned `Err`, it panicked, the process died, or it can only go
on once another task has. -/
inductive AgentHalt where
  | raised (error : AgentError)
  | panicked
  | crashed
  | unfinished
  deriving DecidableEq, Repr

abbrev AgentM (E : Type) := EStateM AgentHalt (AgentSession E)

def getRuntime : AgentM E (AgentRuntime E) := fun session => .ok session.runtime session

def modifyRuntime (change : AgentRuntime E → AgentRuntime E) : AgentM E Unit :=
  fun session => .ok () { session with runtime := change session.runtime }

def fail {α : Type} (error : AgentError) : AgentM E α := throw (.raised error)

def onQueue {α : Type} (action : QueueM α) : AgentM E α := fun session =>
  match action ⟨session.runtime.queue, session.plan⟩ with
  | .ok value done => .ok value ⟨{ session.runtime with queue := done.queue }, done.plan⟩
  | .error halt done =>
      let reason := match halt with
        | .raised error => .raised (.queue error)
        | .panicked => .panicked
        | .crashed => .crashed
        | .unfinished => .unfinished
      .error reason ⟨{ session.runtime with queue := done.queue }, done.plan⟩

def ofExcept {ε α : Type} (toError : ε → AgentError) : Except ε α → AgentM E α
  | .ok value => pure value
  | .error error => fail (toError error)

/-- Run a method and count its outcome. -/
def counting {α : Type} (action : AgentM E α) (success : α → AgentRuntime E → AgentRuntime E)
    (failure : AgentRuntime E → AgentRuntime E) : AgentM E α := fun session =>
  match action session with
  | .ok value done => .ok value { done with runtime := success value done.runtime }
  | .error (.raised error) done => .error (.raised error) { done with runtime := failure done.runtime }
  | .error halt done => .error halt done

/-- `AgentRuntime::open`, on the content of the queue directory. -/
def AgentRuntime.openDir (config : PipelineConfig) (dir : Directory) (options : DiskQueueOptions)
    (build : ExporterConfig → Except ExporterError E) : Except AgentError (AgentRuntime E) :=
  match config.validate with
  | .error error => .error (.config error)
  | .ok () =>
      match buildExporters build config.exporters .empty with
      | .error error => .error (.exporter error)
      | .ok exporters => .ok
          { config := config
            queue := .openDir dir options
            processors := .fromConfig config
            exporters := exporters
            metrics := .default
            exportsPaused := false
            configGeneration := 0
            flushInProgress := false }

/-! ### Ingest -/

def ingestInner (record : TelemetryRecord) : AgentM E Unit := do
  let runtime ← getRuntime
  ofExcept .telemetry (record.validate runtime.config.limits.maxRecordBytes.toNat)
  let encoded ← ofExcept .telemetry record.encode
  let recordBytes ← ofExcept .queue (storageBytesForPayload encoded.length)
  let queuedBytes := runtime.queue.queuedBytes
  let maxQueueBytes := runtime.config.limits.maxQueueBytes.toNat
  if saturatingAdd queuedBytes recordBytes > maxQueueBytes then
    fail (.runtime (.queueFull queuedBytes recordBytes maxQueueBytes))
  onQueue (enqueue encoded)

def AgentRuntime.countIngest (ingested : Bool) (runtime : AgentRuntime E) : AgentRuntime E :=
  { runtime with metrics :=
      if ingested then { runtime.metrics with
        ingestedRecordsTotal := runtime.metrics.ingestedRecordsTotal + 1 }
      else { runtime.metrics with
        ingestRejectedRecordsTotal := runtime.metrics.ingestRejectedRecordsTotal + 1 } }

def ingest (record : TelemetryRecord) : AgentM E Unit :=
  counting (ingestInner record) (fun _ => .countIngest true) (.countIngest false)

/-! ### Configuration -/

def pauseExports : AgentM E Unit := modifyRuntime fun runtime => { runtime with exportsPaused := true }

def resumeExports : AgentM E Unit := modifyRuntime fun runtime => { runtime with exportsPaused := false }

def reloadConfigInner (config : PipelineConfig) (build : ExporterConfig → Except ExporterError E) :
    AgentM E Unit := do
  ofExcept .config config.validate
  let exporters ← ofExcept .exporter (buildExporters build config.exporters .empty)
  modifyRuntime fun runtime => { runtime with
    config := config
    processors := .fromConfig config
    exporters := exporters
    configGeneration := runtime.configGeneration + 1 }

def AgentRuntime.countReload (reloaded : Bool) (runtime : AgentRuntime E) : AgentRuntime E :=
  { runtime with metrics :=
      if reloaded then { runtime.metrics with
        configReloadsTotal := runtime.metrics.configReloadsTotal + 1 }
      else { runtime.metrics with
        configReloadFailuresTotal := runtime.metrics.configReloadFailuresTotal + 1 } }

def reloadConfig (config : PipelineConfig) (build : ExporterConfig → Except ExporterError E) :
    AgentM E Unit :=
  counting (reloadConfigInner config build) (fun _ => .countReload true) (.countReload false)

/-! ### Flush -/

structure PreparedFlush (E : Type) where
  batch : PendingBatch
  report : FlushReport
  config : PipelineConfig
  exporters : ExporterMap E
  configGeneration : UInt64
  records : List TelemetryRecord

inductive PreparedFlushState (E : Type) where
  | empty (report : FlushReport)
  | ready (prepared : PreparedFlush E)

/-- The loop over a batch: decode each payload and run it through the processors. -/
def processPayloads (clock : Nat → Nat → Nat) :
    List Bytes → List TelemetryRecord → Nat → ProcessorChain →
      Except DiskQueueError (List TelemetryRecord × Nat) × ProcessorChain
  | [], records, dropped, chain => (.ok (records, dropped), chain)
  | payload :: rest, records, dropped, chain =>
      match TelemetryRecord.decode payload with
      | .error error => (.error (.sink error.display), chain)
      | .ok record =>
          match chain.process (clock 0) record with
          | (.error error, chain) => (.error (.sink error.display), chain)
          | (.ok (some record), chain) =>
              processPayloads (fun k => clock (k + 1)) rest (records ++ [record]) dropped chain
          | (.ok none, chain) =>
              processPayloads (fun k => clock (k + 1)) rest records (dropped + 1) chain

/-- What `prepare_flush_work` and `flush_inner` have in common: read a batch, commit it if
it is empty, and process its records otherwise. -/
def takeBatch (maxItems : Nat) (clock : Nat → Nat → Nat) :
    AgentM E (Option (PendingBatch × List TelemetryRecord) × FlushReport) := do
  let batch ← onQueue (readBatch maxItems)
  let report := { FlushReport.default with drainedRecords := batch.payloads.length }
  if batch.payloads.isEmpty then
    let _ ← onQueue (commitBatch batch)
    return (none, report)
  let (outcome, processors) := processPayloads clock batch.payloads [] 0 (← getRuntime).processors
  modifyRuntime fun runtime => { runtime with processors := processors }
  let (records, dropped) ← ofExcept .queue outcome
  return (some (batch, records), { report with droppedRecords := dropped })

def prepareFlushWork (maxItems : Nat) (clock : Nat → Nat → Nat) : AgentM E (PreparedFlushState E) := do
  match ← takeBatch maxItems clock with
  | (none, report) => return .empty report
  | (some (batch, records), report) =>
      let runtime ← getRuntime
      modifyRuntime fun runtime => { runtime with exporters := .empty }
      return .ready
        { batch := batch
          report := report
          config := runtime.config
          exporters := runtime.exporters
          configGeneration := runtime.configGeneration
          records := records }

namespace AgentRuntime

def recordFlushAttempt (runtime : AgentRuntime E) : AgentRuntime E :=
  { runtime with metrics := { runtime.metrics with
      flushAttemptsTotal := runtime.metrics.flushAttemptsTotal + 1 } }

def recordFlushSuccess (report : FlushReport) (runtime : AgentRuntime E) : AgentRuntime E :=
  { runtime with metrics := { runtime.metrics with
      flushSuccessesTotal := runtime.metrics.flushSuccessesTotal + 1
      drainedRecordsTotal := runtime.metrics.drainedRecordsTotal + report.drainedRecords
      exportedRecordsTotal := runtime.metrics.exportedRecordsTotal + report.exportedRecords
      droppedRecordsTotal := runtime.metrics.droppedRecordsTotal + report.droppedRecords
      exportedBytesTotal := runtime.metrics.exportedBytesTotal + report.exportedBytes } }

def recordFlushFailure (runtime : AgentRuntime E) : AgentRuntime E :=
  { runtime with metrics := { runtime.metrics with
      flushFailuresTotal := runtime.metrics.flushFailuresTotal + 1 } }

end AgentRuntime

/-- What one turn of the loop in `prepare_shared_flush` comes to: the flush has nothing to
do, has to wait for another one, or goes on to its export. -/
inductive Turn (E : Type) where
  | nothing
  | waiting
  | prepared (flush : PreparedFlush E)

/-- The flag or the counter `prepare_shared_flush` sets behind `prepare_flush_work`. -/
def PreparedFlushState.settle : PreparedFlushState E → AgentRuntime E → AgentRuntime E
  | .empty report, runtime => runtime.recordFlushSuccess report
  | .ready _, runtime => { runtime with flushInProgress := true }

/-- One turn of the loop in `prepare_shared_flush`, under the lock. -/
def prepareSharedFlush (maxItems : Nat) (forceUnpaused : Bool) (clock : Nat → Nat → Nat) :
    AgentM E (Turn E) := do
  let runtime ← getRuntime
  if runtime.exportsPaused && !forceUnpaused then return .nothing
  if runtime.flushInProgress then return .waiting
  modifyRuntime .recordFlushAttempt
  match ← counting (prepareFlushWork maxItems clock) PreparedFlushState.settle .recordFlushFailure with
  | .empty _ => return .nothing
  | .ready prepared => return .prepared prepared

def FlushReport.withExport (report exported : FlushReport) : FlushReport :=
  { report with
    exportedRecords := report.exportedRecords + exported.exportedRecords
    exportedBytes := report.exportedBytes + exported.exportedBytes }

/-- The rest of `flush_shared_inner`, under the lock again. -/
def completeFlush (prepared : PreparedFlush E) (exportResult : Except DiskQueueError FlushReport) :
    AgentM E FlushReport := do
  modifyRuntime fun runtime =>
    if runtime.configGeneration = prepared.configGeneration then
      { runtime with exporters := prepared.exporters }
    else runtime
  modifyRuntime fun runtime => { runtime with flushInProgress := false }
  let finish : AgentM E FlushReport :=
    match exportResult with
    | .ok exported => do
        let _ ← onQueue (commitBatch prepared.batch)
        return prepared.report.withExport exported
    | .error error => fail (.queue error)
  counting finish AgentRuntime.recordFlushSuccess .recordFlushFailure

/-- `flush_shared_inner` while no other task takes the lock. -/
def flushShared (maxItems : Nat) (forceUnpaused : Bool) (clock : Nat → Nat → Nat) (respond : Responses) :
    AgentM E FlushReport := do
  match ← prepareSharedFlush maxItems forceUnpaused clock with
  | .nothing => return .default
  | .waiting => throw .unfinished
  | .prepared flush =>
      completeFlush flush (exportRecords flush.config flush.exporters respond flush.records)

def flushInner (maxItems : Nat) (clock : Nat → Nat → Nat) (respond : Responses) : AgentM E FlushReport := do
  match ← takeBatch maxItems clock with
  | (none, report) => return report
  | (some (batch, records), report) =>
      let runtime ← getRuntime
      let exported ← ofExcept .queue (exportRecords runtime.config runtime.exporters respond records)
      let _ ← onQueue (commitBatch batch)
      return report.withExport exported

def flush (maxItems : Nat) (clock : Nat → Nat → Nat) (respond : Responses) : AgentM E FlushReport := do
  if (← getRuntime).exportsPaused then return .default
  modifyRuntime .recordFlushAttempt
  counting (flushInner maxItems clock respond) AgentRuntime.recordFlushSuccess .recordFlushFailure

end TelemetryFabric.Agent
