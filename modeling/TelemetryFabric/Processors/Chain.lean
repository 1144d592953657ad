import Mathlib.Data.String.Basic
import TelemetryFabric.Core.Config
import TelemetryFabric.Library.OrderedMap

/-!
The processor chain. A memory limiter and a redactor decide on each record by itself; a
tenant rate limiter keeps a window of admitted bytes for each tenant. Every processor sees
its own reading of the clock, in nanoseconds.
-/

namespace TelemetryFabric.Processors
open Library TelemetryFabric.Core

inductive ProcessingError where
  | invalidProcessor (message : String)
  deriving DecidableEq, Repr

def ProcessingError.display : ProcessingError → String
  | .invalidProcessor message => "invalid processor: " ++ message

inductive ProcessDecision where
  | emit (record : TelemetryRecord)
  | drop (reason : String)
  deriving DecidableEq

def estimateRecordBytes (record : TelemetryRecord) : Nat :=
  (utf8 record.tenantId).length + record.body.length +
    (record.attributes.map fun entry => (utf8 entry.key).length + (utf8 entry.value).length).sum + 32

/-! ### Tenant rate limit -/

structure TenantRateWindow where
  startedAt : Nat
  usedBytes : Nat
  deriving DecidableEq, Repr

structure TenantRateLimitProcessor where
  name : String
  maxBytesPerSecond : UInt64
  windows : OrderedMap String TenantRateWindow
  deriving DecidableEq

/-- One second, in the clock's unit. -/
def rateWindow : Nat := 1000000000

namespace TenantRateLimitProcessor

def new (name : String) (maxBytesPerSecond : UInt64) : TenantRateLimitProcessor :=
  ⟨name, maxBytesPerSecond, .empty⟩

/-- The tenant's window once an expired one has been reset and a missing one inserted. -/
def window (limiter : TenantRateLimitProcessor) (tenantId : String) (now : Nat) : TenantRateWindow :=
  match limiter.windows.find? tenantId with
  | none => ⟨now, 0⟩
  | some window => if now - window.startedAt ≥ rateWindow then ⟨now, 0⟩ else window

def setWindow (limiter : TenantRateLimitProcessor) (tenantId : String) (window : TenantRateWindow) :
    TenantRateLimitProcessor :=
  { limiter with windows := limiter.windows.insert tenantId window }

def processAt (limiter : TenantRateLimitProcessor) (record : TelemetryRecord) (now : Nat) :
    Except ProcessingError ProcessDecision × TenantRateLimitProcessor :=
  let estimatedBytes := estimateRecordBytes record
  let window := limiter.window record.tenantId now
  let max := limiter.maxBytesPerSecond.toNat
  if estimatedBytes > max then
    (.ok (.drop ("estimated record size " ++ toString estimatedBytes ++ " exceeds tenant rate limit " ++
      toString max ++ " bytes/s")), limiter.setWindow record.tenantId window)
  else if saturatingAdd window.usedBytes estimatedBytes > max then
    (.ok (.drop ("tenant rate limit exceeded: used_bytes=" ++ toString window.usedBytes ++
      " record_bytes=" ++ toString estimatedBytes ++ " max_bytes_per_second=" ++ toString max)),
      limiter.setWindow record.tenantId window)
  else
    (.ok (.emit record), limiter.setWindow record.tenantId
      { window with usedBytes := min max (saturatingAdd window.usedBytes estimatedBytes) })

end TenantRateLimitProcessor

/-! ### Memory limiter -/

structure MemoryLimiterProcessor where
  name : String
  maxRecordBytes : Nat
  deriving DecidableEq, Repr

def MemoryLimiterProcessor.process (limiter : MemoryLimiterProcessor) (record : TelemetryRecord) :
    Except ProcessingError ProcessDecision :=
  let estimated := estimateRecordBytes record
  if estimated > limiter.maxRecordBytes then
    .ok (.drop ("estimated record size " ++ toString estimated ++ " exceeds limit " ++
      toString limiter.maxRecordBytes))
  else .ok (.emit record)

/-! ### Redaction -/

def toAsciiLowercase (text : String) : String := String.ofList (text.toList.map Char.toLower)

def endsWith (text suffix : String) : Bool := suffix.toList.isSuffixOf text.toList

structure RedactProcessor where
  name : String
  sensitiveKeys : List String
  deriving DecidableEq, Repr

namespace RedactProcessor

def new (name : String) (sensitiveKeys : List String) : RedactProcessor :=
  ⟨name, sensitiveKeys.map toAsciiLowercase⟩

def redact (processor : RedactProcessor) (entry : Attribute) : Attribute :=
  let key := toAsciiLowercase entry.key
  if processor.sensitiveKeys.any (fun sensitive => key == sensitive || endsWith key sensitive) then
    { entry with value := "[REDACTED]" }
  else entry

def process (processor : RedactProcessor) (record : TelemetryRecord) :
    Except ProcessingError ProcessDecision :=
  .ok (.emit { record with attributes := record.attributes.map processor.redact })

end RedactProcessor

/-! ### The chain -/

inductive RecordProcessor where
  | memoryLimiter (processor : MemoryLimiterProcessor)
  | redact (processor : RedactProcessor)
  | tenantRateLimit (processor : TenantRateLimitProcessor)
  deriving DecidableEq

/-- One processor, reading the clock at `now`. -/
def RecordProcessor.process (now : Nat) (record : TelemetryRecord) :
    RecordProcessor → Except ProcessingError ProcessDecision × RecordProcessor
  | .memoryLimiter processor => (processor.process record, .memoryLimiter processor)
  | .redact processor => (processor.process record, .redact processor)
  | .tenantRateLimit processor =>
      let (decision, charged) := processor.processAt record now
      (decision, .tenantRateLimit charged)

structure ProcessorChain where
  processors : List RecordProcessor
  droppedRecords : Nat
  deriving DecidableEq

def redactedKeys : List String :=
  ["authorization", "http.request.header.authorization", "db.statement", "password", "secret", "token"]

/-- The processor `from_config` pushes for an enabled entry of the configuration. -/
def ofKind (limits : TenantLimits) (processor : ProcessorConfig) : Option RecordProcessor :=
  match processor.kind with
  | .memoryLimiter => some (.memoryLimiter ⟨processor.name, limits.maxRecordBytes.toNat⟩)
  | .redact => some (.redact (.new processor.name redactedKeys))
  | .tenantRateLimit => some (.tenantRateLimit (.new processor.name limits.maxIngestBytesPerSecond))
  | .batch => none

/-- The loop of `process`: the decision of the first processor that drops the record, or
of the last one. `clock i` is the time the `i`-th processor reads. -/
def processEach (clock : Nat → Nat) :
    List RecordProcessor → TelemetryRecord →
      Except ProcessingError ProcessDecision × List RecordProcessor
  | [], record => (.ok (.emit record), [])
  | processor :: rest, record =>
      match processor.process (clock 0) record with
      | (.ok (.emit processed), processor) =>
          let (decision, rest) := processEach (fun i => clock (i + 1)) rest processed
          (decision, processor :: rest)
      | (decision, processor) => (decision, processor :: rest)

namespace ProcessorChain

def fromConfig (config : PipelineConfig) : ProcessorChain :=
  ⟨(config.processors.filter ProcessorConfig.enabled).filterMap (ofKind config.limits), 0⟩

def process (chain : ProcessorChain) (clock : Nat → Nat) (record : TelemetryRecord) :
    Except ProcessingError (Option TelemetryRecord) × ProcessorChain :=
  match processEach clock chain.processors record with
  | (.error error, processors) => (.error error, { chain with processors })
  | (.ok (.emit processed), processors) => (.ok (some processed), { chain with processors })
  | (.ok (.drop _), processors) =>
      (.ok none, { processors, droppedRecords := chain.droppedRecords + 1 })

end ProcessorChain

/-! ### No processor fails -/

theorem RecordProcessor.process_ok (processor : RecordProcessor) (now : Nat) (record : TelemetryRecord) :
    ∃ decision next, processor.process now record = (.ok decision, next) := by
  cases processor with
  | memoryLimiter limiter =>
    simp only [RecordProcessor.process, MemoryLimiterProcessor.process]
    split_ifs <;> exact ⟨_, _, rfl⟩
  | redact redactor => exact ⟨_, _, rfl⟩
  | tenantRateLimit limiter =>
    simp only [RecordProcessor.process, TenantRateLimitProcessor.processAt]
    split_ifs <;> exact ⟨_, _, rfl⟩

theorem processEach_cons_emit {clock : Nat → Nat} {processor next : RecordProcessor}
    {rest : List RecordProcessor} {record processed : TelemetryRecord}
    (emits : processor.process (clock 0) record = (.ok (.emit processed), next)) :
    processEach clock (processor :: rest) record =
      ((processEach (fun i => clock (i + 1)) rest processed).1,
        next :: (processEach (fun i => clock (i + 1)) rest processed).2) := by
  rw [processEach, emits]

theorem processEach_cons_drop {clock : Nat → Nat} {processor next : RecordProcessor}
    {rest : List RecordProcessor} {record : TelemetryRecord} {reason : String}
    (drops : processor.process (clock 0) record = (.ok (.drop reason), next)) :
    processEach clock (processor :: rest) record = (.ok (.drop reason), next :: rest) := by
  rw [processEach, drops]

theorem processEach_ok (clock : Nat → Nat) (processors : List RecordProcessor) (record : TelemetryRecord) :
    ∃ decision next, processEach clock processors record = (.ok decision, next) := by
  induction processors generalizing clock record with
  | nil => exact ⟨_, _, rfl⟩
  | cons processor rest ih =>
    obtain ⟨decision, next, done⟩ := processor.process_ok (clock 0) record
    cases decision with
    | emit processed =>
      obtain ⟨decision, later, after⟩ := ih (fun i => clock (i + 1)) processed
      rw [processEach_cons_emit done, after]
      exact ⟨decision, next :: later, rfl⟩
    | drop reason =>
      rw [processEach_cons_drop done]
      exact ⟨_, _, rfl⟩

namespace ProcessorChain

theorem process_ok (chain : ProcessorChain) (clock : Nat → Nat) (record : TelemetryRecord) :
    ∃ decision next, chain.process clock record = (.ok decision, next) := by
  obtain ⟨decision, processors, done⟩ := processEach_ok clock chain.processors record
  unfold process
  rw [done]
  cases decision <;> exact ⟨_, _, rfl⟩

/-- What the chain makes of a batch, record by record, and the chain it leaves behind.
`clock k i` is the time the `i`-th processor reads when it sees the `k`-th record. -/
def pass (clock : Nat → Nat → Nat) :
    ProcessorChain → List TelemetryRecord → List (Option TelemetryRecord) × ProcessorChain
  | chain, [] => ([], chain)
  | chain, record :: rest =>
      let (outcome, chain) := chain.process (clock 0) record
      let (decisions, chain) := pass (fun k => clock (k + 1)) chain rest
      (outcome.toOption.join :: decisions, chain)

theorem length_pass (clock : Nat → Nat → Nat) (chain : ProcessorChain) (records : List TelemetryRecord) :
    (chain.pass clock records).1.length = records.length := by
  induction records generalizing clock chain with
  | nil => rfl
  | cons record rest ih =>
    simp only [pass, List.length_cons]
    rw [ih]

end ProcessorChain

end TelemetryFabric.Processors
