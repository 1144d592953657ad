import TelemetryFabric.Otlp.Attributes

/-!
Logs through the agent: what an exporter sends of the log records of a request. No attribute
of the sender comes before a field of the message, so the first match for a key that is
always there is the received field.
-/

namespace TelemetryFabric.Otlp
open Library TelemetryFabric.Core

/-- A log record with the resource and the scope it is listed under. -/
structure LogEntry where
  resource : Option Resource
  scope : Option InstrumentationScope
  logRecord : LogRecord

/-- The log records of a request, in order. -/
def ExportLogsServiceRequest.entries (request : ExportLogsServiceRequest) : List LogEntry :=
  request.resourceLogs.flatMap fun resourceLogs =>
    resourceLogs.scopeLogs.flatMap fun scopeLogs =>
      scopeLogs.logRecords.map fun logRecord => ⟨resourceLogs.resource, scopeLogs.scope, logRecord⟩

/-- An id of the given length, or none at all. -/
def validId (id : Bytes) (len : Nat) : Bool := id.isEmpty || (id.length == len && !id.all (· == 0))

/-- The log record is sent on as it was received. -/
structure LogKept (doubles : DoubleText) (received sent : LogEntry) : Prop where
  time : sent.logRecord.timeUnixNano = received.logRecord.timeUnixNano
  observedTime : sent.logRecord.observedTimeUnixNano = received.logRecord.observedTimeUnixNano
  severityNumber : sent.logRecord.severityNumber = received.logRecord.severityNumber
  severityText : sent.logRecord.severityText = received.logRecord.severityText
  flags : sent.logRecord.flags = received.logRecord.flags
  traceId : sent.logRecord.traceId = received.logRecord.traceId
  spanId : sent.logRecord.spanId = received.logRecord.spanId
  eventName : received.logRecord.eventName ≠ "" → sent.logRecord.eventName = received.logRecord.eventName
  scope : isBlank (scopeName received.scope) = false → scopeName sent.scope = scopeName received.scope
  body : ∀ text, received.logRecord.body = some (.stringValue text) → isBlank text = false →
    sent.logRecord.body = some (.stringValue text)
  attributes : sent.logRecord.attributes = ((nonBlank received.logRecord.attributes).filter fun value =>
    !startsWith value.key "otel." && !startsWith value.key "resource.").map (rendered doubles)
  resource : ∃ more, (sent.resource.map Resource.attributes).getD [] =
    (nonBlank ((received.resource.map Resource.attributes).getD [])).map (rendered doubles) ++ more

/-- The fields of a log record, in the order they are pushed. -/
def logFields (scopeName : String) (logRecord : LogRecord) : List Attribute :=
  [⟨"otel.signal", "log"⟩, ⟨"otel.log.time_unix_nano", showU64 logRecord.timeUnixNano⟩,
    ⟨"otel.log.observed_time_unix_nano", showU64 logRecord.observedTimeUnixNano⟩,
    ⟨"otel.log.severity_number", showI32 logRecord.severityNumber⟩,
    ⟨"otel.log.severity_text", logRecord.severityText⟩, ⟨"otel.trace_id", hexEncode logRecord.traceId⟩,
    ⟨"otel.span_id", hexEncode logRecord.spanId⟩, ⟨"otel.log.flags", showU32 logRecord.flags⟩] ++
    ((if logRecord.eventName != "" then [⟨"otel.log.event_name", logRecord.eventName⟩] else []) ++
      if scopeName != "" then [⟨"otel.scope.name", scopeName⟩] else [])

theorem logRecordToRecord_eq (doubles : DoubleText) (tenantId : String) (resource : List (String × String))
    (scopeName : String) (logRecord : LogRecord) (now : BitVec 128) :
    logRecordToRecord doubles tenantId resource scopeName logRecord now =
      ⟨tenantId, .log, now, logFields scopeName logRecord ++ (pushed resource ++
        pushed (attributesFromKeyValues doubles "" logRecord.attributes)), utf8 (logBody doubles logRecord)⟩ := by
  simp only [logRecordToRecord, pushAll_eq, pushWhen_eq, TelemetryRecord.withAttribute, TelemetryRecord.new,
    logFields, List.append_assoc, List.cons_append, List.nil_append]

theorem logFields_otel (scopeName : String) (logRecord : LogRecord) :
    ∀ entry ∈ logFields scopeName logRecord, startsWith entry.key "otel." = true := by
  simp only [logFields, List.forall_mem_append, List.forall_mem_cons]
  refine ⟨⟨rfl, rfl, rfl, rfl, rfl, rfl, rfl, rfl, fun _ none => (List.not_mem_nil none).elim⟩, ?_, ?_⟩
  · split_ifs <;> simp
    rfl
  · split_ifs <;> simp
    rfl

/-- An id is read back from its hexadecimal digits, and none from none. -/
theorem hexDecodeFixed_validId {id : Bytes} {len : Nat} (positive : 0 < len) (valid : validId id len = true) :
    (hexDecodeFixed (hexEncode id) len).getD [] = id := by
  cases id with
  | nil =>
    have other : ([] : Bytes).length ≠ len := positive.ne
    rw [hexDecodeFixed_of_length other]
    rfl
  | cons byte rest =>
    simp only [validId, List.isEmpty_cons, Bool.false_or, Bool.and_eq_true, beq_iff_eq,
      Bool.not_eq_eq_eq_not, Bool.not_true] at valid
    rw [hexDecodeFixed_hexEncode valid.1 valid.2]
    rfl

/-- The log record an exporter sends for a record. -/
def sentLog (record : TelemetryRecord) : LogEntry :=
  ⟨some ⟨recordToResourceAttributes record⟩, recordScope record, recordToLogRecord record⟩

theorem isBlank_empty : isBlank "" = true := by decide

/-- One log record, through its telemetry record. -/
theorem logKept_sentLog (doubles : DoubleText) (tenantId : String) (entry : LogEntry) (now : BitVec 128)
    (trace : validId entry.logRecord.traceId 16 = true) (span : validId entry.logRecord.spanId 8 = true) :
    LogKept doubles entry (sentLog (logRecordToRecord doubles tenantId (resourceAttributes doubles entry.resource)
      (scopeName entry.scope) entry.logRecord now)) := by
  obtain ⟨resource, scope, log⟩ := entry
  have shape := logRecordToRecord_eq doubles tenantId (resourceAttributes doubles resource) (scopeName scope) log now
  have otel := logFields_otel (scopeName scope) log
  generalize logRecordToRecord doubles tenantId (resourceAttributes doubles resource) (scopeName scope) log now =
    record at shape
  have listed : record.attributes = logFields (scopeName scope) log ++ (pushed (resourceAttributes doubles resource) ++
      pushed (attributesFromKeyValues doubles "" log.attributes)) := by rw [shape]
  -- a field that is always pushed is found before anything of the sender
  have field : ∀ key value, lookup (logFields (scopeName scope) log) key = some value →
      findAttribute record key = some value := by
    intro key value found
    rw [findAttribute_eq, listed, lookup_append, found, Option.some_or]
  refine ⟨?_, ?_, ?_, ?_, ?_, ?_, ?_, ?_, ?_, ?_, ?_, ?_⟩
  · change ((findAttribute record "otel.log.time_unix_nano").bind readU64).getD _ = log.timeUnixNano
    rw [field _ (showU64 log.timeUnixNano) (by simp [logFields])]
    simp
  · change ((findAttribute record "otel.log.observed_time_unix_nano").bind readU64).getD _ = _
    rw [field _ (showU64 log.observedTimeUnixNano) (by simp [logFields])]
    simp
  · change ((findAttribute record "otel.log.severity_number").bind readI32).getD 0 = log.severityNumber
    rw [field _ (showI32 log.severityNumber) (by simp [logFields])]
    simp
  · change (findAttribute record "otel.log.severity_text").getD "" = log.severityText
    rw [field _ log.severityText (by simp [logFields])]
    simp
  · change ((findAttribute record "otel.log.flags").bind readU32).getD 0 = log.flags
    rw [field _ (showU32 log.flags) (by simp [logFields])]
    simp
  · change ((findAttribute record "otel.trace_id").bind (hexDecodeFixed · 16)).getD [] = log.traceId
    rw [field _ (hexEncode log.traceId) (by simp [logFields])]
    exact hexDecodeFixed_validId (by decide) trace
  · change ((findAttribute record "otel.span_id").bind (hexDecodeFixed · 8)).getD [] = log.spanId
    rw [field _ (hexEncode log.spanId) (by simp [logFields])]
    exact hexDecodeFixed_validId (by decide) span
  · intro named
    change (findAttribute record "otel.log.event_name").getD "" = log.eventName
    rw [field _ log.eventName (by simp [logFields, show log.eventName ≠ "" from named])]
    rfl
  · intro visible
    have some : scopeName scope ≠ "" := by
      intro empty
      simp [empty, isBlank_empty] at visible
    change scopeName (((findAttribute record "otel.scope.name").filter fun name => !isBlank name).map fun name =>
      ⟨name⟩) = scopeName scope
    rw [field _ (scopeName scope) (by
      by_cases named : log.eventName = "" <;> simp [logFields, some, named])]
    simp only [show isBlank (scopeName scope) = false from visible, Option.filter_some, Bool.not_false, if_true,
      Option.map_some]
    rfl
  · intro text sent visible
    change Option.some (AnyValue.stringValue (fromUtf8Lossy record.body)) = _
    have body : logBody doubles log = text := by
      have content : log.body = Option.some (.stringValue text) := sent
      simp only [logBody, content, Option.map_some, anyValueToString, Option.filter_some, visible, Bool.not_false,
        if_true, Option.getD_some]
    rw [shape, fromUtf8Lossy_utf8, body]
  · exact ownAttributes_back doubles record _ resource log.attributes listed otel
  · exact resourceAttributes_back doubles record _ resource _ listed otel

theorem entries_batchToLogsRequest {records : List TelemetryRecord}
    (logs : ∀ record ∈ records, record.signal = .log) :
    (batchToLogsRequest ⟨records⟩).entries = records.map sentLog := by
  have all : records.filter (fun record => record.signal == .log) = records := by
    rw [List.filter_eq_self]
    intro record member
    simp [logs record member]
  simp only [ExportLogsServiceRequest.entries, batchToLogsRequest, all]
  clear all logs
  induction records with
  | nil => rfl
  | cons record rest step => simpa [recordToResourceLog, sentLog] using step

theorem logsRequestToRecords_eq (doubles : DoubleText) (clock : Nat → BitVec 128) (tenantId : String)
    (request : ExportLogsServiceRequest) :
    logsRequestToRecords doubles clock tenantId request =
      stamp clock (request.entries.map fun entry => logRecordToRecord doubles tenantId
        (resourceAttributes doubles entry.resource) (scopeName entry.scope) entry.logRecord) := by
  simp only [logsRequestToRecords, ExportLogsServiceRequest.entries, List.map_flatMap, List.map_map]
  rfl

/-- What a request brings in is sent on, entry by entry, whatever the clock said. -/
theorem logs_forwarded (doubles : DoubleText) (clock : Nat → BitVec 128) (tenantId : String)
    (request : ExportLogsServiceRequest)
    (ids : ∀ entry ∈ request.entries,
      validId entry.logRecord.traceId 16 = true ∧ validId entry.logRecord.spanId 8 = true) :
    List.Forall₂ (LogKept doubles) request.entries
      (batchToLogsRequest ⟨logsRequestToRecords doubles clock tenantId request⟩).entries := by
  have logs : ∀ record ∈ logsRequestToRecords doubles clock tenantId request, record.signal = .log := by
    intro record member
    rw [logsRequestToRecords_eq] at member
    obtain ⟨make, listed, now, rfl⟩ := mem_stamp member
    obtain ⟨entry, -, rfl⟩ := List.mem_map.mp listed
    rw [logRecordToRecord_eq]
  rw [entries_batchToLogsRequest logs, logsRequestToRecords_eq, List.forall₂_map_right_iff]
  apply forall₂_stamp
  intro entry member now
  exact logKept_sentLog doubles tenantId entry now (ids entry member).1 (ids entry member).2

/-- A request of one record: with both ids, and a key of the sender's that imitates a field. -/
def loginRequest : ExportLogsServiceRequest :=
  ⟨[⟨some ⟨[⟨"service.name", some (.stringValue "auth")⟩]⟩,
    [⟨some ⟨"audit"⟩, [⟨7, 8, 9, "INFO", some (.stringValue "login"), [⟨"otel.log.flags", some (.intValue 5)⟩],
      1, List.replicate 16 1, List.replicate 8 2, "login"⟩]⟩]⟩]⟩

theorem logs_forwarded_login :
    List.Forall₂ (LogKept DoubleText.byBits) loginRequest.entries
      (batchToLogsRequest ⟨logsRequestToRecords DoubleText.byBits (fun _ => 0) "acme" loginRequest⟩).entries :=
  logs_forwarded DoubleText.byBits (fun _ => 0) "acme" loginRequest (by decide)

end TelemetryFabric.Otlp
