import TelemetryFabric.Otlp.MetricRecords
import TelemetryFabric.Otlp.SpanIds
import TelemetryFabric.Otlp.Traces

/-!
Spans and log records on their way through one agent after another. Each agent makes records of a
request, at its own time and for its own tenant, and sends them on. What an agent sends is such that the
next one keeps it.
-/

namespace TelemetryFabric.Otlp
open Library TelemetryFabric.Core

/-- An agent on the way: what its clock says at each record, and the tenant it receives for. -/
structure Relay where
  clock : Nat → BitVec 128
  tenantId : String

def Relay.traces (doubles : DoubleText) (relay : Relay) (request : ExportTraceServiceRequest) : ExportTraceServiceRequest :=
  batchToTraceRequest ⟨traceRequestToRecords doubles relay.clock relay.tenantId request⟩

def Relay.logs (doubles : DoubleText) (relay : Relay) (request : ExportLogsServiceRequest) : ExportLogsServiceRequest :=
  batchToLogsRequest ⟨logsRequestToRecords doubles relay.clock relay.tenantId request⟩

/-- From one agent to the next. -/
def relayed {α : Type} (send : Relay → α → α) (relays : List Relay) (request : α) : α :=
  relays.foldl (fun request relay => send relay request) request

theorem relayed_of_kept {α : Type} {send : Relay → α → α} {request : α} (kept : ∀ relay, send relay request = request)
    (relays : List Relay) : relayed send relays request = request := by
  unfold relayed
  induction relays with
  | nil => rfl
  | cons relay rest ih => rw [List.foldl_cons, kept relay, ih]

/-! ### Attributes -/

section Attributes

variable (doubles : DoubleText)

/-- An attribute that is kept as it is. -/
structure KeyValue.Settled (value : KeyValue) : Prop where
  visible : isBlank value.key = false
  text : rendered doubles value = value

theorem settled_rendered {value : KeyValue} (visible : isBlank value.key = false) : (rendered doubles value).Settled doubles := by
  constructor
  · exact visible
  · rfl

variable {doubles} {values : List KeyValue}

theorem nonBlank_of_settled (settled : ∀ value ∈ values, value.Settled doubles) : nonBlank values = values := by
  unfold nonBlank
  rw [List.filter_eq_self]
  intro value member
  simp [(settled value member).visible]

theorem map_rendered_of_settled (settled : ∀ value ∈ values, value.Settled doubles) :
    values.map (rendered doubles) = values := by
  conv_rhs => rw [← List.map_id values]
  apply List.map_congr_left
  intro value member
  exact (settled value member).text

theorem visible_of_startsWith {start text : String} (begins : startsWith text start = true) (visible : isBlank start = false) :
    isBlank text = false := by
  obtain ⟨rest, whole⟩ := List.isPrefixOf_iff_prefix.mp begins
  unfold isBlank at visible ⊢
  rw [← whole, List.all_append, visible, Bool.false_and]

theorem map_stamp {α β : Type} {read : TelemetryRecord → β} {result : α → β} (clock : Nat → BitVec 128) (entries : List α)
    (make : α → Unstamped) (same : ∀ entry ∈ entries, ∀ now, read (make entry now) = result entry) :
    (stamp clock (entries.map make)).map read = entries.map result := by
  unfold stamp
  induction entries generalizing clock with
  | nil => rfl
  | cons entry rest ih =>
    have later := ih (fun index => clock (index + 1)) fun other member => same other (List.mem_cons_of_mem _ member)
    rw [List.map_cons, List.mapIdx_cons, List.map_cons, List.map_cons, same entry List.mem_cons_self]
    exact congrArg _ later

theorem filter_stamp {α : Type} {test : TelemetryRecord → Bool} (clock : Nat → BitVec 128) (entries : List α)
    (make : α → Unstamped) (passes : ∀ entry ∈ entries, ∀ now, test (make entry now) = true) :
    (stamp clock (entries.map make)).filter test = stamp clock (entries.map make) := by
  rw [List.filter_eq_self]
  intro record member
  obtain ⟨made, listed, now, rfl⟩ := mem_stamp member
  obtain ⟨entry, inside, rfl⟩ := List.mem_map.mp listed
  exact passes entry inside now

end Attributes

/-! ### Spans -/

/-- The request of one batch with these spans. -/
def spansRequest (spans : List Span) : ExportTraceServiceRequest :=
  if spans.isEmpty then ⟨[]⟩ else ⟨[⟨some ⟨[]⟩, [⟨none, spans⟩]⟩]⟩

theorem entries_spansRequest (spans : List Span) :
    (spansRequest spans).entries = spans.map fun span => ⟨some ⟨[]⟩, none, span⟩ := by
  unfold spansRequest
  split_ifs with empty
  · rw [List.isEmpty_iff.mp empty]
    rfl
  · simp [ExportTraceServiceRequest.entries]

section Spans

variable (doubles : DoubleText)

/-- The span that is sent for an entry. -/
def SpanEntry.sent (entry : SpanEntry) : Span :=
  recordToSpan (spanToRecord doubles "" (resourceAttributes doubles entry.resource) (scopeName entry.scope) entry.span 0)

/-- Neither the time nor the tenant of the record is seen in the span. -/
theorem recordToSpan_spanToRecord (tenantId : String) (entry : SpanEntry) (now : BitVec 128) :
    recordToSpan (spanToRecord doubles tenantId (resourceAttributes doubles entry.resource) (scopeName entry.scope)
      entry.span now) = entry.sent doubles := by
  unfold SpanEntry.sent
  rw [spanToRecord_eq, spanToRecord_eq]
  unfold recordToSpan
  simp [findAttribute_eq, spanFields]

theorem traces_eq (relay : Relay) (request : ExportTraceServiceRequest) :
    relay.traces doubles request = spansRequest (request.entries.map (SpanEntry.sent doubles)) := by
  unfold Relay.traces
  have spans : (traceRequestToRecords doubles relay.clock relay.tenantId request).map recordToSpan =
      request.entries.map (SpanEntry.sent doubles) := by
    rw [traceRequestToRecords_eq]
    apply map_stamp
    intro entry _ now
    exact recordToSpan_spanToRecord doubles relay.tenantId entry now
  have all : (traceRequestToRecords doubles relay.clock relay.tenantId request).filter
      (fun record => record.signal == .trace) = traceRequestToRecords doubles relay.clock relay.tenantId request := by
    rw [traceRequestToRecords_eq]
    apply filter_stamp
    intro entry _ now
    rw [spanToRecord_eq]
    rfl
  rw [← spans]
  unfold batchToTraceRequest
  simp only [all]
  rfl

/-- A span that an agent has sent. -/
structure Span.Settled (span : Span) : Prop where
  traceId : ProperId span.traceId 16
  spanId : ProperId span.spanId 8
  parentSpanId : span.parentSpanId = [] ∨ ProperId span.parentSpanId 8
  attributes : ∀ value ∈ span.attributes, value.Settled doubles
  others : ∀ value ∈ span.attributes, startsWith value.key "otel." = false

theorem settled_sent (entry : SpanEntry) : (entry.sent doubles).Settled doubles := by
  obtain ⟨⟨traceId, spanId, parentSpanId⟩, -⟩ := span_ids_proper (spanToRecord doubles ""
    (resourceAttributes doubles entry.resource) (scopeName entry.scope) entry.span 0)
  have listed := recordToSpan_attributes doubles "" entry 0
  have each : ∀ value ∈ (entry.sent doubles).attributes,
      value.Settled doubles ∧ startsWith value.key "otel." = false := by
    intro value member
    rw [SpanEntry.sent, listed, List.mem_append] at member
    rcases member with resource | own
    · obtain ⟨received, -, rfl⟩ := List.mem_map.mp resource
      refine ⟨⟨visible_of_startsWith (startsWith_append "resource." received.key) (by decide), rfl⟩, ?_⟩
      exact not_otel_of_resource (startsWith_append "resource." received.key)
    · obtain ⟨received, kept, rfl⟩ := List.mem_map.mp own
      obtain ⟨inside, other⟩ := List.mem_filter.mp kept
      refine ⟨settled_rendered doubles (by simpa using (List.mem_filter.mp inside).2), ?_⟩
      have apart : startsWith received.key "otel." = false := by simpa using other
      exact apart
  exact ⟨traceId, spanId, parentSpanId, fun value member => (each value member).1, fun value member => (each value member).2⟩

theorem sent_of_settled {span : Span} (settled : span.Settled doubles) :
    SpanEntry.sent doubles ⟨some ⟨[]⟩, none, span⟩ = span := by
  obtain ⟨traceId, spanId, parentSpanId, attributes, others⟩ := settled
  have listed : (SpanEntry.sent doubles ⟨some ⟨[]⟩, none, span⟩).attributes = span.attributes := by
    rw [SpanEntry.sent, recordToSpan_attributes doubles "" ⟨some ⟨[]⟩, none, span⟩ 0]
    have own : (nonBlank span.attributes).filter (fun value => !startsWith value.key "otel.") = span.attributes := by
      rw [nonBlank_of_settled attributes, List.filter_eq_self]
      intro value member
      simp [others value member]
    show _ ++ ((nonBlank span.attributes).filter fun value => !startsWith value.key "otel.").map (rendered doubles) = _
    rw [own, map_rendered_of_settled attributes]
    rfl
  have shape := spanToRecord_eq doubles "" (resourceAttributes doubles (some ⟨[]⟩)) (scopeName none) span 0
  generalize made : spanToRecord doubles "" (resourceAttributes doubles (some ⟨[]⟩)) (scopeName none) span 0 = record at shape
  have field : ∀ key value, lookup (spanFields "" span) key = some value → findAttribute record key = some value := by
    intro key value found
    have start : lookup (spanFields (scopeName none) span) key = some value := found
    rw [shape, findAttribute_eq, lookup_append, start, Option.some_or]
  have name : (((findAttribute record "otel.span.name").filter fun name => !isBlank name).getD
      (fromUtf8Lossy record.body)) = span.name := by
    rw [field _ span.name (by simp [spanFields]), shape, fromUtf8Lossy_utf8]
    rw [Option.filter_some]
    split_ifs
    · rfl
    · rfl
  have trace := field "otel.trace_id" (hexEncode span.traceId) (by simp [spanFields])
  have own := field "otel.span_id" (hexEncode span.spanId) (by simp [spanFields])
  have parent : ((findAttribute record "otel.parent_span_id").bind (hexDecodeFixed · 8)).getD [] = span.parentSpanId := by
    rw [field "otel.parent_span_id" (hexEncode span.parentSpanId) (by simp [spanFields]), Option.bind_some]
    rcases parentSpanId with none | proper
    · rw [none]
      rfl
    · rw [hexDecodeFixed_proper proper]
      rfl
  have kind := field "otel.span.kind" (showI32 span.kind) (by simp [spanFields])
  have start := field "otel.start_unix_nano" (showU64 span.startTimeUnixNano) (by simp [spanFields])
  have finish := field "otel.end_unix_nano" (showU64 span.endTimeUnixNano) (by simp [spanFields])
  have sent : SpanEntry.sent doubles ⟨some ⟨[]⟩, none, span⟩ = recordToSpan record := congrArg recordToSpan made
  rw [sent] at listed ⊢
  have attributes : (record.attributes.filter fun entry => !startsWith entry.key "otel.").map (fun entry =>
      KeyValue.ofString entry.key entry.value) = span.attributes := listed
  unfold recordToSpan
  simp only [name, getD_of_stored traceId trace, getD_of_stored spanId own, parent, kind, start, finish, attributes,
    Option.bind_some, readI32_showI32, readU64_showU64, Option.getD_some]

/-- Spans go through any number of agents as through one, whichever it is. -/
theorem relayed_spans_settle (first other : Relay) (more : List Relay) (request : ExportTraceServiceRequest) :
    relayed (Relay.traces doubles) (first :: more) request = other.traces doubles request := by
  have settled : ∀ relay : Relay, relay.traces doubles (spansRequest (request.entries.map (SpanEntry.sent doubles))) =
      spansRequest (request.entries.map (SpanEntry.sent doubles)) := by
    intro relay
    rw [traces_eq, entries_spansRequest, List.map_map]
    congr 1
    conv_rhs => rw [← List.map_id (request.entries.map (SpanEntry.sent doubles))]
    apply List.map_congr_left
    intro span member
    obtain ⟨entry, -, rfl⟩ := List.mem_map.mp member
    exact sent_of_settled doubles (settled_sent doubles entry)
  calc relayed (Relay.traces doubles) (first :: more) request
      = relayed (Relay.traces doubles) more (first.traces doubles request) := by rw [relayed, List.foldl_cons, relayed]
    _ = relayed (Relay.traces doubles) more (spansRequest (request.entries.map (SpanEntry.sent doubles))) := by
      rw [traces_eq doubles first]
    _ = spansRequest (request.entries.map (SpanEntry.sent doubles)) := relayed_of_kept settled more
    _ = other.traces doubles request := (traces_eq doubles other request).symm

end Spans

/-! ### Log records -/

/-- The request of one batch with these log records. -/
def logsRequest (entries : List LogEntry) : ExportLogsServiceRequest :=
  ⟨entries.map fun entry => ⟨entry.resource, [⟨entry.scope, [entry.logRecord]⟩]⟩⟩

theorem entries_logsRequest (entries : List LogEntry) : (logsRequest entries).entries = entries := by
  unfold logsRequest ExportLogsServiceRequest.entries
  induction entries with
  | nil => rfl
  | cons entry rest ih =>
    rw [List.map_cons, List.flatMap_cons, ih]
    rfl

section LogRecords

variable (doubles : DoubleText)

/-- The log record that is sent for an entry. -/
def LogEntry.sent (entry : LogEntry) : LogEntry :=
  sentLog (logRecordToRecord doubles "" (resourceAttributes doubles entry.resource) (scopeName entry.scope) entry.logRecord 0)

/-- Neither the time nor the tenant of the record is seen in the log record. -/
theorem sentLog_logRecordToRecord (tenantId : String) (entry : LogEntry) (now : BitVec 128) :
    sentLog (logRecordToRecord doubles tenantId (resourceAttributes doubles entry.resource) (scopeName entry.scope)
      entry.logRecord now) = entry.sent doubles := by
  unfold LogEntry.sent
  rw [logRecordToRecord_eq, logRecordToRecord_eq]
  unfold sentLog recordToLogRecord
  simp [findAttribute_eq, logFields, recordToResourceAttributes, recordScope, recordToLogAttributes, ownAttributes]

theorem logs_eq (relay : Relay) (request : ExportLogsServiceRequest) :
    relay.logs doubles request = logsRequest (request.entries.map (LogEntry.sent doubles)) := by
  unfold Relay.logs
  have entries : (logsRequestToRecords doubles relay.clock relay.tenantId request).map sentLog =
      request.entries.map (LogEntry.sent doubles) := by
    rw [logsRequestToRecords_eq]
    apply map_stamp
    intro entry _ now
    exact sentLog_logRecordToRecord doubles relay.tenantId entry now
  have all : (logsRequestToRecords doubles relay.clock relay.tenantId request).filter
      (fun record => record.signal == .log) = logsRequestToRecords doubles relay.clock relay.tenantId request := by
    rw [logsRequestToRecords_eq]
    apply filter_stamp
    intro entry _ now
    rw [logRecordToRecord_eq]
    rfl
  rw [← entries]
  unfold batchToLogsRequest logsRequest
  simp only [all]
  rw [List.map_map]
  congr 1
  exact congrFun List.filterMap_eq_map _

/-- A log record that an agent has sent. -/
structure LogEntry.Settled (entry : LogEntry) : Prop where
  resource : ∃ values, entry.resource = some ⟨values⟩ ∧ ∀ value ∈ values, value.Settled doubles
  scope : ∀ scope ∈ entry.scope, isBlank scope.name = false
  traceId : validId entry.logRecord.traceId 16 = true
  spanId : validId entry.logRecord.spanId 8 = true
  attributes : ∀ value ∈ entry.logRecord.attributes, value.Settled doubles
  others : ∀ value ∈ entry.logRecord.attributes, startsWith value.key "otel." = false ∧ startsWith value.key "resource." = false

theorem validId_getD {stored : Option String} {len : Nat} : validId ((stored.bind (hexDecodeFixed · len)).getD []) len = true := by
  cases read : stored.bind (hexDecodeFixed · len) with
  | none => rfl
  | some id =>
    obtain ⟨value, -, decoded⟩ := Option.bind_eq_some_iff.mp read
    obtain ⟨size, nonzero⟩ := properId_of_hexDecodeFixed decoded
    simp [validId, size, nonzero]

/-- No key of the record is blank. -/
theorem visible_logRecordToRecord (entry : LogEntry) : ∀ field ∈ (logRecordToRecord doubles ""
    (resourceAttributes doubles entry.resource) (scopeName entry.scope) entry.logRecord 0).attributes,
      isBlank field.key = false := by
  intro field member
  rw [logRecordToRecord_eq, List.mem_append, List.mem_append, pushed_resource, pushed_own] at member
  rcases member with listed | resource | own
  · exact visible_of_startsWith (logFields_otel _ _ field listed) (by decide)
  · obtain ⟨value, -, rfl⟩ := List.mem_map.mp resource
    exact visible_of_startsWith (startsWith_append "resource." value.key) (by decide)
  · obtain ⟨value, kept, rfl⟩ := List.mem_map.mp own
    simpa using (List.mem_filter.mp kept).2

theorem settled_sentLog (entry : LogEntry) : (entry.sent doubles).Settled doubles := by
  have visible := visible_logRecordToRecord doubles entry
  unfold LogEntry.sent
  generalize logRecordToRecord doubles "" (resourceAttributes doubles entry.resource) (scopeName entry.scope)
    entry.logRecord 0 = record at visible
  have own : ∀ value ∈ ownAttributes record, value.Settled doubles ∧
      startsWith value.key "otel." = false ∧ startsWith value.key "resource." = false := by
    intro value member
    obtain ⟨field, kept, rfl⟩ := List.mem_map.mp member
    obtain ⟨inside, apart⟩ := List.mem_filter.mp kept
    refine ⟨⟨visible field inside, rfl⟩, ?_⟩
    have both : startsWith field.key "otel." = false ∧ startsWith field.key "resource." = false := by simpa using apart
    exact both
  refine ⟨⟨recordToResourceAttributes record, rfl, ?_⟩, ?_, validId_getD, validId_getD, ?_, ?_⟩
  · intro value member
    obtain ⟨field, -, made⟩ := List.mem_filterMap.mp member
    obtain ⟨key, kept, rfl⟩ := Option.map_eq_some_iff.mp made
    have shown : isBlank key = false := by simpa using (Option.filter_eq_some_iff.mp kept).2
    exact ⟨shown, rfl⟩
  · intro scope given
    obtain ⟨name, kept, rfl⟩ := Option.map_eq_some_iff.mp given
    have shown := (Option.filter_eq_some_iff.mp kept).2
    simpa using shown
  · exact fun value member => (own value member).1
  · exact fun value member => (own value member).2

/-- The resource of an entry comes back where no other attribute has its prefix. -/
theorem resource_of_settled {values : List KeyValue} (kept : ∀ value ∈ values, value.Settled doubles)
    {record : TelemetryRecord} {fields own : List Attribute}
    (listed : record.attributes = fields ++ (pushed (resourceAttributes doubles (some ⟨values⟩)) ++ own))
    (otel : ∀ entry ∈ fields, startsWith entry.key "otel." = true)
    (apart : ∀ entry ∈ own, startsWith entry.key "resource." = false) : recordToResourceAttributes record = values := by
  have nothing : ∀ entries : List Attribute, (∀ entry ∈ entries, startsWith entry.key "resource." = false) →
      entries.filterMap (fun entry => ((stripStart "resource." entry.key).filter fun key => !isBlank key).map fun key =>
        KeyValue.ofString key entry.value) = [] := by
    intro entries others
    rw [List.filterMap_eq_nil_iff]
    intro entry member
    rw [stripStart_of_not (others entry member)]
    rfl
  have first := nothing fields fun entry member => not_resource_of_otel (otel entry member)
  unfold recordToResourceAttributes
  rw [listed, List.filterMap_append, List.filterMap_append, first, nothing own apart, List.nil_append, List.append_nil,
    pushed_resource, Option.map_some, Option.getD_some, nonBlank_of_settled kept, List.filterMap_map]
  conv_rhs => rw [← List.filterMap_some (l := values)]
  apply List.filterMap_congr
  intro value member
  have visible := (kept value member).visible
  have text := (kept value member).text
  show ((stripStart "resource." ("resource." ++ value.key)).filter fun key => !isBlank key).map _ = some value
  rw [stripStart_resource, Option.filter_some, visible]
  exact congrArg some text

theorem recordScope_of_found {record : TelemetryRecord} {scope : Option InstrumentationScope} {log : LogRecord}
    (visible : ∀ given ∈ scope, isBlank given.name = false)
    (found : findAttribute record "otel.scope.name" = lookup (logFields (scopeName scope) log) "otel.scope.name") :
    recordScope record = scope := by
  unfold recordScope
  rw [found]
  cases scope with
  | none => by_cases named : log.eventName = "" <;> simp [logFields, scopeName, named]
  | some scope =>
    obtain ⟨name⟩ := scope
    have shown : isBlank name = false := visible ⟨name⟩ rfl
    have given : name ≠ "" := by
      intro empty
      rw [empty, isBlank_empty] at shown
      cases shown
    have stored : lookup (logFields name log) "otel.scope.name" = some name := by
      by_cases named : log.eventName = "" <;> simp [logFields, given, named]
    show ((lookup (logFields name log) "otel.scope.name").filter fun name => !isBlank name).map (fun name =>
      (⟨name⟩ : InstrumentationScope)) = some ⟨name⟩
    rw [stored, Option.filter_some, shown]
    rfl

theorem eventName_logFields (scope : String) (log : LogRecord) :
    lookup (logFields scope log) "otel.log.event_name" = if log.eventName = "" then none else some log.eventName := by
  by_cases named : log.eventName = ""
  · rw [if_pos named]
    by_cases unscoped : scope = "" <;> simp [logFields, named, unscoped]
  · rw [if_neg named]
    simp [logFields, named]

/-- An agent keeps what another one has sent, but for a blank body that the event name takes the place of. -/
theorem sent_of_settledLog {entry : LogEntry} (settled : entry.Settled doubles) :
    entry.sent doubles = { entry with logRecord :=
      { entry.logRecord with body := some (.stringValue (logBody doubles entry.logRecord)) } } := by
  obtain ⟨⟨values, given, kept⟩, scope, traceId, spanId, attributes, others⟩ := settled
  obtain ⟨resource, scope', log⟩ := entry
  simp only at given scope traceId spanId attributes others
  rw [given]
  have shape := logRecordToRecord_eq doubles "" (resourceAttributes doubles (some ⟨values⟩)) (scopeName scope') log 0
  have fields := logFields_otel (scopeName scope') log
  have own : nonBlank log.attributes = log.attributes := nonBlank_of_settled attributes
  have back : LogKept doubles ⟨some ⟨values⟩, scope', log⟩ _ := logKept_sentLog doubles "" ⟨some ⟨values⟩, scope', log⟩ 0 traceId spanId
  unfold LogEntry.sent
  simp only at back ⊢
  generalize logRecordToRecord doubles "" (resourceAttributes doubles (some ⟨values⟩)) (scopeName scope') log 0 =
    record at shape back ⊢
  have listed : record.attributes = logFields (scopeName scope') log ++ (pushed (resourceAttributes doubles (some ⟨values⟩)) ++
      pushed (attributesFromKeyValues doubles "" log.attributes)) := by rw [shape]
  have field : ∀ {key}, startsWith key "otel." = true → findAttribute record key = lookup (logFields (scopeName scope') log) key := by
    intro key otel
    rw [findAttribute_eq, listed, lookup_append, lookup_append]
    have inResource := lookup_resource doubles (some ⟨values⟩) otel
    have inOwn : lookup (pushed (attributesFromKeyValues doubles "" log.attributes)) key = none := by
      apply lookup_eq_none
      intro entry member same
      rw [pushed_own, own] at member
      obtain ⟨value, inside, rfl⟩ := List.mem_map.mp member
      have starts := (others value inside).1
      rw [show value.key = key from same, otel] at starts
      cases starts
    rw [inResource, inOwn, Option.or_none, Option.or_none]
  have resourceBack : recordToResourceAttributes record = values := by
    apply resource_of_settled doubles kept listed fields
    intro entry member
    rw [pushed_own, own] at member
    obtain ⟨value, inside, rfl⟩ := List.mem_map.mp member
    exact (others value inside).2
  have scopeBack : recordScope record = scope' := recordScope_of_found scope (field (by decide))
  have attributesBack : recordToLogAttributes record = log.attributes := by
    rw [recordToLogAttributes, ownAttributes_back doubles record _ (some ⟨values⟩) log.attributes listed fields, own]
    have all : log.attributes.filter (fun value => !startsWith value.key "otel." && !startsWith value.key "resource.") =
        log.attributes := by
      rw [List.filter_eq_self]
      intro value member
      simp [others value member]
    rw [all, map_rendered_of_settled attributes]
  have eventBack : (findAttribute record "otel.log.event_name").getD "" = log.eventName := by
    rw [field (by decide), eventName_logFields]
    split_ifs with unnamed
    · exact unnamed.symm
    · rfl
  have body : fromUtf8Lossy record.body = logBody doubles log := by rw [shape, fromUtf8Lossy_utf8]
  have logBack : recordToLogRecord record = { log with body := some (.stringValue (logBody doubles log)) } := by
    unfold recordToLogRecord
    rw [body, attributesBack, eventBack]
    congr 1
    · exact back.time
    · exact back.observedTime
    · exact back.severityNumber
    · exact back.severityText
    · exact back.flags
    · exact back.traceId
    · exact back.spanId
  rw [sentLog, resourceBack, scopeBack, logBack]

/-- A blank text of a log record is its event name. -/
theorem logBody_of_blank {log : LogRecord} (blank : isBlank (logBody doubles log) = true) : logBody doubles log = log.eventName := by
  unfold logBody at blank ⊢
  cases text : (log.body.map (anyValueToString doubles)).filter fun value => !isBlank value with
  | none => rfl
  | some value =>
    have visible : isBlank value = false := by simpa using (Option.filter_eq_some_iff.mp text).2
    rw [text, Option.getD_some, visible] at blank
    cases blank

theorem logBody_of_text {log : LogRecord} {text : String} (given : log.body = some (.stringValue text)) :
    logBody doubles log = if isBlank text then log.eventName else text := by
  unfold logBody
  rw [given, Option.map_some, anyValueToString, Option.filter_some]
  cases isBlank text <;> rfl

/-- What two agents send is kept by the third. -/
theorem sent_sent_sent (entry : LogEntry) :
    ((entry.sent doubles).sent doubles).sent doubles = (entry.sent doubles).sent doubles := by
  have second := sent_of_settledLog doubles (settled_sentLog doubles entry)
  have third := sent_of_settledLog doubles (settled_sentLog doubles (entry.sent doubles))
  rw [third]
  generalize entry.sent doubles = first at second
  have text : ((first.sent doubles).logRecord).body = some (.stringValue (logBody doubles first.logRecord)) := by rw [second]
  have name : ((first.sent doubles).logRecord).eventName = first.logRecord.eventName := by rw [second]
  have same : logBody doubles (first.sent doubles).logRecord = logBody doubles first.logRecord := by
    rw [logBody_of_text doubles text, name]
    split_ifs with blank
    · exact (logBody_of_blank doubles blank).symm
    · rfl
  rw [same, ← text]

/-- A log record with neither a text nor an event name, whose sender gives an attribute the key of the event name. -/
structure LogEntry.Borrows (entry : LogEntry) : Prop where
  blank : isBlank (logBody doubles entry.logRecord) = true
  unnamed : entry.logRecord.eventName = ""
  borrowed : (sender doubles entry.logRecord.attributes "otel.log.event_name").getD "" ≠ ""

theorem eventName_sent (entry : LogEntry) : (entry.sent doubles).logRecord.eventName =
    if entry.logRecord.eventName = "" then (sender doubles entry.logRecord.attributes "otel.log.event_name").getD ""
    else entry.logRecord.eventName := by
  have shape := logRecordToRecord_eq doubles "" (resourceAttributes doubles entry.resource) (scopeName entry.scope)
    entry.logRecord 0
  have inResource := lookup_resource doubles entry.resource (show startsWith "otel.log.event_name" "otel." = true by decide)
  show (findAttribute (logRecordToRecord doubles "" (resourceAttributes doubles entry.resource) (scopeName entry.scope)
    entry.logRecord 0) "otel.log.event_name").getD "" = _
  rw [shape, findAttribute_eq, lookup_append, lookup_append, inResource, Option.none_or, eventName_logFields]
  split_ifs
  · rfl
  · rfl

/-- One agent is enough unless a log record borrows its name. -/
theorem sent_sent_iff (entry : LogEntry) :
    (entry.sent doubles).sent doubles = entry.sent doubles ↔ ¬ entry.Borrows doubles := by
  have second := sent_of_settledLog doubles (settled_sentLog doubles entry)
  have text : (entry.sent doubles).logRecord.body = some (.stringValue (logBody doubles entry.logRecord)) := by
    show some (AnyValue.stringValue (fromUtf8Lossy _)) = _
    rw [logRecordToRecord_eq, fromUtf8Lossy_utf8]
  have name := eventName_sent doubles entry
  have changes : (entry.sent doubles).sent doubles = entry.sent doubles ↔
      logBody doubles (entry.sent doubles).logRecord = logBody doubles entry.logRecord := by
    rw [second]
    constructor
    · intro same
      have bodies := congrArg (fun entry : LogEntry => entry.logRecord.body) same
      rw [text] at bodies
      simpa using bodies
    · intro same
      rw [same, ← text]
  rw [changes, logBody_of_text doubles text, name]
  constructor
  · intro same borrows
    rw [if_pos borrows.blank, if_pos borrows.unnamed, logBody_of_blank doubles borrows.blank, borrows.unnamed] at same
    exact borrows.borrowed same
  · intro own
    by_cases blank : isBlank (logBody doubles entry.logRecord) = true
    · rw [if_pos blank, logBody_of_blank doubles blank]
      split_ifs with unnamed
      · by_contra other
        rw [unnamed] at other
        exact own ⟨blank, unnamed, other⟩
      · rfl
    · rw [if_neg blank]

/-- Log records go through any number of agents as through two, whichever they are, and as through one
unless one of them borrows its name. -/
theorem relayed_logs_settle (first second one other : Relay) (more : List Relay) (request : ExportLogsServiceRequest) :
    relayed (Relay.logs doubles) (first :: second :: more) request = other.logs doubles (one.logs doubles request) ∧
      (relayed (Relay.logs doubles) (first :: second :: more) request = one.logs doubles request ↔
        ∀ entry ∈ request.entries, ¬ entry.Borrows doubles) := by
  have twice : ∀ relay : Relay, relay.logs doubles (first.logs doubles request) =
      logsRequest (request.entries.map fun entry => (entry.sent doubles).sent doubles) := by
    intro relay
    rw [logs_eq, logs_eq, entries_logsRequest, List.map_map]
    rfl
  have settled : ∀ relay : Relay, relay.logs doubles (second.logs doubles (first.logs doubles request)) =
      second.logs doubles (first.logs doubles request) := by
    intro relay
    rw [twice second, logs_eq, entries_logsRequest, List.map_map]
    congr 1
    apply List.map_congr_left
    intro entry _
    exact sent_sent_sent doubles entry
  have whole : relayed (Relay.logs doubles) (first :: second :: more) request =
      second.logs doubles (first.logs doubles request) := by
    calc relayed (Relay.logs doubles) (first :: second :: more) request
        = relayed (Relay.logs doubles) more (second.logs doubles (first.logs doubles request)) := by
          rw [relayed, List.foldl_cons, List.foldl_cons, relayed]
      _ = second.logs doubles (first.logs doubles request) := relayed_of_kept settled more
  have same : one.logs doubles request = first.logs doubles request := by rw [logs_eq, logs_eq]
  rw [whole, same, twice second, twice other, logs_eq]
  refine ⟨rfl, ?_⟩
  constructor
  · intro equal entry member
    have entries := congrArg ExportLogsServiceRequest.entries equal
    rw [entries_logsRequest, entries_logsRequest] at entries
    exact (sent_sent_iff doubles entry).mp (List.map_inj_left.mp entries entry member)
  · intro own
    congr 1
    apply List.map_congr_left
    intro entry member
    exact (sent_sent_iff doubles entry).mpr (own entry member)

end LogRecords

end TelemetryFabric.Otlp
