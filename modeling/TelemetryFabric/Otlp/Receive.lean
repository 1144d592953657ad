import TelemetryFabric.Core.Telemetry
import TelemetryFabric.Otlp.Proto

/-!
From OTLP requests to telemetry records. Everything a record has to carry is written to its
list of attributes as text: first the fields of the message under keys that begin with
`otel.`, then the attributes of the resource behind `resource.`, then those of the sender as
they are; the fields of a metric data point come last. Each record is stamped with the time it
is made at.
-/

namespace TelemetryFabric.Otlp
open Library TelemetryFabric.Core

/-! ### Values -/

mutual

def anyValueToString (doubles : DoubleText) : AnyValue → String
  | .unset => ""
  | .stringValue value => value
  | .boolValue value => showBool value
  | .intValue value => showI64 value
  | .doubleValue value => String.ofList (doubles.render value)
  | .bytesValue value => hexEncode value
  | .arrayValue values => "[" ++ ",".intercalate (valuesToStrings doubles values) ++ "]"
  | .kvlistValue values => "\x7b" ++ ",".intercalate (itemsToStrings doubles values) ++ "\x7d"
  | .stringValueStrindex value => showI32 value

def optionToString (doubles : DoubleText) : Option AnyValue → String
  | none => ""
  | some value => anyValueToString doubles value

def valuesToStrings (doubles : DoubleText) : List AnyValue → List String
  | [] => []
  | value :: rest => anyValueToString doubles value :: valuesToStrings doubles rest

/-- The items of a list of pairs whose key is not blank. -/
def itemsToStrings (doubles : DoubleText) : List KeyValue → List String
  | [] => []
  | .mk key value :: rest =>
      if isBlank key then itemsToStrings doubles rest
      else (key ++ "=" ++ optionToString doubles value) :: itemsToStrings doubles rest

end

def attributesFromKeyValues (doubles : DoubleText) (start : String) (values : List KeyValue) :
    List (String × String) :=
  (values.filter fun value => !isBlank value.key).map fun value =>
    (if start = "" then value.key else start ++ value.key, optionToString doubles value.value)

def resourceAttributes (doubles : DoubleText) (resource : Option Resource) : List (String × String) :=
  match resource with
  | some resource => attributesFromKeyValues doubles "resource." resource.attributes
  | none => []

def scopeName (scope : Option InstrumentationScope) : String :=
  match scope with
  | some scope => scope.name
  | none => ""

/-- The loops that push one attribute after the other. -/
def pushAll (record : TelemetryRecord) (pairs : List (String × String)) : TelemetryRecord :=
  pairs.foldl (fun record pair => record.withAttribute pair.1 pair.2) record

def pushWhen (condition : Bool) (record : TelemetryRecord) (key value : String) : TelemetryRecord :=
  if condition then record.withAttribute key value else record

def pushOption (record : TelemetryRecord) (key : String) : Option String → TelemetryRecord
  | some value => record.withAttribute key value
  | none => record

/-- A record that still has to be stamped. -/
abbrev Unstamped := BitVec 128 → TelemetryRecord

/-- The records in the order they are made, each at its own time. -/
def stamp (clock : Nat → BitVec 128) (records : List Unstamped) : List TelemetryRecord :=
  records.mapIdx fun index record => record (clock index)

/-! ### Traces -/

def spanToRecord (doubles : DoubleText) (tenantId : String) (resourceAttributes : List (String × String))
    (scopeName : String) (span : Span) : Unstamped := fun now =>
  let record := TelemetryRecord.new now tenantId .trace (utf8 span.name)
    |>.withAttribute "otel.signal" "trace"
    |>.withAttribute "otel.span.name" span.name
    |>.withAttribute "otel.trace_id" (hexEncode span.traceId)
    |>.withAttribute "otel.span_id" (hexEncode span.spanId)
    |>.withAttribute "otel.parent_span_id" (hexEncode span.parentSpanId)
    |>.withAttribute "otel.span.kind" (showI32 span.kind)
    |>.withAttribute "otel.start_unix_nano" (showU64 span.startTimeUnixNano)
    |>.withAttribute "otel.end_unix_nano" (showU64 span.endTimeUnixNano)
  let record := pushWhen (scopeName != "") record "otel.scope.name" scopeName
  let record := pushAll record resourceAttributes
  pushAll record (attributesFromKeyValues doubles "" span.attributes)

def traceRequestToRecords (doubles : DoubleText) (clock : Nat → BitVec 128) (tenantId : String)
    (request : ExportTraceServiceRequest) : List TelemetryRecord :=
  stamp clock (request.resourceSpans.flatMap fun resourceSpans =>
    resourceSpans.scopeSpans.flatMap fun scopeSpans =>
      scopeSpans.spans.map (spanToRecord doubles tenantId (resourceAttributes doubles resourceSpans.resource)
        (scopeName scopeSpans.scope)))

/-! ### Logs -/

/-- The text of the body, or the event name where that is blank. -/
def logBody (doubles : DoubleText) (logRecord : LogRecord) : String :=
  ((logRecord.body.map (anyValueToString doubles)).filter fun value => !isBlank value).getD
    logRecord.eventName

def logRecordToRecord (doubles : DoubleText) (tenantId : String) (resourceAttributes : List (String × String))
    (scopeName : String) (logRecord : LogRecord) : Unstamped := fun now =>
  let record := TelemetryRecord.new now tenantId .log (utf8 (logBody doubles logRecord))
    |>.withAttribute "otel.signal" "log"
    |>.withAttribute "otel.log.time_unix_nano" (showU64 logRecord.timeUnixNano)
    |>.withAttribute "otel.log.observed_time_unix_nano" (showU64 logRecord.observedTimeUnixNano)
    |>.withAttribute "otel.log.severity_number" (showI32 logRecord.severityNumber)
    |>.withAttribute "otel.log.severity_text" logRecord.severityText
    |>.withAttribute "otel.trace_id" (hexEncode logRecord.traceId)
    |>.withAttribute "otel.span_id" (hexEncode logRecord.spanId)
    |>.withAttribute "otel.log.flags" (showU32 logRecord.flags)
  let record := pushWhen (logRecord.eventName != "") record "otel.log.event_name" logRecord.eventName
  let record := pushWhen (scopeName != "") record "otel.scope.name" scopeName
  let record := pushAll record resourceAttributes
  pushAll record (attributesFromKeyValues doubles "" logRecord.attributes)

def logsRequestToRecords (doubles : DoubleText) (clock : Nat → BitVec 128) (tenantId : String)
    (request : ExportLogsServiceRequest) : List TelemetryRecord :=
  stamp clock (request.resourceLogs.flatMap fun resourceLogs =>
    resourceLogs.scopeLogs.flatMap fun scopeLogs =>
      scopeLogs.logRecords.map (logRecordToRecord doubles tenantId
        (resourceAttributes doubles resourceLogs.resource) (scopeName scopeLogs.scope)))

/-! ### Metrics -/

structure MetricRecordMetadata where
  name : String
  description : String
  unit : String
  dataType : String
  aggregationTemporality : Option Int32
  isMonotonic : Option Bool

def aggregationTemporalityName (value : Int32) : Option String :=
  if value = 0 then some "AGGREGATION_TEMPORALITY_UNSPECIFIED"
  else if value = 1 then some "AGGREGATION_TEMPORALITY_DELTA"
  else if value = 2 then some "AGGREGATION_TEMPORALITY_CUMULATIVE"
  else none

/-- Where a data point comes from and what all of them have. -/
structure MetricRecordBaseArgs where
  tenantId : String
  resourceAttributes : List (String × String)
  scopeName : String
  metadata : MetricRecordMetadata
  dataPointAttributes : List KeyValue
  startTimeUnixNano : UInt64
  timeUnixNano : UInt64
  flags : UInt32

def metricRecordBase (doubles : DoubleText) (args : MetricRecordBaseArgs) : Unstamped := fun now =>
  let metadata := args.metadata
  let record := TelemetryRecord.new now args.tenantId .metric (utf8 metadata.name)
    |>.withAttribute "otel.signal" "metric"
    |>.withAttribute "otel.metric.name" metadata.name
    |>.withAttribute "otel.metric.data_type" metadata.dataType
    |>.withAttribute "otel.metric.time_unix_nano" (showU64 args.timeUnixNano)
    |>.withAttribute "otel.metric.start_time_unix_nano" (showU64 args.startTimeUnixNano)
    |>.withAttribute "otel.metric.flags" (showU32 args.flags)
  let record := pushWhen (metadata.description != "") record "otel.metric.description" metadata.description
  let record := pushWhen (metadata.unit != "") record "otel.metric.unit" metadata.unit
  let record := match metadata.aggregationTemporality with
    | some temporality => pushOption
        (record.withAttribute "otel.metric.aggregation_temporality" (showI32 temporality))
        "otel.metric.aggregation_temporality_name" (aggregationTemporalityName temporality)
    | none => record
  let record := pushOption record "otel.metric.is_monotonic" (metadata.isMonotonic.map showBool)
  let record := pushWhen (args.scopeName != "") record "otel.scope.name" args.scopeName
  let record := pushAll record args.resourceAttributes
  pushAll record (attributesFromKeyValues doubles "" args.dataPointAttributes)

def showDouble (doubles : DoubleText) (value : Double) : String := String.ofList (doubles.render value)

def numberValueToString (doubles : DoubleText) : NumberValue → Option (String × String)
  | .asDouble value => if value.isFinite then some ("double", showDouble doubles value) else none
  | .asInt value => some ("int", showI64 value)

def appendExemplar (doubles : DoubleText) (record : TelemetryRecord) (exemplar : Exemplar) (index : Nat) :
    TelemetryRecord :=
  let start := "otel.metric.exemplar." ++ String.ofList (decimal index)
  let record := record
    |>.withAttribute (start ++ ".time_unix_nano") (showU64 exemplar.timeUnixNano)
    |>.withAttribute (start ++ ".trace_id") (hexEncode exemplar.traceId)
    |>.withAttribute (start ++ ".span_id") (hexEncode exemplar.spanId)
  let record := match exemplar.value.bind (numberValueToString doubles) with
    | some (valueType, value) => record.withAttribute (start ++ ".value") value
        |>.withAttribute (start ++ ".value_type") valueType
    | none => record
  pushAll record (attributesFromKeyValues doubles (start ++ ".filtered.") exemplar.filteredAttributes)

def appendExemplarAttributes (doubles : DoubleText) (record : TelemetryRecord) (exemplars : List Exemplar) :
    TelemetryRecord :=
  if exemplars.isEmpty then record
  else
    let record := record.withAttribute "otel.metric.exemplar.count" (String.ofList (decimal exemplars.length))
    exemplars.zipIdx.foldl (fun record exemplar => appendExemplar doubles record exemplar.1 exemplar.2) record

def joinU64Values (values : List UInt64) : String := joinWith (fun value => decimal value.toNat) values

def joinDoubles (doubles : DoubleText) (values : List Double) : String := joinWith doubles.render values

def joinQuantileValues (doubles : DoubleText) (values : List ValueAtQuantile) : String :=
  joinWith (fun value => doubles.render value.quantile ++ ':' :: doubles.render value.value) values

/-- The record of a number data point, unless its value is missing or not finite. -/
def numberDataPointToRecord (doubles : DoubleText) (tenantId : String)
    (resourceAttributes : List (String × String)) (scopeName : String) (metadata : MetricRecordMetadata)
    (dataPoint : NumberDataPoint) : Option Unstamped := do
  let (valueType, value) ← numberValueToString doubles (← dataPoint.value)
  return fun now =>
    let record := metricRecordBase doubles ⟨tenantId, resourceAttributes, scopeName, metadata,
        dataPoint.attributes, dataPoint.startTimeUnixNano, dataPoint.timeUnixNano, dataPoint.flags⟩ now
      |>.withAttribute "otel.metric.value" value
      |>.withAttribute "otel.metric.value_type" valueType
    appendExemplarAttributes doubles record dataPoint.exemplars

def histogramDataPointToRecord (doubles : DoubleText) (tenantId : String)
    (resourceAttributes : List (String × String)) (scopeName : String) (metadata : MetricRecordMetadata)
    (dataPoint : HistogramDataPoint) : Unstamped := fun now =>
  let record := metricRecordBase doubles ⟨tenantId, resourceAttributes, scopeName, metadata,
      dataPoint.attributes, dataPoint.startTimeUnixNano, dataPoint.timeUnixNano, dataPoint.flags⟩ now
    |>.withAttribute "otel.metric.count" (showU64 dataPoint.count)
    |>.withAttribute "otel.metric.bucket_counts" (joinU64Values dataPoint.bucketCounts)
    |>.withAttribute "otel.metric.explicit_bounds" (joinDoubles doubles dataPoint.explicitBounds)
  let record := pushOption record "otel.metric.sum" (dataPoint.sum.map (showDouble doubles))
  let record := pushOption record "otel.metric.min" (dataPoint.min.map (showDouble doubles))
  let record := pushOption record "otel.metric.max" (dataPoint.max.map (showDouble doubles))
  appendExemplarAttributes doubles record dataPoint.exemplars

/-- The attributes of the positive or negative buckets, under their two keys. -/
def pushBuckets (record : TelemetryRecord) (offsetKey bucketCountsKey : String) :
    Option Buckets → TelemetryRecord
  | some buckets => record.withAttribute offsetKey (showI32 buckets.offset)
      |>.withAttribute bucketCountsKey (joinU64Values buckets.bucketCounts)
  | none => record

def exponentialHistogramDataPointToRecord (doubles : DoubleText) (tenantId : String)
    (resourceAttributes : List (String × String)) (scopeName : String) (metadata : MetricRecordMetadata)
    (dataPoint : ExponentialHistogramDataPoint) : Unstamped := fun now =>
  let record := metricRecordBase doubles ⟨tenantId, resourceAttributes, scopeName, metadata,
      dataPoint.attributes, dataPoint.startTimeUnixNano, dataPoint.timeUnixNano, dataPoint.flags⟩ now
    |>.withAttribute "otel.metric.count" (showU64 dataPoint.count)
    |>.withAttribute "otel.metric.scale" (showI32 dataPoint.scale)
    |>.withAttribute "otel.metric.zero_count" (showU64 dataPoint.zeroCount)
    |>.withAttribute "otel.metric.zero_threshold" (showDouble doubles dataPoint.zeroThreshold)
  let record := pushOption record "otel.metric.sum" (dataPoint.sum.map (showDouble doubles))
  let record := pushOption record "otel.metric.min" (dataPoint.min.map (showDouble doubles))
  let record := pushOption record "otel.metric.max" (dataPoint.max.map (showDouble doubles))
  let record := pushBuckets record "otel.metric.positive_offset" "otel.metric.positive_bucket_counts"
    dataPoint.positive
  let record := pushBuckets record "otel.metric.negative_offset" "otel.metric.negative_bucket_counts"
    dataPoint.negative
  appendExemplarAttributes doubles record dataPoint.exemplars

def summaryDataPointToRecord (doubles : DoubleText) (tenantId : String)
    (resourceAttributes : List (String × String)) (scopeName : String) (metadata : MetricRecordMetadata)
    (dataPoint : SummaryDataPoint) : Unstamped := fun now =>
  metricRecordBase doubles ⟨tenantId, resourceAttributes, scopeName, metadata,
      dataPoint.attributes, dataPoint.startTimeUnixNano, dataPoint.timeUnixNano, dataPoint.flags⟩ now
    |>.withAttribute "otel.metric.count" (showU64 dataPoint.count)
    |>.withAttribute "otel.metric.sum" (showDouble doubles dataPoint.sum)
    |>.withAttribute "otel.metric.quantile_values" (joinQuantileValues doubles dataPoint.quantileValues)

def metricToRecords (doubles : DoubleText) (tenantId : String) (resourceAttributes : List (String × String))
    (scopeName : String) (metric : Metric) : List Unstamped :=
  let metadata (dataType : String) (aggregationTemporality : Option Int32) (isMonotonic : Option Bool) :
      MetricRecordMetadata :=
    ⟨metric.name, metric.description, metric.unit, dataType, aggregationTemporality, isMonotonic⟩
  match metric.data with
  | some (.gauge dataPoints) => dataPoints.filterMap
      (numberDataPointToRecord doubles tenantId resourceAttributes scopeName (metadata "gauge" none none))
  | some (.sum dataPoints temporality isMonotonic) => dataPoints.filterMap
      (numberDataPointToRecord doubles tenantId resourceAttributes scopeName
        (metadata "sum" (some temporality) (some isMonotonic)))
  | some (.histogram dataPoints temporality) => dataPoints.map
      (histogramDataPointToRecord doubles tenantId resourceAttributes scopeName
        (metadata "histogram" (some temporality) none))
  | some (.exponentialHistogram dataPoints temporality) => dataPoints.map
      (exponentialHistogramDataPointToRecord doubles tenantId resourceAttributes scopeName
        (metadata "exponential_histogram" (some temporality) none))
  | some (.summary dataPoints) => dataPoints.map
      (summaryDataPointToRecord doubles tenantId resourceAttributes scopeName (metadata "summary" none none))
  | none => []

def metricsRequestToRecords (doubles : DoubleText) (clock : Nat → BitVec 128) (tenantId : String)
    (request : ExportMetricsServiceRequest) : List TelemetryRecord :=
  stamp clock (request.resourceMetrics.flatMap fun resourceMetrics =>
    resourceMetrics.scopeMetrics.flatMap fun scopeMetrics =>
      scopeMetrics.metrics.flatMap (metricToRecords doubles tenantId
        (resourceAttributes doubles resourceMetrics.resource) (scopeName scopeMetrics.scope)))

end TelemetryFabric.Otlp
