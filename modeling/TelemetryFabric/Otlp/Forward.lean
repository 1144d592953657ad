import TelemetryFabric.Core.Telemetry
import TelemetryFabric.Otlp.Proto

/-!
From telemetry records back to OTLP requests, as the OTLP exporters do it. A field is read
from the first attribute with its key; what is missing or cannot be read is replaced by a
default, or the record is left out.
-/

namespace TelemetryFabric.Otlp
open Library TelemetryFabric.Core

def findAttribute (record : TelemetryRecord) (key : String) : Option String :=
  (record.attributes.find? (fun entry => entry.key == key)).map Attribute.value

def startsWith (text start : String) : Bool := start.toList.isPrefixOf text.toList

/-- What is behind the given start of a text. -/
def stripStart (start text : String) : Option String :=
  if startsWith text start then some (String.ofList (text.toList.drop start.toList.length)) else none

/-- The low 64 bits of the time stamp. -/
def timestampU64 (record : TelemetryRecord) : UInt64 := UInt64.ofNat record.timestampUnixNanos.toNat

/-! ### Resources and scopes -/

/-- The attributes that are neither fields of the message nor the resource's. -/
def ownAttributes (record : TelemetryRecord) : List KeyValue :=
  (record.attributes.filter fun entry =>
    !startsWith entry.key "otel." && !startsWith entry.key "resource.").map fun entry =>
      .ofString entry.key entry.value

def recordToMetricAttributes (record : TelemetryRecord) : List KeyValue := ownAttributes record

def recordToLogAttributes (record : TelemetryRecord) : List KeyValue := ownAttributes record

def recordToResourceAttributes (record : TelemetryRecord) : List KeyValue :=
  record.attributes.filterMap fun entry =>
    ((stripStart "resource." entry.key).filter fun key => !isBlank key).map fun key =>
      .ofString key entry.value

def recordScope (record : TelemetryRecord) : Option InstrumentationScope :=
  ((findAttribute record "otel.scope.name").filter fun name => !isBlank name).map fun name => ⟨name⟩

/-! ### Logs -/

def recordToLogRecord (record : TelemetryRecord) : LogRecord where
  timeUnixNano := ((findAttribute record "otel.log.time_unix_nano").bind readU64).getD (timestampU64 record)
  observedTimeUnixNano :=
    ((findAttribute record "otel.log.observed_time_unix_nano").bind readU64).getD (timestampU64 record)
  severityNumber := ((findAttribute record "otel.log.severity_number").bind readI32).getD 0
  severityText := (findAttribute record "otel.log.severity_text").getD ""
  body := some (.stringValue (fromUtf8Lossy record.body))
  attributes := recordToLogAttributes record
  flags := ((findAttribute record "otel.log.flags").bind readU32).getD 0
  traceId := ((findAttribute record "otel.trace_id").bind (hexDecodeFixed · 16)).getD []
  spanId := ((findAttribute record "otel.span_id").bind (hexDecodeFixed · 8)).getD []
  eventName := (findAttribute record "otel.log.event_name").getD ""

def recordToResourceLog (record : TelemetryRecord) : Option ResourceLogs :=
  some ⟨some ⟨recordToResourceAttributes record⟩, [⟨recordScope record, [recordToLogRecord record]⟩]⟩

def batchToLogsRequest (batch : RecordBatch) : ExportLogsServiceRequest :=
  ⟨(batch.records.filter fun record => record.signal == .log).filterMap recordToResourceLog⟩

/-! ### Traces -/

/-- One turn of the loop that fills up an id made from a hash. -/
def fallbackTurn (hash : UInt32) : UInt32 :=
  (hash ^^^ (hash <<< 13 ||| hash >>> 19)) * 0x01000193

def fallbackFrom (len : Nat) : Nat → UInt32 → Bytes → Bytes
  | 0, _, output => output
  | fuel + 1, hash, output =>
      if output.length < len then
        fallbackFrom len fuel (fallbackTurn hash) (output ++ littleEndian 4 (fallbackTurn hash).toNat)
      else output

def fallbackId (seed : Bytes) (len : Nat) : Bytes :=
  let hash := seed.foldl (fun hash byte => (hash ^^^ byte.toUInt32) * 0x01000193) 0x811c9dc5
  let output := (fallbackFrom len len hash []).take len
  if output.all (· == 0) then output.set 0 1 else output

def recordToSpan (record : TelemetryRecord) : Span :=
  let name := ((findAttribute record "otel.span.name").filter fun name => !isBlank name).getD
    (fromUtf8Lossy record.body)
  { traceId := ((findAttribute record "otel.trace_id").bind (hexDecodeFixed · 16)).getD
      (fallbackId record.body 16)
    spanId := ((findAttribute record "otel.span_id").bind (hexDecodeFixed · 8)).getD (fallbackId (utf8 name) 8)
    parentSpanId := ((findAttribute record "otel.parent_span_id").bind (hexDecodeFixed · 8)).getD []
    name := name
    kind := ((findAttribute record "otel.span.kind").bind readI32).getD 0
    startTimeUnixNano := ((findAttribute record "otel.start_unix_nano").bind readU64).getD (timestampU64 record)
    endTimeUnixNano := ((findAttribute record "otel.end_unix_nano").bind readU64).getD (timestampU64 record)
    attributes := (record.attributes.filter fun entry => !startsWith entry.key "otel.").map fun entry =>
      .ofString entry.key entry.value }

def batchToTraceRequest (batch : RecordBatch) : ExportTraceServiceRequest :=
  let spans := (batch.records.filter fun record => record.signal == .trace).map recordToSpan
  if spans.isEmpty then ⟨[]⟩ else ⟨[⟨some ⟨[]⟩, [⟨none, spans⟩]⟩]⟩

/-! ### Metrics -/

section Metrics

variable (doubles : DoubleText)

def parseU64Attribute (record : TelemetryRecord) (key : String) : Option UInt64 :=
  (findAttribute record key).bind readU64

def parseI32Attribute (record : TelemetryRecord) (key : String) : Option Int32 :=
  (findAttribute record key).bind readI32

/-- `parse::<f64>`, finite numbers only. -/
def readFinite (text : List Char) : Option Double := (doubles.parse text).filter Double.isFinite

def parseDoubleAttribute (record : TelemetryRecord) (key : String) : Option Double :=
  (findAttribute record key).bind fun value => readFinite doubles value.toList

def readU64Item (item : List Char) : Option UInt64 := (parseUnsigned (2 ^ 64) item).map UInt64.ofNat

def parseU64ListAttribute (record : TelemetryRecord) (key : String) : List UInt64 :=
  ((findAttribute record key).map (readList readU64Item)).getD []

def parseDoubleListAttribute (record : TelemetryRecord) (key : String) : List Double :=
  ((findAttribute record key).map (readList (readFinite doubles))).getD []

def readQuantile (item : List Char) : Option ValueAtQuantile := do
  let (quantile, value) ← splitOnce ':' item
  let quantile ← doubles.parse quantile
  let value ← doubles.parse value
  if quantile.isFinite && value.isFinite then some ⟨quantile, value⟩ else none

def parseQuantileValuesAttribute (record : TelemetryRecord) (key : String) : List ValueAtQuantile :=
  ((findAttribute record key).map (readList (readQuantile doubles))).getD []

def metricName (record : TelemetryRecord) : Option String :=
  let rendered := fromUtf8Lossy record.body
  (findAttribute record "otel.metric.name").orElse fun _ =>
    (findAttribute record "metric.name").orElse fun _ =>
      (findAttribute record "service.name").orElse fun _ =>
        if isBlank rendered then none else some rendered

def metricValue (record : TelemetryRecord) : Option NumberValue :=
  let value := (findAttribute record "otel.metric.value").getD (fromUtf8Lossy record.body)
  if findAttribute record "otel.metric.value_type" = some "int" then (readI64 value).map .asInt
  else (readFinite doubles value.toList).map .asDouble

def metricStartTimeUnixNano (record : TelemetryRecord) : UInt64 :=
  ((findAttribute record "otel.metric.start_time_unix_nano").bind readU64).getD 0

def metricTimeUnixNano (record : TelemetryRecord) : UInt64 :=
  ((findAttribute record "otel.metric.time_unix_nano").bind readU64).getD (timestampU64 record)

def metricFlags (record : TelemetryRecord) : UInt32 :=
  ((findAttribute record "otel.metric.flags").bind readU32).getD 0

def aggregationTemporalityFromName (value : String) : Option Int32 :=
  if value = "AGGREGATION_TEMPORALITY_UNSPECIFIED" ∨ value = "unspecified" then some 0
  else if value = "AGGREGATION_TEMPORALITY_DELTA" ∨ value = "delta" then some 1
  else if value = "AGGREGATION_TEMPORALITY_CUMULATIVE" ∨ value = "cumulative" then some 2
  else none

def metricAggregationTemporality (record : TelemetryRecord) : Int32 :=
  (((findAttribute record "otel.metric.aggregation_temporality").bind readI32).orElse fun _ =>
    (findAttribute record "otel.metric.aggregation_temporality_name").bind
      aggregationTemporalityFromName).getD 2

def recordToExponentialBuckets (record : TelemetryRecord) (offsetKey bucketCountsKey : String) :
    Option Buckets :=
  let bucketCounts := parseU64ListAttribute record bucketCountsKey
  if bucketCounts.isEmpty then none
  else some ⟨(parseI32Attribute record offsetKey).getD 0, bucketCounts⟩

def recordToExemplarValue (record : TelemetryRecord) (start : String) : Option NumberValue := do
  let value ← findAttribute record (start ++ ".value")
  if findAttribute record (start ++ ".value_type") = some "int" then (readI64 value).map .asInt
  else (readFinite doubles value.toList).map .asDouble

def recordToExemplarFilteredAttributes (record : TelemetryRecord) (start : String) : List KeyValue :=
  record.attributes.filterMap fun entry =>
    (stripStart (start ++ ".filtered.") entry.key).map fun key => .ofString key entry.value

def recordToExemplar (record : TelemetryRecord) (index : Nat) : Exemplar :=
  let start := "otel.metric.exemplar." ++ String.ofList (decimal index)
  { filteredAttributes := recordToExemplarFilteredAttributes record start
    timeUnixNano := ((findAttribute record (start ++ ".time_unix_nano")).bind readU64).getD 0
    spanId := ((findAttribute record (start ++ ".span_id")).bind (hexDecodeFixed · 8)).getD []
    traceId := ((findAttribute record (start ++ ".trace_id")).bind (hexDecodeFixed · 16)).getD []
    value := recordToExemplarValue doubles record start }

/-! The number of exemplars is taken from an attribute, so a record of a few bytes can ask for more of
them than the process has room for: `maxExemplars`. What needs them is then not built at all. -/

/-- A builder's result, or none where it does not return. -/
abbrev Built (α : Type) := Option α

variable (maxExemplars : Nat)

def exemplarCount (record : TelemetryRecord) : Nat :=
  ((parseU64Attribute record "otel.metric.exemplar.count").getD 0).toNat

def recordToExemplars (record : TelemetryRecord) : Built (List Exemplar) :=
  if exemplarCount record ≤ maxExemplars then
    some ((List.range (exemplarCount record)).map (recordToExemplar doubles record))
  else none

theorem recordToExemplars_iff {record : TelemetryRecord} :
    (∃ exemplars, recordToExemplars doubles maxExemplars record = some exemplars) ↔
      exemplarCount record ≤ maxExemplars := by
  unfold recordToExemplars
  split_ifs with fits
  · exact ⟨fun _ => fits, fun _ => ⟨_, rfl⟩⟩
  · exact ⟨fun ⟨_, built⟩ => (nomatch built), fun within => absurd within fits⟩

def recordToNumberDataPoint (record : TelemetryRecord) (value : NumberValue) : Built NumberDataPoint := do
  return {
    attributes := recordToMetricAttributes record
    startTimeUnixNano := metricStartTimeUnixNano record
    timeUnixNano := metricTimeUnixNano record
    value := some value
    exemplars := ← recordToExemplars doubles maxExemplars record
    flags := metricFlags record }

def recordToHistogramDataPoint (record : TelemetryRecord) : Built (Option HistogramDataPoint) :=
  match parseU64Attribute record "otel.metric.count" with
  | none => some none
  | some count => do
      return some {
        attributes := recordToMetricAttributes record
        startTimeUnixNano := metricStartTimeUnixNano record
        timeUnixNano := metricTimeUnixNano record
        count := count
        sum := parseDoubleAttribute doubles record "otel.metric.sum"
        bucketCounts := parseU64ListAttribute record "otel.metric.bucket_counts"
        explicitBounds := parseDoubleListAttribute doubles record "otel.metric.explicit_bounds"
        exemplars := ← recordToExemplars doubles maxExemplars record
        flags := metricFlags record
        min := parseDoubleAttribute doubles record "otel.metric.min"
        max := parseDoubleAttribute doubles record "otel.metric.max" }

def recordToExponentialHistogramDataPoint (record : TelemetryRecord) :
    Built (Option ExponentialHistogramDataPoint) :=
  match parseU64Attribute record "otel.metric.count" with
  | none => some none
  | some count => do
      return some {
        attributes := recordToMetricAttributes record
        startTimeUnixNano := metricStartTimeUnixNano record
        timeUnixNano := metricTimeUnixNano record
        count := count
        sum := parseDoubleAttribute doubles record "otel.metric.sum"
        scale := (parseI32Attribute record "otel.metric.scale").getD 0
        zeroCount := (parseU64Attribute record "otel.metric.zero_count").getD 0
        positive := recordToExponentialBuckets record "otel.metric.positive_offset"
          "otel.metric.positive_bucket_counts"
        negative := recordToExponentialBuckets record "otel.metric.negative_offset"
          "otel.metric.negative_bucket_counts"
        flags := metricFlags record
        exemplars := ← recordToExemplars doubles maxExemplars record
        min := parseDoubleAttribute doubles record "otel.metric.min"
        max := parseDoubleAttribute doubles record "otel.metric.max"
        zeroThreshold := (parseDoubleAttribute doubles record "otel.metric.zero_threshold").getD 0 }

def recordToSummaryDataPoint (record : TelemetryRecord) : Option SummaryDataPoint := do
  let count ← parseU64Attribute record "otel.metric.count"
  let sum ← parseDoubleAttribute doubles record "otel.metric.sum"
  return {
    attributes := recordToMetricAttributes record
    startTimeUnixNano := metricStartTimeUnixNano record
    timeUnixNano := metricTimeUnixNano record
    count := count
    sum := sum
    quantileValues := parseQuantileValuesAttribute doubles record "otel.metric.quantile_values"
    flags := metricFlags record }

def recordToMetricData (record : TelemetryRecord) : Built (Option MetricData) :=
  match findAttribute record "otel.metric.data_type" with
  | some "sum" =>
      match metricValue doubles record with
      | none => some none
      | some value => do
          return some (.sum [← recordToNumberDataPoint doubles maxExemplars record value]
            (metricAggregationTemporality record)
            (((findAttribute record "otel.metric.is_monotonic").bind readBool).getD false))
  | some "histogram" => do
      return (← recordToHistogramDataPoint doubles maxExemplars record).map fun point =>
        .histogram [point] (metricAggregationTemporality record)
  | some "exponential_histogram" => do
      return (← recordToExponentialHistogramDataPoint doubles maxExemplars record).map fun point =>
        .exponentialHistogram [point] (metricAggregationTemporality record)
  | some "summary" => some ((recordToSummaryDataPoint doubles record).map fun point => .summary [point])
  | _ =>
      match metricValue doubles record with
      | none => some none
      | some value => do return some (.gauge [← recordToNumberDataPoint doubles maxExemplars record value])

def recordToMetric (record : TelemetryRecord) : Built (Option Metric) :=
  match metricName record with
  | none => some none
  | some name => do
      return (← recordToMetricData doubles maxExemplars record).map fun data => {
        name := name
        description := (findAttribute record "otel.metric.description").getD ""
        unit := (findAttribute record "otel.metric.unit").getD ""
        data := some data }

def recordToResourceMetric (record : TelemetryRecord) : Built (Option ResourceMetrics) := do
  return (← recordToMetric doubles maxExemplars record).map fun metric =>
    ⟨some ⟨recordToResourceAttributes record⟩, [⟨recordScope record, [metric]⟩]⟩

def batchToMetricsRequest (batch : RecordBatch) : Built ExportMetricsServiceRequest := do
  return ⟨(← (batch.records.filter fun record => record.signal == .metric).mapM
    (recordToResourceMetric doubles maxExemplars)).filterMap id⟩

end Metrics

end TelemetryFabric.Otlp
