import TelemetryFabric.Exporters.Labels
import TelemetryFabric.Otlp.Receive

/-!
From metric records to a remote-write request. A scalar record is one series; a histogram is a
count, a sum and its buckets with cumulative counts; a summary has a series for each quantile.
Arithmetic on doubles is left open.
-/

namespace TelemetryFabric.Exporters
open Library TelemetryFabric.Core Otlp

structure PromSample where
  value : Double
  timestamp : Int64
  deriving DecidableEq

structure PromExemplar where
  labels : List PromLabel
  value : Double
  timestamp : Int64
  deriving DecidableEq

structure PromTimeSeries where
  labels : List PromLabel
  samples : List PromSample
  exemplars : List PromExemplar
  deriving DecidableEq

structure PromWriteRequest where
  timeseries : List PromTimeSeries
  deriving DecidableEq

/-- The casts `as f64` and the powers of doubles. -/
structure DoubleArithmetic where
  ofU64 : UInt64 → Double
  ofI64 : Int64 → Double
  powi : Double → Int32 → Double
  powf : Double → Double → Double

/-- The sign of a double is its highest bit. -/
def negDouble (value : Double) : Double := value ^^^ 0x8000000000000000

/-- What `f64::total_cmp` compares: the bits as a signed number, the others flipped below zero. -/
def totalOrder (value : Double) : Int := (if value.msb then value ^^^ 0x7fffffffffffffff else value).toInt

def saturatingAddU64 (first second : UInt64) : UInt64 := UInt64.ofNat (saturatingAdd first.toNat second.toNat)

def saturatingAddI32 (first second : Int32) : Int32 :=
  Int32.ofInt (max (-2 ^ 31) (min (2 ^ 31 - 1) (first.toInt + second.toInt)))

/-! ### Values -/

mutual

/-- Unlike the receiver's, without brackets around lists. -/
def anyValueToString (doubles : DoubleText) : AnyValue → String
  | .unset => ""
  | .stringValue value => value
  | .boolValue value => showBool value
  | .intValue value => showI64 value
  | .doubleValue value => showDouble doubles value
  | .bytesValue value => hexEncode value
  | .arrayValue values => ",".intercalate (valuesToStrings doubles values)
  | .kvlistValue values => ",".intercalate (itemsToStrings doubles values)
  | .stringValueStrindex value => showI32 value

def optionToString (doubles : DoubleText) : Option AnyValue → String
  | none => ""
  | some value => anyValueToString doubles value

def valuesToStrings (doubles : DoubleText) : List AnyValue → List String
  | [] => []
  | value :: rest => anyValueToString doubles value :: valuesToStrings doubles rest

def itemsToStrings (doubles : DoubleText) : List KeyValue → List String
  | [] => []
  | .mk key value :: rest =>
      if isBlank key then itemsToStrings doubles rest
      else (key ++ "=" ++ optionToString doubles value) :: itemsToStrings doubles rest

end

/-- Nanoseconds as milliseconds, up to the largest signed number. -/
def millis (nanos : Nat) : Int64 := Int64.ofNat (min (nanos / 1000000) (2 ^ 63 - 1))

def metricTimestampMillis (record : TelemetryRecord) : Int64 :=
  millis (((findAttribute record "otel.metric.time_unix_nano").bind fun value =>
    parseUnsigned (2 ^ 128) value.toList).getD record.timestampUnixNanos.toNat)

section Series

variable (doubles : DoubleText) (arithmetic : DoubleArithmetic) (maxExemplars : Nat)

def metricValueToDouble : NumberValue → Option Double
  | .asDouble value => if value.isFinite then some value else none
  | .asInt value => some (arithmetic.ofI64 value)

def toPromExemplar (exemplar : Exemplar) : Option PromExemplar := do
  let value ← metricValueToDouble arithmetic (← exemplar.value)
  let traceId := if exemplar.traceId.isEmpty then [] else [⟨"trace_id", hexEncode exemplar.traceId⟩]
  let spanId := if exemplar.spanId.isEmpty then [] else [⟨"span_id", hexEncode exemplar.spanId⟩]
  let filtered := exemplar.filteredAttributes.filterMap fun entry =>
    entry.value.map fun value => ⟨sanitizePrometheusLabelName entry.key, anyValueToString doubles value⟩
  some ⟨traceId ++ spanId ++ filtered, value, millis exemplar.timeUnixNano.toNat⟩

def prometheusExemplars (record : TelemetryRecord) : Built (List PromExemplar) := do
  return (← recordToExemplars doubles maxExemplars record).filterMap (toPromExemplar doubles arithmetic)

def prometheusTimeseries (record : TelemetryRecord) (metricName : String) (extraLabels : List (String × String))
    (value : Double) (timestamp : Int64) (exemplars : List PromExemplar) : PromTimeSeries where
  labels := if extraLabels.isEmpty then prometheusLabels record metricName
    else prometheusLabelsWithExtra record metricName extraLabels
  samples := [⟨value, timestamp⟩]
  exemplars := exemplars

/-! ### Builders -/

def recordToPrometheusScalarTimeseries (record : TelemetryRecord) (metricName : String) :
    Built (Option PromTimeSeries) :=
  match (metricValue doubles record).bind (metricValueToDouble arithmetic) with
  | none => some none
  | some value => do
      return some (prometheusTimeseries record metricName [] value (metricTimestampMillis record)
        (← prometheusExemplars doubles arithmetic maxExemplars record))

/-- The series of `otel.metric.count`, if there is one. -/
def countTimeseries (record : TelemetryRecord) (metricName : String) (timestamp : Int64) : List PromTimeSeries :=
  match parseU64Attribute record "otel.metric.count" with
  | some count => [prometheusTimeseries record (metricName ++ "_count") [] (arithmetic.ofU64 count) timestamp []]
  | none => []

/-- The series of `otel.metric.sum`, if there is one. -/
def sumTimeseries (record : TelemetryRecord) (metricName : String) (timestamp : Int64)
    (exemplars : List PromExemplar) : List PromTimeSeries :=
  match parseDoubleAttribute doubles record "otel.metric.sum" with
  | some sum => [prometheusTimeseries record (metricName ++ "_sum") [] sum timestamp exemplars]
  | none => []

/-- The exemplars of that series; where there is none, they are not asked for. -/
def sumExemplars (record : TelemetryRecord) : Built (List PromExemplar) :=
  if (parseDoubleAttribute doubles record "otel.metric.sum").isSome then
    prometheusExemplars doubles arithmetic maxExemplars record
  else some []

/-- One bucket; its label is set last. -/
def bucketTimeseries (record : TelemetryRecord) (metricName le : String) (count : UInt64) (timestamp : Int64) :
    PromTimeSeries :=
  prometheusTimeseries record (metricName ++ "_bucket") [("le", le)] (arithmetic.ofU64 count) timestamp []

/-- The loop over the bucket counts, which have no bound of their own behind the last one. -/
def histogramBuckets (record : TelemetryRecord) (metricName : String) (timestamp : Int64) (explicitBounds : List Double) :
    Nat → UInt64 → List UInt64 → List PromTimeSeries
  | _, _, [] => []
  | index, cumulativeCount, bucketCount :: rest =>
      let cumulativeCount := saturatingAddU64 cumulativeCount bucketCount
      let le := ((explicitBounds[index]?).map (showDouble doubles)).getD "+Inf"
      bucketTimeseries arithmetic record metricName le cumulativeCount timestamp ::
        histogramBuckets record metricName timestamp explicitBounds (index + 1) cumulativeCount rest

def recordToPrometheusHistogramTimeseries (record : TelemetryRecord) (metricName : String) :
    Built (List PromTimeSeries) := do
  let timestamp := metricTimestampMillis record
  let exemplars ← sumExemplars doubles arithmetic maxExemplars record
  let bucketCounts := parseU64ListAttribute record "otel.metric.bucket_counts"
  let explicitBounds := parseDoubleListAttribute doubles record "otel.metric.explicit_bounds"
  return countTimeseries arithmetic record metricName timestamp ++
    (sumTimeseries doubles record metricName timestamp exemplars ++
      histogramBuckets doubles arithmetic record metricName timestamp explicitBounds 0 0 bucketCounts)

/-- Upper bounds for buckets counted from `offset` on, those that are finite. -/
def exponentialBounds (bound : Int32 → Double) (offset : Int32) (counts : List UInt64) : List (Double × UInt64) :=
  counts.zipIdx.filterMap fun (count, index) =>
    let upperBound := bound (saturatingAddI32 offset (Int32.ofNat index))
    if upperBound.isFinite then some (upperBound, count) else none

def exponentialHistogramPrometheusBuckets (record : TelemetryRecord) : List (String × UInt64) :=
  let scale := (parseI32Attribute record "otel.metric.scale").getD 0
  let two : Double := 0x4000000000000000
  let base := arithmetic.powf two (arithmetic.powi two (-scale))
  let negative := exponentialBounds (fun index => negDouble (arithmetic.powi base index))
    ((parseI32Attribute record "otel.metric.negative_offset").getD 0)
    (parseU64ListAttribute record "otel.metric.negative_bucket_counts")
  let zero := match parseU64Attribute record "otel.metric.zero_count" with
    | some zeroCount =>
        if zeroCount > 0 then
          [((parseDoubleAttribute doubles record "otel.metric.zero_threshold").getD 0, zeroCount)]
        else []
    | none => []
  let positive := exponentialBounds (fun index => arithmetic.powi base (saturatingAddI32 index 1))
    ((parseI32Attribute record "otel.metric.positive_offset").getD 0)
    (parseU64ListAttribute record "otel.metric.positive_bucket_counts")
  ((negative ++ zero ++ positive).mergeSort fun left right => totalOrder left.1 ≤ totalOrder right.1).map
    fun (upperBound, count) => (showDouble doubles upperBound, count)

/-- The loop over sorted buckets, and the count it ends with. -/
def exponentialBuckets (record : TelemetryRecord) (metricName : String) (timestamp : Int64) :
    UInt64 → List (String × UInt64) → List PromTimeSeries × UInt64
  | cumulativeCount, [] => ([], cumulativeCount)
  | cumulativeCount, (le, bucketCount) :: rest =>
      let cumulativeCount := saturatingAddU64 cumulativeCount bucketCount
      let (later, total) := exponentialBuckets record metricName timestamp cumulativeCount rest
      (bucketTimeseries arithmetic record metricName le cumulativeCount timestamp :: later, total)

def recordToPrometheusExponentialHistogramTimeseries (record : TelemetryRecord) (metricName : String) :
    Built (List PromTimeSeries) := do
  let timestamp := metricTimestampMillis record
  let exemplars ← sumExemplars doubles arithmetic maxExemplars record
  let (buckets, cumulativeCount) := exponentialBuckets arithmetic record metricName timestamp 0
    (exponentialHistogramPrometheusBuckets doubles arithmetic record)
  let last := match parseU64Attribute record "otel.metric.count" with
    | some count => [bucketTimeseries arithmetic record metricName "+Inf" (max count cumulativeCount) timestamp]
    | none => []
  return countTimeseries arithmetic record metricName timestamp ++
    (sumTimeseries doubles record metricName timestamp exemplars ++ (buckets ++ last))

def recordToPrometheusSummaryTimeseries (record : TelemetryRecord) (metricName : String) : List PromTimeSeries :=
  let timestamp := metricTimestampMillis record
  countTimeseries arithmetic record metricName timestamp ++
    (sumTimeseries doubles record metricName timestamp [] ++
      (parseQuantileValuesAttribute doubles record "otel.metric.quantile_values").map fun entry =>
        prometheusTimeseries record metricName [("quantile", showDouble doubles entry.quantile)] entry.value timestamp [])

def recordToPrometheusTimeseries (record : TelemetryRecord) : Built (List PromTimeSeries) :=
  match (metricName record).map sanitizePrometheusMetricName with
  | none => some []
  | some metricName =>
      match findAttribute record "otel.metric.data_type" with
      | some "histogram" => recordToPrometheusHistogramTimeseries doubles arithmetic maxExemplars record metricName
      | some "exponential_histogram" =>
          recordToPrometheusExponentialHistogramTimeseries doubles arithmetic maxExemplars record metricName
      | some "summary" => some (recordToPrometheusSummaryTimeseries doubles arithmetic record metricName)
      | _ => do
          return (← recordToPrometheusScalarTimeseries doubles arithmetic maxExemplars record metricName).toList

def batchToPrometheusRemoteWriteRequest (batch : RecordBatch) : Built PromWriteRequest := do
  return ⟨(← (batch.records.filter fun record => record.signal = .metric).mapM
    (recordToPrometheusTimeseries doubles arithmetic maxExemplars)).flatten⟩

end Series

end TelemetryFabric.Exporters
