import TelemetryFabric.Library.Numerals
import TelemetryFabric.Library.LittleEndian

/-!
The OTLP messages, with the fields that the receivers read and the exporters fill.
-/

namespace TelemetryFabric.Otlp
open Library

/-! ### Common -/

mutual

inductive AnyValue where
  | unset
  | stringValue (value : String)
  | boolValue (value : Bool)
  | intValue (value : Int64)
  | doubleValue (value : Double)
  | arrayValue (values : List AnyValue)
  | kvlistValue (values : List KeyValue)
  | bytesValue (value : Bytes)
  | stringValueStrindex (value : Int32)

inductive KeyValue where
  | mk (key : String) (value : Option AnyValue)

end

def KeyValue.key : KeyValue → String
  | .mk key _ => key

def KeyValue.value : KeyValue → Option AnyValue
  | .mk _ value => value

/-- An attribute the way the exporters write it. -/
def KeyValue.ofString (key value : String) : KeyValue := .mk key (some (.stringValue value))

structure Resource where
  attributes : List KeyValue

structure InstrumentationScope where
  name : String

/-! ### Logs -/

structure LogRecord where
  timeUnixNano : UInt64
  observedTimeUnixNano : UInt64
  severityNumber : Int32
  severityText : String
  body : Option AnyValue
  attributes : List KeyValue
  flags : UInt32
  traceId : Bytes
  spanId : Bytes
  eventName : String

structure ScopeLogs where
  scope : Option InstrumentationScope
  logRecords : List LogRecord

structure ResourceLogs where
  resource : Option Resource
  scopeLogs : List ScopeLogs

structure ExportLogsServiceRequest where
  resourceLogs : List ResourceLogs

/-! ### Traces -/

structure Span where
  traceId : Bytes
  spanId : Bytes
  parentSpanId : Bytes
  name : String
  kind : Int32
  startTimeUnixNano : UInt64
  endTimeUnixNano : UInt64
  attributes : List KeyValue

structure ScopeSpans where
  scope : Option InstrumentationScope
  spans : List Span

structure ResourceSpans where
  resource : Option Resource
  scopeSpans : List ScopeSpans

structure ExportTraceServiceRequest where
  resourceSpans : List ResourceSpans

/-! ### Metrics -/

/-- The value of a number data point or an exemplar. -/
inductive NumberValue where
  | asDouble (value : Double)
  | asInt (value : Int64)
  deriving DecidableEq

structure Exemplar where
  filteredAttributes : List KeyValue
  timeUnixNano : UInt64
  spanId : Bytes
  traceId : Bytes
  value : Option NumberValue

structure NumberDataPoint where
  attributes : List KeyValue
  startTimeUnixNano : UInt64
  timeUnixNano : UInt64
  value : Option NumberValue
  exemplars : List Exemplar
  flags : UInt32

structure HistogramDataPoint where
  attributes : List KeyValue
  startTimeUnixNano : UInt64
  timeUnixNano : UInt64
  count : UInt64
  sum : Option Double
  bucketCounts : List UInt64
  explicitBounds : List Double
  exemplars : List Exemplar
  flags : UInt32
  min : Option Double
  max : Option Double

structure Buckets where
  offset : Int32
  bucketCounts : List UInt64
  deriving DecidableEq

structure ExponentialHistogramDataPoint where
  attributes : List KeyValue
  startTimeUnixNano : UInt64
  timeUnixNano : UInt64
  count : UInt64
  sum : Option Double
  scale : Int32
  zeroCount : UInt64
  positive : Option Buckets
  negative : Option Buckets
  flags : UInt32
  exemplars : List Exemplar
  min : Option Double
  max : Option Double
  zeroThreshold : Double

structure ValueAtQuantile where
  quantile : Double
  value : Double
  deriving DecidableEq

structure SummaryDataPoint where
  attributes : List KeyValue
  startTimeUnixNano : UInt64
  timeUnixNano : UInt64
  count : UInt64
  sum : Double
  quantileValues : List ValueAtQuantile
  flags : UInt32

inductive MetricData where
  | gauge (dataPoints : List NumberDataPoint)
  | sum (dataPoints : List NumberDataPoint) (aggregationTemporality : Int32) (isMonotonic : Bool)
  | histogram (dataPoints : List HistogramDataPoint) (aggregationTemporality : Int32)
  | exponentialHistogram (dataPoints : List ExponentialHistogramDataPoint) (aggregationTemporality : Int32)
  | summary (dataPoints : List SummaryDataPoint)

structure Metric where
  name : String
  description : String
  unit : String
  data : Option MetricData

structure ScopeMetrics where
  scope : Option InstrumentationScope
  metrics : List Metric

structure ResourceMetrics where
  resource : Option Resource
  scopeMetrics : List ScopeMetrics

structure ExportMetricsServiceRequest where
  resourceMetrics : List ResourceMetrics

end TelemetryFabric.Otlp
