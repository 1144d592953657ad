import TelemetryFabric.Otlp.Attributes

/-!
The records of metric data points. The fields of the metric are listed before the attributes of
the sender, the fields of the data point after them and before the exemplars, so a field of the
data point is only found where the sender did not write its key.
-/

namespace TelemetryFabric.Otlp
open Library TelemetryFabric.Core

/-! ### The data points of a request -/

def NumberValue.isFinite : NumberValue → Bool
  | .asDouble value => value.isFinite
  | .asInt _ => true

/-- One data point, with what its kind says about all of them; of a number, the value it has. -/
inductive PointData where
  | gauge (point : NumberDataPoint) (value : NumberValue)
  | sum (point : NumberDataPoint) (value : NumberValue) (aggregationTemporality : Int32) (isMonotonic : Bool)
  | histogram (point : HistogramDataPoint) (aggregationTemporality : Int32)
  | exponentialHistogram (point : ExponentialHistogramDataPoint) (aggregationTemporality : Int32)
  | summary (point : SummaryDataPoint)

/-- A data point with the resource, the scope and the metric it is listed under. -/
structure MetricPoint where
  resource : Option Resource
  scope : Option InstrumentationScope
  name : String
  description : String
  unit : String
  data : PointData

/-- The value of a number data point, if it has one that is finite. -/
def NumberDataPoint.finiteValue (point : NumberDataPoint) : Option NumberValue :=
  point.value.filter NumberValue.isFinite

/-- The data points of a metric, less the number points without a finite value. -/
def MetricData.points : MetricData → List PointData
  | .gauge dataPoints => dataPoints.filterMap fun point => point.finiteValue.map (.gauge point)
  | .sum dataPoints temporality isMonotonic =>
      dataPoints.filterMap fun point => point.finiteValue.map fun value => .sum point value temporality isMonotonic
  | .histogram dataPoints temporality => dataPoints.map fun point => .histogram point temporality
  | .exponentialHistogram dataPoints temporality =>
      dataPoints.map fun point => .exponentialHistogram point temporality
  | .summary dataPoints => dataPoints.map .summary

def Metric.points (resource : Option Resource) (scope : Option InstrumentationScope) (metric : Metric) :
    List MetricPoint :=
  ((metric.data.map MetricData.points).getD []).map fun data =>
    ⟨resource, scope, metric.name, metric.description, metric.unit, data⟩

/-- The data points of a request, in order. -/
def ExportMetricsServiceRequest.points (request : ExportMetricsServiceRequest) : List MetricPoint :=
  request.resourceMetrics.flatMap fun resourceMetrics =>
    resourceMetrics.scopeMetrics.flatMap fun scopeMetrics =>
      scopeMetrics.metrics.flatMap (Metric.points resourceMetrics.resource scopeMetrics.scope)

/-! ### Their records -/

def numberText (doubles : DoubleText) : NumberValue → String × String
  | .asDouble value => ("double", showDouble doubles value)
  | .asInt value => ("int", showI64 value)

def MetricPoint.metadata (point : MetricPoint) : MetricRecordMetadata :=
  match point.data with
  | .gauge _ _ => ⟨point.name, point.description, point.unit, "gauge", none, none⟩
  | .sum _ _ temporality isMonotonic =>
      ⟨point.name, point.description, point.unit, "sum", some temporality, some isMonotonic⟩
  | .histogram _ temporality => ⟨point.name, point.description, point.unit, "histogram", some temporality, none⟩
  | .exponentialHistogram _ temporality =>
      ⟨point.name, point.description, point.unit, "exponential_histogram", some temporality, none⟩
  | .summary _ => ⟨point.name, point.description, point.unit, "summary", none, none⟩

def PointData.attributes : PointData → List KeyValue
  | .gauge point _ => point.attributes
  | .sum point _ _ _ => point.attributes
  | .histogram point _ => point.attributes
  | .exponentialHistogram point _ => point.attributes
  | .summary point => point.attributes

def PointData.exemplars : PointData → List Exemplar
  | .gauge point _ => point.exemplars
  | .sum point _ _ _ => point.exemplars
  | .histogram point _ => point.exemplars
  | .exponentialHistogram point _ => point.exemplars
  | .summary _ => []

def PointData.startTimeUnixNano : PointData → UInt64
  | .gauge point _ => point.startTimeUnixNano
  | .sum point _ _ _ => point.startTimeUnixNano
  | .histogram point _ => point.startTimeUnixNano
  | .exponentialHistogram point _ => point.startTimeUnixNano
  | .summary point => point.startTimeUnixNano

def PointData.timeUnixNano : PointData → UInt64
  | .gauge point _ => point.timeUnixNano
  | .sum point _ _ _ => point.timeUnixNano
  | .histogram point _ => point.timeUnixNano
  | .exponentialHistogram point _ => point.timeUnixNano
  | .summary point => point.timeUnixNano

def PointData.flags : PointData → UInt32
  | .gauge point _ => point.flags
  | .sum point _ _ _ => point.flags
  | .histogram point _ => point.flags
  | .exponentialHistogram point _ => point.flags
  | .summary point => point.flags

/-- The record of a data point. -/
def MetricPoint.toRecord (doubles : DoubleText) (tenantId : String) (point : MetricPoint) : Unstamped :=
  let resource := resourceAttributes doubles point.resource
  let number (dataPoint : NumberDataPoint) (value : NumberValue) : Unstamped := fun now =>
    appendExemplarAttributes doubles
      ((metricRecordBase doubles ⟨tenantId, resource, scopeName point.scope, point.metadata, dataPoint.attributes,
        dataPoint.startTimeUnixNano, dataPoint.timeUnixNano, dataPoint.flags⟩ now).withAttribute
          "otel.metric.value" (numberText doubles value).2 |>.withAttribute
          "otel.metric.value_type" (numberText doubles value).1) dataPoint.exemplars
  match point.data with
  | .gauge dataPoint value => number dataPoint value
  | .sum dataPoint value _ _ => number dataPoint value
  | .histogram dataPoint _ =>
      histogramDataPointToRecord doubles tenantId resource (scopeName point.scope) point.metadata dataPoint
  | .exponentialHistogram dataPoint _ =>
      exponentialHistogramDataPointToRecord doubles tenantId resource (scopeName point.scope) point.metadata dataPoint
  | .summary dataPoint =>
      summaryDataPointToRecord doubles tenantId resource (scopeName point.scope) point.metadata dataPoint

theorem numberValueToString_eq (doubles : DoubleText) (value : NumberValue) :
    numberValueToString doubles value = if value.isFinite then some (numberText doubles value) else none := by
  cases value <;> rfl

theorem numberDataPointToRecord_eq (doubles : DoubleText) (tenantId : String)
    (resource : List (String × String)) (scopeName : String) (metadata : MetricRecordMetadata)
    (dataPoint : NumberDataPoint) :
    numberDataPointToRecord doubles tenantId resource scopeName metadata dataPoint =
      dataPoint.finiteValue.map fun value now =>
        appendExemplarAttributes doubles
          ((metricRecordBase doubles ⟨tenantId, resource, scopeName, metadata, dataPoint.attributes,
            dataPoint.startTimeUnixNano, dataPoint.timeUnixNano, dataPoint.flags⟩ now).withAttribute
              "otel.metric.value" (numberText doubles value).2 |>.withAttribute
              "otel.metric.value_type" (numberText doubles value).1) dataPoint.exemplars := by
  unfold numberDataPointToRecord NumberDataPoint.finiteValue
  cases dataPoint.value with
  | none => rfl
  | some value =>
    simp only [Option.bind_eq_bind, Option.bind_some, numberValueToString_eq, Option.filter_some]
    split_ifs <;> rfl

theorem metricToRecords_eq (doubles : DoubleText) (tenantId : String) (resource : Option Resource)
    (scope : Option InstrumentationScope) (metric : Metric) :
    metricToRecords doubles tenantId (resourceAttributes doubles resource) (scopeName scope) metric =
      (metric.points resource scope).map (MetricPoint.toRecord doubles tenantId) := by
  obtain ⟨name, description, unit, data⟩ := metric
  cases data with
  | none => rfl
  | some data =>
    cases data with
    | gauge dataPoints =>
      simp only [metricToRecords, Metric.points, MetricData.points, Option.map_some, Option.getD_some,
        List.map_filterMap, numberDataPointToRecord_eq, Option.map_map]
      rfl
    | sum dataPoints temporality isMonotonic =>
      simp only [metricToRecords, Metric.points, MetricData.points, Option.map_some, Option.getD_some,
        List.map_filterMap, numberDataPointToRecord_eq, Option.map_map]
      rfl
    | histogram dataPoints temporality =>
      simp only [metricToRecords, Metric.points, MetricData.points, Option.map_some, Option.getD_some, List.map_map]
      rfl
    | exponentialHistogram dataPoints temporality =>
      simp only [metricToRecords, Metric.points, MetricData.points, Option.map_some, Option.getD_some, List.map_map]
      rfl
    | summary dataPoints =>
      simp only [metricToRecords, Metric.points, MetricData.points, Option.map_some, Option.getD_some, List.map_map]
      rfl

/-- The receiver makes one record of each data point, in order. -/
theorem metricsRequestToRecords_eq (doubles : DoubleText) (clock : Nat → BitVec 128) (tenantId : String)
    (request : ExportMetricsServiceRequest) :
    metricsRequestToRecords doubles clock tenantId request =
      stamp clock (request.points.map (MetricPoint.toRecord doubles tenantId)) := by
  simp only [metricsRequestToRecords, ExportMetricsServiceRequest.points, List.map_flatMap,
    ← metricToRecords_eq]

/-! ### Where the fields are -/

/-- The fields of the metric, in the order they are pushed. -/
def metricFields (args : MetricRecordBaseArgs) : List Attribute :=
  [⟨"otel.signal", "metric"⟩, ⟨"otel.metric.name", args.metadata.name⟩,
    ⟨"otel.metric.data_type", args.metadata.dataType⟩,
    ⟨"otel.metric.time_unix_nano", showU64 args.timeUnixNano⟩,
    ⟨"otel.metric.start_time_unix_nano", showU64 args.startTimeUnixNano⟩,
    ⟨"otel.metric.flags", showU32 args.flags⟩] ++
  ((if args.metadata.description != "" then [⟨"otel.metric.description", args.metadata.description⟩] else []) ++
  ((if args.metadata.unit != "" then [⟨"otel.metric.unit", args.metadata.unit⟩] else []) ++
  ((match args.metadata.aggregationTemporality with
    | some temporality => ⟨"otel.metric.aggregation_temporality", showI32 temporality⟩ ::
        ((aggregationTemporalityName temporality).map fun name =>
          ⟨"otel.metric.aggregation_temporality_name", name⟩).toList
    | none => []) ++
  (((args.metadata.isMonotonic.map showBool).map fun text => ⟨"otel.metric.is_monotonic", text⟩).toList ++
    if args.scopeName != "" then [⟨"otel.scope.name", args.scopeName⟩] else []))))

theorem metricRecordBase_eq (doubles : DoubleText) (args : MetricRecordBaseArgs) (now : BitVec 128) :
    metricRecordBase doubles args now =
      ⟨args.tenantId, .metric, now, metricFields args ++ (pushed args.resourceAttributes ++
        pushed (attributesFromKeyValues doubles "" args.dataPointAttributes)), utf8 args.metadata.name⟩ := by
  obtain ⟨tenantId, resource, scopeName, ⟨name, description, unit, dataType, temporality, isMonotonic⟩,
    attributes, start, time, flags⟩ := args
  cases temporality with
  | none =>
    simp only [metricRecordBase, pushAll_eq, pushWhen_eq, pushOption_eq, TelemetryRecord.withAttribute,
      TelemetryRecord.new, metricFields, List.append_assoc, List.cons_append, List.nil_append]
  | some temporality =>
    simp only [metricRecordBase, pushAll_eq, pushWhen_eq, pushOption_eq, TelemetryRecord.withAttribute,
      TelemetryRecord.new, metricFields, List.append_assoc, List.cons_append, List.nil_append]

/-- A field that is only pushed where it is there. -/
def optionalField (key : String) (value : Option String) : List Attribute :=
  (value.map fun text => ⟨key, text⟩).toList

def bucketFields (offsetKey bucketCountsKey : String) : Option Buckets → List Attribute
  | some buckets =>
      [⟨offsetKey, showI32 buckets.offset⟩, ⟨bucketCountsKey, joinU64Values buckets.bucketCounts⟩]
  | none => []

theorem pushBuckets_eq (record : TelemetryRecord) (offsetKey bucketCountsKey : String) (buckets : Option Buckets) :
    pushBuckets record offsetKey bucketCountsKey buckets =
      { record with attributes := record.attributes ++ bucketFields offsetKey bucketCountsKey buckets } := by
  cases buckets <;> simp [pushBuckets, bucketFields, TelemetryRecord.withAttribute]

/-- The fields of the data point, in the order they are pushed. -/
def PointData.fields (doubles : DoubleText) : PointData → List Attribute
  | .gauge _ value => [⟨"otel.metric.value", (numberText doubles value).2⟩,
      ⟨"otel.metric.value_type", (numberText doubles value).1⟩]
  | .sum _ value _ _ => [⟨"otel.metric.value", (numberText doubles value).2⟩,
      ⟨"otel.metric.value_type", (numberText doubles value).1⟩]
  | .histogram point _ => [⟨"otel.metric.count", showU64 point.count⟩,
      ⟨"otel.metric.bucket_counts", joinU64Values point.bucketCounts⟩,
      ⟨"otel.metric.explicit_bounds", joinDoubles doubles point.explicitBounds⟩] ++
      (optionalField "otel.metric.sum" (point.sum.map (showDouble doubles)) ++
      (optionalField "otel.metric.min" (point.min.map (showDouble doubles)) ++
        optionalField "otel.metric.max" (point.max.map (showDouble doubles))))
  | .exponentialHistogram point _ => [⟨"otel.metric.count", showU64 point.count⟩,
      ⟨"otel.metric.scale", showI32 point.scale⟩, ⟨"otel.metric.zero_count", showU64 point.zeroCount⟩,
      ⟨"otel.metric.zero_threshold", showDouble doubles point.zeroThreshold⟩] ++
      (optionalField "otel.metric.sum" (point.sum.map (showDouble doubles)) ++
      (optionalField "otel.metric.min" (point.min.map (showDouble doubles)) ++
      (optionalField "otel.metric.max" (point.max.map (showDouble doubles)) ++
      (bucketFields "otel.metric.positive_offset" "otel.metric.positive_bucket_counts" point.positive ++
        bucketFields "otel.metric.negative_offset" "otel.metric.negative_bucket_counts" point.negative))))
  | .summary point => [⟨"otel.metric.count", showU64 point.count⟩,
      ⟨"otel.metric.sum", showDouble doubles point.sum⟩,
      ⟨"otel.metric.quantile_values", joinQuantileValues doubles point.quantileValues⟩]

/-- The record with attributes of exemplars behind its own. -/
def Exemplified (record result : TelemetryRecord) : Prop :=
  ∃ more, result = { record with attributes := record.attributes ++ more } ∧
    ∀ entry ∈ more, startsWith entry.key "otel.metric.exemplar." = true

theorem Exemplified.refl (record : TelemetryRecord) : Exemplified record record :=
  ⟨[], by simp, by simp⟩

theorem Exemplified.trans {first second third : TelemetryRecord} (one : Exemplified first second)
    (two : Exemplified second third) : Exemplified first third := by
  obtain ⟨more, rfl, prefixed⟩ := one
  obtain ⟨rest, rfl, prefixedRest⟩ := two
  refine ⟨more ++ rest, by simp, ?_⟩
  intro entry member
  rcases List.mem_append.mp member with inside | inside
  · exact prefixed entry inside
  · exact prefixedRest entry inside

theorem Exemplified.withAttribute {record result : TelemetryRecord} (grown : Exemplified record result)
    (key value : String) :
    Exemplified record (result.withAttribute ("otel.metric.exemplar." ++ key) value) :=
  grown.trans ⟨[⟨"otel.metric.exemplar." ++ key, value⟩], rfl, by simp [startsWith_append]⟩

theorem exemplified_pushAll (doubles : DoubleText) (record : TelemetryRecord) (key : String)
    (values : List KeyValue) :
    Exemplified record (pushAll record
      (attributesFromKeyValues doubles ("otel.metric.exemplar." ++ key) values)) := by
  have some : "otel.metric.exemplar." ++ key ≠ "" := by
    intro empty
    have length := congrArg String.length empty
    simp at length
  rw [pushAll_eq]
  refine ⟨_, rfl, ?_⟩
  intro entry member
  simp only [pushed, attributesFromKeyValues, if_neg some, List.map_map, List.mem_map] at member
  obtain ⟨value, -, rfl⟩ := member
  change startsWith ("otel.metric.exemplar." ++ key ++ value.key) "otel.metric.exemplar." = true
  rw [String.append_assoc]
  exact startsWith_append _ _

theorem exemplified_appendExemplar (doubles : DoubleText) (record : TelemetryRecord) (exemplar : Exemplar)
    (index : Nat) : Exemplified record (appendExemplar doubles record exemplar index) := by
  unfold appendExemplar
  simp only [String.append_assoc]
  refine Exemplified.trans ?_ (exemplified_pushAll doubles _ _ _)
  split
  · exact (((((Exemplified.refl record).withAttribute _ _).withAttribute _ _).withAttribute _ _).withAttribute
      _ _).withAttribute _ _
  · exact (((Exemplified.refl record).withAttribute _ _).withAttribute _ _).withAttribute _ _

theorem exemplified_each (doubles : DoubleText) (start : TelemetryRecord) (indexed : List (Exemplar × Nat)) :
    Exemplified start
      (indexed.foldl (fun record exemplar => appendExemplar doubles record exemplar.1 exemplar.2) start) := by
  induction indexed generalizing start with
  | nil => exact Exemplified.refl start
  | cons exemplar rest ih => exact (exemplified_appendExemplar doubles start exemplar.1 exemplar.2).trans (ih _)

theorem exemplified_appendExemplarAttributes (doubles : DoubleText) (record : TelemetryRecord)
    (exemplars : List Exemplar) : Exemplified record (appendExemplarAttributes doubles record exemplars) := by
  unfold appendExemplarAttributes
  split_ifs
  · exact Exemplified.refl record
  · exact ((Exemplified.refl record).withAttribute "count" (String.ofList (decimal exemplars.length))).trans
      (exemplified_each doubles _ _)

def MetricPoint.args (doubles : DoubleText) (tenantId : String) (point : MetricPoint) : MetricRecordBaseArgs :=
  ⟨tenantId, resourceAttributes doubles point.resource, scopeName point.scope, point.metadata,
    point.data.attributes, point.data.startTimeUnixNano, point.data.timeUnixNano, point.data.flags⟩

/-- The fields of the data point and its exemplars are pushed behind everything else. -/
theorem toRecord_eq (doubles : DoubleText) (tenantId : String) (point : MetricPoint) (now : BitVec 128) :
    point.toRecord doubles tenantId now = appendExemplarAttributes doubles
      { metricRecordBase doubles (point.args doubles tenantId) now with
        attributes := (metricRecordBase doubles (point.args doubles tenantId) now).attributes ++
          point.data.fields doubles } point.data.exemplars := by
  obtain ⟨resource, scope, name, description, unit, data⟩ := point
  cases data with
  | gauge point value =>
    simp only [MetricPoint.toRecord, TelemetryRecord.withAttribute, List.append_assoc]
    rfl
  | sum point value temporality isMonotonic =>
    simp only [MetricPoint.toRecord, TelemetryRecord.withAttribute, List.append_assoc]
    rfl
  | histogram point temporality =>
    simp only [MetricPoint.toRecord, histogramDataPointToRecord, TelemetryRecord.withAttribute, pushOption_eq,
      List.append_assoc]
    rfl
  | exponentialHistogram point temporality =>
    simp only [MetricPoint.toRecord, exponentialHistogramDataPointToRecord, TelemetryRecord.withAttribute,
      pushOption_eq, pushBuckets_eq, List.append_assoc]
    rfl
  | summary point =>
    simp only [MetricPoint.toRecord, summaryDataPointToRecord, TelemetryRecord.withAttribute, List.append_assoc]
    rfl

theorem toRecord_attributes (doubles : DoubleText) (tenantId : String) (point : MetricPoint) (now : BitVec 128) :
    ∃ more, (∀ entry ∈ more, startsWith entry.key "otel.metric.exemplar." = true) ∧
      point.toRecord doubles tenantId now = ⟨tenantId, .metric, now, metricFields (point.args doubles tenantId) ++
        (pushed (resourceAttributes doubles point.resource) ++
          (pushed (attributesFromKeyValues doubles "" point.data.attributes) ++
            (point.data.fields doubles ++ more))), utf8 point.metadata.name⟩ := by
  rw [toRecord_eq, metricRecordBase_eq]
  obtain ⟨more, grown, exemplars⟩ := exemplified_appendExemplarAttributes doubles _ point.data.exemplars
  refine ⟨more, exemplars, ?_⟩
  rw [grown]
  simp only [List.append_assoc]
  rfl

/-- Their number is pushed before the exemplars, if there are any. -/
theorem toRecord_counted (doubles : DoubleText) (tenantId : String) (point : MetricPoint) (now : BitVec 128) :
    ∃ more, lookup more "otel.metric.exemplar.count" =
        (if point.data.exemplars.isEmpty then none else some (String.ofList (decimal point.data.exemplars.length))) ∧
      point.toRecord doubles tenantId now = ⟨tenantId, .metric, now, metricFields (point.args doubles tenantId) ++
        (pushed (resourceAttributes doubles point.resource) ++
          (pushed (attributesFromKeyValues doubles "" point.data.attributes) ++
            (point.data.fields doubles ++ more))), utf8 point.metadata.name⟩ := by
  rw [toRecord_eq, metricRecordBase_eq, appendExemplarAttributes]
  split_ifs with none
  · refine ⟨[], rfl, ?_⟩
    simp only [List.append_assoc, List.append_nil]
    rfl
  · obtain ⟨more, grown, -⟩ := exemplified_each doubles (TelemetryRecord.withAttribute _ _ _) point.data.exemplars.zipIdx
    refine ⟨⟨"otel.metric.exemplar.count", String.ofList (decimal point.data.exemplars.length)⟩ :: more, ?_, ?_⟩
    · simp
    · rw [grown]
      simp only [TelemetryRecord.withAttribute, List.append_assoc, List.cons_append, List.nil_append]
      rfl

/-- The first attribute of the sender with a key. -/
def sender (doubles : DoubleText) (values : List KeyValue) (key : String) : Option String :=
  lookup (pushed (attributesFromKeyValues doubles "" values)) key

theorem lookup_eq_none {attributes : List Attribute} {key : String} (others : ∀ entry ∈ attributes, entry.key ≠ key) :
    lookup attributes key = none := by
  unfold lookup
  rw [List.find?_eq_none.mpr, Option.map_none]
  intro entry member
  simpa using others entry member

/-- A resource's attributes are kept under keys of their own. -/
theorem lookup_resource (doubles : DoubleText) (resource : Option Resource) {key : String}
    (otel : startsWith key "otel." = true) : lookup (pushed (resourceAttributes doubles resource)) key = none := by
  apply lookup_eq_none
  intro entry member same
  rw [pushed_resource] at member
  obtain ⟨value, -, rfl⟩ := List.mem_map.mp member
  have starts := not_otel_of_resource (startsWith_append "resource." value.key)
  rw [show "resource." ++ value.key = key from same, otel] at starts
  cases starts

/-- A key of a field is looked for among the metric's, then the sender's, then the data point's. -/
theorem findAttribute_toRecord (doubles : DoubleText) (tenantId : String) (point : MetricPoint) (now : BitVec 128)
    {key : String} (otel : startsWith key "otel." = true)
    (other : startsWith key "otel.metric.exemplar." = false) :
    findAttribute (point.toRecord doubles tenantId now) key =
      (lookup (metricFields (point.args doubles tenantId)) key).or
        ((sender doubles point.data.attributes key).or (lookup (point.data.fields doubles) key)) := by
  obtain ⟨more, exemplars, shape⟩ := toRecord_attributes doubles tenantId point now
  have resource := lookup_resource doubles point.resource otel
  have last : lookup more key = none := by
    apply lookup_eq_none
    intro entry member same
    rw [← same, exemplars entry member] at other
    cases other
  rw [findAttribute_eq, shape]
  simp only [lookup_append, resource, last, Option.or_none, Option.none_or]
  rfl

end TelemetryFabric.Otlp
