import TelemetryFabric.Library.Collect
import TelemetryFabric.Otlp.MetricRecords

/-!
Metric data points through the agent. What an exporter sends of a data point is what was
received exactly when the sender's attributes do not imitate the fields listed behind them, every
double is finite and the exemplars can be collected.
-/

namespace TelemetryFabric.Otlp
open Library TelemetryFabric.Core

/-! ### What is to be kept -/

structure NumberKept (received : NumberDataPoint) (value : NumberValue) (sent : NumberDataPoint) : Prop where
  startTime : sent.startTimeUnixNano = received.startTimeUnixNano
  time : sent.timeUnixNano = received.timeUnixNano
  flags : sent.flags = received.flags
  value : sent.value = some value

structure HistogramKept (received sent : HistogramDataPoint) : Prop where
  startTime : sent.startTimeUnixNano = received.startTimeUnixNano
  time : sent.timeUnixNano = received.timeUnixNano
  flags : sent.flags = received.flags
  count : sent.count = received.count
  sum : sent.sum = received.sum
  bucketCounts : sent.bucketCounts = received.bucketCounts
  explicitBounds : sent.explicitBounds = received.explicitBounds

structure ExponentialKept (received sent : ExponentialHistogramDataPoint) : Prop where
  startTime : sent.startTimeUnixNano = received.startTimeUnixNano
  time : sent.timeUnixNano = received.timeUnixNano
  flags : sent.flags = received.flags
  count : sent.count = received.count
  sum : sent.sum = received.sum
  scale : sent.scale = received.scale
  zeroCount : sent.zeroCount = received.zeroCount
  positive : sent.positive = received.positive
  negative : sent.negative = received.negative

structure SummaryKept (received sent : SummaryDataPoint) : Prop where
  startTime : sent.startTimeUnixNano = received.startTimeUnixNano
  time : sent.timeUnixNano = received.timeUnixNano
  flags : sent.flags = received.flags
  count : sent.count = received.count
  sum : sent.sum = received.sum
  quantileValues : sent.quantileValues = received.quantileValues

/-- The data are of the same kind and hold the one point. -/
def DataKept : PointData → MetricData → Prop
  | .gauge received value, .gauge [sent] => NumberKept received value sent
  | .sum received value temporality isMonotonic, .sum [sent] temporality' isMonotonic' =>
      temporality' = temporality ∧ isMonotonic' = isMonotonic ∧ NumberKept received value sent
  | .histogram received temporality, .histogram [sent] temporality' =>
      temporality' = temporality ∧ HistogramKept received sent
  | .exponentialHistogram received temporality, .exponentialHistogram [sent] temporality' =>
      temporality' = temporality ∧ ExponentialKept received sent
  | .summary received, .summary [sent] => SummaryKept received sent
  | _, _ => False

/-- The data point is sent on as it was received, in a metric of its own. -/
structure MetricKept (received : MetricPoint) (sent : Metric) : Prop where
  name : sent.name = received.name
  description : sent.description = received.description
  unit : sent.unit = received.unit
  data : ∃ data, sent.data = some data ∧ DataKept received.data data

/-- The metrics of a request, in order. -/
def ExportMetricsServiceRequest.metrics (request : ExportMetricsServiceRequest) : List Metric :=
  request.resourceMetrics.flatMap fun resourceMetrics =>
    resourceMetrics.scopeMetrics.flatMap ScopeMetrics.metrics

/-! ### When it is kept -/

section Conditions

variable (doubles : DoubleText) (own : List KeyValue)

/-- Where the sender's attributes hold the key, the first of them does no harm. -/
def Unshadowed (key : String) (harmless : String → Prop) : Prop :=
  ∀ text, sender doubles own key = some text → harmless text

/-- How a number is read from the texts of its type and its value. -/
def readNumber (kind text : String) : Option NumberValue :=
  if kind = "int" then (readI64 text).map .asInt else (readFinite doubles text.toList).map .asDouble

def NumberUnshadowed (value : NumberValue) : Prop :=
  (sender doubles own "otel.metric.value").isSome ∨ (sender doubles own "otel.metric.value_type").isSome →
    readNumber doubles ((sender doubles own "otel.metric.value_type").getD (numberText doubles value).1)
      ((sender doubles own "otel.metric.value").getD (numberText doubles value).2) = some value

structure HistogramUnshadowed (point : HistogramDataPoint) : Prop where
  count : Unshadowed doubles own "otel.metric.count" fun text => readU64 text = some point.count
  finiteSum : ∀ sum ∈ point.sum, sum.isFinite = true
  sum : Unshadowed doubles own "otel.metric.sum" fun text => readFinite doubles text.toList = point.sum
  bucketCounts : Unshadowed doubles own "otel.metric.bucket_counts" fun text =>
    readList readU64Item text = point.bucketCounts
  finiteBounds : ∀ bound ∈ point.explicitBounds, bound.isFinite = true
  explicitBounds : Unshadowed doubles own "otel.metric.explicit_bounds" fun text =>
    readList (readFinite doubles) text = point.explicitBounds

/-- Buckets without counts are not sent at all. -/
def BucketsUnshadowed (offsetKey bucketCountsKey : String) : Option Buckets → Prop
  | some buckets => buckets.bucketCounts ≠ [] ∧
      Unshadowed doubles own bucketCountsKey (fun text => readList readU64Item text = buckets.bucketCounts) ∧
      Unshadowed doubles own offsetKey (fun text => (readI32 text).getD 0 = buckets.offset)
  | none => Unshadowed doubles own bucketCountsKey fun text => readList readU64Item text = []

structure ExponentialUnshadowed (point : ExponentialHistogramDataPoint) : Prop where
  count : Unshadowed doubles own "otel.metric.count" fun text => readU64 text = some point.count
  finiteSum : ∀ sum ∈ point.sum, sum.isFinite = true
  sum : Unshadowed doubles own "otel.metric.sum" fun text => readFinite doubles text.toList = point.sum
  scale : Unshadowed doubles own "otel.metric.scale" fun text => (readI32 text).getD 0 = point.scale
  zeroCount : Unshadowed doubles own "otel.metric.zero_count" fun text => (readU64 text).getD 0 = point.zeroCount
  positive : BucketsUnshadowed doubles own "otel.metric.positive_offset" "otel.metric.positive_bucket_counts"
    point.positive
  negative : BucketsUnshadowed doubles own "otel.metric.negative_offset" "otel.metric.negative_bucket_counts"
    point.negative

structure SummaryUnshadowed (point : SummaryDataPoint) : Prop where
  count : Unshadowed doubles own "otel.metric.count" fun text => readU64 text = some point.count
  finiteSum : point.sum.isFinite = true
  sum : Unshadowed doubles own "otel.metric.sum" fun text => readFinite doubles text.toList = some point.sum
  finiteQuantiles : ∀ entry ∈ point.quantileValues, entry.quantile.isFinite = true ∧ entry.value.isFinite = true
  quantileValues : Unshadowed doubles own "otel.metric.quantile_values" fun text =>
    readList (readQuantile doubles) text = point.quantileValues

/-- How many exemplars are read back from the record: what the sender has written, or else their
number, which is not written for none. -/
def countedExemplars (exemplars : List Exemplar) : Nat :=
  ((((sender doubles own "otel.metric.exemplar.count").or
    (if exemplars.isEmpty then none else some (String.ofList (decimal exemplars.length)))).bind readU64).getD 0).toNat

def DataUnshadowed (maxExemplars : Nat) : PointData → Prop
  | .gauge point value =>
      NumberUnshadowed doubles own value ∧ countedExemplars doubles own point.exemplars ≤ maxExemplars
  | .sum point value _ _ =>
      NumberUnshadowed doubles own value ∧ countedExemplars doubles own point.exemplars ≤ maxExemplars
  | .histogram point _ =>
      HistogramUnshadowed doubles own point ∧ countedExemplars doubles own point.exemplars ≤ maxExemplars
  | .exponentialHistogram point _ =>
      ExponentialUnshadowed doubles own point ∧ countedExemplars doubles own point.exemplars ≤ maxExemplars
  | .summary point => SummaryUnshadowed doubles own point

end Conditions

/-- No attribute of the data point is taken for one of its fields, or for the description or the
unit where these are empty, no field is lost as text, and no more exemplars are read back than there
is room for. -/
structure MetricPoint.Unshadowed (doubles : DoubleText) (maxExemplars : Nat) (point : MetricPoint) : Prop where
  description : point.description = "" →
    Otlp.Unshadowed doubles point.data.attributes "otel.metric.description" fun text => text = ""
  unit : point.unit = "" →
    Otlp.Unshadowed doubles point.data.attributes "otel.metric.unit" fun text => text = ""
  data : DataUnshadowed doubles point.data.attributes maxExemplars point.data

/-! ### The fields of the metric -/

section Head

variable (doubles : DoubleText) (tenantId : String) (point : MetricPoint) (now : BitVec 128)

@[simp] theorem metadata_name : point.metadata.name = point.name := by
  unfold MetricPoint.metadata
  split <;> rfl

@[simp] theorem metadata_description : point.metadata.description = point.description := by
  unfold MetricPoint.metadata
  split <;> rfl

@[simp] theorem metadata_unit : point.metadata.unit = point.unit := by
  unfold MetricPoint.metadata
  split <;> rfl

/-- A field of the metric is found before anything of the sender. -/
theorem findAttribute_head {key text : String} (otel : startsWith key "otel." = true)
    (other : startsWith key "otel.metric.exemplar." = false)
    (listed : lookup (metricFields (point.args doubles tenantId)) key = some text) :
    findAttribute (point.toRecord doubles tenantId now) key = some text := by
  rw [findAttribute_toRecord doubles tenantId point now otel other, listed, Option.some_or]

theorem metricName_toRecord : metricName (point.toRecord doubles tenantId now) = some point.name := by
  unfold metricName
  rw [findAttribute_head doubles tenantId point now (by decide) (by decide)
    (show lookup _ "otel.metric.name" = some point.name by simp [metricFields, MetricPoint.args])]
  rfl

theorem dataType_toRecord :
    findAttribute (point.toRecord doubles tenantId now) "otel.metric.data_type" = some point.metadata.dataType :=
  findAttribute_head doubles tenantId point now (by decide) (by decide)
    (by simp [metricFields, MetricPoint.args])

theorem metricStartTimeUnixNano_toRecord :
    metricStartTimeUnixNano (point.toRecord doubles tenantId now) = point.data.startTimeUnixNano := by
  unfold metricStartTimeUnixNano
  rw [findAttribute_head doubles tenantId point now (by decide) (by decide)
    (show lookup _ "otel.metric.start_time_unix_nano" = some (showU64 point.data.startTimeUnixNano) by
      simp [metricFields, MetricPoint.args])]
  simp

theorem metricTimeUnixNano_toRecord :
    metricTimeUnixNano (point.toRecord doubles tenantId now) = point.data.timeUnixNano := by
  unfold metricTimeUnixNano
  rw [findAttribute_head doubles tenantId point now (by decide) (by decide)
    (show lookup _ "otel.metric.time_unix_nano" = some (showU64 point.data.timeUnixNano) by
      simp [metricFields, MetricPoint.args])]
  simp

theorem metricFlags_toRecord : metricFlags (point.toRecord doubles tenantId now) = point.data.flags := by
  unfold metricFlags
  rw [findAttribute_head doubles tenantId point now (by decide) (by decide)
    (show lookup _ "otel.metric.flags" = some (showU32 point.data.flags) by
      simp [metricFields, MetricPoint.args])]
  simp

theorem metricAggregationTemporality_toRecord {temporality : Int32}
    (given : point.metadata.aggregationTemporality = some temporality) :
    metricAggregationTemporality (point.toRecord doubles tenantId now) = temporality := by
  unfold metricAggregationTemporality
  rw [findAttribute_head doubles tenantId point now (by decide) (by decide)
    (show lookup _ "otel.metric.aggregation_temporality" = some (showI32 temporality) by
      simp [metricFields, MetricPoint.args, given])]
  simp

theorem isMonotonic_toRecord {isMonotonic : Bool} (given : point.metadata.isMonotonic = some isMonotonic) :
    ((findAttribute (point.toRecord doubles tenantId now) "otel.metric.is_monotonic").bind readBool).getD false =
      isMonotonic := by
  rw [findAttribute_head doubles tenantId point now (by decide) (by decide)
    (show lookup _ "otel.metric.is_monotonic" = some (showBool isMonotonic) by
      cases temporality : point.metadata.aggregationTemporality with
      | none => simp [metricFields, MetricPoint.args, given, temporality]
      | some value =>
        cases name : aggregationTemporalityName value <;>
          simp [metricFields, MetricPoint.args, given, temporality, name])]
  simp

/-- The keys of the fields that are listed before the attributes of the sender. -/
def metricKeys : List String :=
  ["otel.signal", "otel.metric.name", "otel.metric.data_type", "otel.metric.time_unix_nano",
    "otel.metric.start_time_unix_nano", "otel.metric.flags", "otel.metric.description", "otel.metric.unit",
    "otel.metric.aggregation_temporality", "otel.metric.aggregation_temporality_name",
    "otel.metric.is_monotonic", "otel.scope.name"]

theorem metricFields_keys (args : MetricRecordBaseArgs) :
    ∀ entry ∈ metricFields args, entry.key ∈ metricKeys := by
  intro entry member
  simp only [metricFields, List.mem_append] at member
  rcases member with first | description | unit | temporality | monotonic | scope
  · simp only [List.mem_cons, List.not_mem_nil, or_false] at first
    rcases first with rfl | rfl | rfl | rfl | rfl | rfl <;> simp [metricKeys]
  · split_ifs at description <;> simp_all [metricKeys]
  · split_ifs at unit <;> simp_all [metricKeys]
  · split at temporality
    next value _ =>
      rcases List.mem_cons.mp temporality with rfl | named
      · simp [metricKeys]
      · cases name : aggregationTemporalityName value <;> simp_all [metricKeys]
    next => cases temporality
  · cases given : args.metadata.isMonotonic <;> simp_all [metricKeys]
  · split_ifs at scope <;> simp_all [metricKeys]

/-- The keys of the fields that are listed behind them. -/
def pointKeys : List String :=
  ["otel.metric.value", "otel.metric.value_type", "otel.metric.count", "otel.metric.sum",
    "otel.metric.bucket_counts", "otel.metric.explicit_bounds", "otel.metric.scale", "otel.metric.zero_count",
    "otel.metric.positive_offset", "otel.metric.positive_bucket_counts", "otel.metric.negative_offset",
    "otel.metric.negative_bucket_counts", "otel.metric.quantile_values"]

/-- A field of the data point is found where the sender has not written its key. -/
theorem findAttribute_point {key : String} (field : key ∈ pointKeys) :
    findAttribute (point.toRecord doubles tenantId now) key =
      (sender doubles point.data.attributes key).or (lookup (point.data.fields doubles) key) := by
  have apart : ∀ key ∈ pointKeys, startsWith key "otel." = true ∧
      startsWith key "otel.metric.exemplar." = false ∧ key ∉ metricKeys := by
    decide
  obtain ⟨otel, other, behind⟩ := apart key field
  rw [findAttribute_toRecord doubles tenantId point now otel other, lookup_eq_none, Option.none_or]
  intro entry member same
  exact behind (same ▸ metricFields_keys _ entry member)

theorem lookup_toList (key wanted : String) (value : Option String) :
    lookup (value.map fun text => (⟨key, text⟩ : Attribute)).toList wanted = if key = wanted then value else none := by
  cases value <;> simp

@[simp] theorem lookup_optionalField (key wanted : String) (value : Option String) :
    lookup (optionalField key value) wanted = if key = wanted then value else none :=
  lookup_toList key wanted value

/-- The description and the unit are pushed unless they are empty, and then nothing else has
their keys but the sender's attributes. -/
theorem findAttribute_label {key label : String} (otel : startsWith key "otel." = true)
    (other : startsWith key "otel.metric.exemplar." = false)
    (early : lookup (metricFields (point.args doubles tenantId)) key = if label = "" then none else some label)
    (late : lookup (point.data.fields doubles) key = none) :
    (findAttribute (point.toRecord doubles tenantId now) key).getD "" = label ↔
      (label = "" → Unshadowed doubles point.data.attributes key fun text => text = "") := by
  rw [findAttribute_toRecord doubles tenantId point now otel other, early, late, Option.or_none]
  by_cases empty : label = ""
  · simp only [empty, if_true, Option.none_or, true_imp_iff, Unshadowed]
    cases sender doubles point.data.attributes key <;> simp
  · simp [empty]

theorem lookup_bucketFields (offsetKey bucketCountsKey wanted : String) (buckets : Option Buckets) :
    lookup (bucketFields offsetKey bucketCountsKey buckets) wanted =
      if offsetKey = wanted then buckets.map fun buckets => showI32 buckets.offset
      else if bucketCountsKey = wanted then buckets.map fun buckets => joinU64Values buckets.bucketCounts
      else none := by
  cases buckets <;> simp [bucketFields]

/-- The number of exemplars is found behind what the sender has written under its key. -/
theorem exemplarCount_toRecord : exemplarCount (point.toRecord doubles tenantId now) =
    countedExemplars doubles point.data.attributes point.data.exemplars := by
  have early : lookup (metricFields (point.args doubles tenantId)) "otel.metric.exemplar.count" = none := by
    apply lookup_eq_none
    intro entry member same
    exact absurd (metricFields_keys _ entry member) (by rw [same]; decide)
  have resource := lookup_resource doubles point.resource (show startsWith "otel.metric.exemplar.count" "otel." = true by decide)
  have late : lookup (point.data.fields doubles) "otel.metric.exemplar.count" = none := by
    cases point.data <;> simp [PointData.fields, lookup_bucketFields]
  obtain ⟨more, counted, shape⟩ := toRecord_counted doubles tenantId point now
  unfold exemplarCount countedExemplars parseU64Attribute
  rw [findAttribute_eq, shape]
  simp only [lookup_append, early, resource, late, Option.none_or]
  rw [counted]
  rfl

/-- Neither label has the key of another field of the metric. -/
theorem lookup_metricFields (args : MetricRecordBaseArgs) :
    (lookup (metricFields args) "otel.metric.description" =
      if args.metadata.description = "" then none else some args.metadata.description) ∧
    (lookup (metricFields args) "otel.metric.unit" =
      if args.metadata.unit = "" then none else some args.metadata.unit) := by
  cases temporality : args.metadata.aggregationTemporality with
  | none => constructor <;> split_ifs with empty <;> simp [metricFields, temporality, empty, lookup_toList, -Option.map_map]
  | some value => constructor <;> split_ifs with empty <;> simp [metricFields, temporality, empty, lookup_toList, -Option.map_map]

theorem description_toRecord :
    (findAttribute (point.toRecord doubles tenantId now) "otel.metric.description").getD "" = point.description ↔
      (point.description = "" →
        Unshadowed doubles point.data.attributes "otel.metric.description" fun text => text = "") := by
  apply findAttribute_label doubles tenantId point now (by decide) (by decide)
  · have early := (lookup_metricFields (point.args doubles tenantId)).1
    rwa [show (point.args doubles tenantId).metadata.description = point.description from
      metadata_description point] at early
  · cases point.data <;> simp [PointData.fields, lookup_bucketFields]

theorem unit_toRecord :
    (findAttribute (point.toRecord doubles tenantId now) "otel.metric.unit").getD "" = point.unit ↔
      (point.unit = "" →
        Unshadowed doubles point.data.attributes "otel.metric.unit" fun text => text = "") := by
  apply findAttribute_label doubles tenantId point now (by decide) (by decide)
  · have early := (lookup_metricFields (point.args doubles tenantId)).2
    rwa [show (point.args doubles tenantId).metadata.unit = point.unit from metadata_unit point] at early
  · cases point.data <;> simp [PointData.fields, lookup_bucketFields]

end Head

/-! ### Texts read back -/

section Texts

variable {doubles : DoubleText}

theorem isFinite_of_readFinite {text : List Char} {value : Double} (read : readFinite doubles text = some value) :
    value.isFinite = true := by
  obtain ⟨-, finite⟩ := Option.filter_eq_some_iff.mp read
  exact finite

theorem readFinite_render (lawful : doubles.Lawful) {value : Double} (finite : value.isFinite = true) :
    readFinite doubles (doubles.render value) = some value := by
  simp [readFinite, lawful.parse_render value finite, finite]

/-- An optional double is read back unless it is not finite. -/
theorem readFinite_map_iff (lawful : doubles.Lawful) (value : Option Double) :
    ((value.map (showDouble doubles)).bind fun text => readFinite doubles text.toList) = value ↔
      ∀ double ∈ value, double.isFinite = true := by
  cases value with
  | none => simp
  | some double =>
    simp only [Option.map_some, Option.bind_some, showDouble, String.toList_ofList, Option.mem_def,
      Option.some.injEq, forall_eq']
    exact ⟨isFinite_of_readFinite, readFinite_render lawful⟩

theorem exists_of_mem_readList {α : Type} {read : List Char → Option α} {text : String} {value : α}
    (member : value ∈ readList read text) : ∃ item, read item = some value := by
  obtain ⟨item, -, found⟩ := List.mem_filterMap.mp member
  exact ⟨_, found⟩

theorem digit_clean {c : Char} (digit : c.isDigit = true) : c ≠ ',' ∧ isWhitespace c = false := by
  refine ⟨?_, not_whitespace_of_isDigit digit⟩
  rintro rfl
  cases digit

theorem plain_clean {c : Char} (plain : c.isDigit = true ∨ c = '-' ∨ c = '.') :
    c ≠ ',' ∧ isWhitespace c = false := by
  rcases plain with digit | rfl | rfl
  · exact digit_clean digit
  · decide
  · decide

theorem readList_joinU64Values (values : List UInt64) : readList readU64Item (joinU64Values values) = values := by
  apply readList_joinWith
  · intro value _ c member
    exact digit_clean (decimal_isDigit member)
  · intro value _
    simp [readU64Item, parseUnsigned_decimal value.toNat_lt]
  · rfl

theorem readList_joinDoubles_iff (lawful : doubles.Lawful) (values : List Double) :
    readList (readFinite doubles) (joinDoubles doubles values) = values ↔
      ∀ value ∈ values, value.isFinite = true := by
  constructor
  · intro back value member
    rw [← back] at member
    obtain ⟨item, found⟩ := exists_of_mem_readList member
    exact isFinite_of_readFinite found
  · intro finite
    apply readList_joinWith
    · intro value member c inside
      exact plain_clean (lawful.plain value (finite value member) c inside)
    · intro value member
      exact readFinite_render lawful (finite value member)
    · simp [readFinite, lawful.parse_nil]

theorem isFinite_of_readQuantile {item : List Char} {entry : ValueAtQuantile}
    (read : readQuantile doubles item = some entry) :
    entry.quantile.isFinite = true ∧ entry.value.isFinite = true := by
  simp only [readQuantile, Option.bind_eq_bind, Option.bind_eq_some_iff] at read
  obtain ⟨⟨first, second⟩, -, quantile, -, value, -, made⟩ := read
  split_ifs at made with finite
  obtain rfl := Option.some.inj made
  simpa using finite

theorem readList_joinQuantileValues_iff (lawful : doubles.Lawful) (values : List ValueAtQuantile) :
    readList (readQuantile doubles) (joinQuantileValues doubles values) = values ↔
      ∀ entry ∈ values, entry.quantile.isFinite = true ∧ entry.value.isFinite = true := by
  constructor
  · intro back entry member
    rw [← back] at member
    obtain ⟨item, found⟩ := exists_of_mem_readList member
    exact isFinite_of_readQuantile found
  · intro finite
    apply readList_joinWith
    · intro entry member c inside
      obtain ⟨quantile, value⟩ := finite entry member
      rcases List.mem_append.mp inside with left | right
      · exact plain_clean (lawful.plain _ quantile c left)
      · rcases List.mem_cons.mp right with rfl | later
        · decide
        · exact plain_clean (lawful.plain _ value c later)
    · intro entry member
      obtain ⟨quantile, value⟩ := finite entry member
      have absent : ':' ∉ doubles.render entry.quantile := by
        intro inside
        exact absurd (lawful.plain _ quantile _ inside) (by decide)
      simp [readQuantile, splitOnce_append absent, lawful.parse_render _ quantile, lawful.parse_render _ value,
        quantile, value]
    · rfl

end Texts

/-! ### The fields of the data point -/

/-- Where the sender's text comes first, it decides; where there is none, the field does. -/
theorem read_or_iff {α : Type} {needed : Prop} (read : Option String → α) {given field : Option String} {value : α}
    (own : read field = value ↔ needed) (always : ∀ text, read (some text) = value → needed) :
    read (given.or field) = value ↔ needed ∧ ∀ text, given = some text → read (some text) = value := by
  cases given with
  | none => simp [own]
  | some text =>
    simp only [Option.some_or, Option.some.injEq, forall_eq']
    exact ⟨fun same => ⟨always text same, same⟩, fun both => both.2⟩

theorem read_or_iff_of_eq {α : Type} (read : Option String → α) {given field : Option String} {value : α}
    (own : read field = value) :
    read (given.or field) = value ↔ ∀ text, given = some text → read (some text) = value := by
  rw [read_or_iff read (iff_true_intro own) fun _ _ => trivial, true_and]

section Fields

variable {doubles : DoubleText} (tenantId : String) {point : MetricPoint} (now : BitVec 128) {key : String}

theorem parseU64Attribute_iff {value : UInt64} (field : key ∈ pointKeys)
    (listed : lookup (point.data.fields doubles) key = some (showU64 value)) :
    parseU64Attribute (point.toRecord doubles tenantId now) key = some value ↔
      Unshadowed doubles point.data.attributes key fun text => readU64 text = some value := by
  unfold parseU64Attribute
  rw [findAttribute_point doubles tenantId point now field, listed]
  exact read_or_iff_of_eq (fun text => text.bind readU64) (readU64_showU64 value)

theorem parseU64Attribute_getD_iff {value : UInt64} (field : key ∈ pointKeys)
    (listed : lookup (point.data.fields doubles) key = some (showU64 value)) :
    (parseU64Attribute (point.toRecord doubles tenantId now) key).getD 0 = value ↔
      Unshadowed doubles point.data.attributes key fun text => (readU64 text).getD 0 = value := by
  unfold parseU64Attribute
  rw [findAttribute_point doubles tenantId point now field, listed]
  exact read_or_iff_of_eq (fun text => (text.bind readU64).getD 0) (by simp)

theorem parseI32Attribute_getD_iff {value : Int32} (field : key ∈ pointKeys)
    (listed : lookup (point.data.fields doubles) key = some (showI32 value)) :
    (parseI32Attribute (point.toRecord doubles tenantId now) key).getD 0 = value ↔
      Unshadowed doubles point.data.attributes key fun text => (readI32 text).getD 0 = value := by
  unfold parseI32Attribute
  rw [findAttribute_point doubles tenantId point now field, listed]
  exact read_or_iff_of_eq (fun text => (text.bind readI32).getD 0) (by simp)

theorem parseDoubleAttribute_iff (lawful : doubles.Lawful) {value : Option Double} (field : key ∈ pointKeys)
    (listed : lookup (point.data.fields doubles) key = value.map (showDouble doubles)) :
    parseDoubleAttribute doubles (point.toRecord doubles tenantId now) key = value ↔
      (∀ double ∈ value, double.isFinite = true) ∧
      Unshadowed doubles point.data.attributes key fun text => readFinite doubles text.toList = value := by
  unfold parseDoubleAttribute
  rw [findAttribute_point doubles tenantId point now field, listed]
  refine read_or_iff (fun text => text.bind fun text => readFinite doubles text.toList)
    (readFinite_map_iff lawful value) ?_
  intro text same double member
  exact isFinite_of_readFinite (same.trans member)

theorem parseU64ListAttribute_iff {values : List UInt64} (field : key ∈ pointKeys)
    (listed : lookup (point.data.fields doubles) key = some (joinU64Values values)) :
    parseU64ListAttribute (point.toRecord doubles tenantId now) key = values ↔
      Unshadowed doubles point.data.attributes key fun text => readList readU64Item text = values := by
  unfold parseU64ListAttribute
  rw [findAttribute_point doubles tenantId point now field, listed]
  exact read_or_iff_of_eq (fun text => (text.map (readList readU64Item)).getD [])
    (readList_joinU64Values values)

theorem parseDoubleListAttribute_iff (lawful : doubles.Lawful) {values : List Double} (field : key ∈ pointKeys)
    (listed : lookup (point.data.fields doubles) key = some (joinDoubles doubles values)) :
    parseDoubleListAttribute doubles (point.toRecord doubles tenantId now) key = values ↔
      (∀ value ∈ values, value.isFinite = true) ∧
      Unshadowed doubles point.data.attributes key fun text => readList (readFinite doubles) text = values := by
  unfold parseDoubleListAttribute
  rw [findAttribute_point doubles tenantId point now field, listed]
  refine read_or_iff (fun text => (text.map (readList (readFinite doubles))).getD [])
    (readList_joinDoubles_iff lawful values) ?_
  intro text same value member
  rw [← same] at member
  obtain ⟨item, found⟩ := exists_of_mem_readList member
  exact isFinite_of_readFinite found

theorem parseQuantileValuesAttribute_iff (lawful : doubles.Lawful) {values : List ValueAtQuantile}
    (field : key ∈ pointKeys)
    (listed : lookup (point.data.fields doubles) key = some (joinQuantileValues doubles values)) :
    parseQuantileValuesAttribute doubles (point.toRecord doubles tenantId now) key = values ↔
      (∀ entry ∈ values, entry.quantile.isFinite = true ∧ entry.value.isFinite = true) ∧
      Unshadowed doubles point.data.attributes key fun text => readList (readQuantile doubles) text = values := by
  unfold parseQuantileValuesAttribute
  rw [findAttribute_point doubles tenantId point now field, listed]
  refine read_or_iff (fun text => (text.map (readList (readQuantile doubles))).getD [])
    (readList_joinQuantileValues_iff lawful values) ?_
  intro text same entry member
  rw [← same] at member
  obtain ⟨item, found⟩ := exists_of_mem_readList member
  exact isFinite_of_readQuantile found

theorem recordToExponentialBuckets_iff {offsetKey bucketCountsKey : String} {buckets : Option Buckets}
    (offsetField : offsetKey ∈ pointKeys) (bucketCountsField : bucketCountsKey ∈ pointKeys)
    (offset : lookup (point.data.fields doubles) offsetKey = buckets.map fun buckets => showI32 buckets.offset)
    (bucketCounts : lookup (point.data.fields doubles) bucketCountsKey =
      buckets.map fun buckets => joinU64Values buckets.bucketCounts) :
    recordToExponentialBuckets (point.toRecord doubles tenantId now) offsetKey bucketCountsKey = buckets ↔
      BucketsUnshadowed doubles point.data.attributes offsetKey bucketCountsKey buckets := by
  unfold recordToExponentialBuckets
  cases buckets with
  | none =>
    have counts : parseU64ListAttribute (point.toRecord doubles tenantId now) bucketCountsKey = [] ↔
        Unshadowed doubles point.data.attributes bucketCountsKey fun text => readList readU64Item text = [] := by
      unfold parseU64ListAttribute
      rw [findAttribute_point doubles tenantId point now bucketCountsField, bucketCounts]
      exact read_or_iff_of_eq (fun text => (text.map (readList readU64Item)).getD []) rfl
    simp only [BucketsUnshadowed, ← counts]
    split_ifs with empty
    · simpa using empty
    · simpa using empty
  | some buckets =>
    have counts := parseU64ListAttribute_iff tenantId now bucketCountsField bucketCounts
    have first := parseI32Attribute_getD_iff tenantId now offsetField offset
    simp only [BucketsUnshadowed, ← counts, ← first]
    generalize parseU64ListAttribute (point.toRecord doubles tenantId now) bucketCountsKey = sent
    obtain ⟨offset, values⟩ := buckets
    cases sent with
    | nil =>
      simp only [List.isEmpty_nil, if_true, reduceCtorEq, false_iff]
      rintro ⟨some, none, -⟩
      exact some none.symm
    | cons value rest =>
      simp only [List.isEmpty_cons, Bool.false_eq_true, if_false, Option.some.injEq, Buckets.mk.injEq]
      constructor
      · rintro ⟨same, rfl⟩
        exact ⟨List.cons_ne_nil value rest, rfl, same⟩
      · rintro ⟨-, rfl, same⟩
        exact ⟨same, rfl⟩

theorem readNumber_numberText (lawful : doubles.Lawful) {value : NumberValue} (finite : value.isFinite = true) :
    readNumber doubles (numberText doubles value).1 (numberText doubles value).2 = some value := by
  cases value with
  | asDouble value => simp [readNumber, numberText, showDouble, readFinite_render lawful (show value.isFinite = true from finite)]
  | asInt value => simp [readNumber, numberText]

theorem metricValue_iff (lawful : doubles.Lawful) {value : NumberValue} (finite : value.isFinite = true)
    (text : lookup (point.data.fields doubles) "otel.metric.value" = some (numberText doubles value).2)
    (kind : lookup (point.data.fields doubles) "otel.metric.value_type" = some (numberText doubles value).1) :
    metricValue doubles (point.toRecord doubles tenantId now) = some value ↔
      NumberUnshadowed doubles point.data.attributes value := by
  unfold metricValue NumberUnshadowed
  rw [findAttribute_point doubles tenantId point now (by decide), text,
    findAttribute_point doubles tenantId point now (by decide), kind]
  have back := readNumber_numberText lawful finite
  cases sender doubles point.data.attributes "otel.metric.value" <;>
    cases sender doubles point.data.attributes "otel.metric.value_type" <;>
      simp_all [readNumber]

end Fields

/-! ### Data points -/

/-- The value that a number point is listed with is finite. -/
def PointData.Valued : PointData → Prop
  | .gauge _ value => value.isFinite = true
  | .sum _ value _ _ => value.isFinite = true
  | _ => True

section Points

variable {doubles : DoubleText} (tenantId : String) {point : MetricPoint} (now : BitVec 128) (maxExemplars : Nat)

theorem number_kept_iff (lawful : doubles.Lawful) {received : NumberDataPoint} {value : NumberValue}
    (finite : value.isFinite = true) (start : received.startTimeUnixNano = point.data.startTimeUnixNano)
    (time : received.timeUnixNano = point.data.timeUnixNano) (flags : received.flags = point.data.flags)
    (text : lookup (point.data.fields doubles) "otel.metric.value" = some (numberText doubles value).2)
    (kind : lookup (point.data.fields doubles) "otel.metric.value_type" = some (numberText doubles value).1) :
    (∃ read, metricValue doubles (point.toRecord doubles tenantId now) = some read ∧
      ∃ sent, recordToNumberDataPoint doubles maxExemplars (point.toRecord doubles tenantId now) read = some sent ∧
        NumberKept received value sent) ↔
      NumberUnshadowed doubles point.data.attributes value ∧
        countedExemplars doubles point.data.attributes point.data.exemplars ≤ maxExemplars := by
  rw [← metricValue_iff tenantId now lawful finite text kind, ← exemplarCount_toRecord doubles tenantId point now,
    ← recordToExemplars_iff doubles maxExemplars]
  constructor
  · rintro ⟨read, found, sent, made, kept⟩
    obtain ⟨exemplars, collected, same⟩ := Option.bind_eq_some_iff.mp made
    obtain rfl := Option.some.inj same
    exact ⟨found.trans kept.value, exemplars, collected⟩
  · rintro ⟨read, exemplars, collected⟩
    refine ⟨value, read, _, Option.bind_eq_some_iff.mpr ⟨exemplars, collected, rfl⟩, ?_, ?_, ?_, rfl⟩
    · exact (metricStartTimeUnixNano_toRecord doubles tenantId point now).trans start.symm
    · exact (metricTimeUnixNano_toRecord doubles tenantId point now).trans time.symm
    · exact (metricFlags_toRecord doubles tenantId point now).trans flags.symm

theorem histogram_kept_iff (lawful : doubles.Lawful) {received : HistogramDataPoint} {temporality : Int32}
    (data : point.data = .histogram received temporality) :
    (∃ sent, recordToHistogramDataPoint doubles maxExemplars (point.toRecord doubles tenantId now) = some (some sent) ∧
      HistogramKept received sent) ↔ HistogramUnshadowed doubles point.data.attributes received ∧
        countedExemplars doubles point.data.attributes point.data.exemplars ≤ maxExemplars := by
  have count := parseU64Attribute_iff tenantId now (by decide)
    (show lookup (point.data.fields doubles) "otel.metric.count" = some (showU64 received.count) by
      simp [data, PointData.fields])
  have sum := parseDoubleAttribute_iff tenantId now lawful (by decide)
    (show lookup (point.data.fields doubles) "otel.metric.sum" = received.sum.map (showDouble doubles) by
      simp [data, PointData.fields])
  have bucketCounts := parseU64ListAttribute_iff tenantId now (by decide)
    (show lookup (point.data.fields doubles) "otel.metric.bucket_counts" =
      some (joinU64Values received.bucketCounts) by simp [data, PointData.fields])
  have explicitBounds := parseDoubleListAttribute_iff tenantId now lawful (by decide)
    (show lookup (point.data.fields doubles) "otel.metric.explicit_bounds" =
      some (joinDoubles doubles received.explicitBounds) by simp [data, PointData.fields])
  have start := metricStartTimeUnixNano_toRecord doubles tenantId point now
  have time := metricTimeUnixNano_toRecord doubles tenantId point now
  have flags := metricFlags_toRecord doubles tenantId point now
  rw [data] at start time flags
  rw [← exemplarCount_toRecord doubles tenantId point now, ← recordToExemplars_iff doubles maxExemplars]
  unfold recordToHistogramDataPoint
  constructor
  · rintro ⟨sent, made, kept⟩
    cases found : parseU64Attribute (point.toRecord doubles tenantId now) "otel.metric.count" with
    | none =>
      rw [found] at made
      cases made
    | some read =>
      rw [found] at made
      obtain ⟨exemplars, collected, same⟩ := Option.bind_eq_some_iff.mp made
      obtain rfl := Option.some.inj (Option.some.inj same)
      obtain ⟨finiteSum, sumRead⟩ := sum.mp kept.sum
      obtain ⟨finiteBounds, boundsRead⟩ := explicitBounds.mp kept.explicitBounds
      exact ⟨⟨count.mp (found.trans (congrArg some kept.count)), finiteSum, sumRead,
        bucketCounts.mp kept.bucketCounts, finiteBounds, boundsRead⟩, exemplars, collected⟩
  · rintro ⟨unshadowed, exemplars, collected⟩
    rw [count.mpr unshadowed.count]
    refine ⟨_, Option.bind_eq_some_iff.mpr ⟨exemplars, collected, rfl⟩, start, time, flags, rfl, ?_, ?_, ?_⟩
    · exact sum.mpr ⟨unshadowed.finiteSum, unshadowed.sum⟩
    · exact bucketCounts.mpr unshadowed.bucketCounts
    · exact explicitBounds.mpr ⟨unshadowed.finiteBounds, unshadowed.explicitBounds⟩

theorem exponential_kept_iff (lawful : doubles.Lawful) {received : ExponentialHistogramDataPoint}
    {temporality : Int32} (data : point.data = .exponentialHistogram received temporality) :
    (∃ sent, recordToExponentialHistogramDataPoint doubles maxExemplars (point.toRecord doubles tenantId now) =
        some (some sent) ∧ ExponentialKept received sent) ↔
      ExponentialUnshadowed doubles point.data.attributes received ∧
        countedExemplars doubles point.data.attributes point.data.exemplars ≤ maxExemplars := by
  have count := parseU64Attribute_iff tenantId now (by decide)
    (show lookup (point.data.fields doubles) "otel.metric.count" = some (showU64 received.count) by
      simp [data, PointData.fields])
  have sum := parseDoubleAttribute_iff tenantId now lawful (by decide)
    (show lookup (point.data.fields doubles) "otel.metric.sum" = received.sum.map (showDouble doubles) by
      simp [data, PointData.fields, lookup_bucketFields])
  have scale := parseI32Attribute_getD_iff tenantId now (by decide)
    (show lookup (point.data.fields doubles) "otel.metric.scale" = some (showI32 received.scale) by
      simp [data, PointData.fields])
  have zeroCount := parseU64Attribute_getD_iff tenantId now (by decide)
    (show lookup (point.data.fields doubles) "otel.metric.zero_count" = some (showU64 received.zeroCount) by
      simp [data, PointData.fields])
  have positive := recordToExponentialBuckets_iff tenantId now (by decide) (by decide)
    (show lookup (point.data.fields doubles) "otel.metric.positive_offset" =
      received.positive.map fun buckets => showI32 buckets.offset by
        simp [data, PointData.fields, lookup_bucketFields])
    (show lookup (point.data.fields doubles) "otel.metric.positive_bucket_counts" =
      received.positive.map fun buckets => joinU64Values buckets.bucketCounts by
        simp [data, PointData.fields, lookup_bucketFields])
  have negative := recordToExponentialBuckets_iff tenantId now (by decide) (by decide)
    (show lookup (point.data.fields doubles) "otel.metric.negative_offset" =
      received.negative.map fun buckets => showI32 buckets.offset by
        simp [data, PointData.fields, lookup_bucketFields])
    (show lookup (point.data.fields doubles) "otel.metric.negative_bucket_counts" =
      received.negative.map fun buckets => joinU64Values buckets.bucketCounts by
        simp [data, PointData.fields, lookup_bucketFields])
  have start := metricStartTimeUnixNano_toRecord doubles tenantId point now
  have time := metricTimeUnixNano_toRecord doubles tenantId point now
  have flags := metricFlags_toRecord doubles tenantId point now
  rw [data] at start time flags
  rw [← exemplarCount_toRecord doubles tenantId point now, ← recordToExemplars_iff doubles maxExemplars]
  unfold recordToExponentialHistogramDataPoint
  constructor
  · rintro ⟨sent, made, kept⟩
    cases found : parseU64Attribute (point.toRecord doubles tenantId now) "otel.metric.count" with
    | none =>
      rw [found] at made
      cases made
    | some read =>
      rw [found] at made
      obtain ⟨exemplars, collected, same⟩ := Option.bind_eq_some_iff.mp made
      obtain rfl := Option.some.inj (Option.some.inj same)
      obtain ⟨finiteSum, sumRead⟩ := sum.mp kept.sum
      exact ⟨⟨count.mp (found.trans (congrArg some kept.count)), finiteSum, sumRead, scale.mp kept.scale,
        zeroCount.mp kept.zeroCount, positive.mp kept.positive, negative.mp kept.negative⟩, exemplars, collected⟩
  · rintro ⟨unshadowed, exemplars, collected⟩
    rw [count.mpr unshadowed.count]
    refine ⟨_, Option.bind_eq_some_iff.mpr ⟨exemplars, collected, rfl⟩, start, time, flags, rfl, ?_, ?_, ?_, ?_, ?_⟩
    · exact sum.mpr ⟨unshadowed.finiteSum, unshadowed.sum⟩
    · exact scale.mpr unshadowed.scale
    · exact zeroCount.mpr unshadowed.zeroCount
    · exact positive.mpr unshadowed.positive
    · exact negative.mpr unshadowed.negative

theorem summary_kept_iff (lawful : doubles.Lawful) {received : SummaryDataPoint}
    (data : point.data = .summary received) :
    (∃ sent, recordToSummaryDataPoint doubles (point.toRecord doubles tenantId now) = some sent ∧
      SummaryKept received sent) ↔ SummaryUnshadowed doubles point.data.attributes received := by
  have count := parseU64Attribute_iff tenantId now (by decide)
    (show lookup (point.data.fields doubles) "otel.metric.count" = some (showU64 received.count) by
      simp [data, PointData.fields])
  have sum := parseDoubleAttribute_iff tenantId now lawful (by decide)
    (show lookup (point.data.fields doubles) "otel.metric.sum" = (some received.sum).map (showDouble doubles) by
      simp [data, PointData.fields])
  have quantiles := parseQuantileValuesAttribute_iff tenantId now lawful (by decide)
    (show lookup (point.data.fields doubles) "otel.metric.quantile_values" =
      some (joinQuantileValues doubles received.quantileValues) by simp [data, PointData.fields])
  have start := metricStartTimeUnixNano_toRecord doubles tenantId point now
  have time := metricTimeUnixNano_toRecord doubles tenantId point now
  have flags := metricFlags_toRecord doubles tenantId point now
  rw [data] at start time flags
  constructor
  · rintro ⟨sent, made, kept⟩
    obtain ⟨read, found, rest⟩ := Option.bind_eq_some_iff.mp made
    obtain ⟨total, foundSum, same⟩ := Option.bind_eq_some_iff.mp rest
    obtain rfl := Option.some.inj same
    obtain ⟨finiteSum, sumRead⟩ := sum.mp (foundSum.trans (congrArg some kept.sum))
    obtain ⟨finiteQuantiles, quantilesRead⟩ := quantiles.mp kept.quantileValues
    exact ⟨count.mp (found.trans (congrArg some kept.count)), finiteSum _ rfl, sumRead, finiteQuantiles,
      quantilesRead⟩
  · intro unshadowed
    have total : ∀ double ∈ some received.sum, Double.isFinite double = true := by
      intro double member
      rw [← Option.some.inj member]
      exact unshadowed.finiteSum
    refine ⟨_, Option.bind_eq_some_iff.mpr ⟨_, count.mpr unshadowed.count, Option.bind_eq_some_iff.mpr
      ⟨_, sum.mpr ⟨total, unshadowed.sum⟩, rfl⟩⟩, start, time, flags, rfl, rfl, ?_⟩
    exact quantiles.mpr ⟨unshadowed.finiteQuantiles, unshadowed.quantileValues⟩

theorem exists_made_iff {α β : Type} {built : Built (Option α)} {make : α → β} {kept : β → Prop} :
    (∃ result, (do return (← built).map make : Built (Option β)) = some (some result) ∧ kept result) ↔
      ∃ inner, built = some (some inner) ∧ kept (make inner) := by
  rcases built with _ | _ | inner <;> simp

/-- Which data a record of each kind is read as. -/
theorem recordToMetricData_iff {record : TelemetryRecord} {kind : String}
    (found : findAttribute record "otel.metric.data_type" = some kind) {kept : MetricData → Prop} :
    (∃ data, recordToMetricData doubles maxExemplars record = some (some data) ∧ kept data) ↔
      if kind = "sum" then
        ∃ value, metricValue doubles record = some value ∧
          ∃ sent, recordToNumberDataPoint doubles maxExemplars record value = some sent ∧
            kept (.sum [sent] (metricAggregationTemporality record)
              (((findAttribute record "otel.metric.is_monotonic").bind readBool).getD false))
      else if kind = "histogram" then
        ∃ sent, recordToHistogramDataPoint doubles maxExemplars record = some (some sent) ∧
          kept (.histogram [sent] (metricAggregationTemporality record))
      else if kind = "exponential_histogram" then
        ∃ sent, recordToExponentialHistogramDataPoint doubles maxExemplars record = some (some sent) ∧
          kept (.exponentialHistogram [sent] (metricAggregationTemporality record))
      else if kind = "summary" then
        ∃ sent, recordToSummaryDataPoint doubles record = some sent ∧ kept (.summary [sent])
      else
        ∃ value, metricValue doubles record = some value ∧
          ∃ sent, recordToNumberDataPoint doubles maxExemplars record value = some sent ∧ kept (.gauge [sent]) := by
  unfold recordToMetricData
  rw [found]
  split
  next same =>
    cases same
    rw [if_pos rfl]
    cases metricValue doubles record with
    | none => simp
    | some value => cases made : recordToNumberDataPoint doubles maxExemplars record value <;> simp [made]
  next same =>
    cases same
    rw [if_neg (by decide), if_pos rfl]
    exact exists_made_iff
  next same =>
    cases same
    rw [if_neg (by decide), if_neg (by decide), if_pos rfl]
    exact exists_made_iff
  next same =>
    cases same
    rw [if_neg (by decide), if_neg (by decide), if_neg (by decide), if_pos rfl]
    cases recordToSummaryDataPoint doubles record <;> simp
  next sum histogram exponential summary =>
    rw [if_neg (by simpa using sum), if_neg (by simpa using histogram), if_neg (by simpa using exponential),
      if_neg (by simpa using summary)]
    cases metricValue doubles record with
    | none => simp
    | some value => cases made : recordToNumberDataPoint doubles maxExemplars record value <;> simp [made]

theorem data_kept_iff (lawful : doubles.Lawful) (valued : point.data.Valued) :
    (∃ data, recordToMetricData doubles maxExemplars (point.toRecord doubles tenantId now) = some (some data) ∧
      DataKept point.data data) ↔ DataUnshadowed doubles point.data.attributes maxExemplars point.data := by
  rw [recordToMetricData_iff maxExemplars (dataType_toRecord doubles tenantId point now)]
  have temporal : ∀ temporality, point.metadata.aggregationTemporality = some temporality →
      metricAggregationTemporality (point.toRecord doubles tenantId now) = temporality :=
    fun _ given => metricAggregationTemporality_toRecord doubles tenantId point now given
  have monotonic : ∀ isMonotonic, point.metadata.isMonotonic = some isMonotonic →
      ((findAttribute (point.toRecord doubles tenantId now) "otel.metric.is_monotonic").bind readBool).getD false =
        isMonotonic :=
    fun _ given => isMonotonic_toRecord doubles tenantId point now given
  cases data : point.data with
  | gauge received value =>
    have kind : point.metadata.dataType = "gauge" := by simp [MetricPoint.metadata, data]
    rw [data] at valued
    have number : _ ↔ NumberUnshadowed doubles point.data.attributes value ∧
        countedExemplars doubles point.data.attributes point.data.exemplars ≤ maxExemplars :=
      number_kept_iff tenantId now maxExemplars lawful valued (show received.startTimeUnixNano = _ by rw [data]; rfl)
        (by rw [data]; rfl) (by rw [data]; rfl) (by simp [data, PointData.fields]) (by simp [data, PointData.fields])
    rw [kind, if_neg (by decide), if_neg (by decide), if_neg (by decide), if_neg (by decide)]
    rw [data] at number
    exact number
  | sum received value temporality isMonotonic =>
    have kind : point.metadata.dataType = "sum" := by simp [MetricPoint.metadata, data]
    rw [data] at valued
    have number : _ ↔ NumberUnshadowed doubles point.data.attributes value ∧
        countedExemplars doubles point.data.attributes point.data.exemplars ≤ maxExemplars :=
      number_kept_iff tenantId now maxExemplars lawful valued (show received.startTimeUnixNano = _ by rw [data]; rfl)
        (by rw [data]; rfl) (by rw [data]; rfl) (by simp [data, PointData.fields]) (by simp [data, PointData.fields])
    rw [kind, if_pos rfl, temporal temporality (by simp [MetricPoint.metadata, data]),
      monotonic isMonotonic (by simp [MetricPoint.metadata, data])]
    rw [data] at number
    simpa [DataKept, DataUnshadowed, PointData.exemplars] using number
  | histogram received temporality =>
    have kind : point.metadata.dataType = "histogram" := by simp [MetricPoint.metadata, data]
    have kept := histogram_kept_iff tenantId now maxExemplars lawful data
    rw [data] at kept
    rw [kind, if_neg (by decide), if_pos rfl,
      temporal temporality (by simp [MetricPoint.metadata, data])]
    simpa [DataKept, DataUnshadowed, PointData.exemplars] using kept
  | exponentialHistogram received temporality =>
    have kind : point.metadata.dataType = "exponential_histogram" := by simp [MetricPoint.metadata, data]
    have kept := exponential_kept_iff tenantId now maxExemplars lawful data
    rw [data] at kept
    rw [kind, if_neg (by decide), if_neg (by decide), if_pos rfl,
      temporal temporality (by simp [MetricPoint.metadata, data])]
    simpa [DataKept, DataUnshadowed, PointData.exemplars] using kept
  | summary received =>
    have kind : point.metadata.dataType = "summary" := by simp [MetricPoint.metadata, data]
    have kept := summary_kept_iff tenantId now lawful data
    rw [data] at kept
    rw [kind, if_neg (by decide), if_neg (by decide), if_neg (by decide), if_pos rfl]
    exact kept

/-- One data point, through its record. -/
theorem metric_kept_iff (lawful : doubles.Lawful) (valued : point.data.Valued) :
    (∃ sent, recordToMetric doubles maxExemplars (point.toRecord doubles tenantId now) = some (some sent) ∧
      MetricKept point sent) ↔ point.Unshadowed doubles maxExemplars := by
  have read : recordToMetric doubles maxExemplars (point.toRecord doubles tenantId now) =
      do return (← recordToMetricData doubles maxExemplars (point.toRecord doubles tenantId now)).map fun data =>
        ⟨point.name, (findAttribute (point.toRecord doubles tenantId now) "otel.metric.description").getD "",
          (findAttribute (point.toRecord doubles tenantId now) "otel.metric.unit").getD "", some data⟩ := by
    unfold recordToMetric
    rw [metricName_toRecord]
  rw [read, exists_made_iff]
  constructor
  · rintro ⟨data, found, kept⟩
    obtain ⟨sent, same, keptData⟩ := kept.data
    obtain rfl := Option.some.inj same
    exact ⟨(description_toRecord doubles tenantId point now).mp kept.description,
      (unit_toRecord doubles tenantId point now).mp kept.unit,
      (data_kept_iff tenantId now maxExemplars lawful valued).mp ⟨data, found, keptData⟩⟩
  · intro unshadowed
    obtain ⟨data, found, keptData⟩ := (data_kept_iff tenantId now maxExemplars lawful valued).mpr unshadowed.data
    exact ⟨data, found, rfl, (description_toRecord doubles tenantId point now).mpr unshadowed.description,
      (unit_toRecord doubles tenantId point now).mpr unshadowed.unit, data, rfl, keptData⟩

end Points

/-! ### Requests -/

theorem MetricData.points_valued (data : MetricData) : ∀ point ∈ data.points, point.Valued := by
  have finite : ∀ (point : NumberDataPoint) value, point.finiteValue = some value → value.isFinite = true :=
    fun _ _ found => (Option.filter_eq_some_iff.mp found).2
  intro point member
  cases data with
  | gauge dataPoints =>
    obtain ⟨number, -, made⟩ := List.mem_filterMap.mp member
    obtain ⟨value, found, rfl⟩ := Option.map_eq_some_iff.mp made
    exact finite number value found
  | sum dataPoints temporality isMonotonic =>
    obtain ⟨number, -, made⟩ := List.mem_filterMap.mp member
    obtain ⟨value, found, rfl⟩ := Option.map_eq_some_iff.mp made
    exact finite number value found
  | histogram dataPoints temporality =>
    obtain ⟨number, -, rfl⟩ := List.mem_map.mp member
    trivial
  | exponentialHistogram dataPoints temporality =>
    obtain ⟨number, -, rfl⟩ := List.mem_map.mp member
    trivial
  | summary dataPoints =>
    obtain ⟨number, -, rfl⟩ := List.mem_map.mp member
    trivial

theorem points_valued {request : ExportMetricsServiceRequest} {point : MetricPoint}
    (member : point ∈ request.points) : point.data.Valued := by
  obtain ⟨resourceMetrics, -, inResource⟩ := List.mem_flatMap.mp member
  obtain ⟨scopeMetrics, -, inScope⟩ := List.mem_flatMap.mp inResource
  obtain ⟨metric, -, inMetric⟩ := List.mem_flatMap.mp inScope
  obtain ⟨data, listed, rfl⟩ := List.mem_map.mp inMetric
  cases given : metric.data with
  | none => simp [given] at listed
  | some kind => exact kind.points_valued data (by simpa [given] using listed)

/-- Results are in step with the entries only where none of them is missing. -/
theorem forall₂_filterMap_iff {α β γ : Type} {relation : α → γ → Prop} {read : β → Option γ} {entries : List α}
    {records : List β} (aligned : entries.length = records.length) :
    List.Forall₂ relation entries (records.filterMap read) ↔
      List.Forall₂ (fun entry record => ∃ result, read record = some result ∧ relation entry result)
        entries records := by
  constructor
  · intro related
    have full : (records.filterMap read).length = records.length := related.length_eq.symm.trans aligned
    rw [List.filterMap_length_eq_length] at full
    clear aligned
    induction records generalizing entries with
    | nil =>
      rw [List.filterMap_nil, List.forall₂_nil_right_iff] at related
      rw [related]
      exact List.Forall₂.nil
    | cons record rest ih =>
      obtain ⟨result, found⟩ := Option.isSome_iff_exists.mp (full record List.mem_cons_self)
      rw [List.filterMap_cons_some found] at related
      cases related with
      | cons first later =>
        exact List.Forall₂.cons ⟨result, found, first⟩
          (ih later fun other member => full other (List.mem_cons_of_mem _ member))
  · intro related
    clear aligned
    induction related with
    | nil => exact List.Forall₂.nil
    | cons first _ ih =>
      obtain ⟨result, found, kept⟩ := first
      rw [List.filterMap_cons_some found]
      exact List.Forall₂.cons kept ih

/-- Entries and results meet through the records between them. -/
theorem forall₂_through_iff {α β γ : Type} {made : β → γ → Prop} {relation : α → γ → Prop} {entries : List α}
    {records : List β} :
    (∃ results, List.Forall₂ made records results ∧ List.Forall₂ relation entries results) ↔
      List.Forall₂ (fun entry record => ∃ result, made record result ∧ relation entry result) entries records := by
  constructor
  · rintro ⟨results, each, related⟩
    induction each generalizing entries with
    | nil =>
      cases related
      exact .nil
    | cons first rest ih =>
      cases related with
      | cons head tail => exact .cons ⟨_, first, head⟩ (ih tail)
  · intro through
    induction through with
    | nil => exact ⟨[], .nil, .nil⟩
    | cons head _ ih =>
      obtain ⟨result, first, holds⟩ := head
      obtain ⟨results, each, related⟩ := ih
      exact ⟨result :: results, .cons first each, .cons holds related⟩

theorem metrics_batchToMetricsRequest (doubles : DoubleText) (maxExemplars : Nat) {records : List TelemetryRecord}
    (metrics : ∀ record ∈ records, record.signal = .metric) :
    (batchToMetricsRequest doubles maxExemplars ⟨records⟩).map ExportMetricsServiceRequest.metrics =
      (records.mapM (recordToMetric doubles maxExemplars)).map (List.filterMap id) := by
  have all : records.filter (fun record => record.signal == .metric) = records := by
    rw [List.filter_eq_self]
    intro record member
    simp [metrics record member]
  simp only [batchToMetricsRequest, all]
  clear all metrics
  induction records with
  | nil => rfl
  | cons record rest step =>
    rw [List.mapM_cons, List.mapM_cons, recordToResourceMetric]
    cases recordToMetric doubles maxExemplars record with
    | none => rfl
    | some sent =>
      cases resources : rest.mapM (recordToResourceMetric doubles maxExemplars) with
      | none =>
        cases others : rest.mapM (recordToMetric doubles maxExemplars) with
        | none => rfl
        | some made => simp [resources, others] at step
      | some built =>
        cases others : rest.mapM (recordToMetric doubles maxExemplars) with
        | none => simp [resources, others] at step
        | some made =>
          simp only [resources, others] at step
          cases sent <;> simpa [resources, others, ExportMetricsServiceRequest.metrics] using step

theorem metrics_forwarded (doubles : DoubleText) (maxExemplars : Nat) (clock : Nat → BitVec 128) (tenantId : String)
    (request : ExportMetricsServiceRequest) :
    (batchToMetricsRequest doubles maxExemplars ⟨metricsRequestToRecords doubles clock tenantId request⟩).map
        ExportMetricsServiceRequest.metrics =
      ((metricsRequestToRecords doubles clock tenantId request).mapM (recordToMetric doubles maxExemplars)).map
        (List.filterMap id) := by
  apply metrics_batchToMetricsRequest
  intro record member
  rw [metricsRequestToRecords_eq] at member
  obtain ⟨make, listed, now, rfl⟩ := mem_stamp member
  obtain ⟨point, -, rfl⟩ := List.mem_map.mp listed
  obtain ⟨more, -, shape⟩ := toRecord_attributes doubles tenantId point now
  rw [shape]

/-- A traversal that may not return gives each entry its result exactly when each record has one. -/
theorem forall₂_mapM_iff {α β γ : Type} {relation : α → γ → Prop} {read : β → Built (Option γ)} {entries : List α}
    {records : List β} (aligned : entries.length = records.length) :
    (∃ results, (records.mapM read).map (List.filterMap id) = some results ∧ List.Forall₂ relation entries results) ↔
      List.Forall₂ (fun entry record => ∃ result, read record = some (some result) ∧ relation entry result)
        entries records := by
  have through : List.Forall₂ (fun entry record => ∃ result, read record = some (some result) ∧ relation entry result)
      entries records ↔ List.Forall₂ (fun entry record => ∃ made, read record = some made ∧
        ∃ result, id made = some result ∧ relation entry result) entries records := by
    have same : ∀ entry record, (∃ result, read record = some (some result) ∧ relation entry result) ↔
        ∃ made, read record = some made ∧ ∃ result, id made = some result ∧ relation entry result := by
      intro entry record
      constructor
      · rintro ⟨result, found, holds⟩
        exact ⟨_, found, result, rfl, holds⟩
      · rintro ⟨made, found, result, rfl, holds⟩
        exact ⟨result, found, holds⟩
    simp only [same]
  rw [through, ← forall₂_through_iff]
  constructor
  · rintro ⟨results, found, related⟩
    obtain ⟨made, each, rfl⟩ := Option.map_eq_some_iff.mp found
    have all := mapM_eq_some_iff.mp each
    exact ⟨made, all, (forall₂_filterMap_iff (aligned.trans all.length_eq)).mp related⟩
  · rintro ⟨made, all, related⟩
    exact ⟨made.filterMap id, Option.map_eq_some_iff.mpr ⟨made, mapM_eq_some_iff.mpr all, rfl⟩,
      (forall₂_filterMap_iff (aligned.trans all.length_eq)).mpr related⟩

/-- The data points of a request are all sent on as they were received exactly when none of them
is shadowed by its own attributes. -/
theorem metrics_kept_iff_unshadowed (doubles : DoubleText) (lawful : doubles.Lawful) (maxExemplars : Nat)
    (clock : Nat → BitVec 128) (tenantId : String) (request : ExportMetricsServiceRequest) :
    (∃ sent, batchToMetricsRequest doubles maxExemplars ⟨metricsRequestToRecords doubles clock tenantId request⟩ =
        some sent ∧ List.Forall₂ MetricKept request.points sent.metrics) ↔
      ∀ point ∈ request.points, point.Unshadowed doubles maxExemplars := by
  have sent : (∃ sent, batchToMetricsRequest doubles maxExemplars
      ⟨metricsRequestToRecords doubles clock tenantId request⟩ = some sent ∧
        List.Forall₂ MetricKept request.points sent.metrics) ↔
      ∃ metrics, (batchToMetricsRequest doubles maxExemplars
        ⟨metricsRequestToRecords doubles clock tenantId request⟩).map ExportMetricsServiceRequest.metrics = some metrics ∧
          List.Forall₂ MetricKept request.points metrics := by
    simp only [Option.map_eq_some_iff]
    exact ⟨fun ⟨sent, built, kept⟩ => ⟨_, ⟨sent, built, rfl⟩, kept⟩,
      fun ⟨_, ⟨sent, built, same⟩, kept⟩ => ⟨sent, built, same ▸ kept⟩⟩
  rw [sent, metrics_forwarded, metricsRequestToRecords_eq, forall₂_mapM_iff (by simp [stamp])]
  apply forall₂_stamp_iff
  intro point member now
  exact metric_kept_iff tenantId now maxExemplars lawful (points_valued member)

/-- One gauge with the value seven, under the given attributes. -/
def queueDepthRequest (attributes : List KeyValue) : ExportMetricsServiceRequest :=
  ⟨[⟨some ⟨[⟨"service.name", some (.stringValue "shop")⟩]⟩, [⟨some ⟨"queue"⟩, [⟨"queue.depth", "jobs waiting", "1",
    some (.gauge [⟨attributes, 3, 5, some (.asInt 7), [], 0⟩])⟩]⟩]⟩]⟩

/-- With room for a thousand exemplars. -/
theorem metrics_kept_iff_unshadowed_queue :
    DoubleText.byBits.Lawful ∧
    ((∃ sent, batchToMetricsRequest DoubleText.byBits 1000 ⟨metricsRequestToRecords DoubleText.byBits (fun _ => 0) "acme"
          (queueDepthRequest [⟨"queue", some (.stringValue "mail")⟩])⟩ = some sent ∧
        List.Forall₂ MetricKept (queueDepthRequest [⟨"queue", some (.stringValue "mail")⟩]).points sent.metrics) ↔
      ∀ point ∈ (queueDepthRequest [⟨"queue", some (.stringValue "mail")⟩]).points,
        point.Unshadowed DoubleText.byBits 1000) :=
  ⟨DoubleText.byBits_lawful, metrics_kept_iff_unshadowed DoubleText.byBits DoubleText.byBits_lawful 1000 (fun _ => 0)
    "acme" (queueDepthRequest [⟨"queue", some (.stringValue "mail")⟩])⟩

/-- An attribute named like the value is sent on in its place. -/
theorem metric_value_shadowed :
    let request := queueDepthRequest [⟨"otel.metric.value", some (.stringValue "9")⟩]
    ¬∃ sent, batchToMetricsRequest DoubleText.byBits 1000
        ⟨metricsRequestToRecords DoubleText.byBits (fun _ => 0) "acme" request⟩ = some sent ∧
      List.Forall₂ MetricKept request.points sent.metrics := by
  rintro request ⟨sent, built, kept⟩
  cases built
  cases kept with
  | cons first rest =>
    obtain ⟨data, same, keptData⟩ := first.data
    cases same
    exact absurd keptData.value (by decide)

end TelemetryFabric.Otlp
