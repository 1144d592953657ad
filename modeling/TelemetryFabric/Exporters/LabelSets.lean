import TelemetryFabric.Exporters.Prometheus
import TelemetryFabric.Library.Collect

/-!
The label sets of a remote-write request. Whatever the attributes of a record are called, every
series made of it has the labels of one map: valid names in order, the tenant of the record, and the
bound or quantile the series was built for.
-/

namespace TelemetryFabric.Exporters
open Library TelemetryFabric.Core Otlp

/-- The value of a label, as it is looked up in a series. -/
def labelValue (name : String) (series : PromTimeSeries) : Option String :=
  (series.labels.find? fun label => label.name = name).map PromLabel.value

def named (name : String) (series : PromTimeSeries) : Bool := labelValue "__name__" series = some name

/-- The labels a builder adds. -/
def Extra (extraLabels : List (String × String)) : Prop :=
  extraLabels = [] ∨ (∃ le, extraLabels = [("le", le)]) ∨ ∃ quantile, extraLabels = [("quantile", quantile)]

theorem Extra.allowed {extraLabels : List (String × String)} (extra : Extra extraLabels) :
    ∀ added ∈ extraLabels, Identifier false added.1 ∧ added.1 ≠ "__name__" ∧ added.1 ≠ "tenant_id" := by
  have le : Identifier false "le" ∧ "le" ≠ "__name__" ∧ "le" ≠ "tenant_id" :=
    ⟨⟨'l', ['e'], rfl, rfl, rfl, List.all_eq_true.mp (by decide)⟩, by decide, by decide⟩
  have quantile : Identifier false "quantile" ∧ "quantile" ≠ "__name__" ∧ "quantile" ≠ "tenant_id" :=
    ⟨⟨'q', "uantile".toList, rfl, rfl, rfl, List.all_eq_true.mp (by decide)⟩, by decide, by decide⟩
  intro added member
  rcases extra with none | ⟨text, shape⟩ | ⟨text, shape⟩
  · rw [none] at member
    exact nomatch member
  · rw [shape, List.mem_singleton] at member
    rw [member]
    exact le
  · rw [shape, List.mem_singleton] at member
    rw [member]
    exact quantile

section Series

variable {record : TelemetryRecord} {metric : String} {extraLabels : List (String × String)} {value : Double}
  {timestamp : Int64} {exemplars : List PromExemplar}

/-- With or without labels of the builder, the labels are those of the map. -/
theorem labels_prometheusTimeseries :
    (prometheusTimeseries record metric extraLabels value timestamp exemplars).labels =
      (labelMap record metric extraLabels).entries.map fun entry => ⟨entry.1, entry.2⟩ := by
  cases extraLabels with
  | nil => rfl
  | cons extra rest => rfl

theorem labelValue_prometheusTimeseries (name : String) :
    labelValue name (prometheusTimeseries record metric extraLabels value timestamp exemplars) =
      (labelMap record metric extraLabels).find? name := by
  rw [labelValue, labels_prometheusTimeseries, List.find?_map, Option.map_map]
  rfl

theorem named_prometheusTimeseries (extra : Extra extraLabels) (name : String) :
    named name (prometheusTimeseries record metric extraLabels value timestamp exemplars) = decide (metric = name) := by
  rw [named, labelValue_prometheusTimeseries, find?_labelMap_metric record metric extra.allowed]
  simp only [Option.some.injEq]

theorem labelValue_extra (name text : String) :
    labelValue name (prometheusTimeseries record metric [(name, text)] value timestamp exemplars) = some text := by
  rw [labelValue_prometheusTimeseries, find?_labelMap_extra]

theorem validLabels_prometheusTimeseries (identifier : Identifier true metric) (extra : Extra extraLabels) :
    ValidLabels record (prometheusTimeseries record metric extraLabels value timestamp exemplars).labels := by
  rw [labels_prometheusTimeseries]
  exact validLabels_of_labelled (labelled_labelMap record metric extra.allowed) identifier

end Series

theorem extra_nil : Extra [] := .inl rfl

theorem extra_le (le : String) : Extra [("le", le)] := .inr (.inl ⟨le, rfl⟩)

theorem extra_quantile (quantile : String) : Extra [("quantile", quantile)] := .inr (.inr ⟨quantile, rfl⟩)

theorem append_right_ne {metric first second : String} (differ : first.toList ≠ second.toList) :
    metric ++ first ≠ metric ++ second := by
  intro same
  have lists := congrArg String.toList same
  rw [String.toList_append, String.toList_append] at lists
  exact differ (List.append_cancel_left lists)

/-! ### The builders -/

section Builders

variable (doubles : DoubleText) (arithmetic : DoubleArithmetic) (record : TelemetryRecord) {metric : String}

/-- What every series of a builder for `metric` is: one with an allowed name and allowed labels. -/
def BuiltFor (metric : String) (series : PromTimeSeries) : Prop :=
  ∃ suffix ∈ ["", "_count", "_sum", "_bucket"], ∃ extraLabels, Extra extraLabels ∧ ∃ value timestamp exemplars,
    series = prometheusTimeseries record (metric ++ suffix) extraLabels value timestamp exemplars

variable {record}

theorem BuiltFor.validLabels {series : PromTimeSeries} (built : BuiltFor record metric series)
    (identifier : Identifier true metric) : ValidLabels record series.labels := by
  obtain ⟨suffix, known, extraLabels, extra, value, timestamp, exemplars, rfl⟩ := built
  have words : ∀ suffix ∈ ["", "_count", "_sum", "_bucket"], suffix.toList.all (wordCharacter true) = true :=
    List.all_iff_forall_prop.mp (by decide)
  exact validLabels_prometheusTimeseries (identifier.append (List.all_eq_true.mp (words suffix known))) extra

variable (record)

theorem builtFor_count (timestamp : Int64) :
    ∀ series ∈ countTimeseries arithmetic record metric timestamp, BuiltFor record metric series := by
  intro series member
  unfold countTimeseries at member
  cases present : parseU64Attribute record "otel.metric.count" with
  | none =>
    rw [present] at member
    exact nomatch member
  | some count =>
    rw [present] at member
    exact ⟨"_count", by decide, [], extra_nil, _, _, _, List.mem_singleton.mp member⟩

theorem builtFor_sum (timestamp : Int64) (exemplars : List PromExemplar) :
    ∀ series ∈ sumTimeseries doubles record metric timestamp exemplars, BuiltFor record metric series := by
  intro series member
  unfold sumTimeseries at member
  cases present : parseDoubleAttribute doubles record "otel.metric.sum" with
  | none =>
    rw [present] at member
    exact nomatch member
  | some sum =>
    rw [present] at member
    exact ⟨"_sum", by decide, [], extra_nil, _, _, _, List.mem_singleton.mp member⟩

theorem builtFor_bucket (le : String) (count : UInt64) (timestamp : Int64) :
    BuiltFor record metric (bucketTimeseries arithmetic record metric le count timestamp) :=
  ⟨"_bucket", by decide, [("le", le)], extra_le le, _, _, _, rfl⟩

/-! ### Buckets -/

/-- The bounds of a histogram's buckets, by the number of the bucket. -/
def bucketBound (explicitBounds : List Double) (index : Nat) : String :=
  ((explicitBounds[index]?).map (showDouble doubles)).getD "+Inf"

/-- The counts of the buckets, each added to those before it. -/
def cumulativeCounts : UInt64 → List UInt64 → List UInt64
  | _, [] => []
  | before, count :: rest => saturatingAddU64 before count :: cumulativeCounts (saturatingAddU64 before count) rest

theorem length_cumulativeCounts (before : UInt64) (counts : List UInt64) :
    (cumulativeCounts before counts).length = counts.length := by
  induction counts generalizing before with
  | nil => rfl
  | cons count rest ih => simp only [cumulativeCounts, List.length_cons, ih]

theorem histogramBuckets_eq (timestamp : Int64) (explicitBounds : List Double) (index : Nat) (before : UInt64)
    (counts : List UInt64) :
    histogramBuckets doubles arithmetic record metric timestamp explicitBounds index before counts =
      ((cumulativeCounts before counts).zipIdx index).map fun (count, index) =>
        bucketTimeseries arithmetic record metric (bucketBound doubles explicitBounds index) count timestamp := by
  induction counts generalizing index before with
  | nil => rfl
  | cons count rest ih =>
    rw [histogramBuckets, ih, cumulativeCounts, List.zipIdx_cons, List.map_cons]
    rfl

theorem exponentialBuckets_eq (timestamp : Int64) (before : UInt64) (buckets : List (String × UInt64)) :
    (exponentialBuckets arithmetic record metric timestamp before buckets).1 =
      (List.zip (buckets.map Prod.fst) (cumulativeCounts before (buckets.map Prod.snd))).map fun (le, count) =>
        bucketTimeseries arithmetic record metric le count timestamp := by
  induction buckets generalizing before with
  | nil => rfl
  | cons bucket rest ih =>
    simp only [exponentialBuckets, List.map_cons, cumulativeCounts, List.zip_cons_cons, ih]

variable {maxExemplars : Nat} {all : List PromTimeSeries}

theorem builtFor_histogram
    (built : recordToPrometheusHistogramTimeseries doubles arithmetic maxExemplars record metric = some all) :
    ∀ series ∈ all, BuiltFor record metric series := by
  obtain ⟨exemplars, -, made⟩ := Option.bind_eq_some_iff.mp built
  obtain rfl := Option.some.inj made
  intro series member
  rcases List.mem_append.mp member with count | others
  · exact builtFor_count arithmetic record _ series count
  rcases List.mem_append.mp others with sum | bucket
  · exact builtFor_sum doubles record _ _ series sum
  · rw [histogramBuckets_eq] at bucket
    obtain ⟨entry, -, rfl⟩ := List.mem_map.mp bucket
    exact builtFor_bucket arithmetic record _ _ _

theorem builtFor_exponentialHistogram
    (built : recordToPrometheusExponentialHistogramTimeseries doubles arithmetic maxExemplars record metric = some all) :
    ∀ series ∈ all, BuiltFor record metric series := by
  obtain ⟨exemplars, -, made⟩ := Option.bind_eq_some_iff.mp built
  obtain rfl := Option.some.inj made
  intro series member
  rcases List.mem_append.mp member with count | others
  · exact builtFor_count arithmetic record _ series count
  rcases List.mem_append.mp others with sum | buckets
  · exact builtFor_sum doubles record _ _ series sum
  rcases List.mem_append.mp buckets with bucket | last
  · rw [exponentialBuckets_eq] at bucket
    obtain ⟨entry, -, rfl⟩ := List.mem_map.mp bucket
    exact builtFor_bucket arithmetic record _ _ _
  · cases present : parseU64Attribute record "otel.metric.count" with
    | none =>
      rw [present] at last
      exact nomatch last
    | some count =>
      rw [present] at last
      rw [List.mem_singleton.mp last]
      exact builtFor_bucket arithmetic record _ _ _

theorem builtFor_summary :
    ∀ series ∈ recordToPrometheusSummaryTimeseries doubles arithmetic record metric, BuiltFor record metric series := by
  intro series member
  rcases List.mem_append.mp member with count | others
  · exact builtFor_count arithmetic record _ series count
  rcases List.mem_append.mp others with sum | quantile
  · exact builtFor_sum doubles record _ _ series sum
  · obtain ⟨entry, -, rfl⟩ := List.mem_map.mp quantile
    exact ⟨"", by decide, _, extra_quantile _, _, _, _, by rw [String.append_empty]⟩

theorem builtFor_scalar {made : Option PromTimeSeries}
    (built : recordToPrometheusScalarTimeseries doubles arithmetic maxExemplars record metric = some made) :
    ∀ series ∈ made, BuiltFor record metric series := by
  intro series member
  obtain rfl := Option.mem_def.mp member
  unfold recordToPrometheusScalarTimeseries at built
  split at built
  · cases built
  · obtain ⟨exemplars, -, same⟩ := Option.bind_eq_some_iff.mp built
    obtain rfl := Option.some.inj (Option.some.inj same)
    exact ⟨"", by decide, [], extra_nil, _, _, _, by rw [String.append_empty]⟩

/-- Every series of a record is built for the sanitized name of its metric. -/
theorem builtFor_record (built : recordToPrometheusTimeseries doubles arithmetic maxExemplars record = some all) :
    ∀ series ∈ all, ∃ metric, Identifier true metric ∧ BuiltFor record metric series := by
  intro series member
  unfold recordToPrometheusTimeseries at built
  cases name : metricName record with
  | none =>
    rw [name] at built
    obtain rfl := Option.some.inj built
    exact nomatch member
  | some name' =>
    rw [name, Option.map_some] at built
    refine ⟨sanitizePrometheusMetricName name', identifier_sanitize name' true, ?_⟩
    simp only at built
    split at built
    · exact builtFor_histogram doubles arithmetic record built series member
    · exact builtFor_exponentialHistogram doubles arithmetic record built series member
    · obtain rfl := Option.some.inj built
      exact builtFor_summary doubles arithmetic record series member
    · obtain ⟨made, scalar, same⟩ := Option.bind_eq_some_iff.mp built
      obtain rfl := Option.some.inj same
      exact builtFor_scalar doubles arithmetic record scalar series (Option.mem_toList.mp member)

/-! ### Bounds and quantiles -/

theorem named_append {record : TelemetryRecord} {metric : String} {extraLabels : List (String × String)} {value : Double}
    {timestamp : Int64} {exemplars : List PromExemplar} (extra : Extra extraLabels) {wanted suffix : String}
    (differ : suffix.toList ≠ wanted.toList) :
    named (metric ++ wanted) (prometheusTimeseries record (metric ++ suffix) extraLabels value timestamp exemplars) = false := by
  rw [named_prometheusTimeseries extra]
  exact decide_eq_false (append_right_ne differ)

theorem filter_count (timestamp : Int64) {wanted : String} (differ : "_count".toList ≠ wanted.toList) :
    (countTimeseries arithmetic record metric timestamp).filter (named (metric ++ wanted)) = [] := by
  unfold countTimeseries
  cases parseU64Attribute record "otel.metric.count" with
  | none => rfl
  | some count => rw [List.filter_cons_of_neg (by rw [named_append extra_nil differ]; decide), List.filter_nil]

theorem filter_sum (timestamp : Int64) (exemplars : List PromExemplar) {wanted : String}
    (differ : "_sum".toList ≠ wanted.toList) :
    (sumTimeseries doubles record metric timestamp exemplars).filter (named (metric ++ wanted)) = [] := by
  unfold sumTimeseries
  cases parseDoubleAttribute doubles record "otel.metric.sum" with
  | none => rfl
  | some sum => rw [List.filter_cons_of_neg (by rw [named_append extra_nil differ]; decide), List.filter_nil]

theorem named_bucket (le : String) (count : UInt64) (timestamp : Int64) :
    named (metric ++ "_bucket") (bucketTimeseries arithmetic record metric le count timestamp) = true := by
  rw [bucketTimeseries, named_prometheusTimeseries (extra_le le)]
  exact decide_eq_true rfl

theorem labelValue_bucket (le : String) (count : UInt64) (timestamp : Int64) :
    labelValue "le" (bucketTimeseries arithmetic record metric le count timestamp) = some le := labelValue_extra "le" le

/-- The series named for buckets are the buckets. -/
theorem histogram_buckets
    (built : recordToPrometheusHistogramTimeseries doubles arithmetic maxExemplars record metric = some all) :
    all.filter (named (metric ++ "_bucket")) =
      ((cumulativeCounts 0 (parseU64ListAttribute record "otel.metric.bucket_counts")).zipIdx).map fun (count, index) =>
        bucketTimeseries arithmetic record metric
          (bucketBound doubles (parseDoubleListAttribute doubles record "otel.metric.explicit_bounds") index) count
          (metricTimestampMillis record) := by
  obtain ⟨exemplars, -, made⟩ := Option.bind_eq_some_iff.mp built
  obtain rfl := Option.some.inj made
  simp only [List.filter_append]
  rw [filter_count arithmetic record _ (by decide), filter_sum doubles record _ _ (by decide), List.nil_append,
    List.nil_append, histogramBuckets_eq, List.filter_eq_self.mpr]
  intro series member
  obtain ⟨entry, -, rfl⟩ := List.mem_map.mp member
  exact named_bucket arithmetic record _ _ _

theorem histogram_bounds
    (built : recordToPrometheusHistogramTimeseries doubles arithmetic maxExemplars record metric = some all) :
    (all.filter (named (metric ++ "_bucket"))).map (labelValue "le") =
      (List.range (parseU64ListAttribute record "otel.metric.bucket_counts").length).map fun index =>
        some (bucketBound doubles (parseDoubleListAttribute doubles record "otel.metric.explicit_bounds") index) := by
  rw [histogram_buckets doubles arithmetic record built, List.map_map, List.range_eq_range', ← length_cumulativeCounts 0, ← List.zipIdx_map_snd 0,
    List.map_map]
  apply List.map_congr_left
  intro entry _
  exact labelValue_bucket arithmetic record _ _ _

/-- The bounds of an exponential histogram, and no bound behind them if its count is known. -/
theorem exponentialHistogram_bounds
    (built : recordToPrometheusExponentialHistogramTimeseries doubles arithmetic maxExemplars record metric = some all) :
    (all.filter (named (metric ++ "_bucket"))).map (labelValue "le") =
      ((exponentialHistogramPrometheusBuckets doubles arithmetic record).map Prod.fst ++
        ((parseU64Attribute record "otel.metric.count").map fun _ => "+Inf").toList).map some := by
  have own : ∀ series ∈ (exponentialBuckets arithmetic record metric (metricTimestampMillis record) 0
      (exponentialHistogramPrometheusBuckets doubles arithmetic record)).1, named (metric ++ "_bucket") series = true := by
    rw [exponentialBuckets_eq]
    intro series member
    obtain ⟨entry, -, rfl⟩ := List.mem_map.mp member
    exact named_bucket arithmetic record _ _ _
  have bounds : (exponentialBuckets arithmetic record metric (metricTimestampMillis record) 0
      (exponentialHistogramPrometheusBuckets doubles arithmetic record)).1.map (labelValue "le") =
        ((exponentialHistogramPrometheusBuckets doubles arithmetic record).map Prod.fst).map some := by
    rw [exponentialBuckets_eq, List.map_map]
    have firsts : (List.zip ((exponentialHistogramPrometheusBuckets doubles arithmetic record).map Prod.fst)
        (cumulativeCounts 0 ((exponentialHistogramPrometheusBuckets doubles arithmetic record).map Prod.snd))).map Prod.fst =
          (exponentialHistogramPrometheusBuckets doubles arithmetic record).map Prod.fst := by
      apply List.map_fst_zip
      rw [length_cumulativeCounts, List.length_map, List.length_map]
    conv_rhs => rw [← firsts, List.map_map]
    apply List.map_congr_left
    intro entry _
    exact labelValue_bucket arithmetic record _ _ _
  obtain ⟨exemplars, -, made⟩ := Option.bind_eq_some_iff.mp built
  obtain rfl := Option.some.inj made
  simp only [List.filter_append]
  rw [filter_count arithmetic record _ (by decide), filter_sum doubles record _ _ (by decide), List.nil_append,
    List.nil_append, List.filter_eq_self.mpr own, List.map_append, List.map_append, bounds]
  congr 1
  cases parseU64Attribute record "otel.metric.count" with
  | none => rfl
  | some count =>
    rw [List.filter_cons_of_pos (named_bucket arithmetic record _ _ _)]
    exact congrArg (fun label => [label]) (labelValue_bucket arithmetic record "+Inf" _ _)

theorem summary_quantiles :
    ((recordToPrometheusSummaryTimeseries doubles arithmetic record metric).filter (named metric)).map (labelValue "quantile") =
      (parseQuantileValuesAttribute doubles record "otel.metric.quantile_values").map fun entry =>
        some (showDouble doubles entry.quantile) := by
  have bare : named metric = named (metric ++ "") := by rw [String.append_empty]
  rw [recordToPrometheusSummaryTimeseries]
  simp only [List.filter_append]
  rw [bare, filter_count arithmetic record _ (by decide), filter_sum doubles record _ _ (by decide), List.nil_append,
    List.nil_append, List.filter_eq_self.mpr, List.map_map]
  · apply List.map_congr_left
    intro entry _
    exact labelValue_extra "quantile" (showDouble doubles entry.quantile)
  · intro series member
    obtain ⟨entry, -, rfl⟩ := List.mem_map.mp member
    rw [named_prometheusTimeseries (extra_quantile _), String.append_empty]
    exact decide_eq_true rfl

end Builders

/-! ### Whole requests -/

/-- Every series of a request has the valid label set of a record of the batch, buckets and quantiles are labelled
with what they stand for, and sanitizing twice is sanitizing once. -/
theorem label_sets_valid (doubles : DoubleText) (arithmetic : DoubleArithmetic) (maxExemplars : Nat) (batch : RecordBatch) :
    (∀ request ∈ batchToPrometheusRemoteWriteRequest doubles arithmetic maxExemplars batch, ∀ series ∈ request.timeseries,
      ∃ record ∈ batch.records, ∃ all ∈ recordToPrometheusTimeseries doubles arithmetic maxExemplars record,
        series ∈ all ∧ ValidLabels record series.labels) ∧
    (∀ record ∈ batch.records, ∀ metric,
      (∀ all ∈ recordToPrometheusHistogramTimeseries doubles arithmetic maxExemplars record metric,
        (all.filter (named (metric ++ "_bucket"))).map (labelValue "le") =
          (List.range (parseU64ListAttribute record "otel.metric.bucket_counts").length).map fun index =>
            some (bucketBound doubles (parseDoubleListAttribute doubles record "otel.metric.explicit_bounds") index)) ∧
      (∀ all ∈ recordToPrometheusExponentialHistogramTimeseries doubles arithmetic maxExemplars record metric,
        (all.filter (named (metric ++ "_bucket"))).map (labelValue "le") =
          ((exponentialHistogramPrometheusBuckets doubles arithmetic record).map Prod.fst ++
            ((parseU64Attribute record "otel.metric.count").map fun _ => "+Inf").toList).map some) ∧
      ((recordToPrometheusSummaryTimeseries doubles arithmetic record metric).filter (named metric)).map
          (labelValue "quantile") =
        (parseQuantileValuesAttribute doubles record "otel.metric.quantile_values").map fun entry =>
          some (showDouble doubles entry.quantile)) ∧
    ∀ text, sanitizePrometheusMetricName (sanitizePrometheusMetricName text) = sanitizePrometheusMetricName text ∧
      sanitizePrometheusLabelName (sanitizePrometheusLabelName text) = sanitizePrometheusLabelName text := by
  constructor
  · intro request built series member
    obtain ⟨lists, each, made⟩ := Option.bind_eq_some_iff.mp built
    obtain rfl := Option.some.inj made
    obtain ⟨all, inside, among⟩ := List.mem_flatten.mp member
    obtain ⟨record, kept, ofRecord⟩ := exists_left_of_forall₂ (mapM_eq_some_iff.mp each) inside
    obtain ⟨metric, identifier, builtFor⟩ := builtFor_record doubles arithmetic record ofRecord series among
    exact ⟨record, List.mem_of_mem_filter kept, all, ofRecord, among, builtFor.validLabels identifier⟩
  constructor
  · intro record _ metric
    exact ⟨fun all built => histogram_bounds doubles arithmetic record built,
      fun all built => exponentialHistogram_bounds doubles arithmetic record built,
      summary_quantiles doubles arithmetic record⟩
  · intro text
    exact ⟨sanitize_again text true, sanitize_again text false⟩

end TelemetryFabric.Exporters
