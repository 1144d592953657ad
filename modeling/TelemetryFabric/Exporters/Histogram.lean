import Mathlib.Data.List.Nodup
import TelemetryFabric.Exporters.LabelSets
import TelemetryFabric.Otlp.Metrics

/-!
A histogram on its way to remote write. Counts and bounds arrive as two lists of text, one count
more than bounds; the buckets keep their bounds, the last one has none, and every count includes
those before it.
-/

namespace TelemetryFabric.Exporters
open Library TelemetryFabric.Core Otlp

/-- The records up to the end of a bucket, as far as they can be counted. -/
def cumulativeCount (counts : List UInt64) (index : Nat) : Nat :=
  min ((counts.take (index + 1)).map UInt64.toNat).sum u64Max

theorem toNat_saturatingAddU64 (first second : UInt64) :
    (saturatingAddU64 first second).toNat = min (first.toNat + second.toNat) u64Max := by
  unfold saturatingAddU64 saturatingAdd
  rw [UInt64.toNat_ofNat']
  apply Nat.mod_eq_of_lt
  have limit : u64Max < 2 ^ 64 := by decide
  omega

theorem cumulativeCounts_eq (before : UInt64) (counts : List UInt64) :
    cumulativeCounts before counts = (List.range counts.length).map fun index =>
      UInt64.ofNat (min (before.toNat + ((counts.take (index + 1)).map UInt64.toNat).sum) u64Max) := by
  induction counts generalizing before with
  | nil => rfl
  | cons count rest ih =>
    have first : saturatingAddU64 before count = UInt64.ofNat (min (before.toNat + count.toNat) u64Max) := rfl
    rw [cumulativeCounts, ih, List.length_cons, List.range_succ_eq_map, List.map_cons, List.map_map, toNat_saturatingAddU64]
    congr 1
    apply List.map_congr_left
    intro index _
    simp only [Function.comp_apply, Nat.succ_eq_add_one, List.take_succ_cons, List.map_cons, List.sum_cons]
    congr 1
    omega

theorem cumulativeCounts_zero (counts : List UInt64) :
    cumulativeCounts 0 counts = (List.range counts.length).map fun index => UInt64.ofNat (cumulativeCount counts index) := by
  rw [cumulativeCounts_eq]
  apply List.map_congr_left
  intro index _
  have zero : (0 : UInt64).toNat = 0 := rfl
  rw [zero, Nat.zero_add, cumulativeCount]

theorem cumulativeCount_mono (counts : List UInt64) {first second : Nat} (before : first ≤ second) :
    cumulativeCount counts first ≤ cumulativeCount counts second := by
  have more : ((counts.take (first + 1)).map UInt64.toNat).sum ≤ ((counts.take (second + 1)).map UInt64.toNat).sum := by
    obtain ⟨gap, rfl⟩ := Nat.exists_eq_add_of_le before
    have longer : first + gap + 1 = first + 1 + gap := by omega
    have split : counts.take (first + 1 + gap) = counts.take (first + 1) ++ (counts.drop (first + 1)).take gap := List.take_add
    rw [longer, split, List.map_append, List.sum_append]
    omega
  unfold cumulativeCount
  omega

theorem toNat_ofNat_cumulativeCount (counts : List UInt64) (index : Nat) :
    (UInt64.ofNat (cumulativeCount counts index)).toNat = cumulativeCount counts index := by
  rw [UInt64.toNat_ofNat']
  apply Nat.mod_eq_of_lt
  have limit : u64Max < 2 ^ 64 := by decide
  unfold cumulativeCount
  omega

section Histogram

variable {doubles : DoubleText} (arithmetic : DoubleArithmetic) (record : TelemetryRecord) (metric : String)
  {maxExemplars : Nat} {counts : List UInt64} {bounds : List Double}

/-- The bounds in order, and no bound at the end. -/
theorem map_bucketBound (bounds : List Double) :
    (List.range (bounds.length + 1)).map (bucketBound doubles bounds) = bounds.map (showDouble doubles) ++ ["+Inf"] := by
  rw [List.range_succ, List.map_append]
  congr 1
  · apply List.ext_getElem
    · rw [List.length_map, List.length_map, List.length_range]
    · intro index inside _
      have within : index < bounds.length := by simpa using inside
      simp only [List.getElem_map, List.getElem_range, bucketBound, List.getElem?_eq_getElem within, Option.map_some,
        Option.getD_some]
  · have past : bounds[bounds.length]? = none := List.getElem?_eq_none (Nat.le_refl _)
    simp only [List.map_cons, List.map_nil, bucketBound, past, Option.map_none, Option.getD_none]

theorem showDouble_inj (lawful : doubles.Lawful) {first second : Double} (finite : first.isFinite = true)
    (finiteSecond : second.isFinite = true) (same : showDouble doubles first = showDouble doubles second) : first = second := by
  have text := congrArg String.toList same
  rw [showDouble, showDouble, String.toList_ofList, String.toList_ofList] at text
  have read := lawful.parse_render first finite
  rw [text, lawful.parse_render second finiteSecond] at read
  exact (Option.some.inj read).symm

theorem showDouble_ne_inf (lawful : doubles.Lawful) {value : Double} (finite : value.isFinite = true) :
    showDouble doubles value ≠ "+Inf" := by
  intro same
  have text := congrArg String.toList same
  rw [showDouble, String.toList_ofList] at text
  have sign : '+' ∈ doubles.render value := by
    rw [text]
    decide
  rcases lawful.plain value finite '+' sign with digit | minus | dot
  · exact absurd digit (by decide)
  · exact absurd minus (by decide)
  · exact absurd dot (by decide)

theorem nodup_bounds (lawful : doubles.Lawful) (finite : ∀ bound ∈ bounds, bound.isFinite = true) (distinct : bounds.Nodup) :
    (bounds.map (showDouble doubles) ++ ["+Inf"]).Nodup := by
  apply List.nodup_append.mpr
  refine ⟨?_, List.nodup_singleton _, ?_⟩
  · apply List.Nodup.map_on _ distinct
    intro first firstIn second secondIn same
    exact showDouble_inj lawful (finite first firstIn) (finite second secondIn) same
  · intro text member last inLast
    obtain ⟨bound, inside, rfl⟩ := List.mem_map.mp member
    rw [List.mem_singleton.mp inLast]
    exact showDouble_ne_inf lawful (finite bound inside)

/-- One bucket for each count: labelled with its bound, the last with none, and holding what all buckets up to it
counted. -/
structure CumulativeBuckets (doubles : DoubleText) (arithmetic : DoubleArithmetic) (record : TelemetryRecord)
    (counts : List UInt64) (bounds : List Double) (buckets : List PromTimeSeries) : Prop where
  length : buckets.length = bounds.length + 1
  labels : buckets.map (labelValue "le") = (bounds.map (showDouble doubles) ++ ["+Inf"]).map some
  distinct : (buckets.map (labelValue "le")).Nodup
  samples : buckets.map PromTimeSeries.samples = (List.range (bounds.length + 1)).map fun index =>
    [⟨arithmetic.ofU64 (UInt64.ofNat (cumulativeCount counts index)), metricTimestampMillis record⟩]
  cumulative : ∀ first second, first ≤ second → cumulativeCount counts first ≤ cumulativeCount counts second
  increasing : ∀ noMore : Double → Double → Prop,
    (∀ first second, first ≤ second → noMore (arithmetic.ofU64 first) (arithmetic.ofU64 second)) →
      ((buckets.flatMap PromTimeSeries.samples).map PromSample.value).Pairwise noMore

theorem cumulativeBuckets_of_built (lawful : doubles.Lawful)
    (countsText : findAttribute record "otel.metric.bucket_counts" = some (joinU64Values counts))
    (boundsText : findAttribute record "otel.metric.explicit_bounds" = some (joinDoubles doubles bounds))
    (sizes : counts.length = bounds.length + 1) (finite : ∀ bound ∈ bounds, bound.isFinite = true)
    (distinct : bounds.Nodup) {all : List PromTimeSeries}
    (built : recordToPrometheusHistogramTimeseries doubles arithmetic maxExemplars record metric = some all) :
    CumulativeBuckets doubles arithmetic record counts bounds (all.filter (named (metric ++ "_bucket"))) := by
  have readCounts : parseU64ListAttribute record "otel.metric.bucket_counts" = counts := by
    rw [parseU64ListAttribute, countsText]
    exact readList_joinU64Values counts
  have readBounds : parseDoubleListAttribute doubles record "otel.metric.explicit_bounds" = bounds := by
    rw [parseDoubleListAttribute, boundsText]
    exact (readList_joinDoubles_iff lawful bounds).mpr finite
  have labels : (all.filter (named (metric ++ "_bucket"))).map (labelValue "le") =
      (bounds.map (showDouble doubles) ++ ["+Inf"]).map some := by
    rw [histogram_bounds doubles arithmetic record built, readCounts, readBounds, sizes, ← map_bucketBound, List.map_map]
    rfl
  have samples : (all.filter (named (metric ++ "_bucket"))).map PromTimeSeries.samples =
      (List.range (bounds.length + 1)).map fun index =>
        [⟨arithmetic.ofU64 (UInt64.ofNat (cumulativeCount counts index)), metricTimestampMillis record⟩] := by
    rw [histogram_buckets doubles arithmetic record built, readCounts, List.map_map, ← sizes]
    have firsts : ((cumulativeCounts 0 counts).zipIdx).map Prod.fst = cumulativeCounts 0 counts := List.zipIdx_map_fst 0 _
    calc
      _ = (((cumulativeCounts 0 counts).zipIdx).map Prod.fst).map fun count =>
          [⟨arithmetic.ofU64 count, metricTimestampMillis record⟩] := by
        rw [List.map_map]
        rfl
      _ = _ := by
        rw [firsts, cumulativeCounts_zero, List.map_map]
        rfl
  have size := congrArg List.length samples
  rw [List.length_map, List.length_map, List.length_range] at size
  refine ⟨size, labels, ?_, samples, fun first second => cumulativeCount_mono counts, ?_⟩
  · rw [labels]
    exact List.Nodup.map (Option.some_injective _) (nodup_bounds lawful finite distinct)
  · intro noMore monotone
    have values : ((all.filter (named (metric ++ "_bucket"))).flatMap PromTimeSeries.samples).map PromSample.value =
        (List.range (bounds.length + 1)).map fun index => arithmetic.ofU64 (UInt64.ofNat (cumulativeCount counts index)) := by
      rw [List.flatMap_def, samples, ← List.flatMap_def, ← List.map_eq_flatMap, List.map_map]
      rfl
    rw [values, List.pairwise_map]
    apply List.pairwise_lt_range.imp
    intro first second before
    apply monotone
    rw [UInt64.le_iff_toNat_le, toNat_ofNat_cumulativeCount, toNat_ofNat_cumulativeCount]
    exact cumulativeCount_mono counts (Nat.le_of_lt before)

/-- Only the sum of a histogram asks for exemplars. -/
theorem exists_sumExemplars_iff :
    (∃ exemplars, sumExemplars doubles arithmetic maxExemplars record = some exemplars) ↔
      ((parseDoubleAttribute doubles record "otel.metric.sum").isSome = true → exemplarCount record ≤ maxExemplars) := by
  unfold sumExemplars
  split_ifs with present
  · constructor
    · rintro ⟨exemplars, built⟩ _
      obtain ⟨collected, found, -⟩ := Option.bind_eq_some_iff.mp built
      exact (recordToExemplars_iff doubles maxExemplars).mp ⟨collected, found⟩
    · intro fits
      obtain ⟨collected, found⟩ := (recordToExemplars_iff doubles maxExemplars).mpr (fits present)
      exact ⟨_, Option.bind_eq_some_iff.mpr ⟨collected, found, rfl⟩⟩
  · exact ⟨fun _ there => absurd there present, fun _ => ⟨[], rfl⟩⟩

theorem exists_histogram_iff :
    (∃ all, recordToPrometheusHistogramTimeseries doubles arithmetic maxExemplars record metric = some all) ↔
      ((parseDoubleAttribute doubles record "otel.metric.sum").isSome = true → exemplarCount record ≤ maxExemplars) := by
  rw [← exists_sumExemplars_iff arithmetic record]
  constructor
  · rintro ⟨all, built⟩
    obtain ⟨exemplars, found, -⟩ := Option.bind_eq_some_iff.mp built
    exact ⟨exemplars, found⟩
  · rintro ⟨exemplars, found⟩
    exact ⟨_, Option.bind_eq_some_iff.mpr ⟨exemplars, found, rfl⟩⟩

/-- A histogram has its cumulative buckets if and only if it has no sum, or there is room for as many exemplars
as its record asks for. -/
theorem histogram_cumulative_iff (lawful : doubles.Lawful)
    (countsText : findAttribute record "otel.metric.bucket_counts" = some (joinU64Values counts))
    (boundsText : findAttribute record "otel.metric.explicit_bounds" = some (joinDoubles doubles bounds))
    (sizes : counts.length = bounds.length + 1) (finite : ∀ bound ∈ bounds, bound.isFinite = true)
    (distinct : bounds.Nodup) :
    (∃ all, recordToPrometheusHistogramTimeseries doubles arithmetic maxExemplars record metric = some all ∧
        CumulativeBuckets doubles arithmetic record counts bounds (all.filter (named (metric ++ "_bucket")))) ↔
      ((parseDoubleAttribute doubles record "otel.metric.sum").isSome = true → exemplarCount record ≤ maxExemplars) := by
  rw [← exists_histogram_iff arithmetic record metric]
  constructor
  · rintro ⟨all, built, -⟩
    exact ⟨all, built⟩
  · rintro ⟨all, built⟩
    exact ⟨all, built, cumulativeBuckets_of_built arithmetic record metric lawful countsText boundsText sizes finite
      distinct built⟩

end Histogram

/-- The cast is exact below 2^53; no power is taken here. -/
def exactDoubles : DoubleArithmetic where
  ofU64 value :=
    if value = 0 then 0
    else BitVec.ofNat 64 ((1023 + value.toNat.log2) * 2 ^ 52 + (value.toNat - 2 ^ value.toNat.log2) * 2 ^ (52 - value.toNat.log2))
  ofI64 _ := 0
  powi value _ := value
  powf value _ := value

/-- A histogram of six calls whose record says how many exemplars it has. -/
def latencies (exemplars : String) : TelemetryRecord :=
  ⟨"tenant-a", .metric, 0, [⟨"otel.metric.name", "checkout.latency_ms"⟩, ⟨"otel.metric.data_type", "histogram"⟩,
    ⟨"otel.metric.bucket_counts", "1,2,3"⟩, ⟨"otel.metric.explicit_bounds", "0,1.5"⟩, ⟨"otel.metric.sum", "1.5"⟩,
    ⟨"otel.metric.time_unix_nano", "3000000"⟩, ⟨"le", "7"⟩, ⟨"otel.metric.exemplar.count", exemplars⟩], []⟩

/-- Three buckets of 1, 3 and 6 records, at three milliseconds; the attribute called le is out of the way. -/
theorem latencies_cumulative :
    ∃ all, recordToPrometheusHistogramTimeseries .byBits exactDoubles 1000 (latencies "2") "checkout_latency_ms" = some all ∧
      (all.filter (named ("checkout_latency_ms" ++ "_bucket"))).map (labelValue "le") = [some "0", some "1.5", some "+Inf"] ∧
      (all.filter (named ("checkout_latency_ms" ++ "_bucket"))).map PromTimeSeries.samples =
        [[⟨0x3ff0000000000000, 3⟩], [⟨0x4008000000000000, 3⟩], [⟨0x4018000000000000, 3⟩]] := by
  obtain ⟨all, built, kept⟩ := (@histogram_cumulative_iff .byBits exactDoubles (latencies "2") "checkout_latency_ms" 1000
    [1, 2, 3] [0, 0x3ff8000000000000] DoubleText.byBits_lawful (by decide +kernel) (by decide +kernel) rfl
    (List.all_iff_forall_prop.mp (by decide +kernel)) (by decide +kernel)).mpr (by decide +kernel)
  exact ⟨all, built, kept.labels.trans (by decide +kernel), kept.samples.trans (by decide +kernel)⟩

/-- A record of a few lines asks for more exemplars than a vector can grow to. -/
theorem exemplars_never_collected :
    (parseDoubleAttribute .byBits (latencies "18446744073709551615") "otel.metric.sum").isSome = true ∧
      ¬∃ all, recordToPrometheusHistogramTimeseries .byBits exactDoubles (2 ^ 56) (latencies "18446744073709551615")
        "checkout_latency_ms" = some all :=
  ⟨by decide +kernel, (exists_histogram_iff exactDoubles (latencies "18446744073709551615") "checkout_latency_ms").not.mpr
    (by decide +kernel)⟩

end TelemetryFabric.Exporters
