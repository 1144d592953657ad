import TelemetryFabric.Otlp.Attributes

/-!
Spans through the agent: which resource, scope and attributes an exporter sends a span under.
All spans of a batch are sent under one empty resource and without a scope, and what the
receiver wrote behind `resource.` stays with the span.
-/

namespace TelemetryFabric.Otlp
open Library TelemetryFabric.Core

/-- A span with the resource and the scope it is listed under. -/
structure SpanEntry where
  resource : Option Resource
  scope : Option InstrumentationScope
  span : Span

/-- The spans of a request, in order. -/
def ExportTraceServiceRequest.entries (request : ExportTraceServiceRequest) : List SpanEntry :=
  request.resourceSpans.flatMap fun resourceSpans =>
    resourceSpans.scopeSpans.flatMap fun scopeSpans =>
      scopeSpans.spans.map fun span => ⟨resourceSpans.resource, scopeSpans.scope, span⟩

def SpanEntry.resourceValues (entry : SpanEntry) : List KeyValue :=
  (entry.resource.map Resource.attributes).getD []

/-- The attributes of the resource, the name of the scope and the attributes of the span are each
sent on in their place. -/
structure SpanPlaced (doubles : DoubleText) (received sent : SpanEntry) : Prop where
  resource : sent.resourceValues = (nonBlank received.resourceValues).map (rendered doubles)
  scope : scopeName sent.scope = scopeName received.scope
  attributes : sent.span.attributes = received.span.attributes.map (rendered doubles)

/-- Nothing of the resource or the scope has to be sent, and no attribute of the span looks like
a field. -/
structure SpanEntry.Bare (entry : SpanEntry) : Prop where
  resource : ∀ value ∈ entry.resourceValues, isBlank value.key = true
  scope : scopeName entry.scope = ""
  attributes : ∀ value ∈ entry.span.attributes, startsWith value.key "otel." = false

/-- The fields of a span, in the order they are pushed. -/
def spanFields (scopeName : String) (span : Span) : List Attribute :=
  [⟨"otel.signal", "trace"⟩, ⟨"otel.span.name", span.name⟩, ⟨"otel.trace_id", hexEncode span.traceId⟩,
    ⟨"otel.span_id", hexEncode span.spanId⟩, ⟨"otel.parent_span_id", hexEncode span.parentSpanId⟩,
    ⟨"otel.span.kind", showI32 span.kind⟩, ⟨"otel.start_unix_nano", showU64 span.startTimeUnixNano⟩,
    ⟨"otel.end_unix_nano", showU64 span.endTimeUnixNano⟩] ++
    if scopeName != "" then [⟨"otel.scope.name", scopeName⟩] else []

theorem spanToRecord_eq (doubles : DoubleText) (tenantId : String) (resource : List (String × String))
    (scopeName : String) (span : Span) (now : BitVec 128) :
    spanToRecord doubles tenantId resource scopeName span now =
      ⟨tenantId, .trace, now, spanFields scopeName span ++ (pushed resource ++
        pushed (attributesFromKeyValues doubles "" span.attributes)), utf8 span.name⟩ := by
  simp only [spanToRecord, pushAll_eq, pushWhen_eq, TelemetryRecord.withAttribute, TelemetryRecord.new,
    spanFields, List.append_assoc, List.cons_append, List.nil_append]

theorem spanFields_otel (scopeName : String) (span : Span) :
    ∀ entry ∈ spanFields scopeName span, startsWith entry.key "otel." = true := by
  simp only [spanFields, List.forall_mem_append, List.forall_mem_cons]
  refine ⟨⟨rfl, rfl, rfl, rfl, rfl, rfl, rfl, rfl, fun _ none => (List.not_mem_nil none).elim⟩, ?_⟩
  split_ifs <;> simp
  rfl

/-- What becomes of the attributes: the resource's are kept with the span, under their prefix. -/
theorem recordToSpan_attributes (doubles : DoubleText) (tenantId : String) (entry : SpanEntry) (now : BitVec 128) :
    (recordToSpan (spanToRecord doubles tenantId (resourceAttributes doubles entry.resource)
      (scopeName entry.scope) entry.span now)).attributes =
      ((nonBlank entry.resourceValues).map fun value =>
        .ofString ("resource." ++ value.key) (optionToString doubles value.value)) ++
      ((nonBlank entry.span.attributes).filter fun value => !startsWith value.key "otel.").map (rendered doubles) := by
  have fields : (spanFields (scopeName entry.scope) entry.span).filter
      (fun field => !startsWith field.key "otel.") = [] := by
    rw [List.filter_eq_nil_iff]
    intro field member
    simp [spanFields_otel _ _ field member]
  have resource : (pushed (resourceAttributes doubles entry.resource)).filter
      (fun field => !startsWith field.key "otel.") = pushed (resourceAttributes doubles entry.resource) := by
    rw [List.filter_eq_self, pushed_resource]
    intro field member
    obtain ⟨value, -, rfl⟩ := List.mem_map.mp member
    simp [not_otel_of_resource (startsWith_append "resource." value.key)]
  rw [spanToRecord_eq]
  simp only [recordToSpan, List.filter_append, fields, resource, List.nil_append, List.map_append]
  rw [pushed_resource, pushed_own, List.map_map, List.filter_map, List.map_map]
  rfl

/-- The span an exporter sends for a record. -/
def sentSpan (record : TelemetryRecord) : SpanEntry := ⟨some ⟨[]⟩, none, recordToSpan record⟩

theorem spanPlaced_iff (doubles : DoubleText) (tenantId : String) (entry : SpanEntry) (now : BitVec 128)
    (visible : ∀ value ∈ entry.span.attributes, isBlank value.key = false) :
    SpanPlaced doubles entry (sentSpan (spanToRecord doubles tenantId (resourceAttributes doubles entry.resource)
      (scopeName entry.scope) entry.span now)) ↔ entry.Bare := by
  have attributes := recordToSpan_attributes doubles tenantId entry now
  have all : nonBlank entry.span.attributes = entry.span.attributes := by
    rw [nonBlank, List.filter_eq_self]
    intro value member
    simp [visible value member]
  rw [all] at attributes
  constructor
  · intro placed
    have nothing : nonBlank entry.resourceValues = [] := List.map_eq_nil_iff.mp placed.resource.symm
    refine ⟨?_, placed.scope.symm, ?_⟩
    · intro value member
      have dropped := List.filter_eq_nil_iff.mp nothing value member
      simpa using dropped
    · intro value member
      have same := attributes.symm.trans placed.attributes
      rw [nothing, List.map_nil, List.nil_append] at same
      have lengths := congrArg List.length same
      rw [List.length_map, List.length_map, List.length_filter_eq_length_iff] at lengths
      simpa using lengths value member
  · intro bare
    have nothing : nonBlank entry.resourceValues = [] := by
      rw [nonBlank, List.filter_eq_nil_iff]
      intro value member
      simp [bare.resource value member]
    refine ⟨by rw [nothing]; rfl, bare.scope.symm, ?_⟩
    have own : entry.span.attributes.filter (fun value => !startsWith value.key "otel.") = entry.span.attributes := by
      rw [List.filter_eq_self]
      intro value member
      simp [bare.attributes value member]
    rw [nothing, own, List.map_nil, List.nil_append] at attributes
    exact attributes

theorem entries_batchToTraceRequest {records : List TelemetryRecord}
    (traces : ∀ record ∈ records, record.signal = .trace) :
    (batchToTraceRequest ⟨records⟩).entries = records.map sentSpan := by
  have all : records.filter (fun record => record.signal == .trace) = records := by
    rw [List.filter_eq_self]
    intro record member
    simp [traces record member]
  simp only [batchToTraceRequest, all]
  split_ifs with empty
  · rw [List.map_eq_nil_iff.mp (List.isEmpty_iff.mp empty)]
    rfl
  · simp [ExportTraceServiceRequest.entries, sentSpan]

theorem traceRequestToRecords_eq (doubles : DoubleText) (clock : Nat → BitVec 128) (tenantId : String)
    (request : ExportTraceServiceRequest) :
    traceRequestToRecords doubles clock tenantId request =
      stamp clock (request.entries.map fun entry => spanToRecord doubles tenantId
        (resourceAttributes doubles entry.resource) (scopeName entry.scope) entry.span) := by
  simp only [traceRequestToRecords, ExportTraceServiceRequest.entries, List.map_flatMap, List.map_map]
  rfl

/-- The spans an exporter sends for a request, in order. -/
theorem entries_forwarded (doubles : DoubleText) (clock : Nat → BitVec 128) (tenantId : String)
    (request : ExportTraceServiceRequest) :
    (batchToTraceRequest ⟨traceRequestToRecords doubles clock tenantId request⟩).entries =
      (traceRequestToRecords doubles clock tenantId request).map sentSpan := by
  apply entries_batchToTraceRequest
  intro record member
  rw [traceRequestToRecords_eq] at member
  obtain ⟨make, listed, now, rfl⟩ := mem_stamp member
  obtain ⟨entry, -, rfl⟩ := List.mem_map.mp listed
  rw [spanToRecord_eq]

/-- A span keeps its place exactly when there is nothing to place. -/
theorem spans_placed_iff_bare (doubles : DoubleText) (clock : Nat → BitVec 128) (tenantId : String)
    (request : ExportTraceServiceRequest)
    (visible : ∀ entry ∈ request.entries, ∀ value ∈ entry.span.attributes, isBlank value.key = false) :
    List.Forall₂ (SpanPlaced doubles) request.entries
        (batchToTraceRequest ⟨traceRequestToRecords doubles clock tenantId request⟩).entries ↔
      ∀ entry ∈ request.entries, entry.Bare := by
  rw [entries_forwarded, traceRequestToRecords_eq, List.forall₂_map_right_iff]
  apply forall₂_stamp_iff
  intro entry member now
  exact spanPlaced_iff doubles tenantId entry now (visible entry member)

/-- A request of one span, under the given resource attributes and scope name. -/
def checkoutRequest (resource : List KeyValue) (scopeName : String) : ExportTraceServiceRequest :=
  ⟨[⟨some ⟨resource⟩, [⟨some ⟨scopeName⟩, [⟨List.replicate 16 1, List.replicate 8 2, [], "checkout", 2, 5, 9,
    [⟨"http.route", some (.stringValue "/pay")⟩]⟩]⟩]⟩]⟩

theorem spans_placed_iff_bare_checkout :
    (∀ entry ∈ (checkoutRequest [] "").entries, ∀ value ∈ entry.span.attributes, isBlank value.key = false) ∧
    (List.Forall₂ (SpanPlaced DoubleText.byBits) (checkoutRequest [] "").entries
        (batchToTraceRequest ⟨traceRequestToRecords DoubleText.byBits (fun _ => 0) "acme"
          (checkoutRequest [] "")⟩).entries ↔
      ∀ entry ∈ (checkoutRequest [] "").entries, entry.Bare) :=
  have visible : ∀ entry ∈ (checkoutRequest [] "").entries, ∀ value ∈ entry.span.attributes,
      isBlank value.key = false := by decide
  ⟨visible, spans_placed_iff_bare DoubleText.byBits (fun _ => 0) "acme" (checkoutRequest [] "") visible⟩

/-- With a service name and a scope, the span loses both. -/
theorem span_misplaced :
    let request := checkoutRequest [⟨"service.name", some (.stringValue "shop")⟩] "http"
    (∀ entry ∈ request.entries, ∀ value ∈ entry.span.attributes, isBlank value.key = false) ∧
    ¬List.Forall₂ (SpanPlaced DoubleText.byBits) request.entries
      (batchToTraceRequest ⟨traceRequestToRecords DoubleText.byBits (fun _ => 0) "acme" request⟩).entries := by
  refine ⟨by decide, ?_⟩
  rw [entries_forwarded]
  intro placed
  cases placed with
  | cons first rest => exact absurd first.scope (by decide)

end TelemetryFabric.Otlp
