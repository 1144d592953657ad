import TelemetryFabric.Agent.HeadOfQueue
import TelemetryFabric.Agent.ConfigFile
import TelemetryFabric.Library.Grouping
import Mathlib.Data.List.Nodup

/-!
Which records reach which exporter. The router takes the first route for a signal and the
exporters as it lists them; a configuration may name the signal in other routes, and an
exporter twice in one.
-/

namespace TelemetryFabric.Agent
open Library TelemetryFabric.Core Processors

variable {E : Type} {config : PipelineConfig} {exporters : ExporterMap E} {respond : Responses}

/-! ### What the exporters are handed -/

/-- The batches the second loop of `export_records` hands to exporters before it returns. The
attempts of `export_with_retry` are all made with one batch. -/
def handGroups (config : PipelineConfig) (exporters : ExporterMap E) (respond : Responses) :
    List (String × List TelemetryRecord) → List (String × RecordBatch)
  | [] => []
  | (name, records) :: rest =>
      match exporters.find? name with
      | none => []
      | some _ => (name, ⟨records⟩) ::
          match exportWithRetry name (respond name ⟨records⟩)
              ((retryOf config name).maxAttempts.toNat - 1) 1 with
          | .error _ => []
          | .ok _ => handGroups config exporters respond rest

def handedOver (config : PipelineConfig) (exporters : ExporterMap E) (respond : Responses)
    (records : List TelemetryRecord) : List (String × RecordBatch) :=
  match groupRecords config records .empty with
  | .error _ => []
  | .ok grouped => handGroups config exporters respond grouped.entries

/-- Some route for the signal lists the exporter. -/
def Lists (config : PipelineConfig) (signal : SignalKind) (name : String) : Prop :=
  ∃ route ∈ config.routes, route.signal = signal ∧ name ∈ route.exporters

instance (config : PipelineConfig) (signal : SignalKind) (name : String) : Decidable (Lists config signal name) :=
  inferInstanceAs (Decidable (∃ route ∈ config.routes, route.signal = signal ∧ name ∈ route.exporters))

/-- The records some route sends to the exporter, in queue order. -/
def recordsFor (config : PipelineConfig) (records : List TelemetryRecord) (name : String) : List TelemetryRecord :=
  records.filter fun record => Lists config record.signal name

/-- No exporter is handed a second batch, a batch holds what the routes list for its exporter,
and an export that succeeds has handed all of it over. -/
structure HandsOutOnce (config : PipelineConfig) (exporters : ExporterMap E) (respond : Responses)
    (records : List TelemetryRecord) : Prop where
  once : ((handedOver config exporters respond records).map Prod.fst).Nodup
  exact : ∀ name batch, (name, batch) ∈ handedOver config exporters respond records →
    batch.records = recordsFor config records name
  complete : ∀ report, exportRecords config exporters respond records = .ok report →
    ∀ name, recordsFor config records name ≠ [] →
      (name, ⟨recordsFor config records name⟩) ∈ handedOver config exporters respond records

/-! ### Which exporters the router takes -/

/-- The exporters listed by the first route for a signal. -/
def routedTo (config : PipelineConfig) (signal : SignalKind) : List String :=
  ((config.routes.find? fun route => route.signal == signal).map RouteConfig.exporters).getD []

/-- The first route for the signal lists each exporter once, and the later ones list no others. -/
def Settled (config : PipelineConfig) (signal : SignalKind) : Prop :=
  (routedTo config signal).Nodup ∧
    ∀ route ∈ config.routes, route.signal = signal → ∀ name ∈ route.exporters, name ∈ routedTo config signal

instance (config : PipelineConfig) (signal : SignalKind) : Decidable (Settled config signal) :=
  inferInstanceAs (Decidable (_ ∧ _))

theorem lists_of_routedTo {signal : SignalKind} {name : String} (listed : name ∈ routedTo config signal) :
    Lists config signal name := by
  unfold routedTo at listed
  cases found : config.routes.find? (fun route => route.signal == signal) with
  | none =>
    rw [found] at listed
    cases listed
  | some route =>
    rw [found] at listed
    exact ⟨route, List.mem_of_find?_eq_some found, by simpa using List.find?_some found, listed⟩

/-- Settled means that each exporter is listed once where it is listed at all. -/
theorem settled_iff {signal : SignalKind} :
    Settled config signal ↔
      ∀ name, (routedTo config signal).count name = if Lists config signal name then 1 else 0 := by
  constructor
  · intro settled name
    by_cases listed : Lists config signal name
    · rw [if_pos listed]
      obtain ⟨route, member, same, inside⟩ := listed
      exact List.count_eq_one_of_mem settled.1 (settled.2 route member same name inside)
    · rw [if_neg listed]
      exact List.count_eq_zero.mpr fun inside => listed (lists_of_routedTo inside)
  · intro once
    constructor
    · apply List.nodup_iff_count_le_one.mpr
      intro name
      rw [once name]
      split_ifs <;> decide
    · intro route member same name inside
      have here := once name
      rw [if_pos ⟨route, member, same, inside⟩] at here
      apply List.count_pos_iff.mp
      rw [here]
      exact Nat.one_pos

theorem exportersFor_names (valid : config.Valid) {signal : SignalKind} {destinations : List ExporterConfig}
    (found : config.exportersFor signal = .ok destinations) :
    destinations.map ExporterConfig.name = routedTo config signal := by
  unfold PipelineConfig.exportersFor at found
  unfold routedTo
  cases first : config.routes.find? (fun route => route.signal == signal) with
  | none =>
    rw [first] at found
    cases found
  | some route =>
    rw [first] at found
    obtain ⟨named, resolved, names, -⟩ :=
      namedExporters_of_known (valid.routed route (List.mem_of_find?_eq_some first))
    have same : named = destinations := Except.ok.inj (resolved.symm.trans found)
    rw [← same]
    exact names

/-! ### Grouping -/

theorem foldl_pushRecord (destinations : List ExporterConfig) (grouped : Groups) (record : TelemetryRecord) :
    destinations.foldl (pushRecord · record) grouped =
      (destinations.map ExporterConfig.name).foldl (fun filed name => filed.push name record) grouped := by
  rw [List.foldl_map]
  rfl

/-- Every group holds the records of its exporter as often as the router takes it for them. -/
theorem group_groupRecords (valid : config.Valid) {records : List TelemetryRecord} {grouped groups : Groups}
    (done : groupRecords config records grouped = .ok groups) (filled : grouped.Filled) :
    groups.Filled ∧ ∀ name, groups.group name = grouped.group name ++
      repeated TelemetryRecord.signal (fun signal => (routedTo config signal).count name) records := by
  induction records generalizing grouped with
  | nil =>
    cases done
    exact ⟨filled, fun name => (List.append_nil _).symm⟩
  | cons record rest ih =>
    rw [groupRecords] at done
    cases found : config.exportersFor record.signal with
    | error error =>
      rw [found] at done
      cases done
    | ok destinations =>
      rw [found] at done
      simp only [foldl_pushRecord, exportersFor_names valid found] at done
      obtain ⟨later, contents⟩ := ih done (filled.pushAll _ record)
      apply And.intro later
      intro name
      rw [contents name, OrderedMap.group_pushAll, List.append_assoc]
      rfl

/-! ### Handing over -/

variable (config exporters respond) in
theorem handGroups_prefix (groups : List (String × List TelemetryRecord)) :
    ∃ later, groups = (handGroups config exporters respond groups).map (fun handed => (handed.1, handed.2.records)) ++
      later := by
  induction groups with
  | nil => exact ⟨[], rfl⟩
  | cons group rest ih =>
    obtain ⟨name, records⟩ := group
    rw [handGroups]
    cases exporters.find? name with
    | none => exact ⟨_, rfl⟩
    | some exporter =>
      cases exportWithRetry name (respond name ⟨records⟩) ((retryOf config name).maxAttempts.toNat - 1) 1 with
      | error error => exact ⟨rest, rfl⟩
      | ok report =>
        obtain ⟨later, split⟩ := ih
        exact ⟨later, congrArg (List.cons (name, records)) split⟩

/-- An export that succeeds has gone through all groups. -/
theorem handGroups_of_ok {groups : List (String × List TelemetryRecord)} {report total : FlushReport}
    (exported : exportGroups config exporters respond groups report = .ok total) :
    (handGroups config exporters respond groups).map (fun handed => (handed.1, handed.2.records)) = groups := by
  induction groups generalizing report with
  | nil => rfl
  | cons group rest ih =>
    obtain ⟨name, records⟩ := group
    rw [exportGroups] at exported
    rw [handGroups]
    cases found : exporters.find? name with
    | none =>
      rw [found] at exported
      cases exported
    | some exporter =>
      rw [found] at exported
      simp only at exported ⊢
      cases answer : exportWithRetry name (respond name ⟨records⟩)
          ((retryOf config name).maxAttempts.toNat - 1) 1 with
      | error error =>
        rw [answer] at exported
        cases exported
      | ok done =>
        rw [answer] at exported
        exact congrArg (List.cons (name, records)) (ih exported)

/-- A batch that has been handed over is a group. -/
theorem mem_of_handed {groups : List (String × List TelemetryRecord)} {name : String} {batch : RecordBatch}
    (handed : (name, batch) ∈ handGroups config exporters respond groups) : (name, batch.records) ∈ groups := by
  obtain ⟨later, split⟩ := handGroups_prefix config exporters respond groups
  rw [split]
  exact List.mem_append_left _ (List.mem_map.mpr ⟨(name, batch), handed, rfl⟩)

theorem handed_nodup (groups : Groups) :
    ((handGroups config exporters respond groups.entries).map Prod.fst).Nodup := by
  obtain ⟨later, split⟩ := handGroups_prefix config exporters respond groups.entries
  have names := groups.nodup_keys
  rw [OrderedMap.keys, split, List.map_append, List.map_map] at names
  exact (List.nodup_append.mp names).1

/-- The records of a group, once all of them are known to be routed. -/
def groupFor (config : PipelineConfig) (records : List TelemetryRecord) (name : String) : List TelemetryRecord :=
  repeated TelemetryRecord.signal (fun signal => (routedTo config signal).count name) records

theorem groupFor_eq_recordsFor_iff (records : List TelemetryRecord) :
    (∀ name, groupFor config records name = recordsFor config records name) ↔
      ∀ record ∈ records, Settled config record.signal := by
  have each : ∀ name, groupFor config records name = recordsFor config records name ↔
      ∀ record ∈ records, (routedTo config record.signal).count name =
        if Lists config record.signal name then 1 else 0 :=
    fun name => repeated_eq_filter_iff _ _ (fun signal => Lists config signal name) records
  constructor
  · intro same record member
    exact settled_iff.mpr fun name => (each name).mp (same name) record member
  · intro settled name
    exact (each name).mpr fun record member => settled_iff.mp (settled record member) name

/-- The groups of records that are all routed. -/
theorem exists_groups (valid : config.Valid) {records : List TelemetryRecord}
    (routed : ∀ record ∈ records, config.Routes record.signal) :
    ∃ groups : Groups, groupRecords config records .empty = .ok groups ∧ groups.Filled ∧
      ∀ name, groups.group name = groupFor config records name := by
  obtain ⟨groups, grouped, -⟩ := groupRecords_ok valid routed .empty (fun name listed => by cases listed)
  obtain ⟨filled, contents⟩ := group_groupRecords valid grouped OrderedMap.filled_empty
  exact ⟨groups, grouped, filled, contents⟩

theorem handsOutOnce_of_settled (valid : config.Valid) {records : List TelemetryRecord}
    (routed : ∀ record ∈ records, config.Routes record.signal)
    (settled : ∀ record ∈ records, Settled config record.signal) (respond : Responses) :
    HandsOutOnce config exporters respond records := by
  obtain ⟨groups, grouped, filled, contents⟩ := exists_groups valid routed
  have same := (groupFor_eq_recordsFor_iff records).mpr settled
  have handed : handedOver config exporters respond records =
      handGroups config exporters respond groups.entries := by
    unfold handedOver
    rw [grouped]
  constructor
  · rw [handed]
    exact handed_nodup groups
  · intro name batch member
    rw [handed] at member
    have held := (filled.mem_entries_iff name batch.records).mp (mem_of_handed member)
    rw [← held.1, contents, same]
  · intro report exported name some
    rw [exportRecords, grouped] at exported
    have all := handGroups_of_ok exported
    have held : (name, recordsFor config records name) ∈ groups.entries :=
      (filled.mem_entries_iff name _).mpr ⟨(contents name).trans (same name), some⟩
    rw [← all] at held
    obtain ⟨⟨other, batch⟩, member, equal⟩ := List.mem_map.mp held
    have names : other = name := congrArg Prod.fst equal
    have same : batch.records = recordsFor config records name := congrArg Prod.snd equal
    rw [handed, ← same, ← names]
    exact member

/-- Routing in one place only is needed: exporters that deliver are handed every group. -/
theorem settled_of_handsOutOnce (valid : config.Valid) (configured : Configured config exporters)
    (succeeding : Succeeding respond) {records : List TelemetryRecord}
    (routed : ∀ record ∈ records, config.Routes record.signal)
    (handsOut : HandsOutOnce config exporters respond records) :
    ∀ record ∈ records, Settled config record.signal := by
  obtain ⟨groups, grouped, filled, contents⟩ := exists_groups valid routed
  obtain ⟨report, exported⟩ := (exportRecords_ok_iff valid configured succeeding records).mpr routed
  apply (groupFor_eq_recordsFor_iff records).mp
  intro name
  have handed : handedOver config exporters respond records =
      handGroups config exporters respond groups.entries := by
    unfold handedOver
    rw [grouped]
  have all := handGroups_of_ok (by rw [exportRecords, grouped] at exported; exact exported)
  by_cases empty : groupFor config records name = []
  · by_cases none : recordsFor config records name = []
    · rw [empty, none]
    · have member := handsOut.complete report exported name none
      rw [handed] at member
      have held := (filled.mem_entries_iff name _).mp (mem_of_handed member)
      rw [← contents]
      exact held.1
  · have held : (name, groupFor config records name) ∈ groups.entries :=
      (filled.mem_entries_iff name _).mpr ⟨contents name, empty⟩
    rw [← all] at held
    obtain ⟨⟨other, batch⟩, member, equal⟩ := List.mem_map.mp held
    rw [← handed] at member
    have names : other = name := congrArg Prod.fst equal
    have same : batch.records = groupFor config records name := congrArg Prod.snd equal
    rw [← same, ← names]
    exact handsOut.exact other batch member

/-- For a configuration that passes `validate`, with its exporters built and every signal routed:
routing hands out each record once, whatever the exporters answer, if and only if the first route
for each of the signals lists no exporter twice and no later route lists a further one. -/
theorem hands_out_once_iff {build : ExporterConfig → Except ExporterError E} (checked : config.validate = .ok ())
    (built : buildExporters build config.exporters .empty = .ok exporters) {records : List TelemetryRecord}
    (routed : ∀ record ∈ records, config.Routes record.signal) :
    (∀ respond, HandsOutOnce config exporters respond records) ↔
      ∀ record ∈ records, Settled config record.signal := by
  have valid := valid_of_validate checked
  constructor
  · intro handsOut
    have succeeding : Succeeding fun _ _ _ => .delivered ⟨0, 0⟩ := fun _ _ _ => ⟨⟨0, 0⟩, rfl⟩
    exact settled_of_handsOutOnce valid (configured_of_build built) succeeding routed (handsOut _)
  · intro settled respond
    exact handsOutOnce_of_settled valid routed settled respond

theorem hands_out_once_default :
    (∀ record ∈ [leastRecord .log, leastRecord .trace], PipelineConfig.default.Routes record.signal) ∧
      ∀ respond, HandsOutOnce .default (OrderedMap.empty.insert "stdout" ()) respond
        [leastRecord .log, leastRecord .trace] :=
  have built : buildExporters (fun _ => .ok ()) PipelineConfig.default.exporters .empty =
      .ok (OrderedMap.empty.insert "stdout" ()) := rfl
  ⟨by decide, (hands_out_once_iff default_validate built (by decide)).mpr (by decide)⟩

/-- A file that routes the logs twice, under the two names of their signal. -/
def twoNames : String :=
  "tenant: \"t\"\nreceivers:\n  in:\n    protocol: otlp_grpc\n    endpoint: \"a\"\n" ++
  "exporters:\n  archive:\n    protocol: file\n    endpoint: \"b\"\n" ++
  "  console:\n    protocol: stdout\n    endpoint: \"c\"\n" ++
  "routes:\n  log:\n    exporters: [archive]\n  logs:\n    exporters: [console]\n"

/-- The second name is read, checked and never used. -/
theorem second_route_ignored :
    ∃ config, parsePipelineConfig Serde.core twoNames = .ok config ∧ config.validate = .ok () ∧
      (∀ record ∈ [leastRecord .log], config.Routes record.signal) ∧
      ∀ (exporters : ExporterMap Unit) (build : ExporterConfig → Except ExporterError Unit),
        buildExporters build config.exporters .empty = .ok exporters →
        ¬ ∀ respond, HandsOutOnce config exporters respond [leastRecord .log] := by
  have read : ((parsePipelineConfig Serde.core twoNames).toOption.any fun config =>
      decide (config.validate = .ok () ∧ config.Routes .log ∧ ¬ Settled config .log)) = true := by
    -- the characters of the text first, which are slow to compute from its bytes
    rewrite [parsePipelineConfig_core, readYaml]
    unfold twoNames
    rewrite [String.toList_append, String.toList_append, String.toList_append, String.toList_ofList, String.toList_ofList,
      String.toList_ofList, String.toList_ofList]
    decide +kernel
  cases parsed : parsePipelineConfig Serde.core twoNames with
  | error error =>
    rw [parsed] at read
    cases read
  | ok config =>
    rw [parsed] at read
    have facts := of_decide_eq_true read
    have routed : ∀ record ∈ [leastRecord .log], config.Routes record.signal := by
      intro record member
      rw [List.mem_singleton.mp member]
      exact facts.2.1
    refine ⟨config, rfl, facts.1, routed, ?_⟩
    intro exporters build built handsOut
    have succeeding : Succeeding fun _ _ _ => .delivered ⟨0, 0⟩ := fun _ _ _ => ⟨⟨0, 0⟩, rfl⟩
    exact facts.2.2 (settled_of_handsOutOnce (valid_of_validate facts.1) (configured_of_build built) succeeding
      routed (handsOut _) (leastRecord .log) (List.mem_singleton.mpr rfl))

end TelemetryFabric.Agent
