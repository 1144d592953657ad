import TelemetryFabric.Agent.Delivery
import TelemetryFabric.Processors.Stages

/-!
What can keep the head of the queue from being committed while every exporter delivers. A
record that was ingested decodes, no processor fails, and a route of a valid configuration
leads to exporters that are there; what is left is a signal without a route.
-/

namespace TelemetryFabric.Agent
open Library TelemetryFabric.Core Buffer Processors

variable {E : Type} {config : PipelineConfig} {exporters : ExporterMap E} {respond : Responses}

/-! ### Exporting -/

/-- Every attempt of every exporter delivers. -/
def Succeeding (respond : Responses) : Prop :=
  ∀ name batch attempt, ∃ report, respond name batch attempt = .delivered report

theorem exportWithRetry_ok (succeeding : Succeeding respond) (name : String) (batch : RecordBatch)
    (left attempt : Nat) : ∃ report, exportWithRetry name (respond name batch) left attempt = .ok report := by
  obtain ⟨report, delivered⟩ := succeeding name batch attempt
  cases left with
  | zero => exact ⟨report, by rw [exportWithRetry, delivered]⟩
  | succ left => exact ⟨report, by rw [exportWithRetry, delivered]⟩

theorem exportGroups_ok (configured : Configured config exporters) (succeeding : Succeeding respond)
    (groups : List (String × List TelemetryRecord))
    (known : ∀ group ∈ groups, group.1 ∈ config.exporterNames) (report : FlushReport) :
    ∃ total, exportGroups config exporters respond groups report = .ok total := by
  induction groups generalizing report with
  | nil => exact ⟨report, rfl⟩
  | cons group rest ih =>
    obtain ⟨name, records⟩ := group
    have listed : name ∈ exporters.keys := (configured name).mpr (known (name, records) (by simp))
    obtain ⟨exporter, found⟩ := Option.isSome_iff_exists.mp ((exporters.mem_keys_iff name).mp listed)
    obtain ⟨exported, delivered⟩ := exportWithRetry_ok succeeding name ⟨records⟩
      ((retryOf config name).maxAttempts.toNat - 1) 1
    rw [exportGroups, found]
    simp only [delivered]
    exact ih (fun other member => known other (List.mem_cons_of_mem _ member)) _

theorem mem_keys_pushRecords {record : TelemetryRecord} {destinations : List ExporterConfig}
    {grouped : Groups} {name : String}
    (listed : name ∈ (destinations.foldl (pushRecord · record) grouped).keys) :
    name ∈ grouped.keys ∨ ∃ destination ∈ destinations, destination.name = name := by
  induction destinations generalizing grouped with
  | nil => exact Or.inl listed
  | cons destination rest ih =>
    rcases ih listed with before | ⟨other, member, same⟩
    · rcases (OrderedMap.mem_keys_insert _ _ _ _).mp before with rfl | earlier
      · exact Or.inr ⟨destination, by simp, rfl⟩
      · exact Or.inl earlier
    · exact Or.inr ⟨other, List.mem_cons_of_mem _ member, same⟩

theorem groupRecords_ok (valid : config.Valid) {records : List TelemetryRecord}
    (routed : ∀ record ∈ records, config.Routes record.signal) (grouped : Groups)
    (known : ∀ name ∈ grouped.keys, name ∈ config.exporterNames) :
    ∃ groups, groupRecords config records grouped = .ok groups ∧
      ∀ name ∈ groups.keys, name ∈ config.exporterNames := by
  induction records generalizing grouped with
  | nil => exact ⟨grouped, rfl, known⟩
  | cons record rest ih =>
    rcases exportersFor_cases valid record.signal with ⟨-, destinations, found, members⟩ | ⟨unrouted, -⟩
    · rw [groupRecords, found]
      apply ih (fun other member => routed other (List.mem_cons_of_mem _ member))
      intro name listed
      rcases mem_keys_pushRecords listed with before | ⟨destination, member, rfl⟩
      · exact known name before
      · exact List.mem_map_of_mem (members destination member)
    · exact absurd (routed record (by simp)) unrouted

theorem groupRecords_unrouted (valid : config.Valid) {records : List TelemetryRecord} {record : TelemetryRecord}
    (member : record ∈ records) (unrouted : ¬ config.Routes record.signal) (grouped : Groups) :
    ∃ error, groupRecords config records grouped = .error error := by
  induction records generalizing grouped with
  | nil => cases member
  | cons head rest ih =>
    rcases exportersFor_cases valid head.signal with ⟨routed, destinations, found, -⟩ | ⟨-, missing⟩
    · rw [groupRecords, found]
      rcases List.mem_cons.mp member with rfl | later
      · exact absurd routed unrouted
      · exact ih later _
    · exact ⟨_, by rw [groupRecords, missing]⟩

/-- With the exporters of a valid configuration in place and delivering, an export fails
exactly when one of its records has no route. -/
theorem exportRecords_ok_iff (valid : config.Valid) (configured : Configured config exporters)
    (succeeding : Succeeding respond) (records : List TelemetryRecord) :
    (∃ report, exportRecords config exporters respond records = .ok report) ↔
      ∀ record ∈ records, config.Routes record.signal := by
  constructor
  · rintro ⟨report, exported⟩ record member
    by_contra unrouted
    obtain ⟨error, failed⟩ := groupRecords_unrouted valid member unrouted .empty
    rw [exportRecords, failed] at exported
    cases exported
  · intro routed
    obtain ⟨groups, grouped, known⟩ := groupRecords_ok valid routed .empty
      (fun name listed => by cases listed)
    obtain ⟨total, exported⟩ := exportGroups_ok configured succeeding groups.entries
      (fun group member => known group.1 (List.mem_map_of_mem member)) .default
    exact ⟨total, by rw [exportRecords, grouped]; exact exported⟩

/-! ### What is in the queue -/

/-- `ingest` takes the record under this configuration, at least while the queue is empty. -/
structure Accepted (config : PipelineConfig) (record : TelemetryRecord) (payload : Bytes) : Prop where
  valid : record.validate config.limits.maxRecordBytes.toNat = .ok ()
  encoded : record.encode = .ok payload
  small : payload.length ≤ u32Max
  quota : recordHeaderLen + payload.length ≤ config.limits.maxQueueBytes.toNat

/-- What `ingest` takes with something in the queue, it takes. -/
theorem Admissible.accepted {runtime : AgentRuntime E} {record : TelemetryRecord} {payload : Bytes}
    (admissible : Admissible runtime record payload) : Accepted runtime.config record payload := by
  refine ⟨admissible.valid, admissible.encoded, admissible.small, ?_⟩
  have quota := admissible.quota
  have small := admissible.small
  unfold saturatingAdd at quota
  simp only [u32Max, u64Max, recordHeaderLen] at *
  omega

/-- A runtime under the configuration, between two flushes and not paused, whose queue holds
whole records that were accepted under it. -/
structure Serving (config : PipelineConfig) (runtime : AgentRuntime E) : Prop where
  under : runtime.config = config
  processors : runtime.processors.processors.map RecordProcessor.blank =
    (ProcessorChain.fromConfig config).processors.map RecordProcessor.blank
  exporters : Configured config runtime.exporters
  unpaused : runtime.exportsPaused = false
  free : runtime.flushInProgress = false
  queue : runtime.queue.Pristine
  held : ∃ records, List.Forall₂ (fun payload record => Accepted config record payload)
    runtime.queue.readable records

/-! ### Every state between two flushes -/

/-- The runtime has this configuration, and its processors are those the configuration asks for. -/
def Wired (config : PipelineConfig) (runtime : AgentRuntime E) : Prop :=
  runtime.config = config ∧ runtime.processors.processors.map RecordProcessor.blank =
    (ProcessorChain.fromConfig config).processors.map RecordProcessor.blank

theorem blank_processPayloads (clock : Nat → Nat → Nat) (payloads : List Bytes) (records : List TelemetryRecord)
    (dropped : Nat) (chain : ProcessorChain) :
    (processPayloads clock payloads records dropped chain).2.processors.map RecordProcessor.blank =
      chain.processors.map RecordProcessor.blank := by
  induction payloads generalizing clock records dropped chain with
  | nil => rfl
  | cons payload rest ih =>
    rw [processPayloads]
    cases TelemetryRecord.decode payload with
    | error error => rfl
    | ok record =>
      obtain ⟨decision, next, done⟩ := chain.process_ok (clock 0) record
      have same := chain.blank_process (clock 0) record
      rw [done] at same
      simp only [done]
      cases decision with
      | none => exact (ih _ _ _ _).trans same
      | some processed => exact (ih _ _ _ _).trans same

theorem takeBatch_wired (maxItems : Nat) (clock : Nat → Nat → Nat) :
    Preserves (Wired config) (takeBatch maxItems clock :
      AgentM E (Option (PendingBatch × List TelemetryRecord) × FlushReport)) := by
  refine .bind (.onQueue_of_unaffected _ fun _ _ wired => wired) fun batch => ?_
  simp only
  split_ifs
  · exact .bind (.onQueue_of_unaffected _ fun _ _ wired => wired) fun _ => .pure _
  · refine .getRuntime fun runtime wired => .bind (.modifyRuntime fun later kept => ?_) fun _ =>
      .bind (.ofExcept _ _) fun _ => .pure _
    exact ⟨kept.1, (blank_processPayloads _ _ _ _ _).trans wired.2⟩

/-- Anything but a reload with another configuration. -/
def AgentOperation.Under (config : PipelineConfig) : AgentOperation E → Prop
  | .reload other _ => other = config
  | _ => True

theorem operation_wired {operation : AgentOperation E} (shared : operation.shared = true)
    (under : operation.Under config) : operation.Preserves (Wired config) := by
  cases operation with
  | ingest record plan =>
    have inner : Preserves (Wired config) (ingestInner record : AgentM E Unit) := by
      refine .getRuntime fun runtime _ => .bind (.ofExcept _ _) fun _ => .bind (.ofExcept _ _)
        fun encoded => .bind (.ofExcept _ _) fun recordBytes => ?_
      simp only
      split_ifs
      · exact .bind (.fail _) fun _ => .onQueue_of_unaffected _ fun _ _ wired => wired
      · exact .onQueue_of_unaffected _ fun _ _ wired => wired
    exact .counting inner (fun _ _ wired => wired) fun _ wired => wired
  | reload other build =>
    obtain rfl : other = config := under
    refine .counting (.bind (.ofExcept _ _) fun _ => .bind (.ofExcept _ _) fun _ => .modifyRuntime ?_) ?_ ?_
    · exact fun _ _ => ⟨rfl, rfl⟩
    · exact fun _ _ wired => wired
    · exact fun _ wired => wired
  | pause => exact .modifyRuntime fun _ wired => wired
  | resume => exact .modifyRuntime fun _ wired => wired
  | prepare maxItems force clock plan =>
    exact prepareSharedFlush_preserves (takeBatch_wired maxItems clock) force (fun _ wired => wired)
      (fun _ wired => wired) (fun _ _ wired => wired) fun _ wired => ⟨wired, wired⟩
  | deliver index respond => trivial
  | complete index plan =>
    intro flush result
    have finish : Preserves (Wired config) (commitFlush flush result) := by
      cases result with
      | ok exported => exact .bind (.onQueue_of_unaffected _ fun _ _ wired => wired) fun _ => .pure _
      | error error => exact .fail _
    exact completeFlush_preserves finish (fun _ wired => wired) (fun _ _ wired => wired) fun _ wired => wired
  | flush maxItems clock respond plan => cases shared
  | restart other options build => cases shared

namespace AgentState

variable {state next : AgentState E}

/-- The steps of a shared runtime without file-system errors, under one configuration. -/
def Under (config : PipelineConfig) (state : AgentState E) (operation : AgentOperation E) : Prop :=
  Calm state operation ∧ Steered state operation ∧ operation.Under config

/-- Only an `ingest` that returns `Ok` adds to the records, and only one that was accepted. -/
theorem accepted_of_step (wired : Wired config state.runtime) {operation : AgentOperation E}
    (allowed : Calm state operation) (taken : state.step operation = some next)
    (accepted : ∀ record ∈ state.ingested, ∃ payload, Accepted config record payload) :
    ∀ record ∈ next.ingested, ∃ payload, Accepted config record payload := by
  cases operation with
  | ingest record plan =>
    obtain rfl : plan = [] := allowed.2.1
    rcases step_ingest_calm allowed.2 taken with ⟨payload, full, admissible, -, -, rfl⟩ | rfl
    · intro other member
      rcases List.mem_append.mp member with before | new
      · exact accepted other before
      · rw [List.mem_singleton.mp new]
        exact ⟨payload, wired.1 ▸ admissible.accepted⟩
    · exact accepted
  | reload other build =>
    rcases step_reload taken with ⟨exporters, -, -, rfl⟩ | ⟨error, session, -, rfl⟩
    · exact accepted
    · exact accepted
  | pause =>
    cases taken
    exact accepted
  | resume =>
    cases taken
    exact accepted
  | prepare maxItems force clock plan =>
    simp only [step] at taken
    split at taken <;> cases taken <;> exact accepted
  | deliver index respond =>
    obtain ⟨task, outcome, -, -, -, rfl⟩ := step_deliver taken
    exact accepted
  | complete index plan =>
    simp only [step] at taken
    split at taken
    · split at taken
      · cases taken
      · split at taken <;> cases taken <;> exact accepted
    · cases taken
  | flush maxItems clock respond plan => cases allowed.1
  | restart other options build => cases allowed.1

/-- What holds in every state under one configuration. -/
structure Upheld (config : PipelineConfig) (state : AgentState E) : Prop where
  delivering : Delivering state
  steady : Steady state.runtime.control state.tasks
  wired : Wired config state.runtime
  accepted : ∀ record ∈ state.ingested, ∃ payload, Accepted config record payload

/-- Payloads of accepted records. -/
theorem held_of_accepted {payloads : List Bytes} {records : List TelemetryRecord}
    (held : List.Forall₂ (fun payload record => TelemetryRecord.encode record = .ok payload) payloads records)
    (accepted : ∀ record ∈ records, ∃ payload, Accepted config record payload) :
    List.Forall₂ (fun payload record => Accepted config record payload) payloads records := by
  induction held with
  | nil => exact .nil
  | cons encoded rest ih =>
    obtain ⟨head, others⟩ := List.forall_mem_cons.mp accepted
    obtain ⟨payload, taken⟩ := head
    have same := taken.encoded
    rw [encoded] at same
    cases same
    exact .cons taken (ih others)

/-- A runtime that is opened on an empty directory serves its configuration in every state
between two flushes, while its exports are not paused. -/
theorem serving_of_reaches {path : String} {options : DiskQueueOptions}
    {build : ExporterConfig → Except ExporterError E} {runtime : AgentRuntime E}
    (opened : AgentRuntime.openDir config (.fresh path) options build = .ok runtime)
    (reached : Reaches step (Under config) (start runtime) state) (idle : state.tasks = [])
    (unpaused : state.runtime.exportsPaused = false) : Serving config state.runtime := by
  have upheld : Upheld config state := by
    apply reached.invariant
    · have follows := RunState.start_follows path options
      obtain ⟨-, exporters, -, same⟩ := openDir_eq_ok opened
      have pristine : runtime.queue.Pristine := by
        rw [same]
        exact ⟨follows.healthy.queue, follows.healthy.intact⟩
      have nothing : runtime.queue.readable = [] := by
        rw [same]
        rfl
      refine ⟨resume_delivering opened pristine (nothing ▸ .nil), start_steady opened, ?_, fun record member => ?_⟩
      · rw [same]
        exact ⟨rfl, rfl⟩
      · cases member
    · intro state operation next kept allowed taken
      exact ⟨step_delivering kept.delivering allowed.1 taken, step_steady kept.steady allowed.2.1 taken,
        step_preserves (operation_wired allowed.1.1 allowed.2.2) kept.wired taken,
        accepted_of_step kept.wired allowed.1 taken kept.accepted⟩
  obtain ⟨delivering, steady, wired, accepted⟩ := upheld
  refine ⟨wired.1, wired.2, ?_, unpaused, ?_, delivering.pristine, state.ingested.drop state.committed, ?_⟩
  · have configured := steady.idle idle
    rw [show state.runtime.control.config = config from wired.1] at configured
    exact configured
  · rcases steady.exclusive with ⟨flag, -⟩ | ⟨-, task, one⟩
    · exact flag
    · rw [idle] at one
      cases one
  · exact held_of_accepted delivering.held fun record member => accepted record (List.mem_of_mem_drop member)

end AgentState

/-- The flush returns `Ok` and commits the batch: the first records, up to its size. -/
def Drains (program : AgentM E FlushReport) (runtime : AgentRuntime E) (maxItems : Nat) : Prop :=
  ∃ report later, program ⟨runtime, []⟩ = .ok report later ∧
    report.drainedRecords = (runtime.queue.readable.take maxItems).length ∧
    later.runtime.queue.readable = runtime.queue.readable.drop maxItems

/-! ### A flush on such a queue -/

section Flush

variable {runtime : AgentRuntime E} {maxItems : Nat} {batch : PendingBatch} {queue : DiskQueue}
  {records : List TelemetryRecord}

/-- With nothing to read, both flushes return `Ok`. -/
theorem flush_none (clock : Nat → Nat → Nat) (respond : Responses) (running : runtime.exportsPaused = false)
    (read : readBatch maxItems ⟨runtime.queue, []⟩ = .ok batch ⟨queue, []⟩) (none : batch.payloads = []) :
    flush maxItems clock respond ⟨runtime, []⟩ = .ok .default ⟨AgentRuntime.recordFlushSuccess .default
      { runtime.recordFlushAttempt with queue := queue.afterCommit batch }, []⟩ := by
  have taken : takeBatch maxItems clock ⟨runtime.recordFlushAttempt, []⟩ = _ := takeBatch_calm clock read
  simp only [none, List.isEmpty_nil, if_true, List.length_nil] at taken
  simp only [flush, bind_session, getRuntime_session, running, modifyRuntime_session, counting, flushInner,
    taken, pure_session, Bool.false_eq_true, if_false]
  rfl

/-- A flush of more records than a vector can hold panics. -/
theorem flush_panics (clock : Nat → Nat → Nat) (respond : Responses) (running : runtime.exportsPaused = false)
    (large : maxBatchItems < maxItems) :
    flush maxItems clock respond ⟨runtime, []⟩ = .error .panicked ⟨runtime.recordFlushAttempt, []⟩ := by
  simp only [flush, bind_session, getRuntime_session, running, modifyRuntime_session, counting, flushInner,
    takeBatch_panics large, Bool.false_eq_true, if_false]

/-- A flush that finds records ends as the export of what the chain makes of them. -/
theorem flush_holds (clock : Nat → Nat → Nat) (respond : Responses) (running : runtime.exportsPaused = false)
    (read : readBatch maxItems ⟨runtime.queue, []⟩ = .ok batch ⟨queue, []⟩)
    (found : batch.payloads ≠ []) (holds : Holds batch.payloads records) :
    flush maxItems clock respond ⟨runtime, []⟩ =
      match exportRecords runtime.config runtime.exporters respond (runtime.work clock batch records).records with
      | .ok exported =>
          .ok ((runtime.work clock batch records).report.withExport exported) ⟨AgentRuntime.recordFlushSuccess
            ((runtime.work clock batch records).report.withExport exported) { runtime.recordFlushAttempt with
              queue := queue.afterCommit batch
              processors := (runtime.processors.pass clock records).2 }, []⟩
      | .error error => .error (.raised (.queue error)) ⟨AgentRuntime.recordFlushFailure
          { runtime.recordFlushAttempt with
            queue := queue
            processors := (runtime.processors.pass clock records).2 }, []⟩ := by
  have taken : takeBatch maxItems clock ⟨runtime.recordFlushAttempt, []⟩ = _ :=
    takeBatch_holds clock read found holds
  have work : runtime.recordFlushAttempt.work clock batch records = runtime.work clock batch records := rfl
  have attempted : runtime.recordFlushAttempt.config = runtime.config ∧
      runtime.recordFlushAttempt.exporters = runtime.exporters ∧
      runtime.recordFlushAttempt.processors = runtime.processors := ⟨rfl, rfl, rfl⟩
  simp only [work, attempted] at taken
  simp only [flush, bind_session, getRuntime_session, running, modifyRuntime_session, counting, flushInner,
    taken, Bool.false_eq_true, if_false, attempted]
  cases exportRecords runtime.config runtime.exporters respond (runtime.work clock batch records).records with
  | ok exported => simp only [ofExcept_ok, pure_session, onQueue, commitBatch_eq]
  | error error => simp only [ofExcept_error, fail_session]

/-- What `afterCommit` leaves is behind what was read. -/
theorem readable_of_shown (shown : Shown queue batch) (pristine : queue.Pristine)
    (payloads : batch.payloads = queue.readable.take maxItems) :
    (queue.afterCommit batch).readable = queue.readable.drop maxItems := by
  have split := (shown.committed pristine).2
  have both : batch.payloads ++ (queue.afterCommit batch).readable =
      batch.payloads ++ queue.readable.drop maxItems := by
    rw [split, payloads, List.take_append_drop]
  exact List.append_cancel_left both

end Flush

theorem decode_of_accepted {payloads : List Bytes} {records : List TelemetryRecord}
    (held : List.Forall₂ (fun payload record => Accepted config record payload) payloads records) :
    Holds payloads records :=
  held.imp fun _ _ accepted => decode_encode accepted.encoded

/-- Both flushes drain the queue if the export of the batch cannot fail. -/
theorem drains_of_export {runtime : AgentRuntime E} (serving : Serving config runtime)
    {maxItems : Nat} (fits : maxItems ≤ maxBatchItems) (clock : Nat → Nat → Nat)
    (delivers : ∀ records, List.Forall₂ (fun payload record => Accepted config record payload)
      (runtime.queue.readable.take maxItems) records →
      ∃ exported, exportRecords config runtime.exporters respond
        ((runtime.processors.pass clock records).1.filterMap id) = .ok exported) :
    Drains (flush maxItems clock respond) runtime maxItems ∧
      ∀ force, Drains (flushShared maxItems force clock respond) runtime maxItems := by
  have drained : Drains (flush maxItems clock respond) runtime maxItems := by
    obtain ⟨batch, read, shown, payloads⟩ := serving.queue.reads fits
    have rest := readable_of_shown shown serving.queue payloads
    by_cases none : batch.payloads = []
    · refine ⟨_, _, flush_none clock respond serving.unpaused read none, ?_, rest⟩
      rw [← payloads, none]
      rfl
    · obtain ⟨all, held⟩ := serving.held
      have taken := List.forall₂_take maxItems held
      have holds : Holds batch.payloads (all.take maxItems) := by
        rw [payloads]
        exact decode_of_accepted taken
      obtain ⟨exported, delivered⟩ := delivers _ taken
      have handed : exportRecords runtime.config runtime.exporters respond
          (runtime.work clock batch (all.take maxItems)).records = .ok exported := by
        rw [serving.under]
        exact delivered
      have flushed := flush_holds clock respond serving.unpaused read none holds
      rw [handed] at flushed
      exact ⟨_, _, flushed, congrArg List.length payloads, rest⟩
  refine ⟨drained, fun force => ?_⟩
  unfold Drains
  rw [flushShared_eq_flush maxItems force clock respond serving.unpaused serving.free]
  exact drained

/-! ### When the head can always be committed -/

/-- Some record gets through the queue and through all processors. -/
structure Passable (config : PipelineConfig) : Prop where
  queue : 38 ≤ config.limits.maxQueueBytes.toNat
  memory : Enables config .memoryLimiter → 33 ≤ config.limits.maxRecordBytes.toNat
  rate : Enables config .tenantRateLimit → 33 ≤ config.limits.maxIngestBytesPerSecond.toNat

theorem Passable.unshut (passable : Passable config) :
    (ProcessorChain.fromConfig config).processors.any RecordProcessor.shut = false := by
  rw [← Bool.not_eq_true, shut_fromConfig_iff]
  rintro (⟨enabled, tight⟩ | ⟨enabled, tight⟩)
  · exact absurd (passable.memory enabled) (not_le.mpr tight)
  · exact absurd (passable.rate enabled) (not_le.mpr tight)

/-- The encoding of the smallest record. -/
def leastPayload (signal : SignalKind) : Bytes :=
  recordMagic ++ [signal.toWire] ++ littleEndian 16 0 ++ littleEndian 2 1 ++ utf8 "t" ++ littleEndian 2 0 ++
    littleEndian 4 0

theorem leastRecord_encode (signal : SignalKind) : (leastRecord signal).encode = .ok (leastPayload signal) := by
  cases signal <;> decide +kernel

theorem length_leastPayload (signal : SignalKind) : (leastPayload signal).length = 30 := by
  cases signal <;> decide +kernel

/-- Every record takes at least as much of the queue as the smallest one. -/
theorem Accepted.queue {record : TelemetryRecord} {payload : Bytes} (accepted : Accepted config record payload) :
    38 ≤ config.limits.maxQueueBytes.toNat := by
  have tenant := length_utf8_pos (Core.validate_eq_ok.mp accepted.valid).1
  obtain ⟨-, -, -, attributes, -, bytes⟩ := encode_eq_ok accepted.encoded
  have size := congrArg List.length bytes
  have quota := accepted.quota
  simp only [List.length_append, List.length_cons, List.length_nil, length_littleEndian, recordMagic] at size
  simp only [recordHeaderLen] at quota
  omega

theorem not_passable_cases (shut : ¬ Passable config) :
    config.limits.maxQueueBytes.toNat < 38 ∨
      (ProcessorChain.fromConfig config).processors.any RecordProcessor.shut = true := by
  by_contra neither
  obtain ⟨queue, unshut⟩ := not_or.mp neither
  rw [shut_fromConfig_iff] at unshut
  obtain ⟨memory, rate⟩ := not_or.mp unshut
  exact shut ⟨not_lt.mp queue, fun enabled => not_lt.mp fun tight => memory ⟨enabled, tight⟩,
    fun enabled => not_lt.mp fun tight => rate ⟨enabled, tight⟩⟩

theorem named_of_held {payloads : List Bytes} {records : List TelemetryRecord}
    (held : List.Forall₂ (fun payload record => Accepted config record payload) payloads records) :
    ∀ record ∈ records, isBlank record.tenantId = false := by
  induction held with
  | nil => simp
  | cons accepted rest ih => exact List.forall_mem_cons.mpr ⟨(Core.validate_eq_ok.mp accepted.valid).1, ih⟩

/-- Where nothing passes, the chain emits nothing from any queue. -/
theorem pass_of_not_passable (shut : ¬ Passable config) {runtime : AgentRuntime E}
    (serving : Serving config runtime) {payloads : List Bytes} {records : List TelemetryRecord}
    (held : List.Forall₂ (fun payload record => Accepted config record payload) payloads records)
    (clock : Nat → Nat → Nat) : (runtime.processors.pass clock records).1.filterMap id = [] := by
  rcases not_passable_cases shut with small | shut
  · cases held with
    | nil => rfl
    | cons accepted rest => exact absurd accepted.queue (not_le.mpr small)
  · exact ProcessorChain.pass_shut ((any_shut_of_blank serving.processors).trans shut) clock (named_of_held held)

theorem buildExporters_const [Inhabited E] (configs : List ExporterConfig) (exporters : ExporterMap E) :
    ∃ built, buildExporters (fun _ => .ok default) configs exporters = .ok built := by
  induction configs generalizing exporters with
  | nil => exact ⟨exporters, rfl⟩
  | cons config rest ih => exact ih _

/-- A queue with the smallest record in it. -/
theorem exists_least_queue (signal : SignalKind) :
    ∃ queue : DiskQueue, queue.Pristine ∧ queue.readable = [leastPayload signal] := by
  have follows := RunState.start_follows "queue" ⟨1000, false⟩
  have pristine : (RunState.start "queue" ⟨1000, false⟩).queue.Pristine :=
    ⟨follows.healthy.queue, follows.healthy.intact⟩
  have size := length_leastPayload signal
  have small : (leastPayload signal).length ≤ u32Max := by
    rw [size]
    decide
  have still : ¬ (RunState.start "queue" ⟨1000, false⟩).queue.rotates (leastPayload signal) :=
    fun rotates => absurd rotates.1 (by decide)
  have fits : (frame (leastPayload signal)).length ≤ maxFileLen := by
    rw [length_frame, size]
    decide
  have bytes : (⟨frame (leastPayload signal), fits⟩ : SegmentFile).bytes =
      ((RunState.start "queue" ⟨1000, false⟩).queue.rotated (leastPayload signal)).activeFile.bytes ++
        frame (leastPayload signal) := by
    rw [DiskQueue.rotated, if_neg still]
    rfl
  exact ⟨_, pristine.enqueued small (fun rotates => absurd rotates still) bytes⟩

/-- An agent that has just started, on a queue of accepted records. -/
theorem exists_serving [Inhabited E] {queue : DiskQueue} (pristine : queue.Pristine) {records : List TelemetryRecord}
    (held : List.Forall₂ (fun payload record => Accepted config record payload) queue.readable records) :
    ∃ runtime : AgentRuntime E, Serving config runtime ∧ runtime.processors = .fromConfig config ∧
      runtime.queue = queue := by
  obtain ⟨exporters, built⟩ := buildExporters_const (E := E) config.exporters .empty
  exact ⟨⟨config, queue, .fromConfig config, exporters, .default, false, 0, false⟩,
    ⟨rfl, rfl, configured_of_build built, rfl, rfl, pristine, records, held⟩, rfl, rfl⟩

theorem exists_serving_least [Inhabited E] (passable : Passable config) (signal : SignalKind) :
    ∃ runtime : AgentRuntime E, Serving config runtime ∧ runtime.processors = .fromConfig config ∧
      runtime.queue.readable = [leastPayload signal] := by
  obtain ⟨queue, pristine, readable⟩ := exists_least_queue signal
  have accepted : Accepted config (leastRecord signal) (leastPayload signal) := by
    have size := length_leastPayload signal
    refine ⟨Core.validate_eq_ok.mpr ⟨show isBlank "t" = false by decide, Nat.zero_le _, rfl⟩, leastRecord_encode signal, ?_, ?_⟩
    · rw [size]
      decide
    · rw [size]
      exact passable.queue
  have held : List.Forall₂ (fun payload record => Accepted config record payload) queue.readable [leastRecord signal] := by
    rw [readable]
    exact .cons accepted .nil
  obtain ⟨runtime, serving, chain, rfl⟩ := exists_serving (E := E) pristine held
  exact ⟨runtime, serving, chain, readable⟩

/-- For a configuration that passes `validate` and a batch size of at least one: with delivering
exporters, every flush of every queue of accepted records returns `Ok` and commits its batch if and
only if a vector can hold the batch, and every signal has a route or no record gets as far as the
router. -/
theorem head_always_committed_iff [Inhabited E] (valid : config.validate = .ok ()) {maxItems : Nat}
    (positive : 1 ≤ maxItems) :
    (∀ runtime : AgentRuntime E, Serving config runtime → ∀ respond, Succeeding respond → ∀ clock,
        Drains (flush maxItems clock respond) runtime maxItems ∧
          ∀ force, Drains (flushShared maxItems force clock respond) runtime maxItems) ↔
      maxItems ≤ maxBatchItems ∧ ((∀ signal, config.Routes signal) ∨ ¬ Passable config) := by
  have succeeding : Succeeding fun _ _ _ => .delivered ⟨0, 0⟩ := fun _ _ _ => ⟨_, rfl⟩
  constructor
  · intro always
    have fits : maxItems ≤ maxBatchItems := by
      by_contra large
      have follows := RunState.start_follows "queue" ⟨1000, false⟩
      have nothing : List.Forall₂ (fun payload record => Accepted config record payload)
          (RunState.start "queue" ⟨1000, false⟩).queue.readable [] := .nil
      obtain ⟨runtime, serving, -⟩ := exists_serving (E := E) ⟨follows.healthy.queue, follows.healthy.intact⟩ nothing
      obtain ⟨⟨report, later, flushed, -⟩, -⟩ := always runtime serving _ succeeding fun _ _ => 0
      rw [flush_panics _ _ serving.unpaused (Nat.not_le.mp large)] at flushed
      cases flushed
    refine ⟨fits, ?_⟩
    by_contra blocked
    rw [not_or, not_not] at blocked
    obtain ⟨unrouted, passable⟩ := blocked
    obtain ⟨signal, missing⟩ := not_forall.mp unrouted
    obtain ⟨runtime, serving, chain, content⟩ := exists_serving_least (E := E) passable signal
    obtain ⟨⟨report, later, flushed, -⟩, -⟩ := always runtime serving _ succeeding fun _ _ => 0
    obtain ⟨batch, read, -, payloads⟩ := serving.queue.reads fits
    rw [content, List.take_of_length_le (show [leastPayload signal].length ≤ maxItems from positive)] at payloads
    have holds : Holds batch.payloads [leastRecord signal] := by
      rw [payloads]
      exact .cons (decode_encode (leastRecord_encode signal)) .nil
    have emitted : (runtime.work (fun _ _ => 0) batch [leastRecord signal]).records = [leastRecord signal] := by
      simp only [AgentRuntime.work, chain]
      rw [ProcessorChain.pass_least passable.unshut (fun _ member => blank_of_fromConfig member)]
      rfl
    have found : batch.payloads ≠ [] := by
      intro none
      rw [none] at payloads
      cases payloads
    rw [flush_holds _ _ serving.unpaused read found holds, emitted, serving.under] at flushed
    have routed := exportRecords_ok_iff (valid_of_validate valid) serving.exporters succeeding [leastRecord signal]
    cases exported : exportRecords config runtime.exporters (fun _ _ _ => .delivered ⟨0, 0⟩)
        [leastRecord signal] with
    | ok total => exact missing (routed.mp ⟨total, exported⟩ (leastRecord signal) List.mem_cons_self)
    | error error =>
      rw [exported] at flushed
      cases flushed
  · rintro ⟨fits, condition⟩ runtime serving respond succeeding clock
    apply drains_of_export serving fits clock
    intro records taken
    rw [exportRecords_ok_iff (valid_of_validate valid) serving.exporters succeeding]
    intro record member
    rcases condition with routed | shut
    · exact routed record.signal
    · rw [pass_of_not_passable shut serving taken clock] at member
      cases member

/-- The default configuration routes every signal. -/
theorem head_always_committed_default :
    PipelineConfig.default.validate = .ok () ∧
    ∀ runtime : AgentRuntime Unit, Serving .default runtime → ∀ respond, Succeeding respond → ∀ clock,
      Drains (flush 128 clock respond) runtime 128 ∧
        ∀ force, Drains (flushShared 128 force clock respond) runtime 128 := by
  refine ⟨default_validate, (head_always_committed_iff default_validate (by decide)).mpr ⟨by decide, Or.inl ?_⟩⟩
  intro signal
  cases signal <;> decide

/-- The default configuration with a route for traces only. -/
def tracesOnly : PipelineConfig := { PipelineConfig.default with routes := [⟨.trace, ["stdout"]⟩] }

def tracesOnlyRuntime : AgentRuntime Unit :=
  ⟨tracesOnly, .openDir (.fresh "queue") ⟨1000, false⟩, .fromConfig tracesOnly,
    OrderedMap.empty.insert "stdout" (), .default, false, 0, false⟩

theorem tracesOnlyRuntime_opened :
    AgentRuntime.openDir tracesOnly (.fresh "queue") ⟨1000, false⟩ (fun _ => .ok ()) = .ok tracesOnlyRuntime := by
  have valid : tracesOnly.validate = .ok () := by decide +kernel
  unfold AgentRuntime.openDir
  rw [valid]
  rfl

/-- A metric is ingested, and then a trace; what a flush of both returns and leaves. -/
def metricThenTrace (flushing : AgentM Unit FlushReport) : Option (Option AgentHalt × List Bytes) :=
  match (do
    ingest (leastRecord .metric)
    ingest (leastRecord .trace) : AgentM Unit Unit) ⟨tracesOnlyRuntime, []⟩ with
  | .error _ _ => none
  | .ok _ session =>
      match flushing session with
      | .ok _ later => some (none, later.runtime.queue.readable)
      | .error halt later => some (some halt, later.runtime.queue.readable)

/-- Both records are accepted and the exporter delivers, but the flush fails on the metric and
the trace behind it is not committed either. -/
theorem unrouted_record_blocks_queue :
    AgentRuntime.openDir tracesOnly (.fresh "queue") ⟨1000, false⟩ (fun _ => .ok ()) = .ok tracesOnlyRuntime ∧
    metricThenTrace (flush 10 (fun _ _ => 0) fun _ _ _ => .delivered ⟨1, 1⟩) =
      some (some (.raised (.queue (.sink "missing route for signal: metric"))),
        [leastPayload .metric, leastPayload .trace]) ∧
    metricThenTrace (flushShared 10 false (fun _ _ => 0) fun _ _ _ => .delivered ⟨1, 1⟩) =
      some (some (.raised (.queue (.sink "missing route for signal: metric"))),
        [leastPayload .metric, leastPayload .trace]) :=
  ⟨tracesOnlyRuntime_opened, by decide +kernel, by decide +kernel⟩

end TelemetryFabric.Agent
