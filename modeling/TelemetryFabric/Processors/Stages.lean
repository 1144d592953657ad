import TelemetryFabric.Processors.Chain

/-!
The chain processor by processor: which of them drops a record, and what each of them sees of
it. Whatever has passed the chain before, its processors are those of the configuration; only
the windows of the rate limiters change.
-/

namespace TelemetryFabric.Processors
open Library TelemetryFabric.Core

/-- The processor that drops the record, if one does. -/
def droppedBy (clock : Nat → Nat) : List RecordProcessor → TelemetryRecord → Option RecordProcessor
  | [], _ => none
  | processor :: rest, record =>
      match processor.process (clock 0) record with
      | (.ok (.emit processed), _) => droppedBy (fun i => clock (i + 1)) rest processed
      | (.ok (.drop _), _) => some processor
      | (.error _, _) => none

theorem process_eq_none_iff (chain : ProcessorChain) (clock : Nat → Nat) (record : TelemetryRecord) :
    (chain.process clock record).1 = .ok none ↔ (droppedBy clock chain.processors record).isSome := by
  obtain ⟨processors, dropped⟩ := chain
  have loop : ∀ (clock : Nat → Nat) (record : TelemetryRecord),
      (∃ reason, (processEach clock processors record).1 = .ok (.drop reason)) ↔
        (droppedBy clock processors record).isSome := by
    induction processors with
    | nil => simp [processEach, droppedBy]
    | cons processor rest ih =>
      intro clock record
      obtain ⟨decision, next, done⟩ := processor.process_ok (clock 0) record
      cases decision with
      | emit processed =>
        rw [processEach_cons_emit done, droppedBy, done]
        exact ih (fun i => clock (i + 1)) processed
      | drop reason =>
        rw [processEach_cons_drop done, droppedBy, done]
        simp
  rw [← loop clock record]
  obtain ⟨decision, next, done⟩ := processEach_ok clock processors record
  unfold ProcessorChain.process
  cases decision <;> simp [done]

/-! ### The processors of a configuration -/

/-- A processor without its history. -/
def RecordProcessor.blank : RecordProcessor → RecordProcessor
  | .tenantRateLimit limiter => .tenantRateLimit { limiter with windows := .empty }
  | other => other

theorem RecordProcessor.blank_process (processor : RecordProcessor) (now : Nat) (record : TelemetryRecord) :
    (processor.process now record).2.blank = processor.blank := by
  cases processor with
  | memoryLimiter limiter => rfl
  | redact redactor => rfl
  | tenantRateLimit limiter =>
    simp only [RecordProcessor.process, TenantRateLimitProcessor.processAt]
    split_ifs <;> rfl

theorem blank_processEach (clock : Nat → Nat) (processors : List RecordProcessor) (record : TelemetryRecord) :
    (processEach clock processors record).2.map RecordProcessor.blank =
      processors.map RecordProcessor.blank := by
  induction processors generalizing clock record with
  | nil => rfl
  | cons processor rest ih =>
    obtain ⟨decision, next, done⟩ := processor.process_ok (clock 0) record
    have same : next.blank = processor.blank := by
      rw [← processor.blank_process (clock 0) record, done]
    cases decision with
    | emit processed =>
      rw [processEach_cons_emit done, List.map_cons, List.map_cons, same, ih]
    | drop reason => rw [processEach_cons_drop done, List.map_cons, List.map_cons, same]

theorem ProcessorChain.blank_process (chain : ProcessorChain) (clock : Nat → Nat) (record : TelemetryRecord) :
    (chain.process clock record).2.processors.map RecordProcessor.blank =
      chain.processors.map RecordProcessor.blank := by
  have same := blank_processEach clock chain.processors record
  obtain ⟨decision, next, done⟩ := processEach_ok clock chain.processors record
  rw [done] at same
  unfold ProcessorChain.process
  cases decision <;> simpa [done] using same

theorem ProcessorChain.blank_pass (clock : Nat → Nat → Nat) (chain : ProcessorChain)
    (records : List TelemetryRecord) :
    (chain.pass clock records).2.processors.map RecordProcessor.blank =
      chain.processors.map RecordProcessor.blank := by
  induction records generalizing clock chain with
  | nil => rfl
  | cons record rest ih =>
    simp only [ProcessorChain.pass]
    rw [ih, chain.blank_process]

/-- Every processor is one that the configuration asks for. -/
def Built (config : PipelineConfig) (processors : List RecordProcessor) : Prop :=
  ∀ processor ∈ processors, ∃ entry ∈ config.processors, entry.enabled = true ∧
    ofKind config.limits entry = some processor.blank

theorem built_of_blank {config : PipelineConfig} {processors : List RecordProcessor}
    (same : processors.map RecordProcessor.blank =
      (ProcessorChain.fromConfig config).processors.map RecordProcessor.blank) : Built config processors := by
  intro processor member
  have inside : processor.blank ∈ (ProcessorChain.fromConfig config).processors.map RecordProcessor.blank := by
    rw [← same]
    exact List.mem_map_of_mem member
  obtain ⟨original, listed, blank⟩ := List.mem_map.mp inside
  obtain ⟨entry, chosen, made⟩ := List.mem_filterMap.mp listed
  obtain ⟨known, enabled⟩ := List.mem_filter.mp chosen
  refine ⟨entry, known, enabled, ?_⟩
  rw [← blank, made]
  unfold ofKind at made
  split at made <;> cases made <;> rfl

/-- The chain of a configuration, after any records have passed it. -/
theorem built_pass (config : PipelineConfig) (clock : Nat → Nat → Nat) (records : List TelemetryRecord) :
    Built config ((ProcessorChain.fromConfig config).pass clock records).2.processors :=
  built_of_blank (ProcessorChain.blank_pass clock _ records)

/-! ### Sizes -/

/-- What the redactor of a configuration makes of a record. -/
def redacted (record : TelemetryRecord) : TelemetryRecord :=
  { record with attributes := record.attributes.map (RedactProcessor.new "" redactedKeys).redact }

theorem redacted_redacted (record : TelemetryRecord) : redacted (redacted record) = redacted record := by
  have again : ∀ entry, (RedactProcessor.new "" redactedKeys).redact
      ((RedactProcessor.new "" redactedKeys).redact entry) =
        (RedactProcessor.new "" redactedKeys).redact entry := by
    intro entry
    unfold RedactProcessor.redact
    by_cases sensitive : (RedactProcessor.new "" redactedKeys).sensitiveKeys.any (fun key =>
        toAsciiLowercase entry.key == key || endsWith (toAsciiLowercase entry.key) key) = true
    · simp [sensitive]
    · simp [sensitive]
  simp [redacted, again]

def RecordProcessor.isMemoryLimiter : RecordProcessor → Bool
  | .memoryLimiter _ => true
  | _ => false

/-- The configuration has an enabled processor of this kind. -/
def Enables (config : PipelineConfig) (kind : ProcessorKind) : Prop :=
  ∃ entry ∈ config.processors, entry.enabled = true ∧ entry.kind = kind

instance (config : PipelineConfig) (kind : ProcessorKind) : Decidable (Enables config kind) :=
  inferInstanceAs (Decidable (∃ entry ∈ config.processors, entry.enabled = true ∧ entry.kind = kind))

/-- The record is within the limit as it was ingested, and as a redactor may leave it. -/
structure WithinLimit (config : PipelineConfig) (record : TelemetryRecord) : Prop where
  ingested : estimateRecordBytes record ≤ config.limits.maxRecordBytes.toNat
  redacted : Enables config .redact → estimateRecordBytes (redacted record) ≤ config.limits.maxRecordBytes.toNat

/-- A processor that lets a record go on leaves it as it is, or redacts it. -/
theorem emit_cases {config : PipelineConfig} {processor next : RecordProcessor} {entry : ProcessorConfig}
    (made : ofKind config.limits entry = some processor.blank) {now : Nat} {record processed : TelemetryRecord}
    (emits : processor.process now record = (.ok (.emit processed), next)) :
    processed = record ∨ processed = redacted record ∧ entry.kind = .redact := by
  cases processor with
  | memoryLimiter limiter =>
    simp only [RecordProcessor.process, MemoryLimiterProcessor.process] at emits
    split_ifs at emits
    · cases emits
    · cases emits
      exact Or.inl rfl
  | redact redactor =>
    refine Or.inr ?_
    cases emits
    unfold ofKind at made
    split at made <;> cases made
    exact ⟨rfl, by assumption⟩
  | tenantRateLimit limiter =>
    simp only [RecordProcessor.process, TenantRateLimitProcessor.processAt] at emits
    split_ifs at emits
    · cases emits
    · cases emits
    · cases emits
      exact Or.inl rfl

theorem maxRecordBytes_of_made {config : PipelineConfig} {limiter : MemoryLimiterProcessor}
    {entry : ProcessorConfig} (made : ofKind config.limits entry = some (.memoryLimiter limiter)) :
    limiter.maxRecordBytes = config.limits.maxRecordBytes.toNat := by
  unfold ofKind at made
  split at made <;> cases made
  rfl

/-- The memory limiters of a configuration let a record go on that is within the limit at
every point of the chain. -/
theorem droppedBy_of_withinLimit {config : PipelineConfig} {processors : List RecordProcessor}
    (built : Built config processors) {record : TelemetryRecord} (within : WithinLimit config record)
    (clock : Nat → Nat) {dropper : RecordProcessor} (dropped : droppedBy clock processors record = some dropper) :
    dropper.isMemoryLimiter = false := by
  -- the induction is over the chain, with the record as it is or redacted
  have loop : ∀ (clock : Nat → Nat) (seen : TelemetryRecord),
      seen = record ∨ seen = redacted record ∧ Enables config .redact →
        droppedBy clock processors seen = some dropper → dropper.isMemoryLimiter = false := by
    clear dropped
    induction processors with
    | nil =>
      intro clock seen _ dropped
      cases dropped
    | cons processor rest ih =>
      intro clock seen shown dropped
      obtain ⟨entry, known, enabled, made⟩ := built processor List.mem_cons_self
      have fits : estimateRecordBytes seen ≤ config.limits.maxRecordBytes.toNat := by
        rcases shown with rfl | ⟨rfl, redacts⟩
        · exact within.ingested
        · exact within.redacted redacts
      obtain ⟨decision, next, done⟩ := processor.process_ok (clock 0) seen
      cases decision with
      | emit processed =>
        rw [droppedBy, done] at dropped
        have onward : processed = record ∨ processed = redacted record ∧ Enables config .redact := by
          rcases emit_cases made done with rfl | ⟨rfl, kind⟩
          · exact shown
          · refine Or.inr ⟨?_, entry, known, enabled, kind⟩
            rcases shown with rfl | ⟨rfl, -⟩
            · rfl
            · exact redacted_redacted record
        exact ih (fun other member => built other (List.mem_cons_of_mem _ member)) _ processed onward dropped
      | drop reason =>
        rw [droppedBy, done] at dropped
        obtain rfl := Option.some.inj dropped
        cases processor with
        | memoryLimiter limiter =>
          have bound := maxRecordBytes_of_made made
          simp only [RecordProcessor.process, MemoryLimiterProcessor.process] at done
          rw [if_neg (by omega)] at done
          cases done
        | redact redactor => rfl
        | tenantRateLimit limiter => rfl
  exact loop clock record (Or.inl rfl) dropped

/-- A memory limiter at the head of the chain drops exactly what is over the limit. -/
theorem droppedBy_memoryLimiter_head {config : PipelineConfig} {limiter : MemoryLimiterProcessor}
    {rest : List RecordProcessor} (built : Built config (.memoryLimiter limiter :: rest)) (clock : Nat → Nat)
    (record : TelemetryRecord) (large : config.limits.maxRecordBytes.toNat < estimateRecordBytes record) :
    droppedBy clock (.memoryLimiter limiter :: rest) record = some (.memoryLimiter limiter) := by
  obtain ⟨entry, -, -, made⟩ := built (.memoryLimiter limiter) List.mem_cons_self
  have bound := maxRecordBytes_of_made made
  simp only [droppedBy, RecordProcessor.process, MemoryLimiterProcessor.process]
  rw [if_pos (by omega)]

/-! ### The smallest record -/

/-- A tenant of one byte and nothing else. -/
def leastRecord (signal : SignalKind) : TelemetryRecord := ⟨"t", signal, 0, [], []⟩

theorem estimate_leastRecord (signal : SignalKind) : estimateRecordBytes (leastRecord signal) = 33 := by
  cases signal <;> decide +kernel

theorem length_utf8_pos {text : String} (named : isBlank text = false) : 0 < (utf8 text).length := by
  apply List.length_pos_iff.mpr
  intro none
  have read := fromUtf8?_utf8 text
  rw [none, show fromUtf8? [] = some "" from fromUtf8?_utf8 ""] at read
  rw [← Option.some.inj read] at named
  cases named

theorem le_estimateRecordBytes {record : TelemetryRecord} (named : isBlank record.tenantId = false) :
    33 ≤ estimateRecordBytes record := by
  have tenant := length_utf8_pos named
  unfold estimateRecordBytes
  omega

/-- The limit of the processor is below the smallest estimate. -/
def RecordProcessor.shut : RecordProcessor → Bool
  | .memoryLimiter limiter => limiter.maxRecordBytes < 33
  | .redact _ => false
  | .tenantRateLimit limiter => limiter.maxBytesPerSecond.toNat < 33

theorem RecordProcessor.shut_blank (processor : RecordProcessor) : processor.blank.shut = processor.shut := by
  cases processor <;> rfl

theorem any_shut_of_blank {first second : List RecordProcessor}
    (same : first.map RecordProcessor.blank = second.map RecordProcessor.blank) :
    first.any RecordProcessor.shut = second.any RecordProcessor.shut := by
  have through : ∀ processors : List RecordProcessor,
      processors.any RecordProcessor.shut = (processors.map RecordProcessor.blank).any RecordProcessor.shut := by
    intro processors
    simp only [List.any_map, Function.comp_def, RecordProcessor.shut_blank]
  rw [through, same, ← through]

theorem RecordProcessor.drops_of_shut {processor : RecordProcessor} (shut : processor.shut = true) (now : Nat)
    {record : TelemetryRecord} (named : isBlank record.tenantId = false) :
    ∃ reason next, processor.process now record = (.ok (.drop reason), next) := by
  have least := le_estimateRecordBytes named
  cases processor with
  | memoryLimiter limiter =>
    have tight : limiter.maxRecordBytes < 33 := by simpa [RecordProcessor.shut] using shut
    simp only [RecordProcessor.process, MemoryLimiterProcessor.process]
    rw [if_pos (by omega)]
    exact ⟨_, _, rfl⟩
  | redact redactor => cases shut
  | tenantRateLimit limiter =>
    have tight : limiter.maxBytesPerSecond.toNat < 33 := by simpa [RecordProcessor.shut] using shut
    simp only [RecordProcessor.process, TenantRateLimitProcessor.processAt]
    rw [if_pos (by omega)]
    exact ⟨_, _, rfl⟩

theorem RecordProcessor.tenant_of_emit {processor next : RecordProcessor} {now : Nat}
    {record processed : TelemetryRecord} (emits : processor.process now record = (.ok (.emit processed), next)) :
    processed.tenantId = record.tenantId := by
  cases processor with
  | memoryLimiter limiter =>
    simp only [RecordProcessor.process, MemoryLimiterProcessor.process] at emits
    split_ifs at emits <;> cases emits
    rfl
  | redact redactor =>
    cases emits
    rfl
  | tenantRateLimit limiter =>
    simp only [RecordProcessor.process, TenantRateLimitProcessor.processAt] at emits
    split_ifs at emits <;> cases emits
    rfl

/-- A chain with such a processor drops everything. -/
theorem processEach_shut {processors : List RecordProcessor}
    (shut : processors.any RecordProcessor.shut = true) (clock : Nat → Nat) {record : TelemetryRecord}
    (named : isBlank record.tenantId = false) :
    ∃ reason, (processEach clock processors record).1 = .ok (.drop reason) := by
  induction processors generalizing clock record with
  | nil => cases shut
  | cons processor rest ih =>
    obtain ⟨decision, next, done⟩ := processor.process_ok (clock 0) record
    cases decision with
    | drop reason => exact ⟨reason, by rw [processEach_cons_drop done]⟩
    | emit processed =>
      rw [processEach_cons_emit done]
      rw [List.any_cons, Bool.or_eq_true] at shut
      rcases shut with here | later
      · obtain ⟨reason, other, dropped⟩ := RecordProcessor.drops_of_shut here (clock 0) named
        rw [dropped] at done
        cases done
      · exact ih later _ ((RecordProcessor.tenant_of_emit done).symm ▸ named)

theorem ProcessorChain.pass_shut {chain : ProcessorChain}
    (shut : chain.processors.any RecordProcessor.shut = true) (clock : Nat → Nat → Nat)
    {records : List TelemetryRecord} (named : ∀ record ∈ records, isBlank record.tenantId = false) :
    (chain.pass clock records).1.filterMap id = [] := by
  induction records generalizing clock chain with
  | nil => rfl
  | cons record rest ih =>
    obtain ⟨reason, dropped⟩ := processEach_shut shut (clock 0) (named record (by simp))
    have none : (chain.process (clock 0) record).1 = .ok none := by
      unfold ProcessorChain.process
      generalize processEach (clock 0) chain.processors record = outcome at dropped
      obtain ⟨decision, next⟩ := outcome
      cases dropped
      rfl
    have still := any_shut_of_blank (chain.blank_process (clock 0) record)
    simp only [ProcessorChain.pass, none]
    exact ih (still.trans shut) _ fun other member => named other (List.mem_cons_of_mem _ member)

/-- The smallest record passes every processor that is not shut and has seen nothing. -/
theorem RecordProcessor.emits_least {processor : RecordProcessor} (unshut : processor.shut = false)
    (unused : processor.blank = processor) (now : Nat) (signal : SignalKind) :
    ∃ next, processor.process now (leastRecord signal) = (.ok (.emit (leastRecord signal)), next) := by
  have size := estimate_leastRecord signal
  cases processor with
  | memoryLimiter limiter =>
    have wide : ¬ limiter.maxRecordBytes < 33 := by simpa [RecordProcessor.shut] using unshut
    simp only [RecordProcessor.process, MemoryLimiterProcessor.process]
    rw [if_neg (by omega)]
    exact ⟨_, rfl⟩
  | redact redactor => exact ⟨_, rfl⟩
  | tenantRateLimit limiter =>
    have wide : ¬ limiter.maxBytesPerSecond.toNat < 33 := by simpa [RecordProcessor.shut] using unshut
    have fresh : limiter.windows = .empty := by
      have same : { limiter with windows := .empty } = limiter := RecordProcessor.tenantRateLimit.inj unused
      rw [← same]
    have window : limiter.window (leastRecord signal).tenantId now = ⟨now, 0⟩ := by
      rw [TenantRateLimitProcessor.window, fresh]
      rfl
    simp only [RecordProcessor.process, TenantRateLimitProcessor.processAt, window, size]
    rw [if_neg (by omega), if_neg (by unfold saturatingAdd; omega)]
    exact ⟨_, rfl⟩

theorem processEach_least {processors : List RecordProcessor}
    (unshut : processors.any RecordProcessor.shut = false)
    (unused : ∀ processor ∈ processors, processor.blank = processor) (clock : Nat → Nat) (signal : SignalKind) :
    (processEach clock processors (leastRecord signal)).1 = .ok (.emit (leastRecord signal)) := by
  induction processors generalizing clock with
  | nil => rfl
  | cons processor rest ih =>
    rw [List.any_cons, Bool.or_eq_false_iff] at unshut
    obtain ⟨next, emits⟩ := RecordProcessor.emits_least unshut.1 (unused processor (by simp)) (clock 0) signal
    rw [processEach_cons_emit emits]
    exact ih unshut.2 (fun other member => unused other (List.mem_cons_of_mem _ member)) _

theorem ProcessorChain.pass_least {chain : ProcessorChain}
    (unshut : chain.processors.any RecordProcessor.shut = false)
    (unused : ∀ processor ∈ chain.processors, processor.blank = processor) (clock : Nat → Nat → Nat)
    (signal : SignalKind) :
    (chain.pass clock [leastRecord signal]).1 = [some (leastRecord signal)] := by
  have emitted := processEach_least unshut unused (clock 0) signal
  have passed : (chain.process (clock 0) (leastRecord signal)).1 = .ok (some (leastRecord signal)) := by
    unfold ProcessorChain.process
    generalize processEach (clock 0) chain.processors (leastRecord signal) = outcome at emitted
    obtain ⟨decision, next⟩ := outcome
    cases emitted
    rfl
  simp only [ProcessorChain.pass, passed]
  rfl

theorem blank_of_fromConfig {config : PipelineConfig} {processor : RecordProcessor}
    (member : processor ∈ (ProcessorChain.fromConfig config).processors) : processor.blank = processor := by
  obtain ⟨entry, -, made⟩ := List.mem_filterMap.mp member
  unfold ofKind at made
  split at made <;> cases made <;> rfl

/-- A limiter of the configuration is below the smallest estimate. -/
theorem shut_fromConfig_iff (config : PipelineConfig) :
    (ProcessorChain.fromConfig config).processors.any RecordProcessor.shut = true ↔
      (Enables config .memoryLimiter ∧ config.limits.maxRecordBytes.toNat < 33) ∨
      (Enables config .tenantRateLimit ∧ config.limits.maxIngestBytesPerSecond.toNat < 33) := by
  simp only [ProcessorChain.fromConfig, List.any_eq_true, List.mem_filterMap, List.mem_filter, Enables]
  constructor
  · rintro ⟨processor, ⟨entry, ⟨known, enabled⟩, made⟩, shut⟩
    unfold ofKind at made
    split at made <;> cases made
    · next kind => exact Or.inl ⟨⟨entry, known, enabled, kind⟩, of_decide_eq_true shut⟩
    · cases shut
    · next kind =>
      exact Or.inr ⟨⟨entry, known, enabled, kind⟩, of_decide_eq_true shut⟩
  · rintro (⟨⟨entry, known, enabled, kind⟩, tight⟩ | ⟨⟨entry, known, enabled, kind⟩, tight⟩)
    · exact ⟨.memoryLimiter ⟨entry.name, config.limits.maxRecordBytes.toNat⟩,
        ⟨entry, ⟨known, enabled⟩, by rw [ofKind, kind]⟩, decide_eq_true tight⟩
    · exact ⟨.tenantRateLimit (.new entry.name config.limits.maxIngestBytesPerSecond),
        ⟨entry, ⟨known, enabled⟩, by rw [ofKind, kind]⟩, decide_eq_true tight⟩

end TelemetryFabric.Processors
