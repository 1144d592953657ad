import Mathlib.Data.List.Forall2
import TelemetryFabric.Processors.Chain

/-!
Redaction seen from outside the chain. Whatever else is configured, and in whatever order, an
enabled redactor masks the values of the sensitive attributes of every record that leaves the chain,
and leaves the rest of it alone. No other processor looks further than the size of a record, so
secrets of one size cannot be told apart by what comes out.
-/

namespace TelemetryFabric.Processors
open Library TelemetryFabric.Core

/-- The key ends, in lower case, with one of the sensitive names. -/
def sensitive (key : String) : Bool := redactedKeys.any fun name => endsWith (toAsciiLowercase key) name

def maskedAttribute (entry : Attribute) : Attribute :=
  if sensitive entry.key then { entry with value := "[REDACTED]" } else entry

def maskedRecord (record : TelemetryRecord) : TelemetryRecord :=
  { record with attributes := record.attributes.map maskedAttribute }

theorem maskedAttribute_again (entry : Attribute) : maskedAttribute (maskedAttribute entry) = maskedAttribute entry := by
  by_cases secret : sensitive entry.key = true
  · have first : maskedAttribute entry = { entry with value := "[REDACTED]" } := if_pos secret
    rw [first]
    exact if_pos secret
  · have first : maskedAttribute entry = entry := if_neg secret
    rw [first, first]

theorem maskedRecord_again (record : TelemetryRecord) : maskedRecord (maskedRecord record) = maskedRecord record := by
  have entries : (record.attributes.map maskedAttribute).map maskedAttribute = record.attributes.map maskedAttribute := by
    rw [List.map_map]
    apply List.map_congr_left
    intro entry _
    rw [Function.comp_apply, maskedAttribute_again]
  simp only [maskedRecord, entries]

/-- A redactor with the configured names; that a key equal to a name is tested for on its own changes nothing. -/
theorem redact_eq_masked {redactor : RedactProcessor} (standard : redactor.sensitiveKeys = redactedKeys) :
    redactor.redact = maskedAttribute := by
  funext entry
  have test : (fun name => toAsciiLowercase entry.key == name || endsWith (toAsciiLowercase entry.key) name) =
      fun name => endsWith (toAsciiLowercase entry.key) name := by
    funext name
    by_cases same : toAsciiLowercase entry.key = name
    · rw [same]
      have ends : endsWith name name = true := List.isSuffixOf_iff_suffix.mpr (List.suffix_refl _)
      rw [ends, Bool.or_true]
    · rw [beq_eq_false_iff_ne.mpr same, Bool.false_or]
  have result : (redactor.sensitiveKeys.any fun name =>
      toAsciiLowercase entry.key == name || endsWith (toAsciiLowercase entry.key) name) = sensitive entry.key := by
    rw [test, standard, sensitive]
  simp only [RedactProcessor.redact, maskedAttribute, result]

/-! ### The redactors of a chain -/

def asRedactor : RecordProcessor → Option RedactProcessor
  | .redact redactor => some redactor
  | _ => none

def redactors (processors : List RecordProcessor) : List RedactProcessor := processors.filterMap asRedactor

theorem asRedactor_process {processor next : RecordProcessor} {now : Nat} {record : TelemetryRecord}
    {decision : Except ProcessingError ProcessDecision} (done : processor.process now record = (decision, next)) :
    asRedactor next = asRedactor processor := by
  cases processor with
  | memoryLimiter limiter =>
    cases done
    rfl
  | redact redactor =>
    cases done
    rfl
  | tenantRateLimit limiter =>
    cases done
    rfl

theorem redactors_processEach (clock : Nat → Nat) (processors : List RecordProcessor) (record : TelemetryRecord) :
    redactors (processEach clock processors record).2 = redactors processors := by
  induction processors generalizing clock record with
  | nil => rfl
  | cons processor rest ih =>
    obtain ⟨decision, next, done⟩ := processor.process_ok (clock 0) record
    have kept := asRedactor_process done
    cases decision with
    | emit processed =>
      rw [processEach_cons_emit done]
      have later := ih (fun i => clock (i + 1)) processed
      simp only [redactors, List.filterMap_cons, kept] at later ⊢
      rw [later]
    | drop reason =>
      rw [processEach_cons_drop done]
      simp only [redactors, List.filterMap_cons, kept]

theorem redactors_process (chain : ProcessorChain) (clock : Nat → Nat) (record : TelemetryRecord) :
    redactors (chain.process clock record).2.processors = redactors chain.processors := by
  have kept := redactors_processEach clock chain.processors record
  obtain ⟨decision, next, done⟩ := processEach_ok clock chain.processors record
  rw [done] at kept
  unfold ProcessorChain.process
  rw [done]
  cases decision <;> exact kept

theorem redactors_pass (clocks : Nat → Nat → Nat) (chain : ProcessorChain) (history : List TelemetryRecord) :
    redactors (chain.pass clocks history).2.processors = redactors chain.processors := by
  induction history generalizing clocks chain with
  | nil => rfl
  | cons record rest ih =>
    simp only [ProcessorChain.pass]
    rw [ih]
    exact redactors_process chain (clocks 0) record

/-- There is a redactor, and every one has the configured names. -/
structure Redacting (processors : List RecordProcessor) : Prop where
  present : redactors processors ≠ []
  standard : ∀ redactor ∈ redactors processors, redactor.sensitiveKeys = redactedKeys

theorem redacting_fromConfig {config : PipelineConfig}
    (enabled : ∃ processor ∈ config.processors, processor.kind = .redact ∧ processor.enabled = true) :
    Redacting (ProcessorChain.fromConfig config).processors := by
  have names : redactedKeys.map toAsciiLowercase = redactedKeys := by decide +kernel
  constructor
  · obtain ⟨processor, member, kind, on⟩ := enabled
    have pushed : RedactProcessor.new processor.name redactedKeys ∈ redactors (ProcessorChain.fromConfig config).processors := by
      apply List.mem_filterMap.mpr
      exact ⟨.redact (.new processor.name redactedKeys), List.mem_filterMap.mpr
        ⟨processor, List.mem_filter.mpr ⟨member, on⟩, by rw [ofKind, kind]⟩, rfl⟩
    intro nothing
    rw [nothing] at pushed
    exact nomatch pushed
  · intro redactor member
    obtain ⟨built, inChain, isRedactor⟩ := List.mem_filterMap.mp member
    obtain ⟨processor, -, pushed⟩ := List.mem_filterMap.mp inChain
    unfold ofKind at pushed
    cases kind : processor.kind with
    | redact =>
      rw [kind] at pushed
      cases pushed
      cases isRedactor
      exact names
    | memoryLimiter =>
      rw [kind] at pushed
      cases pushed
      cases isRedactor
    | tenantRateLimit =>
      rw [kind] at pushed
      cases pushed
      cases isRedactor
    | batch =>
      rw [kind] at pushed
      cases pushed

theorem standard_cons {processor : RecordProcessor} {rest : List RecordProcessor}
    (standard : ∀ redactor ∈ redactors (processor :: rest), redactor.sensitiveKeys = redactedKeys) :
    (∀ redactor, asRedactor processor = some redactor → redactor.sensitiveKeys = redactedKeys) ∧
      ∀ redactor ∈ redactors rest, redactor.sensitiveKeys = redactedKeys := by
  constructor
  · intro redactor found
    apply standard
    simp only [redactors, List.filterMap_cons, found]
    exact List.mem_cons_self
  · intro redactor member
    exact standard redactor (List.Sublist.subset (List.Sublist.filterMap asRedactor (List.sublist_cons_self _ _)) member)

/-! ### What leaves the chain -/

/-- A redactor masks the record, every other processor hands it on. -/
theorem emitted_of_process {processor next : RecordProcessor} {now : Nat} {record emitted : TelemetryRecord}
    (standard : ∀ redactor, asRedactor processor = some redactor → redactor.sensitiveKeys = redactedKeys)
    (emits : processor.process now record = (.ok (.emit emitted), next)) :
    emitted = if (asRedactor processor).isSome then maskedRecord record else record := by
  cases processor with
  | memoryLimiter limiter =>
    simp only [RecordProcessor.process, MemoryLimiterProcessor.process] at emits
    split_ifs at emits
    · cases emits
    · cases emits
      rfl
  | redact redactor =>
    have masks := redact_eq_masked (standard redactor rfl)
    simp only [RecordProcessor.process, RedactProcessor.process, masks] at emits
    cases emits
    rfl
  | tenantRateLimit limiter =>
    simp only [RecordProcessor.process, TenantRateLimitProcessor.processAt] at emits
    split_ifs at emits
    · cases emits
    · cases emits
    · cases emits
      rfl

theorem emitted_of_processEach {clock : Nat → Nat} {processors next : List RecordProcessor} {record emitted : TelemetryRecord}
    (standard : ∀ redactor ∈ redactors processors, redactor.sensitiveKeys = redactedKeys)
    (emits : processEach clock processors record = (.ok (.emit emitted), next)) :
    emitted = if redactors processors = [] then record else maskedRecord record := by
  induction processors generalizing clock record next with
  | nil =>
    cases emits
    rfl
  | cons processor rest ih =>
    obtain ⟨decision, changed, done⟩ := processor.process_ok (clock 0) record
    cases decision with
    | drop reason =>
      rw [processEach_cons_drop done] at emits
      cases emits
    | emit onward =>
      rw [processEach_cons_emit done, Prod.mk.injEq] at emits
      obtain ⟨own, others⟩ := standard_cons standard
      have later := ih others (Prod.ext emits.1 rfl)
      have here := emitted_of_process own done
      cases found : asRedactor processor with
      | none =>
        rw [found] at here
        simp only [redactors, List.filterMap_cons, found] at later ⊢
        rw [later, here]
        rfl
      | some redactor =>
        rw [found] at here
        simp only [redactors, List.filterMap_cons, found] at later ⊢
        rw [later, here]
        simp only [Option.isSome_some, if_true, maskedRecord_again, ite_self, reduceCtorEq, if_false]

/-! ### Secrets -/

/-- The same record up to the values of sensitive attributes, which are equally long. -/
structure DifferInSecrets (record other : TelemetryRecord) : Prop where
  tenantId : record.tenantId = other.tenantId
  signal : record.signal = other.signal
  timestampUnixNanos : record.timestampUnixNanos = other.timestampUnixNanos
  body : record.body = other.body
  attributes : List.Forall₂ (fun entry changed => entry.key = changed.key ∧ (entry.value = changed.value ∨
    sensitive entry.key = true ∧ (utf8 entry.value).length = (utf8 changed.value).length)) record.attributes other.attributes

namespace DifferInSecrets

variable {record other : TelemetryRecord}

theorem estimate (alike : DifferInSecrets record other) : estimateRecordBytes record = estimateRecordBytes other := by
  have sizes : record.attributes.map (fun entry => (utf8 entry.key).length + (utf8 entry.value).length) =
      other.attributes.map (fun entry => (utf8 entry.key).length + (utf8 entry.value).length) := by
    rw [← List.forall₂_eq_eq_eq, List.forall₂_map_left_iff, List.forall₂_map_right_iff]
    apply alike.attributes.imp
    intro entry changed ⟨key, value⟩
    rcases value with same | ⟨-, long⟩
    · rw [key, same]
    · rw [key, long]
  simp only [estimateRecordBytes, alike.tenantId, alike.body, sizes]

theorem masked (alike : DifferInSecrets record other) : maskedRecord record = maskedRecord other := by
  have entries : record.attributes.map maskedAttribute = other.attributes.map maskedAttribute := by
    rw [← List.forall₂_eq_eq_eq, List.forall₂_map_left_iff, List.forall₂_map_right_iff]
    apply alike.attributes.imp
    intro entry changed ⟨key, value⟩
    unfold maskedAttribute
    rw [← key]
    rcases value with same | ⟨secret, -⟩
    · cases entry
      cases changed
      cases key
      cases same
      rfl
    · cases entry
      cases changed
      cases key
      rw [if_pos secret, if_pos secret]
  cases record
  cases other
  cases alike.tenantId
  cases alike.signal
  cases alike.timestampUnixNanos
  cases alike.body
  simp only [maskedRecord, entries]

theorem refl (record : TelemetryRecord) : DifferInSecrets record record :=
  ⟨rfl, rfl, rfl, rfl, List.forall₂_same.mpr fun _ _ => ⟨rfl, .inl rfl⟩⟩

end DifferInSecrets

/-- Two answers that let the same be seen: records that differ in secrets, or the same refusal. -/
inductive Answers : Except ProcessingError ProcessDecision → Except ProcessingError ProcessDecision → Prop where
  | emit {record other : TelemetryRecord} (alike : DifferInSecrets record other) :
      Answers (.ok (.emit record)) (.ok (.emit other))
  | drop (reason : String) : Answers (.ok (.drop reason)) (.ok (.drop reason))

theorem answers_process {record other : TelemetryRecord} (alike : DifferInSecrets record other) (now : Nat)
    {processor : RecordProcessor}
    (standard : ∀ redactor, asRedactor processor = some redactor → redactor.sensitiveKeys = redactedKeys) :
    Answers (processor.process now record).1 (processor.process now other).1 ∧
      (processor.process now record).2 = (processor.process now other).2 := by
  cases processor with
  | memoryLimiter limiter =>
    simp only [RecordProcessor.process, MemoryLimiterProcessor.process, alike.estimate, and_true]
    split_ifs
    · exact .drop _
    · exact .emit alike
  | redact redactor =>
    have masks := redact_eq_masked (standard redactor rfl)
    have same : ({ record with attributes := record.attributes.map maskedAttribute } : TelemetryRecord) =
        { other with attributes := other.attributes.map maskedAttribute } := alike.masked
    simp only [RecordProcessor.process, RedactProcessor.process, masks, same, and_true]
    exact .emit (.refl _)
  | tenantRateLimit limiter =>
    simp only [RecordProcessor.process, TenantRateLimitProcessor.processAt, alike.estimate, alike.tenantId]
    split_ifs
    · exact ⟨.drop _, rfl⟩
    · exact ⟨.drop _, rfl⟩
    · exact ⟨.emit alike, rfl⟩

theorem answers_processEach (clock : Nat → Nat) {processors : List RecordProcessor}
    (standard : ∀ redactor ∈ redactors processors, redactor.sensitiveKeys = redactedKeys)
    {record other : TelemetryRecord} (alike : DifferInSecrets record other) :
    Answers (processEach clock processors record).1 (processEach clock processors other).1 ∧
      (processEach clock processors record).2 = (processEach clock processors other).2 := by
  induction processors generalizing clock record other with
  | nil => exact ⟨.emit alike, rfl⟩
  | cons processor rest ih =>
    obtain ⟨here, behind⟩ := standard_cons standard
    obtain ⟨answers, same⟩ := answers_process alike (clock 0) here
    cases first : processor.process (clock 0) record with
    | mk decision next =>
      cases second : processor.process (clock 0) other with
      | mk decisionOther nextOther =>
        rw [first, second] at answers same
        cases same
        cases answers with
        | emit still =>
          obtain ⟨later, left⟩ := ih (fun i => clock (i + 1)) behind still
          rw [processEach_cons_emit first, processEach_cons_emit second, left]
          exact ⟨later, rfl⟩
        | drop reason =>
          rw [processEach_cons_drop first, processEach_cons_drop second]
          exact ⟨.drop reason, rfl⟩

/-! ### The chain of a configuration -/

theorem emitted_of_process_chain {chain : ProcessorChain} (redacting : Redacting chain.processors) {clock : Nat → Nat}
    {record emitted : TelemetryRecord} (out : (chain.process clock record).1 = .ok (some emitted)) :
    emitted = maskedRecord record := by
  obtain ⟨decision, next, done⟩ := processEach_ok clock chain.processors record
  unfold ProcessorChain.process at out
  rw [done] at out
  cases decision with
  | drop reason => cases out
  | emit processed =>
    cases out
    rw [emitted_of_processEach redacting.standard done, if_neg redacting.present]

theorem process_eq_of_secrets {chain : ProcessorChain} (redacting : Redacting chain.processors) (clock : Nat → Nat)
    {record other : TelemetryRecord} (alike : DifferInSecrets record other) :
    chain.process clock record = chain.process clock other := by
  obtain ⟨answers, left⟩ := answers_processEach clock redacting.standard alike
  cases first : processEach clock chain.processors record with
  | mk decision next =>
    cases second : processEach clock chain.processors other with
    | mk decisionOther nextOther =>
      rw [first, second] at answers left
      cases left
      unfold ProcessorChain.process
      rw [first, second]
      cases answers with
      | drop reason => rfl
      | emit still =>
        have masked := emitted_of_processEach redacting.standard first
        have maskedOther := emitted_of_processEach redacting.standard second
        rw [if_neg redacting.present] at masked maskedOther
        rw [masked, maskedOther, alike.masked]

/-- With a redactor enabled, a record leaves the chain as it came but for the masked values of its sensitive
attributes, and two records that differ in nothing else fare alike. -/
theorem chain_redacts {config : PipelineConfig}
    (enabled : ∃ processor ∈ config.processors, processor.kind = .redact ∧ processor.enabled = true)
    (history : List TelemetryRecord) (clocks : Nat → Nat → Nat) (clock : Nat → Nat) (record : TelemetryRecord) :
    (∀ emitted, ((((ProcessorChain.fromConfig config).pass clocks history).2).process clock record).1 = .ok (some emitted) →
      emitted.tenantId = record.tenantId ∧ emitted.signal = record.signal ∧
        emitted.timestampUnixNanos = record.timestampUnixNanos ∧ emitted.body = record.body ∧
        List.Forall₂ (fun entry masked => masked.key = entry.key ∧
          masked.value = if sensitive entry.key = true then "[REDACTED]" else entry.value)
          record.attributes emitted.attributes) ∧
    ∀ other, DifferInSecrets record other →
      (((ProcessorChain.fromConfig config).pass clocks history).2).process clock record =
        (((ProcessorChain.fromConfig config).pass clocks history).2).process clock other := by
  have start := redacting_fromConfig enabled
  have redacting : Redacting ((ProcessorChain.fromConfig config).pass clocks history).2.processors := by
    constructor
    · rw [redactors_pass]
      exact start.present
    · rw [redactors_pass]
      exact start.standard
  constructor
  · intro emitted out
    rw [emitted_of_process_chain redacting out]
    refine ⟨rfl, rfl, rfl, rfl, ?_⟩
    apply List.forall₂_map_right_iff.mpr
    apply List.forall₂_same.mpr
    intro entry _
    by_cases secret : sensitive entry.key = true
    · have masks : maskedAttribute entry = { entry with value := "[REDACTED]" } := if_pos secret
      rw [masks, if_pos secret]
      exact ⟨rfl, rfl⟩
    · have keeps : maskedAttribute entry = entry := if_neg secret
      rw [keeps, if_neg secret]
      exact ⟨rfl, rfl⟩
  · intro other alike
    exact process_eq_of_secrets redacting clock alike

/-- A pipeline with a rate limit before its redactor. -/
def limitedPipeline : PipelineConfig :=
  { PipelineConfig.default with
    processors := [⟨"rate", .tenantRateLimit, true⟩, ⟨"off", .memoryLimiter, false⟩, ⟨"redact", .redact, true⟩] }

def withPassword (password : String) : TelemetryRecord :=
  ⟨"tenant-a", .log, 0, [⟨"User.Password", password⟩, ⟨"db.system", "postgres"⟩], []⟩

theorem passwords_alike :
    (((ProcessorChain.fromConfig limitedPipeline).pass (fun k _ => k) [withPassword "one"]).2.process (fun _ => 7)
        (withPassword "hunter2")) =
      ((ProcessorChain.fromConfig limitedPipeline).pass (fun k _ => k) [withPassword "one"]).2.process (fun _ => 7)
        (withPassword "letmein") := by
  have alike : DifferInSecrets (withPassword "hunter2") (withPassword "letmein") := by
    refine ⟨rfl, rfl, rfl, rfl, .cons ⟨rfl, .inr ?_⟩ (.cons ⟨rfl, .inl rfl⟩ .nil)⟩
    decide +kernel
  exact (chain_redacts ⟨⟨"redact", .redact, true⟩, by decide, rfl, rfl⟩ [withPassword "one"] (fun k _ => k) (fun _ => 7)
    (withPassword "hunter2")).2 _ alike

end TelemetryFabric.Processors
