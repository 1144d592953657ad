import TelemetryFabric.Library.Admission
import TelemetryFabric.Processors.Chain

/-!
The same records twice through a chain, at one reading of the clock. Seen processor by processor, a
rate limiter admits records against what its windows count, and finds them charged the second time;
every other processor decides as before. The second pass lets go on a part of the first, and all of
it if each window had room for both.
-/

namespace TelemetryFabric.Processors
open Library TelemetryFabric.Core

/-! ### Processor by processor -/

/-- What one processor lets go on. -/
def through (now : Nat) : RecordProcessor → List TelemetryRecord → List TelemetryRecord × RecordProcessor
  | processor, [] => ([], processor)
  | processor, record :: rest =>
      match processor.process now record with
      | (.ok (.emit processed), next) => (processed :: (through now next rest).1, (through now next rest).2)
      | (_, next) => through now next rest

def stages (now : Nat) : List RecordProcessor → List TelemetryRecord → List TelemetryRecord × List RecordProcessor
  | [], records => (records, [])
  | processor :: rest, records =>
      let passed := through now processor records
      ((stages now rest passed.1).1, passed.2 :: (stages now rest passed.1).2)

theorem through_cons_emit {now : Nat} {processor next : RecordProcessor} {record processed : TelemetryRecord}
    (emits : processor.process now record = (.ok (.emit processed), next)) (records : List TelemetryRecord) :
    through now processor (record :: records) = (processed :: (through now next records).1, (through now next records).2) := by
  rw [through, emits]

theorem through_cons_drop {now : Nat} {processor next : RecordProcessor} {record : TelemetryRecord} {reason : String}
    (drops : processor.process now record = (.ok (.drop reason), next)) (records : List TelemetryRecord) :
    through now processor (record :: records) = through now next records := by
  rw [through, drops]

/-- A record that reaches the end does so before the rest. -/
theorem stages_cons_emit {now : Nat} {processors next : List RecordProcessor} {record processed : TelemetryRecord}
    (emits : processEach (fun _ => now) processors record = (.ok (.emit processed), next)) (records : List TelemetryRecord) :
    stages now processors (record :: records) = (processed :: (stages now next records).1, (stages now next records).2) := by
  induction processors generalizing next record records with
  | nil =>
    cases emits
    rfl
  | cons processor rest ih =>
    obtain ⟨decision, changed, done⟩ := processor.process_ok now record
    cases decision with
    | drop reason =>
      have dropped : processEach (fun _ => now) (processor :: rest) record = (.ok (.drop reason), changed :: rest) :=
        processEach_cons_drop done
      rw [dropped] at emits
      cases emits
    | emit onward =>
      have onwards : processEach (fun _ => now) (processor :: rest) record =
          ((processEach (fun _ => now) rest onward).1, changed :: (processEach (fun _ => now) rest onward).2) :=
        processEach_cons_emit done
      rw [onwards, Prod.mk.injEq] at emits
      obtain ⟨first, rfl⟩ := emits
      have inner : processEach (fun _ => now) rest onward =
          (.ok (.emit processed), (processEach (fun _ => now) rest onward).2) := Prod.ext first rfl
      simp only [stages, through_cons_emit done, ih inner]

theorem stages_cons_drop {now : Nat} {processors next : List RecordProcessor} {record : TelemetryRecord} {reason : String}
    (drops : processEach (fun _ => now) processors record = (.ok (.drop reason), next)) (records : List TelemetryRecord) :
    stages now processors (record :: records) = stages now next records := by
  induction processors generalizing next record records with
  | nil => cases drops
  | cons processor rest ih =>
    obtain ⟨decision, changed, done⟩ := processor.process_ok now record
    cases decision with
    | drop other =>
      have dropped : processEach (fun _ => now) (processor :: rest) record = (.ok (.drop other), changed :: rest) :=
        processEach_cons_drop done
      rw [dropped] at drops
      cases drops
      rw [stages, through_cons_drop done]
      rfl
    | emit onward =>
      have onwards : processEach (fun _ => now) (processor :: rest) record =
          ((processEach (fun _ => now) rest onward).1, changed :: (processEach (fun _ => now) rest onward).2) :=
        processEach_cons_emit done
      rw [onwards, Prod.mk.injEq] at drops
      obtain ⟨first, rfl⟩ := drops
      have inner : processEach (fun _ => now) rest onward =
          (.ok (.drop reason), (processEach (fun _ => now) rest onward).2) := Prod.ext first rfl
      simp only [stages, through_cons_emit done, ih inner]

/-- Record by record or processor by processor, the chain does the same. -/
theorem pass_eq_stages (now : Nat) (chain : ProcessorChain) (records : List TelemetryRecord) :
    (chain.pass (fun _ _ => now) records).1.filterMap id = (stages now chain.processors records).1 ∧
      (chain.pass (fun _ _ => now) records).2.processors = (stages now chain.processors records).2 := by
  induction records generalizing chain with
  | nil =>
    have idle : ∀ processors, stages now processors [] = ([], processors) := by
      intro processors
      induction processors with
      | nil => rfl
      | cons processor rest ih => rw [stages, through, ih]
    rw [idle]
    exact ⟨rfl, rfl⟩
  | cons record records ih =>
    obtain ⟨decision, next, done⟩ := processEach_ok (fun _ => now) chain.processors record
    cases decision with
    | emit processed =>
      have first : chain.process (fun _ => now) record = (.ok (some processed), { chain with processors := next }) := by
        rw [ProcessorChain.process, done]
      obtain ⟨emitted, left⟩ := ih { chain with processors := next }
      rw [stages_cons_emit done, ProcessorChain.pass, first]
      exact ⟨congrArg (processed :: ·) emitted, left⟩
    | drop reason =>
      have first : chain.process (fun _ => now) record =
          (.ok none, { chain with processors := next, droppedRecords := chain.droppedRecords + 1 }) := by
        rw [ProcessorChain.process, done]
      obtain ⟨emitted, left⟩ := ih { chain with processors := next, droppedRecords := chain.droppedRecords + 1 }
      rw [stages_cons_drop done, ProcessorChain.pass, first]
      exact ⟨emitted, left⟩

/-! ### Rate limits -/

namespace TenantRateLimitProcessor

/-- What the window of a tenant counts. -/
def used (limiter : TenantRateLimitProcessor) (now : Nat) (tenantId : String) : Nat := (limiter.window tenantId now).usedBytes

theorem used_setWindow (limiter : TenantRateLimitProcessor) (tenantId : String) {now count : Nat} (other : String) :
    (limiter.setWindow tenantId { limiter.window tenantId now with usedBytes := count }).used now other =
      if other = tenantId then count else limiter.used now other := by
  have fresh : ¬now - (limiter.window tenantId now).startedAt ≥ rateWindow := by
    unfold window
    split
    next => simp [rateWindow]
    next found =>
      split_ifs with expired
      · simp [rateWindow]
      · exact expired
  unfold used
  rw [window, setWindow, OrderedMap.find?_insert]
  by_cases same : other = tenantId
  · rw [if_pos same, if_pos same]
    simp only [if_neg fresh]
  · rw [if_neg same, if_neg same]
    rfl

variable {limiter : TenantRateLimitProcessor} {now : Nat}

/-- A limiter of a limit below the largest one admits what its window has room for. -/
theorem processAt_emit (below : limiter.maxBytesPerSecond.toNat < u64Max) {record : TelemetryRecord}
    (room : limiter.used now record.tenantId + estimateRecordBytes record ≤ limiter.maxBytesPerSecond.toNat) :
    ∃ later, limiter.processAt record now = (.ok (.emit record), later) ∧
      later.maxBytesPerSecond = limiter.maxBytesPerSecond ∧
      later.used now = charge TelemetryRecord.tenantId estimateRecordBytes (limiter.used now) record := by
  unfold used at room
  have sum : saturatingAdd (limiter.window record.tenantId now).usedBytes (estimateRecordBytes record) =
      (limiter.window record.tenantId now).usedBytes + estimateRecordBytes record := by
    unfold saturatingAdd
    omega
  refine ⟨limiter.setWindow record.tenantId { limiter.window record.tenantId now with
    usedBytes := (limiter.window record.tenantId now).usedBytes + estimateRecordBytes record }, ?_, rfl, ?_⟩
  · simp only [processAt, sum]
    rw [if_neg (by omega), if_neg (by omega), min_eq_right room]
  · funext tenantId
    rw [used_setWindow, charge]
    split_ifs with same
    · rw [same]
      rfl
    · rfl

theorem processAt_drop (below : limiter.maxBytesPerSecond.toNat < u64Max) {record : TelemetryRecord}
    (full : ¬limiter.used now record.tenantId + estimateRecordBytes record ≤ limiter.maxBytesPerSecond.toNat) :
    ∃ reason later, limiter.processAt record now = (.ok (.drop reason), later) ∧
      later.maxBytesPerSecond = limiter.maxBytesPerSecond ∧ later.used now = limiter.used now := by
  have kept : (limiter.setWindow record.tenantId (limiter.window record.tenantId now)).used now = limiter.used now := by
    funext tenantId
    have set : (limiter.setWindow record.tenantId (limiter.window record.tenantId now)).used now tenantId =
        if tenantId = record.tenantId then limiter.used now record.tenantId else limiter.used now tenantId :=
      used_setWindow limiter record.tenantId tenantId
    rw [set]
    split_ifs with same
    · rw [same]
    · rfl
  unfold used at full
  simp only [processAt]
  by_cases large : estimateRecordBytes record > limiter.maxBytesPerSecond.toNat
  · rw [if_pos large]
    exact ⟨_, _, rfl, rfl, kept⟩
  · have beyond : saturatingAdd (limiter.window record.tenantId now).usedBytes (estimateRecordBytes record) >
        limiter.maxBytesPerSecond.toNat := by
      unfold saturatingAdd
      omega
    rw [if_neg large, if_pos beyond]
    exact ⟨_, _, rfl, rfl, kept⟩

/-- A limiter admits records against its windows. -/
theorem through_limiter (below : limiter.maxBytesPerSecond.toNat < u64Max) (now : Nat) (records : List TelemetryRecord) :
    (through now (.tenantRateLimit limiter) records).1 = admitted TelemetryRecord.tenantId estimateRecordBytes
        (· ≤ limiter.maxBytesPerSecond.toNat) (limiter.used now) records ∧
      ∃ later, (through now (.tenantRateLimit limiter) records).2 = .tenantRateLimit later ∧
        later.maxBytesPerSecond = limiter.maxBytesPerSecond ∧
        later.used now = charged TelemetryRecord.tenantId estimateRecordBytes (· ≤ limiter.maxBytesPerSecond.toNat)
          (limiter.used now) records := by
  induction records generalizing limiter with
  | nil => exact ⟨rfl, limiter, rfl, rfl, rfl⟩
  | cons record records ih =>
    by_cases room : limiter.used now record.tenantId + estimateRecordBytes record ≤ limiter.maxBytesPerSecond.toNat
    · obtain ⟨next, done, max, used⟩ := processAt_emit below room
      have emits : (RecordProcessor.tenantRateLimit limiter).process now record = (.ok (.emit record), .tenantRateLimit next) := by
        rw [RecordProcessor.process, done]
      have rest := ih (show next.maxBytesPerSecond.toNat < u64Max by rw [max]; exact below)
      rw [max, used] at rest
      rw [through_cons_emit emits, charged_of_room room, admitted, if_pos room, rest.1]
      exact ⟨rfl, rest.2⟩
    · obtain ⟨reason, next, done, max, used⟩ := processAt_drop below room
      have drops : (RecordProcessor.tenantRateLimit limiter).process now record = (.ok (.drop reason), .tenantRateLimit next) := by
        rw [RecordProcessor.process, done]
      have rest := ih (show next.maxBytesPerSecond.toNat < u64Max by rw [max]; exact below)
      rw [max, used] at rest
      rw [through_cons_drop drops, charged_of_not_room room, admitted, if_neg room]
      exact rest

end TenantRateLimitProcessor

/-! ### The other processors -/

/-- The processor has a budget that can be used up. -/
def RecordProcessor.budgeted : RecordProcessor → Bool
  | .tenantRateLimit limiter => limiter.maxBytesPerSecond.toNat < u64Max
  | _ => false

/-- What a processor without a budget makes of a record. -/
def RecordProcessor.alone : RecordProcessor → TelemetryRecord → Option TelemetryRecord
  | .memoryLimiter limiter, record => if estimateRecordBytes record > limiter.maxRecordBytes then none else some record
  | .redact redactor, record => some { record with attributes := record.attributes.map redactor.redact }
  | .tenantRateLimit limiter, record =>
      if estimateRecordBytes record > limiter.maxBytesPerSecond.toNat then none else some record

theorem RecordProcessor.process_alone {processor : RecordProcessor} (free : processor.budgeted = false) (now : Nat)
    (record : TelemetryRecord) :
    ∃ next, next.budgeted = false ∧ next.alone = processor.alone ∧
      ((∃ processed, processor.alone record = some processed ∧ processor.process now record = (.ok (.emit processed), next)) ∨
        ∃ reason, processor.alone record = none ∧ processor.process now record = (.ok (.drop reason), next)) := by
  cases processor with
  | memoryLimiter limiter =>
    refine ⟨.memoryLimiter limiter, rfl, rfl, ?_⟩
    simp only [RecordProcessor.process, MemoryLimiterProcessor.process, RecordProcessor.alone]
    split_ifs
    · exact .inr ⟨_, rfl, rfl⟩
    · exact .inl ⟨_, rfl, rfl⟩
  | redact redactor => exact ⟨.redact redactor, rfl, rfl, .inl ⟨_, rfl, rfl⟩⟩
  | tenantRateLimit limiter =>
    have most : limiter.maxBytesPerSecond.toNat = u64Max := by
      have bound := limiter.maxBytesPerSecond.toNat_lt
      have least : ¬limiter.maxBytesPerSecond.toNat < u64Max := of_decide_eq_false free
      unfold u64Max at least ⊢
      omega
    -- a window cannot count to more than the largest limit
    have never : ¬saturatingAdd (limiter.window record.tenantId now).usedBytes (estimateRecordBytes record) >
        limiter.maxBytesPerSecond.toNat := by
      unfold saturatingAdd
      omega
    simp only [RecordProcessor.process, TenantRateLimitProcessor.processAt, RecordProcessor.alone]
    split_ifs with large
    · exact ⟨.tenantRateLimit (limiter.setWindow record.tenantId _), free, rfl, .inr ⟨_, rfl, rfl⟩⟩
    · exact ⟨.tenantRateLimit (limiter.setWindow record.tenantId _), free, rfl, .inl ⟨_, rfl, rfl⟩⟩

theorem through_alone {processor : RecordProcessor} (free : processor.budgeted = false) (now : Nat)
    (records : List TelemetryRecord) :
    (through now processor records).1 = records.filterMap processor.alone ∧
      (through now processor records).2.budgeted = false ∧ (through now processor records).2.alone = processor.alone := by
  induction records generalizing processor with
  | nil => exact ⟨rfl, free, rfl⟩
  | cons record records ih =>
    obtain ⟨next, still, same, ⟨processed, shown, emits⟩ | ⟨reason, shown, drops⟩⟩ := processor.process_alone free now record
    · obtain ⟨emitted, last, final⟩ := ih still
      rw [through_cons_emit emits, List.filterMap_cons_some shown, emitted, same]
      exact ⟨rfl, last, final.trans same⟩
    · obtain ⟨emitted, last, final⟩ := ih still
      rw [through_cons_drop drops, List.filterMap_cons_none shown, emitted, same]
      exact ⟨rfl, last, final.trans same⟩

/-! ### A processor twice -/

section Twice

variable {now : Nat} {processor : RecordProcessor} {records other : List TelemetryRecord}

/-- The window of each tenant that gets records through has room for these records twice. -/
def RecordProcessor.RoomTwice (now : Nat) : RecordProcessor → List TelemetryRecord → Prop
  | .tenantRateLimit limiter, records => limiter.maxBytesPerSecond.toNat < u64Max →
      ∀ record ∈ (through now (.tenantRateLimit limiter) records).1,
        limiter.used now record.tenantId + 2 * total TelemetryRecord.tenantId estimateRecordBytes record.tenantId
          (through now (.tenantRateLimit limiter) records).1 ≤ limiter.maxBytesPerSecond.toNat
  | _, _ => True

theorem limiter_of_budgeted (budgeted : processor.budgeted = true) :
    ∃ limiter, processor = .tenantRateLimit limiter ∧ limiter.maxBytesPerSecond.toNat < u64Max := by
  cases processor with
  | memoryLimiter limiter => cases budgeted
  | redact redactor => cases budgeted
  | tenantRateLimit limiter => exact ⟨limiter, rfl, of_decide_eq_true budgeted⟩

theorem roomTwice_of_free (free : processor.budgeted = false) : processor.RoomTwice now records := by
  cases processor with
  | memoryLimiter limiter => trivial
  | redact redactor => trivial
  | tenantRateLimit limiter => exact fun below => absurd below (of_decide_eq_false free)

/-- Both passes of a limiter as admissions. -/
theorem through_twice {limiter : TenantRateLimitProcessor} (below : limiter.maxBytesPerSecond.toNat < u64Max) (now : Nat)
    (records other : List TelemetryRecord) :
    (through now (.tenantRateLimit limiter) records).1 = admitted TelemetryRecord.tenantId estimateRecordBytes
        (· ≤ limiter.maxBytesPerSecond.toNat) (limiter.used now) records ∧
      (through now (through now (.tenantRateLimit limiter) records).2 other).1 =
        admitted TelemetryRecord.tenantId estimateRecordBytes (· ≤ limiter.maxBytesPerSecond.toNat)
          (charged TelemetryRecord.tenantId estimateRecordBytes (· ≤ limiter.maxBytesPerSecond.toNat) (limiter.used now) records)
          other := by
  obtain ⟨emitted, later, left, max, used⟩ := TenantRateLimitProcessor.through_limiter below now records
  have second := (TenantRateLimitProcessor.through_limiter (show later.maxBytesPerSecond.toNat < u64Max by rw [max]; exact below)
    now other).1
  rw [max, used] at second
  rw [left]
  exact ⟨emitted, second⟩

theorem through_again_sublist (sublist : other.Sublist records) :
    (through now (through now processor records).2 other).1.Sublist (through now processor records).1 := by
  cases budget : processor.budgeted with
  | false =>
    obtain ⟨emitted, free, same⟩ := through_alone budget now records
    rw [emitted, (through_alone free now other).1, same]
    exact sublist.filterMap _
  | true =>
    obtain ⟨limiter, rfl, below⟩ := limiter_of_budgeted budget
    obtain ⟨first, second⟩ := through_twice below now records other
    rw [first, second]
    exact admitted_sublist (fun less => less.trans) sublist fun _ => le_rfl

theorem through_again (room : processor.RoomTwice now records) :
    (through now (through now processor records).2 records).1 = (through now processor records).1 := by
  cases budget : processor.budgeted with
  | false =>
    obtain ⟨emitted, free, same⟩ := through_alone budget now records
    rw [emitted, (through_alone free now records).1, same]
  | true =>
    obtain ⟨limiter, rfl, below⟩ := limiter_of_budgeted budget
    obtain ⟨first, second⟩ := through_twice below now records records
    have enough := room below
    rw [first] at enough
    rw [first, second]
    exact (admitted_twice_iff fun less => less.trans).mpr enough

theorem roomTwice_of_again (same : (through now (through now processor records).2 other).1 = (through now processor records).1) :
    processor.RoomTwice now records := by
  cases budget : processor.budgeted with
  | false => exact roomTwice_of_free budget
  | true =>
    obtain ⟨limiter, rfl, below⟩ := limiter_of_budgeted budget
    obtain ⟨first, second⟩ := through_twice below now records other
    intro _
    rw [first, second] at same
    rw [first]
    exact room_of_admitted_again same

end Twice

/-! ### A chain twice -/

section Chain

variable {now : Nat} {processors : List RecordProcessor} {records other : List TelemetryRecord}

/-- Every rate limiter has room for what it lets go on twice. -/
def RoomForRetry (now : Nat) : List RecordProcessor → List TelemetryRecord → Prop
  | [], _ => True
  | processor :: rest, records =>
      processor.RoomTwice now records ∧ RoomForRetry now rest (through now processor records).1

/-- Nothing that a rate limiter lets go on is dropped behind it. -/
def NothingWasted (now : Nat) : List RecordProcessor → List TelemetryRecord → Prop
  | [], _ => True
  | processor :: rest, records =>
      (processor.budgeted = true → (stages now rest (through now processor records).1).1.length =
        (through now processor records).1.length) ∧
      NothingWasted now rest (through now processor records).1

theorem stages_again (room : RoomForRetry now processors records) :
    (stages now (stages now processors records).2 records).1 = (stages now processors records).1 := by
  induction processors generalizing records with
  | nil => rfl
  | cons processor rest ih =>
    obtain ⟨here, behind⟩ := room
    simp only [stages, through_again here]
    exact ih behind

theorem length_through_le (processor : RecordProcessor) : (through now processor records).1.length ≤ records.length := by
  induction records generalizing processor with
  | nil => exact le_rfl
  | cons record records ih =>
    obtain ⟨decision, next, done⟩ := processor.process_ok now record
    cases decision with
    | emit processed =>
      rw [through_cons_emit done]
      exact Nat.succ_le_succ (ih next)
    | drop reason =>
      rw [through_cons_drop done]
      exact Nat.le_succ_of_le (ih next)

theorem length_stages_le (now : Nat) (processors : List RecordProcessor) (records : List TelemetryRecord) :
    (stages now processors records).1.length ≤ records.length := by
  induction processors generalizing records with
  | nil => exact le_rfl
  | cons processor rest ih => exact (ih _).trans (length_through_le processor)

/-- If the second pass ends with all of the first, each limiter has let everything go on twice. -/
theorem roomForRetry_of_again (unwasted : NothingWasted now processors records) (sublist : other.Sublist records)
    (same : (stages now (stages now processors records).2 other).1 = (stages now processors records).1) :
    RoomForRetry now processors records := by
  induction processors generalizing records other with
  | nil => trivial
  | cons processor rest ih =>
    obtain ⟨here, behind⟩ := unwasted
    simp only [stages] at same
    refine ⟨?_, ih behind (through_again_sublist sublist) same⟩
    cases budget : processor.budgeted with
    | false => exact roomTwice_of_free budget
    | true =>
      have most := length_stages_le now (stages now rest (through now processor records).1).2
        (through now (through now processor records).2 other).1
      rw [same, here budget] at most
      exact roomTwice_of_again ((through_again_sublist sublist).eq_of_length_le most)

/-- A chain lets the same records go on twice if every limiter has room for both. -/
theorem pass_again (chain : ProcessorChain) (room : RoomForRetry now chain.processors records) :
    ((chain.pass (fun _ _ => now) records).2.pass (fun _ _ => now) records).1.filterMap id =
      (chain.pass (fun _ _ => now) records).1.filterMap id := by
  obtain ⟨emitted, left⟩ := pass_eq_stages now chain records
  rw [(pass_eq_stages now _ records).1, emitted, left]
  exact stages_again room

/-- Unless something is dropped behind a limiter, it does so only then. -/
theorem roomForRetry_of_pass_again (chain : ProcessorChain) (unwasted : NothingWasted now chain.processors records)
    (same : ((chain.pass (fun _ _ => now) records).2.pass (fun _ _ => now) records).1.filterMap id =
      (chain.pass (fun _ _ => now) records).1.filterMap id) : RoomForRetry now chain.processors records := by
  obtain ⟨emitted, left⟩ := pass_eq_stages now chain records
  rw [(pass_eq_stages now _ records).1, emitted, left] at same
  exact roomForRetry_of_again unwasted (List.Sublist.refl records) same

end Chain

end TelemetryFabric.Processors
