import TelemetryFabric.Agent.HeadOfQueue
import TelemetryFabric.Processors.Again

/-!
The flush after one that has failed in its export. It reads the same batch, unless the first one has
set the batch's segment aside, but the rate limiters have already counted the records of the batch.
-/

namespace TelemetryFabric.Agent
open Library TelemetryFabric.Core Buffer Processors

variable {E : Type}

/-! ### Attempts -/

/-- The flush took a batch, and then returned an error. -/
structure FailsInExport (flushing : AgentM E FlushReport) (maxItems now : Nat) (runtime : AgentRuntime E)
    (batch : PendingBatch) (handed : List TelemetryRecord) (report : FlushReport) (later : AgentRuntime E) : Prop where
  taken : ∃ session, takeBatch maxItems (fun _ _ => now) ⟨runtime, []⟩ = .ok (some (batch, handed), report) session
  failed : ∃ error, flushing ⟨runtime, []⟩ = .error (.raised error) ⟨later, []⟩

/-- The next flush takes the same batch and hands over the same records, to the exporters and by the
routes of the first; it reports the same records as dropped. -/
structure RetriesAlike (flushing : Responses → AgentM E FlushReport) (maxItems now : Nat) (runtime : AgentRuntime E)
    (batch : PendingBatch) (handed : List TelemetryRecord) (report : FlushReport) (later : AgentRuntime E) : Prop where
  readAgain : ReadAgain maxItems batch later.queue
  takenAgain : ∃ again session,
    takeBatch maxItems (fun _ _ => now) ⟨later, []⟩ = .ok (some (again, handed), report) session
  reported : ∀ respond exported, exportRecords runtime.config runtime.exporters respond handed = .ok exported →
    ∃ last, flushing respond ⟨later, []⟩ = .ok (report.withExport exported) last

/-- The flushes that the agent has, while no other task takes the lock. -/
def IsFlush (flushing : Responses → AgentM E FlushReport) (maxItems now : Nat) : Prop :=
  flushing = flush maxItems (fun _ _ => now) ∨ flushing = flushShared maxItems false fun _ _ => now

/-- Payloads that are taken are records. -/
theorem holds_of_processPayloads {clock : Nat → Nat → Nat} {payloads : List Bytes} {before : List TelemetryRecord}
    {dropped : Nat} {chain : ProcessorChain} {result : List TelemetryRecord × Nat}
    (done : (processPayloads clock payloads before dropped chain).1 = .ok result) : Holds payloads (decodeAll payloads) := by
  induction payloads generalizing clock before dropped chain with
  | nil => exact List.Forall₂.nil
  | cons payload payloads ih =>
    rw [processPayloads] at done
    cases decoded : TelemetryRecord.decode payload with
    | error error =>
      rw [decoded] at done
      cases done
    | ok record =>
      rw [decoded] at done
      have shown : decodeAll (payload :: payloads) = record :: decodeAll payloads := by
        unfold decodeAll
        rw [List.filterMap_cons, decoded]
        rfl
      rw [shown]
      obtain ⟨decision, next, processed⟩ := chain.process_ok (clock 0) record
      simp only [processed] at done
      cases decision with
      | none => exact List.Forall₂.cons decoded (ih done)
      | some emitted => exact List.Forall₂.cons decoded (ih done)

section Taken

variable {runtime : AgentRuntime E} {maxItems : Nat} {clock : Nat → Nat → Nat} {batch : PendingBatch}
  {handed : List TelemetryRecord} {report : FlushReport} {session : AgentSession E}

/-- What a batch that was taken says about the queue and the chain. -/
theorem takeBatch_some (sound : runtime.queue.Sound)
    (taken : takeBatch maxItems clock ⟨runtime, []⟩ = .ok (some (batch, handed), report) session) :
    ∃ queue, readBatch maxItems ⟨runtime.queue, []⟩ = .ok batch ⟨queue, []⟩ ∧ batch.payloads ≠ [] ∧
      Holds batch.payloads (decodeAll batch.payloads) ∧
      handed = (runtime.work clock batch (decodeAll batch.payloads)).records ∧
      report = (runtime.work clock batch (decodeAll batch.payloads)).report := by
  have fits : maxItems ≤ maxBatchItems := by
    by_contra large
    rw [takeBatch_panics (Nat.not_le.mp large)] at taken
    cases taken
  rcases readBatch_takes sound.toShaped fits with ⟨read, queue, done, -⟩ | ⟨message, queue, failed, -⟩
  · rw [takeBatch_calm clock done] at taken
    by_cases nothing : read.payloads.isEmpty = true
    · rw [if_pos nothing] at taken
      cases taken
    rw [if_neg nothing] at taken
    cases outcome : processPayloads clock read.payloads [] 0 runtime.processors with
    | mk result processors =>
      cases result with
      | error error =>
        rw [outcome] at taken
        cases taken
      | ok emitted =>
        rw [outcome] at taken
        cases taken
        have holds : Holds batch.payloads (decodeAll batch.payloads) :=
          holds_of_processPayloads (congrArg Prod.fst outcome)
        have shown := (processPayloads_eq holds [] 0 runtime.processors).symm.trans outcome
        simp only [List.nil_append, Nat.zero_add, Prod.mk.injEq, Except.ok.injEq] at shown
        obtain ⟨⟨rfl, rfl⟩, -⟩ := shown
        exact ⟨queue, done, by simpa using nothing, holds, rfl, rfl⟩
  · simp only [takeBatch, bind_session, onQueue, failed] at taken
    cases taken

end Taken

/-! ### The flush behind it -/

section Retry

variable {runtime later : AgentRuntime E} {maxItems now : Nat} {flushing : Responses → AgentM E FlushReport}
  {respond : Responses} {batch : PendingBatch} {handed : List TelemetryRecord} {report : FlushReport}

/-- A flush that raises is neither paused nor waiting. -/
theorem IsFlush.of_raised (either : IsFlush flushing maxItems now) {error : AgentError}
    (raised : flushing respond ⟨runtime, []⟩ = .error (.raised error) ⟨later, []⟩) :
    runtime.exportsPaused = false ∧
      flush maxItems (fun _ _ => now) respond ⟨runtime, []⟩ = .error (.raised error) ⟨later, []⟩ ∧
      ∀ next : AgentRuntime E, next.exportsPaused = runtime.exportsPaused →
        next.flushInProgress = runtime.flushInProgress → ∀ respond,
          flushing respond ⟨next, []⟩ = flush maxItems (fun _ _ => now) respond ⟨next, []⟩ := by
  have running : runtime.exportsPaused = false := by
    by_contra paused
    rw [Bool.not_eq_false] at paused
    rcases either with rfl | rfl
    · simp only [flush, bind_session, getRuntime_session, paused, if_true, pure_session] at raised
      cases raised
    · have still : (runtime.exportsPaused && !false) = true := by rw [paused]; rfl
      have idle : prepareSharedFlush maxItems false (fun _ _ => now) ⟨runtime, []⟩ = _ := prepareSharedFlush_paused _ still
      simp only [flushShared, bind_session, idle, pure_session] at raised
      cases raised
  rcases either with rfl | rfl
  · exact ⟨running, raised, fun next _ _ respond => rfl⟩
  · have free : runtime.flushInProgress = false := by
      by_contra busy
      rw [Bool.not_eq_false] at busy
      have open_ : (runtime.exportsPaused && !false) = false := by rw [running]; rfl
      have waits : prepareSharedFlush maxItems false (fun _ _ => now) ⟨runtime, []⟩ = _ :=
        prepareSharedFlush_busy _ open_ busy
      simp only [flushShared, bind_session, waits, throw_session] at raised
      cases raised
    rw [flushShared_eq_flush maxItems false _ respond running free] at raised
    exact ⟨running, raised, fun next pause flag respond =>
      flushShared_eq_flush maxItems false _ respond (pause.trans running) (flag.trans free)⟩

/-- What the failed flush leaves behind. -/
theorem later_of_failed (either : IsFlush flushing maxItems now) (sound : runtime.queue.Sound)
    (failed : FailsInExport (flushing respond) maxItems now runtime batch handed report later) :
    readBatch maxItems ⟨runtime.queue, []⟩ = .ok batch ⟨later.queue, []⟩ ∧ batch.payloads ≠ [] ∧
      Holds batch.payloads (decodeAll batch.payloads) ∧
      handed = (runtime.work (fun _ _ => now) batch (decodeAll batch.payloads)).records ∧
      report = (runtime.work (fun _ _ => now) batch (decodeAll batch.payloads)).report ∧
      later.processors = (runtime.processors.pass (fun _ _ => now) (decodeAll batch.payloads)).2 ∧
      later.config = runtime.config ∧ later.exporters = runtime.exporters ∧ later.exportsPaused = false ∧
      ∀ respond, flushing respond ⟨later, []⟩ = flush maxItems (fun _ _ => now) respond ⟨later, []⟩ := by
  obtain ⟨session, taken⟩ := failed.taken
  obtain ⟨error, raised⟩ := failed.failed
  obtain ⟨queue, read, found, holds, same, counted⟩ := takeBatch_some sound taken
  obtain ⟨running, flushed, again⟩ := either.of_raised raised
  have outcome := flush_holds (fun _ _ => now) respond running read found holds
  rw [flushed] at outcome
  cases exported : exportRecords runtime.config runtime.exporters respond
      (runtime.work (fun _ _ => now) batch (decodeAll batch.payloads)).records with
  | ok report =>
    rw [exported] at outcome
    cases outcome
  | error reason =>
    rw [exported] at outcome
    cases outcome
    exact ⟨read, found, holds, same, counted, rfl, rfl, rfl, running, again _ rfl rfl⟩

/-- As many decisions of a chain are drops as are no records. -/
theorem countP_isNone_add (decisions : List (Option TelemetryRecord)) :
    decisions.countP Option.isNone + (decisions.filterMap id).length = decisions.length := by
  induction decisions with
  | nil => rfl
  | cons decision decisions ih =>
    cases decision with
    | none =>
      rw [List.countP_cons_of_pos rfl, List.filterMap_cons_none rfl, List.length_cons]
      omega
    | some record =>
      have kept : (some record :: decisions).filterMap id = record :: decisions.filterMap id := rfl
      rw [List.countP_cons_of_neg Bool.false_ne_true, kept, List.length_cons, List.length_cons]
      omega

theorem countP_isNone_of_same {first second : List (Option TelemetryRecord)} (size : first.length = second.length)
    (same : first.filterMap id = second.filterMap id) : first.countP Option.isNone = second.countP Option.isNone := by
  have firstSum := countP_isNone_add first
  have secondSum := countP_isNone_add second
  rw [same] at firstSum
  omega

/-- A flush that fails in its export is repeated alike if its batch keeps its segments and every
rate limiter has room for what it lets go on twice. The first is needed, and so is the second unless
what a limiter lets go on is dropped behind it. -/
theorem retry_alike {state : RunState} (reachable : state.Reachable) (same : runtime.queue = state.queue)
    (either : IsFlush flushing maxItems now)
    (failed : FailsInExport (flushing respond) maxItems now runtime batch handed report later) :
    (runtime.queue.keepsBatch maxItems = true ∧ RoomForRetry now runtime.processors.processors (decodeAll batch.payloads) →
      RetriesAlike flushing maxItems now runtime batch handed report later) ∧
    (RetriesAlike flushing maxItems now runtime batch handed report later → runtime.queue.keepsBatch maxItems = true ∧
      (NothingWasted now runtime.processors.processors (decodeAll batch.payloads) →
        RoomForRetry now runtime.processors.processors (decodeAll batch.payloads))) := by
  have sound : runtime.queue.Sound := same ▸ reachable.sound.queue
  obtain ⟨read, found, holds, rfl, rfl, chain, config, exporters, running, flushes⟩ := later_of_failed either sound failed
  have keeps := readAgain_iff sound read
  -- the second flush takes the same payloads, with the chain as the first one left it
  have onward : ∀ {again : PendingBatch}, again.payloads = batch.payloads →
      again.payloads ≠ [] ∧ Holds again.payloads (decodeAll batch.payloads) := by
    intro again payloads
    rw [payloads]
    exact ⟨found, holds⟩
  constructor
  · rintro ⟨kept, room⟩
    have readAgain := keeps.mpr kept
    obtain ⟨again, last, retried, payloads, -⟩ := id readAgain
    obtain ⟨foundAgain, holdsAgain⟩ := onward payloads
    have emitted := pass_again runtime.processors room
    have dropped := countP_isNone_of_same
      ((ProcessorChain.length_pass _ _ _).trans (ProcessorChain.length_pass _ _ _).symm) emitted
    have records : (later.work (fun _ _ => now) again (decodeAll batch.payloads)).records =
        (runtime.work (fun _ _ => now) batch (decodeAll batch.payloads)).records := by
      unfold AgentRuntime.work
      rw [chain]
      exact emitted
    have report : (later.work (fun _ _ => now) again (decodeAll batch.payloads)).report =
        (runtime.work (fun _ _ => now) batch (decodeAll batch.payloads)).report := by
      unfold AgentRuntime.work
      rw [chain, payloads, dropped]
    refine ⟨readAgain, ?_, ?_⟩
    · have taken := takeBatch_holds (fun _ _ => now) retried foundAgain holdsAgain
      rw [records, report] at taken
      exact ⟨again, _, taken⟩
    · intro respond exported delivered
      have outcome := flush_holds (fun _ _ => now) respond running retried foundAgain holdsAgain
      rw [records, report, config, exporters, delivered] at outcome
      rw [flushes respond]
      exact ⟨_, outcome⟩
  · intro alike
    refine ⟨keeps.mp alike.readAgain, fun unwasted => ?_⟩
    obtain ⟨again, last, retried, payloads, -⟩ := alike.readAgain
    obtain ⟨other, session, taken⟩ := alike.takenAgain
    obtain ⟨foundAgain, holdsAgain⟩ := onward payloads
    rw [takeBatch_holds _ retried foundAgain holdsAgain] at taken
    simp only [EStateM.Result.ok.injEq, Prod.mk.injEq, Option.some.injEq] at taken
    have emitted := taken.1.1.2
    unfold AgentRuntime.work at emitted
    rw [chain] at emitted
    exact roomForRetry_of_pass_again runtime.processors unwasted emitted

end Retry

/-! ### One record -/

/-- The default configuration with a rate limit. -/
def metered (limit : UInt64) : PipelineConfig := { PipelineConfig.default with
  processors := [⟨"tenant_rate_limit", .tenantRateLimit, true⟩]
  limits := { TenantLimits.default with maxIngestBytesPerSecond := limit } }

def loggedState : RunState :=
  (run RunState.step (RunState.start "queue" ⟨1000, false⟩) [.enqueue (leastPayload .log)]).getD
    (RunState.start "queue" ⟨1000, false⟩)

def meteredRuntime (limit : UInt64) : AgentRuntime Unit :=
  ⟨metered limit, loggedState.queue, .fromConfig (metered limit), OrderedMap.empty.insert "stdout" (), .default, false, 0, false⟩

theorem loggedState_reachable : loggedState.Reachable := by
  have ran : run RunState.step (RunState.start "queue" ⟨1000, false⟩) [.enqueue (leastPayload .log)] = some loggedState := by
    decide +kernel
  exact .of_run ran

theorem loggedState_read : readBatch 10 ⟨loggedState.queue, []⟩ =
    .ok ⟨[leastPayload .log], ⟨1, 38⟩, false⟩ ⟨loggedState.queue, []⟩ := by
  decide +kernel

/-- The record is exported if the limit admits it, and the export fails. -/
theorem metered_fails {limit : UInt64}
    (passes : ((meteredRuntime limit).processors.pass (fun _ _ => 0) [leastRecord .log]).1 = [some (leastRecord .log)])
    (routed : exportRecords (meteredRuntime limit).config (meteredRuntime limit).exporters (fun _ _ _ => .timedOut)
      [leastRecord .log] = .error (.sink "exporter stdout timed out after 3 attempts")) :
    ∃ later, FailsInExport (flush 10 (fun _ _ => 0) fun _ _ _ => .timedOut) 10 0 (meteredRuntime limit)
      ⟨[leastPayload .log], ⟨1, 38⟩, false⟩ [leastRecord .log] ⟨1, 0, 0, 0⟩ later := by
  have holds : Holds [leastPayload .log] [leastRecord .log] :=
    .cons (decode_encode (leastRecord_encode .log)) .nil
  have found : [leastPayload .log] ≠ [] := List.cons_ne_nil _ _
  have read : readBatch 10 ⟨(meteredRuntime limit).queue, []⟩ = _ := loggedState_read
  have taken := takeBatch_holds (fun _ _ => 0) read found holds
  have outcome := flush_holds (fun _ _ => 0) (fun _ _ _ => .timedOut) rfl read found holds
  have records : ((meteredRuntime limit).work (fun _ _ => 0) ⟨[leastPayload .log], ⟨1, 38⟩, false⟩ [leastRecord .log]).records =
      [leastRecord .log] := by
    unfold AgentRuntime.work
    rw [passes]
    rfl
  have report : ((meteredRuntime limit).work (fun _ _ => 0) ⟨[leastPayload .log], ⟨1, 38⟩, false⟩ [leastRecord .log]).report =
      ⟨1, 0, 0, 0⟩ := by
    unfold AgentRuntime.work
    rw [passes]
    rfl
  rw [records, report] at taken
  rw [records, routed] at outcome
  exact ⟨_, ⟨_, taken⟩, _, outcome⟩

/-- A window with room for the record twice: the retry exports it. -/
theorem retry_alike_metered : ∃ later, RetriesAlike (flush 10 fun _ _ => 0) 10 0 (meteredRuntime 66)
    ⟨[leastPayload .log], ⟨1, 38⟩, false⟩ [leastRecord .log] ⟨1, 0, 0, 0⟩ later := by
  obtain ⟨later, failed⟩ := metered_fails (show ((meteredRuntime 66).processors.pass _ _).1 = _ by decide +kernel)
    (show exportRecords (meteredRuntime 66).config _ _ _ = _ by decide +kernel)
  refine ⟨later, (retry_alike loggedState_reachable rfl (.inl rfl) failed).1 ⟨by decide +kernel, ?_⟩⟩
  have records : decodeAll [leastPayload .log] = [leastRecord .log] := by decide +kernel
  rw [records]
  have room : ∀ record ∈ (through 0 (.tenantRateLimit (.new "tenant_rate_limit" 66)) [leastRecord .log]).1,
      (TenantRateLimitProcessor.new "tenant_rate_limit" 66).used 0 record.tenantId +
        2 * total TelemetryRecord.tenantId estimateRecordBytes record.tenantId
          (through 0 (.tenantRateLimit (.new "tenant_rate_limit" 66)) [leastRecord .log]).1 ≤ (66 : UInt64).toNat := by
    decide +kernel
  exact ⟨fun _ => room, trivial⟩

/-- What a flush returns, and what it leaves in the queue. -/
def flushed (program : AgentM Unit FlushReport) (runtime : AgentRuntime Unit) : Option (FlushReport × List Bytes) :=
  match program ⟨runtime, []⟩ with
  | .ok report later => some (report, later.runtime.queue.readable)
  | .error _ _ => none

/-- A record of more than half the limit is handed over, its export fails, and the retry drops it. -/
theorem failed_export_drops_record : ∃ later,
    FailsInExport (flush 10 (fun _ _ => 0) fun _ _ _ => .timedOut) 10 0 (meteredRuntime 50)
      ⟨[leastPayload .log], ⟨1, 38⟩, false⟩ [leastRecord .log] ⟨1, 0, 0, 0⟩ later ∧
    ¬RetriesAlike (flush 10 fun _ _ => 0) 10 0 (meteredRuntime 50)
      ⟨[leastPayload .log], ⟨1, 38⟩, false⟩ [leastRecord .log] ⟨1, 0, 0, 0⟩ later ∧
    flushed (flush 10 (fun _ _ => 0) fun _ _ _ => .delivered ⟨1, 1⟩) later = some (⟨1, 0, 1, 0⟩, []) := by
  have passes : ((meteredRuntime 50).processors.pass (fun _ _ => 0) [leastRecord .log]).1 = [some (leastRecord .log)] := by
    decide +kernel
  have again : (((meteredRuntime 50).processors.pass (fun _ _ => 0) [leastRecord .log]).2.pass
      (fun _ _ => 0) [leastRecord .log]).1 = [none] := by
    decide +kernel
  have records : decodeAll [leastPayload .log] = [leastRecord .log] := by decide +kernel
  obtain ⟨later, failed⟩ := metered_fails passes (show exportRecords (meteredRuntime 50).config _ _ _ = _ by decide +kernel)
  obtain ⟨read, found, holds, -, -, chain, config, exporters, running, -⟩ :=
    later_of_failed (.inl rfl) loggedState_reachable.sound.queue failed
  rw [records] at chain holds
  have queue : later.queue = loggedState.queue := by
    rw [show (meteredRuntime 50).queue = loggedState.queue from rfl, loggedState_read, EStateM.Result.ok.injEq] at read
    exact (congrArg Session.queue read.2).symm
  have retried : readBatch 10 ⟨later.queue, []⟩ = _ := queue ▸ loggedState_read
  have work : (later.work (fun _ _ => 0) ⟨[leastPayload .log], ⟨1, 38⟩, false⟩ [leastRecord .log]).records = [] := by
    unfold AgentRuntime.work
    rw [chain, again]
    rfl
  have report : (later.work (fun _ _ => 0) ⟨[leastPayload .log], ⟨1, 38⟩, false⟩ [leastRecord .log]).report = ⟨1, 0, 1, 0⟩ := by
    unfold AgentRuntime.work
    rw [chain, again]
    rfl
  refine ⟨later, failed, ?_, ?_⟩
  · intro alike
    obtain ⟨other, session, taken⟩ := alike.takenAgain
    rw [takeBatch_holds _ retried found holds, work] at taken
    cases taken
  · have outcome := flush_holds (fun _ _ => 0) (fun _ _ _ => .delivered ⟨1, 1⟩) running retried found holds
    rw [work, report] at outcome
    have left : (later.queue.afterCommit ⟨[leastPayload .log], ⟨1, 38⟩, false⟩).readable = [] := by
      rw [queue]
      decide +kernel
    unfold flushed
    rw [outcome]
    exact congrArg (fun readable => some (_, readable)) left

end TelemetryFabric.Agent
