import TelemetryFabric.Agent.Methods
import TelemetryFabric.Processors.Stages

/-!
The two size limits of a record. `ingest` compares its body with `max_record_bytes`, the
memory limiter an estimate of the whole record.
-/

namespace TelemetryFabric.Agent
open Library TelemetryFabric.Core Buffer Processors

variable {E : Type}

/-- The runtime accepts a record, and any records have passed the chain of its configuration:
the body is within `max_record_bytes`. If the estimate for the record, and for its redacted
form where a redactor is enabled, is within `max_record_bytes` too, no memory limiter drops it;
a memory limiter that comes first drops it as soon as the estimate is not. -/
theorem memory_limiter_drops {runtime : AgentRuntime E} {record : TelemetryRecord} {later : AgentSession E}
    (accepted : ingest record ⟨runtime, []⟩ = .ok () later) (earlier : List TelemetryRecord)
    (times : Nat → Nat → Nat) (clock : Nat → Nat) :
    let chain := ((ProcessorChain.fromConfig runtime.config).pass times earlier).2
    record.body.length ≤ runtime.config.limits.maxRecordBytes.toNat ∧
    (WithinLimit runtime.config record → ∀ limiter,
      droppedBy clock chain.processors record ≠ some (.memoryLimiter limiter)) ∧
    (∀ limiter rest, chain.processors = .memoryLimiter limiter :: rest →
      runtime.config.limits.maxRecordBytes.toNat < estimateRecordBytes record →
      droppedBy clock chain.processors record = some (.memoryLimiter limiter)) := by
  have built := built_pass runtime.config times earlier
  refine ⟨?_, ?_, ?_⟩
  · rcases ingest_calm runtime record with ⟨payload, full, admissible, -⟩ | ⟨error, -, refused⟩ | ⟨last, failed⟩
    · exact (Core.validate_eq_ok.mp admissible.valid).2.1
    · rw [accepted] at refused
      cases refused
    · rw [accepted] at failed
      cases failed
  · intro within limiter dropped
    cases droppedBy_of_withinLimit built within clock dropped
  · intro limiter rest first large
    rw [first] at built ⊢
    exact droppedBy_memoryLimiter_head built clock record large

/-- The default configuration with a limit of sixty bytes for a record. -/
def sixtyBytes : PipelineConfig :=
  { PipelineConfig.default with limits := { TenantLimits.default with maxRecordBytes := 60 } }

def sixtyBytesRuntime : AgentRuntime Unit :=
  ⟨sixtyBytes, .openDir (.fresh "queue") ⟨1000, false⟩, .fromConfig sixtyBytes,
    .insert .empty "stdout" (), .default, false, 0, false⟩

/-- A body of fifty bytes, and nothing else that could be left out. -/
def fiftyByteRecord : TelemetryRecord := ⟨"tenant", .log, 0, [], List.replicate 50 0⟩

theorem memory_limiter_drops_small :
    ∃ later, ingest ⟨"tenant", .log, 0, [⟨"token", "x"⟩], [1, 2, 3]⟩ ⟨sixtyBytesRuntime, []⟩ = .ok () later ∧
      ∀ limiter, droppedBy (fun _ => 0)
        ((ProcessorChain.fromConfig sixtyBytes).pass (fun _ _ => 0) [fiftyByteRecord]).2.processors
        ⟨"tenant", .log, 0, [⟨"token", "x"⟩], [1, 2, 3]⟩ ≠ some (.memoryLimiter limiter) := by
  obtain ⟨_, later, accepted⟩ := eq_ok_of_returned (show returned (ingest
    ⟨"tenant", .log, 0, [⟨"token", "x"⟩], [1, 2, 3]⟩ ⟨sixtyBytesRuntime, []⟩) = true by decide +kernel)
  refine ⟨later, accepted, ?_⟩
  exact (memory_limiter_drops accepted [fiftyByteRecord] (fun _ _ => 0) (fun _ => 0)).2.1
    ⟨by decide +kernel, by decide +kernel⟩

/-- The record is accepted, its body being small enough, and dropped for its estimate of 88
bytes. -/
theorem memory_limiter_drops_accepted :
    sixtyBytes.validate = .ok () ∧ Enables sixtyBytes .memoryLimiter ∧
    (∃ later, ingest fiftyByteRecord ⟨sixtyBytesRuntime, []⟩ = .ok () later) ∧
    droppedBy (fun _ => 0) (ProcessorChain.fromConfig sixtyBytes).processors fiftyByteRecord =
      some (.memoryLimiter ⟨"memory-limiter", 60⟩) ∧
    ((ProcessorChain.fromConfig sixtyBytes).process (fun _ => 0) fiftyByteRecord).1 = .ok none := by
  obtain ⟨_, later, accepted⟩ := eq_ok_of_returned
    (show returned (ingest fiftyByteRecord ⟨sixtyBytesRuntime, []⟩) = true by decide +kernel)
  exact ⟨by decide +kernel, by decide +kernel, ⟨later, accepted⟩, by decide +kernel, by decide +kernel⟩

end TelemetryFabric.Agent
