import TelemetryFabric.Agent.Methods
import TelemetryFabric.Buffer.Ledger

/-!
The quota of the queue. `ingest` compares `queued_bytes` with `max_queue_bytes`, so that the
limit is one on the segment files as long as the counter is their size.
-/

namespace TelemetryFabric.Agent
open Library TelemetryFabric.Core Buffer Processors

variable {E : Type} {runtime : AgentRuntime E} {record : TelemetryRecord}

/-- What `ingest` accepts fits the quota together with everything already there. -/
theorem ingest_within_quota (balanced : runtime.queue.Balanced) {later : AgentSession E}
    (done : ingest record ⟨runtime, []⟩ = .ok () later)
    (counted : later.runtime.queue.dir.segmentBytes ≤ u64Max) :
    later.runtime.queue.dir.segmentBytes ≤ runtime.config.limits.maxQueueBytes.toNat := by
  rcases ingest_calm runtime record with
    ⟨payload, full, admissible, room, bytes, stored⟩ | ⟨error, -, refused⟩ | ⟨last, failed⟩
  · rw [done] at stored
    cases stored
    have kept := (balanced.enqueued room bytes).queued
    have grown : ((runtime.queue.rotated payload).appended payload full).queuedBytes =
        runtime.queue.queuedBytes + (recordHeaderLen + payload.length) := by
      change (runtime.queue.rotated payload).queuedBytes + (recordHeaderLen + payload.length) = _
      unfold DiskQueue.rotated
      split_ifs <;> rfl
    have quota := admissible.quota
    change ((runtime.queue.rotated payload).appended payload full).dir.segmentBytes ≤ u64Max at counted
    change ((runtime.queue.rotated payload).appended payload full).dir.segmentBytes ≤ _
    unfold saturatingAdd at quota
    omega
  · rw [done] at refused
    cases refused
  · rw [done] at failed
    cases failed

/-- The quota is checked before anything is written. -/
theorem ingest_over_quota {plan : List (Option Fault)} {error : RuntimeError} {later : AgentSession E}
    (refused : ingest record ⟨runtime, plan⟩ = .error (.raised (.runtime error)) later) :
    later.runtime.queue = runtime.queue := by
  rcases ingest_cases runtime record plan with ⟨payload, admissible⟩ | ⟨other, -, unchanged⟩
  · rw [ingest_admissible admissible] at refused
    unfold counting onQueue at refused
    cases done : enqueue payload ⟨runtime.queue, plan⟩ with
    | ok value session => simp [done] at refused
    | error halt session => cases halt <;> simp [done] at refused
  · rw [refused] at unchanged
    cases unchanged
    rfl

/-- Whatever the directory holds when it is opened, in every state the queue reaches without
a file-system error and without reading into a refused record of the last segment there can
be: the counters are the sizes of the files, no set of segments is larger than the counter
their sizes are subtracted from, `ingest` keeps the segments within the quota, and a record
refused for the quota changes nothing. -/
theorem byte_accounting {dir : Directory} {options : DiskQueueOptions} (parsed : dir.Parsed)
    {state : LedgerState}
    (reached : Reaches LedgerState.step LedgerState.Replaces (LedgerState.start dir options) state) :
    state.queue.queuedBytes = state.queue.dir.segmentBytes ∧
    (∃ file, state.queue.dir.segments.find? state.queue.activeSegmentId = some file ∧
      state.queue.activeSegmentBytes = file.len) ∧
    (∀ files : List (Nat × SegmentFile), files.Sublist state.queue.dir.segments.entries →
      (files.map fun entry => entry.2.len).sum ≤ state.queue.queuedBytes) ∧
    ∀ runtime : AgentRuntime E, runtime.queue = state.queue → ∀ (record : TelemetryRecord)
      (later : AgentSession E),
      (ingest record ⟨runtime, []⟩ = .ok () later → later.runtime.queue.dir.segmentBytes ≤ u64Max →
        later.runtime.queue.dir.segmentBytes ≤ runtime.config.limits.maxQueueBytes.toNat) ∧
      (∀ error, ingest record ⟨runtime, []⟩ = .error (.raised (.runtime error)) later →
        later.runtime.queue = runtime.queue) := by
  have balanced := (LedgerState.balanced_of_reaches parsed reached).queue
  refine ⟨balanced.queued, ⟨state.queue.activeFile, balanced.topped.find?_active, balanced.active⟩,
    fun files chosen => balanced.le_queued chosen, ?_⟩
  intro runtime same record later
  exact ⟨fun done counted => ingest_within_quota (same ▸ balanced) done counted,
    fun error refused => ingest_over_quota refused⟩

/-- Two segments, the first one with a torn record, under a cursor file that makes no sense. -/
def neglected : Directory :=
  { Directory.fresh "queue" with
    segments := (OrderedMap.empty.insert 3 ⟨[1, 0, 0, 0, 0, 0, 0, 0], by decide⟩).insert 7 ⟨frame [5], by decide⟩
    cursor := some ['?'] }

theorem byte_accounting_neglected :
    ∃ state, Library.run
        (fun state operation => if state.Replaces operation then state.step operation else none)
        (LedgerState.start neglected ⟨20, false⟩)
        [.enqueue [1, 2], .readBatch 5, .enqueue [3], .commitBatch 0, .reopen ⟨20, true⟩] = some state ∧
      state.queue.dir.corrupt.length = 1 ∧ state.queue.queuedBytes = 28 ∧
      state.queue.dir.segmentBytes = 28 := by
  have ran : (Library.run
      (fun state operation => if state.Replaces operation then state.step operation else none)
      (LedgerState.start neglected ⟨20, false⟩)
      [.enqueue [1, 2], .readBatch 5, .enqueue [3], .commitBatch 0, .reopen ⟨20, true⟩]).map
        (fun state => (state.queue.dir.corrupt.length, state.queue.queuedBytes)) = some (1, 28) := by
    decide +kernel
  obtain ⟨state, reached, sizes⟩ := Option.map_eq_some_iff.mp ran
  obtain ⟨corrupt, queued⟩ := Prod.mk.injEq .. ▸ sizes
  have parsed : neglected.Parsed := by
    unfold Directory.Parsed
    decide
  have equal := (byte_accounting (E := Unit) parsed (.of_checked_run reached)).1
  exact ⟨state, reached, corrupt, queued, equal ▸ queued⟩

/-- A segment with the largest id, and a record in it that its checksum refuses. -/
def lastSegment : Directory :=
  { Directory.fresh "queue" with
    segments := OrderedMap.empty.insert u64Max ⟨List.replicate 8 0, by decide⟩ }

/-- The read renames the last segment aside and reports the overflow behind it, with the
bytes of the renamed file still counted for the active segment; the next record goes to a
new file of nine bytes. -/
theorem byte_accounting_last_segment :
    lastSegment.Parsed ∧
    ∃ state, Library.run LedgerState.step (LedgerState.start lastSegment ⟨1000, false⟩)
        [.readBatch 1, .enqueue [1]] = some state ∧
      state.queue.activeSegmentBytes = 17 ∧
      (state.queue.dir.segments.find? state.queue.activeSegmentId).map SegmentFile.len = some 9 := by
  refine ⟨by unfold Directory.Parsed; decide, ?_⟩
  have ran : (Library.run LedgerState.step (LedgerState.start lastSegment ⟨1000, false⟩)
      [.readBatch 1, .enqueue [1]]).map (fun state => (state.queue.activeSegmentBytes,
        (state.queue.dir.segments.find? state.queue.activeSegmentId).map SegmentFile.len)) =
      some (17, some 9) := by
    decide +kernel
  obtain ⟨state, reached, sizes⟩ := Option.map_eq_some_iff.mp ran
  obtain ⟨active, file⟩ := Prod.mk.injEq .. ▸ sizes
  exact ⟨state, reached, active, file⟩

end TelemetryFabric.Agent
