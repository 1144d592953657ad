import TelemetryFabric.Agent.Shared

/-!
The flush under one lock and the shared flush, with exporters that may change as they
export. The first changes the exporters of the runtime in place; the second moves them out,
changes them while the lock is free and moves them back. Run with nothing in between, they
cannot be told apart.
-/

namespace TelemetryFabric.Agent
open Library TelemetryFabric.Core Buffer Processors

variable {E : Type}

/-- What `export_records` returns and what it leaves of the exporters it is lent. -/
abbrev Exporting (E : Type) :=
  PipelineConfig → ExporterMap E → List TelemetryRecord → Except DiskQueueError FlushReport × ExporterMap E

/-- `flush_inner`, on the exporters of the runtime itself. -/
def flushInPlaceInner (maxItems : Nat) (clock : Nat → Nat → Nat) (exporting : Exporting E) :
    AgentM E FlushReport := do
  let batch ← onQueue (readBatch maxItems)
  let report := { FlushReport.default with drainedRecords := batch.payloads.length }
  if batch.payloads.isEmpty then
    let _ ← onQueue (commitBatch batch)
    return report
  let (outcome, processors) := processPayloads clock batch.payloads [] 0 (← getRuntime).processors
  modifyRuntime fun runtime => { runtime with processors := processors }
  let (records, dropped) ← ofExcept .queue outcome
  let runtime ← getRuntime
  let (result, exporters) := exporting runtime.config runtime.exporters records
  modifyRuntime fun runtime => { runtime with exporters := exporters }
  let exported ← ofExcept .queue result
  let _ ← onQueue (commitBatch batch)
  return { report with droppedRecords := dropped }.withExport exported

def flushInPlace (maxItems : Nat) (clock : Nat → Nat → Nat) (exporting : Exporting E) :
    AgentM E FlushReport := do
  if (← getRuntime).exportsPaused then return .default
  modifyRuntime .recordFlushAttempt
  counting (flushInPlaceInner maxItems clock exporting) AgentRuntime.recordFlushSuccess .recordFlushFailure

/-- `flush_shared` while no other task takes the lock: `prepare_shared_flush` hands out the
exporters, and they come back as the export has left them. -/
def flushMovedOut (maxItems : Nat) (clock : Nat → Nat → Nat) (exporting : Exporting E) :
    AgentM E FlushReport := do
  match ← prepareSharedFlush maxItems false clock with
  | .nothing => return .default
  | .waiting => throw .unfinished
  | .prepared flush =>
      let (result, exporters) := exporting flush.config flush.exporters flush.records
      completeFlush { flush with exporters := exporters } result

/-- The exporters of `export_records` as the runtime has them: only their answers count. -/
def answering (respond : Responses) : Exporting E :=
  fun config exporters records => (exportRecords config exporters respond records, exporters)

theorem flushMovedOut_answering (maxItems : Nat) (clock : Nat → Nat → Nat) (respond : Responses) :
    flushMovedOut maxItems clock (answering respond : Exporting E) = flushShared maxItems false clock respond :=
  rfl

/-- What the flush in place does once it has taken a batch. -/
def exportInPlace (exporting : Exporting E) :
    Option (PendingBatch × List TelemetryRecord) × FlushReport → AgentM E FlushReport
  | (none, report) => return report
  | (some (batch, records), report) => do
      let runtime ← getRuntime
      let (result, exporters) := exporting runtime.config runtime.exporters records
      modifyRuntime fun runtime => { runtime with exporters := exporters }
      let exported ← ofExcept .queue result
      let _ ← onQueue (commitBatch batch)
      return report.withExport exported

/-- The flush in place begins as the preparation of a shared one does. -/
theorem flushInPlaceInner_eq (maxItems : Nat) (clock : Nat → Nat → Nat) (exporting : Exporting E) :
    flushInPlaceInner maxItems clock exporting = takeBatch maxItems clock >>= exportInPlace exporting := by
  funext session
  simp only [flushInPlaceInner, takeBatch, bind_session]
  cases read : onQueue (readBatch maxItems) session with
  | error halt later => rfl
  | ok batch later =>
    simp only
    split_ifs with empty
    · simp only [bind_session]
      cases onQueue (commitBatch batch) later <;> rfl
    · simp only [bind_session, getRuntime_session, modifyRuntime_session]
      cases (processPayloads clock batch.payloads [] 0 later.runtime.processors).1 with
      | error error => rfl
      | ok processed =>
        simp only [ofExcept_ok, pure_session, exportInPlace, bind_session, getRuntime_session,
          modifyRuntime_session]

theorem flushInPlace_answering (maxItems : Nat) (clock : Nat → Nat → Nat) (respond : Responses) :
    flushInPlace maxItems clock (answering respond : Exporting E) = flush maxItems clock respond := by
  have inner : flushInPlaceInner maxItems clock (answering respond : Exporting E) =
      flushInner maxItems clock respond := by
    rw [flushInPlaceInner_eq]
    funext session
    simp only [flushInner, bind_session]
    cases takeBatch maxItems clock session with
    | error halt later => rfl
    | ok value later =>
      obtain ⟨found, report⟩ := value
      cases found with
      | none => rfl
      | some work => rfl
  unfold flushInPlace flush
  rw [inner]

/-- The exporters are back and the flag is down: the runtime is the one behind the read, with
what the export has made of its exporters. -/
theorem released_moved {runtime : AgentRuntime E} (free : runtime.flushInProgress = false) (batch : PendingBatch)
    (report : FlushReport) (records : List TelemetryRecord) (exporters : ExporterMap E) :
    ({ runtime with exporters := .empty, flushInProgress := true } : AgentRuntime E).released
      ⟨batch, report, runtime.config, exporters, runtime.configGeneration, records⟩ =
      { runtime with exporters := exporters } := by
  simp only [AgentRuntime.released, if_true]
  rw [← free]

/-- A paused runtime makes both of them return at once. -/
theorem flushMovedOut_paused (maxItems : Nat) (clock : Nat → Nat → Nat) (exporting : Exporting E)
    {session : AgentSession E} (paused : session.runtime.exportsPaused = true) :
    flushMovedOut maxItems clock exporting session = flushInPlace maxItems clock exporting session := by
  have nothing : prepareSharedFlush maxItems false clock session = .ok .nothing session :=
    prepareSharedFlush_paused clock (by simpa using paused)
  simp only [flushMovedOut, flushInPlace, bind_session, nothing, getRuntime_session, paused, if_true]

theorem flushMovedOut_running (maxItems : Nat) (clock : Nat → Nat → Nat) (exporting : Exporting E)
    {session : AgentSession E} (running : session.runtime.exportsPaused = false)
    (free : session.runtime.flushInProgress = false) :
    flushMovedOut maxItems clock exporting session = flushInPlace maxItems clock exporting session := by
  simp only [flushMovedOut, flushInPlace, flushInPlaceInner_eq, prepareSharedFlush, prepareFlushWork,
    bind_session, getRuntime_session, running, free, modifyRuntime_session, counting, Bool.false_and,
    Bool.false_eq_true, if_false]
  cases taken : takeBatch maxItems clock { session with runtime := session.runtime.recordFlushAttempt } with
  | error halt later => cases halt <;> rfl
  | ok value later =>
    obtain ⟨found, report⟩ := value
    cases found with
    | none =>
      have empty := takeBatch_none taken
      rw [empty]
      rfl
    | some work =>
      obtain ⟨batch, records⟩ := work
      have kept := (takeBatch_unsteered maxItems clock).of_ok taken
      have flag : later.runtime.flushInProgress = false := (congrArg Control.flushInProgress kept).trans free
      simp only [bind_session, getRuntime_session, modifyRuntime_session, pure_session, completeFlush_eq,
        PreparedFlushState.settle, exportInPlace, released_moved flag]
      cases (exporting later.runtime.config later.runtime.exporters records).1 with
      | error error => rfl
      | ok exported => simp only [counting, commitFlush, ofExcept_ok, bind_session, pure_session]

/-- With no flush outstanding, a shared flush that nothing comes between returns what the
flush in place returns and leaves the session as that one does. -/
theorem flushMovedOut_eq_flushInPlace (maxItems : Nat) (clock : Nat → Nat → Nat) (exporting : Exporting E)
    (session : AgentSession E) (free : session.runtime.flushInProgress = false) :
    flushMovedOut maxItems clock exporting session = flushInPlace maxItems clock exporting session := by
  cases paused : session.runtime.exportsPaused with
  | true => exact flushMovedOut_paused maxItems clock exporting paused
  | false => exact flushMovedOut_running maxItems clock exporting paused free

/-- Exporters that count their batches and fail on every other one. -/
def alternating : Exporting Nat := fun _ exporters records =>
  (match exporters.find? "stdout" with
    | some calls => if calls % 2 = 0 then .error (.sink "unavailable") else .ok ⟨0, records.length, 0, 0⟩
    | none => .ok .default,
    exporters.insert "stdout" ((exporters.find? "stdout").getD 0 + 1))

def recorded : TelemetryRecord := ⟨"acme", .log, 0, [], [1, 2, 3]⟩

/-- Two records wait in the queue. -/
def filledSession : AgentSession Nat :=
  match ([recorded, recorded].forM ingest : AgentM Nat Unit) ⟨⟨.default, .openDir (.fresh "queue") ⟨1000, false⟩,
    .fromConfig .default, OrderedMap.empty.insert "stdout" 0, .default, false, 0, false⟩, []⟩ with
  | .ok _ later => later
  | .error _ later => later

/-- What a flush returns, and how often the exporter has been called. -/
def exportCalls : EStateM.Result AgentHalt (AgentSession Nat) FlushReport → Option FlushReport × Option Nat
  | .ok report later => (some report, later.runtime.exporters.find? "stdout")
  | .error _ later => (none, later.runtime.exporters.find? "stdout")

/-- The first flush fails in the export, and the second one delivers the two records. -/
theorem flushMovedOut_eq_flushInPlace_alternating :
    filledSession.runtime.flushInProgress = false ∧
    exportCalls (flushInPlace 10 (fun _ _ => 0) alternating filledSession) = (none, some 1) ∧
    flushMovedOut 10 (fun _ _ => 0) alternating filledSession =
      flushInPlace 10 (fun _ _ => 0) alternating filledSession ∧
    ∀ halt later, flushInPlace 10 (fun _ _ => 0) alternating filledSession = .error halt later →
      exportCalls (flushInPlace 10 (fun _ _ => 0) alternating later) = (some ⟨2, 2, 0, 0⟩, some 2) := by
  have free : filledSession.runtime.flushInProgress = false := by decide +kernel
  refine ⟨free, by decide +kernel, flushMovedOut_eq_flushInPlace 10 (fun _ _ => 0) alternating filledSession free, ?_⟩
  intro halt later failed
  have again : (match flushInPlace 10 (fun _ _ => 0) alternating filledSession with
      | .ok _ _ => (none, none)
      | .error _ later => exportCalls (flushInPlace 10 (fun _ _ => 0) alternating later)) = (some ⟨2, 2, 0, 0⟩, some 2) := by
    decide +kernel
  rw [failed] at again
  exact again

end TelemetryFabric.Agent
